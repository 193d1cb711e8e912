import CucumberExpression.CommandLine.Program
import CucumberExpression.Proofs.Node.Mending
import CucumberExpression.Proofs.Text.Lines

/-!
# Checking many expressions

A check goes through its subjects one by one, whatever it finds. A subject is rejected where it has
no tree, and then it has a report (`Subject.verdict`): the error of an expression blames one
character, and an error at a character can always be shown (`SyntaxError.exists_report`). So the
check comes to an end for every input, with the reports of exactly the rejected subjects, in their
order (`exists_mapM_report?`).

What the whole command does is told by three kinds of outcome (`checkAll_outcome`). A file that
cannot be read, and a check without subjects, end before anything is written. In all other cases the
subjects are the arguments and, behind them, the lines of the file that are not blank.
-/

set_option autoImplicit false
set_option relaxedAutoImplicit false

namespace CucumberExpression

/-! ### Reports of errors -/

/-- An error that blames a character can be shown in every source, under every name. -/
theorem SyntaxError.exists_report {error : SyntaxError} {offset : Nat}
    (h : error.span = ⟨offset, offset + 1⟩) (name source : String) :
    ∃ report, error.report name source = .ok report := by
  have hmarked : error.markedSpan = .ok error.span := by
    rw [markedSpan, h]
    exact if_neg (by simp [Span.isEmpty])
  rw [report, label, hmarked]
  exact ⟨_, rfl⟩

namespace CommandLine

/-! ### One subject -/

namespace Subject

/-- Whether a subject has no tree. -/
def isRejected (subject : Subject) : Bool :=
  match Node.ofSource subject.expression with
  | .ok _ => false
  | .error _ => true

/-- The report that shows the error of a subject in its expression, under its name. -/
def HasReport (subject : Subject) (report : String) : Prop :=
  ∃ error, Node.ofSource subject.expression = .error (.rejected error) ∧
    error.report subject.name subject.expression = .ok report

theorem HasReport.isRejected {subject : Subject} {report : String}
    (h : subject.HasReport report) : subject.isRejected = true := by
  obtain ⟨error, hsource, -⟩ := h
  rw [Subject.isRejected, hsource]

theorem HasReport.unique {subject : Subject} {report report' : String}
    (h : subject.HasReport report) (h' : subject.HasReport report') : report = report' := by
  obtain ⟨error, hsource, hreport⟩ := h
  obtain ⟨error', hsource', hreport'⟩ := h'
  obtain rfl : error = error' :=
    Failure.rejected.inj (Except.error.inj (hsource.symm.trans hsource'))
  exact Except.ok.inj (hreport.symm.trans hreport')

/-- A subject is accepted, or it is rejected with its report. -/
theorem verdict (subject : Subject) :
    (subject.isRejected = false ∧ subject.report? = .ok none) ∨
      ∃ report, subject.isRejected = true ∧ subject.HasReport report ∧
        subject.report? = .ok (some report) := by
  cases hsource : Node.ofSource subject.expression with
  | ok node => exact .inl (by simp [isRejected, report?, hsource])
  | error failure =>
    obtain ⟨mark, -, error, hblame, rfl⟩ := Node.exists_blamed hsource
    obtain ⟨lead, -, -, hspan⟩ := Mark.exists_lead hblame
    obtain ⟨report, hreport⟩ := SyntaxError.exists_report hspan subject.name subject.expression
    refine .inr ⟨report, by simp [isRejected, hsource], ⟨error, hsource, hreport⟩, ?_⟩
    simp [report?, hsource, hreport, Except.map]

end Subject

/-! ### All subjects -/

/-- Every subject is checked, and the reports are those of the rejected ones, in their order. -/
theorem exists_mapM_report? (subjects : List Subject) :
    ∃ verdicts, subjects.mapM Subject.report? = .ok verdicts ∧
      List.Forall₂ Subject.HasReport (subjects.filter Subject.isRejected)
        (verdicts.filterMap id) := by
  induction subjects with
  | nil => exact ⟨[], rfl, .nil⟩
  | cons subject subjects ih =>
    obtain ⟨verdicts, hverdicts, hreports⟩ := ih
    rw [List.mapM_cons, hverdicts]
    rcases subject.verdict with ⟨haccepted, hnone⟩ | ⟨report, hrejected, hreport, hsome⟩
    · refine ⟨none :: verdicts, by rw [hnone]; rfl, ?_⟩
      rw [List.filter_cons_of_neg (by simp [haccepted])]
      exact hreports
    · refine ⟨some report :: verdicts, by rw [hsome]; rfl, ?_⟩
      rw [List.filter_cons_of_pos hrejected]
      exact .cons hreport hreports

/-- What a check of so many subjects ends with that has come to the given reports. -/
def conclusion (total : Nat) (reports : List String) : Outcome :=
  if reports.isEmpty then { output := toString total ++ " expressions ok\n" }
  else {
    errorOutput := String.join (reports.map fun report ↦ Text.trimEnd report ++ "\n")
    error := some (.someRejected reports.length total) }

/-- A check of one or more subjects comes to its conclusion. -/
theorem checkAll_of_gatherSubjects {read : Reader} {expressions : List String}
    {file : Option String} {subjects : List Subject}
    (hgather : gatherSubjects read expressions file = .ok subjects) (hne : subjects ≠ [])
    {verdicts : List (Option String)} (hverdicts : subjects.mapM Subject.report? = .ok verdicts) :
    checkAll read expressions file =
      .ok (conclusion subjects.length (verdicts.filterMap id)) := by
  obtain ⟨subject, others, rfl⟩ := List.exists_cons_of_ne_nil hne
  simp only [checkAll, hgather, hverdicts]
  show Except.bind _ _ = _
  simp only [Except.bind, conclusion]
  split <;> rfl

/-! ### Subjects of a check -/

/-- An expression that is given as an argument. -/
def argument (expression : String) : Subject := ⟨"<expression>", expression⟩

/-- The lines of a file that are not blank, each under the path of the file and its number. All
lines count. -/
def numberedLines (path contents : String) : List Subject :=
  ((Text.linesOfPieces (contents.toList.splitOn '\n')).zipIdx 1).filterMap fun (text, number) ↦
    if text.all Text.isBlank then none
    else some ⟨path ++ ":" ++ toString number, String.ofList text⟩

theorem fileSubjects_eq (path contents : String) :
    fileSubjects path contents = numberedLines path contents := by
  rw [numberedLines, ← Text.map_text_lines, List.zipIdx_map, List.filterMap_map,
    show 1 = 0 + 1 from rfl, List.zipIdx_succ, List.filterMap_map]
  rfl

/-! ### The outcome -/

namespace Outcome

/-- The command has failed with a message, and has written nothing else. -/
structure FailsSilently (outcome : Outcome) (message : String) : Prop where
  output : outcome.output = ""
  errorOutput : outcome.errorOutput = ""
  message : outcome.error.map CommandError.message = some message
  exitCode : outcome.exitCode = 1

/-- The command has shown the rejected subjects, each with its report and a line end, in their
order, and has counted them. -/
structure Concludes (outcome : Outcome) (subjects : List Subject) : Prop where
  errorOutput : ∃ reports,
    List.Forall₂ Subject.HasReport (subjects.filter Subject.isRejected) reports ∧
      outcome.errorOutput = String.join (reports.map fun report ↦ Text.trimEnd report ++ "\n")
  failure : 0 < subjects.countP Subject.isRejected →
    outcome.output = "" ∧ outcome.exitCode = 1 ∧
      outcome.error.map CommandError.message =
        some (toString (subjects.countP Subject.isRejected) ++ " of " ++ toString subjects.length
          ++ " expressions failed to parse")
  success : subjects.countP Subject.isRejected = 0 →
    outcome.output = toString subjects.length ++ " expressions ok\n" ∧ outcome.exitCode = 0 ∧
      outcome.error = none

/-- What a check of the given subjects is to end with. -/
def Answers (outcome : Outcome) (subjects : List Subject) : Prop :=
  if subjects = [] then outcome.FailsSilently "Error: no expressions to check"
  else outcome.Concludes subjects

end Outcome

/-- Assumes: the reports of the rejected subjects. The conclusion from them is the one that the
subjects ask for. -/
theorem concludes_conclusion {subjects : List Subject} {reports : List String}
    (h : List.Forall₂ Subject.HasReport (subjects.filter Subject.isRejected) reports) :
    (conclusion subjects.length reports).Concludes subjects := by
  have hcount : subjects.countP Subject.isRejected = reports.length := by
    rw [List.countP_eq_length_filter, h.length_eq]
  cases reports with
  | nil =>
    refine ⟨⟨[], h, rfl⟩, fun hpositive ↦ ?_, fun _ ↦ ⟨rfl, rfl, rfl⟩⟩
    rw [hcount] at hpositive
    exact absurd hpositive (Nat.lt_irrefl 0)
  | cons report reports =>
    refine ⟨⟨report :: reports, h, rfl⟩, fun _ ↦ ⟨rfl, rfl, by rw [hcount]; rfl⟩, fun hzero ↦ ?_⟩
    rw [hcount] at hzero
    cases hzero

/-- Whatever the subjects of a check are, it answers for them. -/
theorem exists_answer {read : Reader} {expressions : List String} {file : Option String}
    {subjects : List Subject} (hgather : gatherSubjects read expressions file = .ok subjects) :
    ∃ outcome, checkAll read expressions file = .ok outcome ∧ outcome.Answers subjects := by
  cases subjects with
  | nil =>
    refine ⟨{ error := some .nothingToCheck }, ?_, ?_⟩
    · rw [checkAll, hgather]
    · exact (if_pos rfl).mpr ⟨rfl, rfl, rfl, rfl⟩
  | cons subject subjects =>
    obtain ⟨verdicts, hverdicts, hreports⟩ := exists_mapM_report? (subject :: subjects)
    refine ⟨_, checkAll_of_gatherSubjects hgather (List.cons_ne_nil _ _) hverdicts, ?_⟩
    exact (if_neg (List.cons_ne_nil _ _)).mpr (concludes_conclusion hreports)

/-- A check comes to one of three ends, and always to one. When the file cannot be read, the reason
is all that is said, whatever the arguments are. When there is nothing to check, that is said. In
all other cases the subjects are the arguments and then the lines of the file that are not blank:
the error stream holds the reports of the rejected ones, one by one in their order, and what else
is said is how many they are, or that there are none. -/
theorem checkAll_outcome (read : Reader) (expressions : List String) (file : Option String) :
    ∃ outcome, checkAll read expressions file = .ok outcome ∧
      match file with
      | none => outcome.Answers (expressions.map argument)
      | some path =>
        match read path with
        | .error reason =>
          outcome.FailsSilently ("Error reading " ++ path ++ ": " ++ reason.message)
        | .ok contents =>
          outcome.Answers (expressions.map argument ++ numberedLines path contents) := by
  cases file with
  | none => exact exists_answer rfl
  | some path =>
    dsimp only
    cases hread : read path with
    | error reason =>
      refine ⟨{ error := some (.unreadable path reason) }, ?_, rfl, rfl, rfl, rfl⟩
      simp only [checkAll, gatherSubjects, hread]
    | ok contents =>
      refine exists_answer ?_
      simp only [gatherSubjects, hread, fileSubjects_eq]
      rfl

/-- Of a file with blank lines only there is nothing to check. -/
example : checkAll (fun _ ↦ .ok " \n\t\r\n\n") [] (some "blank.txt") =
    .ok { error := some .nothingToCheck } := by
  decide +kernel

end CommandLine

end CucumberExpression
