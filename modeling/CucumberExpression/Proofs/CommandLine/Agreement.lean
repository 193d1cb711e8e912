import CucumberExpression.Proofs.CommandLine.Checking

/-!
# The commands agree

Three commands read an expression: one shows its tree, one lists its tokens, one checks it. They
have the same error for it, if any, and the same words for that error (`commands_agree`). What the
first fails with is what the last writes, and where already the tokens cannot be listed, the tree
cannot be shown for the same reason. It does not matter how the tree would be shown, and neither
does it matter whether an expression is checked as an argument or as the one line of a file.
-/

set_option autoImplicit false
set_option relaxedAutoImplicit false

namespace CucumberExpression

namespace CommandLine

/-! ### A check of one subject -/

/-- The check of one subject says that all is well, or it writes its report. -/
theorem checkAll_of_subject {read : Reader} {expressions : List String} {file : Option String}
    {subject : Subject} (hgather : gatherSubjects read expressions file = .ok [subject]) :
    (subject.isRejected = false ∧ checkAll read expressions file = .ok (conclusion 1 [])) ∨
      ∃ report, subject.isRejected = true ∧ subject.HasReport report ∧
        checkAll read expressions file = .ok (conclusion 1 [report]) := by
  have hcheck {verdict : Option String} (hverdict : subject.report? = .ok verdict) :
      checkAll read expressions file = .ok (conclusion 1 ([verdict].filterMap id)) := by
    refine checkAll_of_gatherSubjects hgather (List.cons_ne_nil _ _) ?_
    rw [List.mapM_cons, hverdict]
    rfl
  rcases subject.verdict with ⟨haccepted, hnone⟩ | ⟨report, hrejected, hreport, hsome⟩
  · exact .inl ⟨haccepted, hcheck hnone⟩
  · exact .inr ⟨report, hrejected, hreport, hcheck hsome⟩

/-- The check of one subject fails exactly if the subject is rejected. -/
theorem exists_checkAll_of_subject {read : Reader} {expressions : List String}
    {file : Option String} {subject : Subject}
    (hgather : gatherSubjects read expressions file = .ok [subject]) :
    ∃ outcome, checkAll read expressions file = .ok outcome ∧
      (outcome.error = none ↔ subject.isRejected = false) := by
  rcases checkAll_of_subject hgather with ⟨haccepted, hcheck⟩ | ⟨report, hrejected, -, hcheck⟩
  · exact ⟨_, hcheck, iff_of_true rfl haccepted⟩
  · refine ⟨_, hcheck, iff_of_false (by simp [conclusion]) (by simp [hrejected])⟩

/-! ### One line in a file -/

/-- A text that is not blank and can be the whole of a line. -/
structure FillsLine (text : String) : Prop where
  written : text.toList.all Text.isBlank = false
  unbroken : '\n' ∉ text.toList
  closed : text.toList.getLast? ≠ some '\r'

/-- A file with one line gives one subject. -/
theorem gatherSubjects_of_fillsLine {read : Reader} {path text : String} {ending : Text.LineEnd}
    (h : FillsLine text) (hread : read path = .ok (String.ofList (text.toList ++ ending.chars))) :
    gatherSubjects read [] (some path) = .ok [⟨path ++ ":" ++ toString 1, text⟩] := by
  have hne : text.toList ≠ [] := by
    intro hnil
    have hwritten := h.written
    rw [hnil] at hwritten
    cases hwritten
  have hone := Text.linesOfPieces_line hne h.unbroken h.closed ending
  have hnumbered : numberedLines path (String.ofList (text.toList ++ ending.chars)) =
      [⟨path ++ ":" ++ toString 1, text⟩] := by
    simp only [numberedLines, String.toList_ofList, hone, List.zipIdx_cons, List.zipIdx_nil,
      List.filterMap_cons, List.filterMap_nil, h.written, Bool.false_eq_true, if_false,
      String.ofList_toList]
  simp only [gatherSubjects, hread, fileSubjects_eq, hnumbered]
  rfl

/-- The check of a file with one line fails exactly if the line would be rejected as an argument. -/
theorem exists_checkAll_of_fillsLine {read : Reader} {path text : String}
    {ending : Text.LineEnd} (h : FillsLine text)
    (hread : read path = .ok (String.ofList (text.toList ++ ending.chars))) :
    ∃ outcome, checkAll read [] (some path) = .ok outcome ∧
      (outcome.error = none ↔ (argument text).isRejected = false) := by
  obtain ⟨outcome, hcheck, hfails⟩ :=
    exists_checkAll_of_subject (gatherSubjects_of_fillsLine h hread)
  -- Whether a subject is rejected is a matter of its expression, and not of its name.
  exact ⟨outcome, hcheck, hfails⟩

/-! ### Errors of one expression -/

/-- A command that fails with the error of an argument fails with its report. -/
theorem failWith_of_hasReport {expression report : String} {error : SyntaxError}
    (hsource : Node.ofSource expression = .error (.rejected error))
    (h : (argument expression).HasReport report) :
    failWith expression error = .ok { error := some (.rejected report) } := by
  obtain ⟨error', hsource', hreport⟩ := h
  obtain rfl : error = error' :=
    Failure.rejected.inj (Except.error.inj (hsource.symm.trans hsource'))
  rw [failWith, show error.report argumentName expression = .ok report from hreport]
  rfl

/-- Showing the tree of a rejected argument fails with its report. -/
theorem showTree_of_hasReport {expression report : String}
    (h : (argument expression).HasReport report) (layout : Layout) :
    showTree expression layout = .ok { error := some (.rejected report) } := by
  obtain ⟨error, hsource, -⟩ := id h
  change Node.ofSource expression = .error (.rejected error) at hsource
  have hrender : Node.renderSource layout expression = .error (.rejected error) := by
    rw [Node.renderSource, hsource]
    rfl
  rw [showTree, hrender]
  exact failWith_of_hasReport hsource h

/-- The tree of an expression, if it has one, can be shown in the layout. -/
def CanShow (layout : Layout) (expression : String) : Prop :=
  ∀ node, Node.ofSource expression = .ok node → ∀ fault, node.render layout ≠ .error fault

/-- In a layout that can show it, the tree of an accepted argument is shown. -/
theorem exists_showTree_of_accepted {expression : String} {layout : Layout}
    (hlayout : CanShow layout expression) (h : (argument expression).isRejected = false) :
    ∃ outcome, showTree expression layout = .ok outcome ∧ outcome.error = none := by
  cases hsource : Node.ofSource expression with
  | error failure => simp [Subject.isRejected, argument, hsource] at h
  | ok node =>
    cases hrender : node.render layout with
    | error fault => exact absurd hrender (hlayout node hsource fault)
    | ok text =>
      have hshown : Node.renderSource layout expression = .ok text := by
        rw [Node.renderSource, hsource]
        show (node.render layout).mapError _ = _
        rw [hrender]
        rfl
      exact ⟨_, by rw [showTree, hshown], rfl⟩

/-- The tokens of an expression are listed, or the expression is rejected and the listing fails with
its report. -/
theorem listTokens_outcome (expression : String) :
    (∃ outcome, listTokens expression = .ok outcome ∧ outcome.error = none) ∨
      ∃ report, (argument expression).HasReport report ∧
        listTokens expression = .ok { error := some (.rejected report) } := by
  cases hscan : Token.scan expression with
  | ok tokens => exact .inl ⟨_, by rw [listTokens, hscan], rfl⟩
  | error error =>
    have hsource : Node.ofSource expression = .error (.rejected error) := by
      rw [Node.ofSource, hscan]
      rfl
    rcases (argument expression).verdict with ⟨haccepted, -⟩ | ⟨report, -, hreport, -⟩
    · simp [Subject.isRejected, argument, hsource] at haccepted
    · refine .inr ⟨report, hreport, ?_⟩
      rw [listTokens, hscan]
      exact failWith_of_hasReport hsource hreport

/-- When the tokens of a rejected argument cannot be listed, the listing fails with its report. -/
theorem exists_listTokens_of_hasReport {expression report : String}
    (h : (argument expression).HasReport report) :
    ∃ outcome, listTokens expression = .ok outcome ∧
      ∀ error, outcome.error = some error → error = .rejected report := by
  rcases listTokens_outcome expression with ⟨listed, hlisted, hnone⟩ | ⟨report', h', hlisted⟩
  · exact ⟨listed, hlisted, by simp [hnone]⟩
  · obtain rfl := h.unique h'
    exact ⟨_, hlisted, fun error herror ↦ (Option.some.inj herror).symm⟩

/-! ### Agreement -/

/-- In a layout that can show its tree, showing the tree of an expression succeeds exactly if
checking the expression does. When both fail, the message of the one, with a line end, is what the
other has written, which says of itself that its one expression was rejected; both end with the
exit code one. When already the tokens cannot be listed, the tree cannot be shown, with the same
message and exit code in every layout. And if the expression can be the whole of a line, then the
check of a file with this line alone fails exactly if the check of the argument does. -/
theorem commands_agree (read : Reader) (expression : String) :
    ∃ listed checked, listTokens expression = .ok listed ∧
      checkAll read [expression] none = .ok checked ∧
      (∀ layout, CanShow layout expression →
        ∃ shown, showTree expression layout = .ok shown ∧
          (shown.error = none ↔ checked.error = none) ∧
          ∀ error, shown.error = some error → checked.errorOutput = error.message ++ "\n" ∧
            checked.error.map CommandError.message = some "1 of 1 expressions failed to parse" ∧
              shown.exitCode = 1 ∧ checked.exitCode = 1) ∧
      (∀ error, listed.error = some error →
        ∀ layout, ∃ shown, showTree expression layout = .ok shown ∧
          shown.error.map CommandError.message = some error.message ∧
            shown.exitCode = listed.exitCode) ∧
      ∀ path ending, FillsLine expression →
        read path = .ok (String.ofList (expression.toList ++ Text.LineEnd.chars ending)) →
          ∃ filed, checkAll read [] (some path) = .ok filed ∧
            (filed.error = none ↔ checked.error = none) := by
  have hargument : gatherSubjects read [expression] none = .ok [argument expression] := rfl
  rcases checkAll_of_subject hargument with
    ⟨haccepted, hchecked⟩ | ⟨report, hrejected, hreport, hchecked⟩
  · rcases listTokens_outcome expression with ⟨listed, hlisted, hnone⟩ | ⟨report, hreport, -⟩
    · refine ⟨listed, _, hlisted, hchecked, fun layout hlayout ↦ ?_, by simp [hnone],
        fun path ending hline hread ↦ ?_⟩
      · obtain ⟨shown, hshown, hnone'⟩ := exists_showTree_of_accepted hlayout haccepted
        exact ⟨shown, hshown, iff_of_true hnone' rfl, by simp [hnone']⟩
      · obtain ⟨filed, hfiled, hfails⟩ := exists_checkAll_of_fillsLine hline hread
        exact ⟨filed, hfiled, iff_of_true (hfails.mpr haccepted) rfl⟩
    · rw [hreport.isRejected] at haccepted
      cases haccepted
  · have hshown := showTree_of_hasReport hreport
    obtain ⟨listed, hlisted, hsame⟩ := exists_listTokens_of_hasReport hreport
    have hwritten : (conclusion 1 [report]).errorOutput = Text.trimEnd report ++ "\n" := by
      simp [conclusion, String.join]
    have hcounted : (CommandError.someRejected 1 1).message =
        "1 of 1 expressions failed to parse" := by
      decide +kernel
    have hfailed : (conclusion 1 [report]).error ≠ none := Option.some_ne_none _
    refine ⟨listed, _, hlisted, hchecked, fun layout _ ↦ ?_, fun error herror layout ↦ ?_,
      fun path ending hline hread ↦ ?_⟩
    · refine ⟨_, hshown layout, iff_of_false (Option.some_ne_none _) hfailed, ?_⟩
      rintro error ⟨⟩
      exact ⟨hwritten, congrArg some hcounted, rfl, rfl⟩
    · obtain rfl := hsame error herror
      exact ⟨_, hshown layout, rfl, by rw [Outcome.exitCode, Outcome.exitCode, herror]⟩
    · obtain ⟨filed, hfiled, hfails⟩ := exists_checkAll_of_fillsLine hline hread
      exact ⟨filed, hfiled, iff_of_false (by simp [hfails, hrejected]) hfailed⟩

theorem canShow_alternation : CanShow ⟨.outline, 3, false⟩ "a/\x7bb\x7d" := by
  intro node hnode fault hfault
  have hrendered : (Node.ofSource "a/\x7bb\x7d").toOption.map
      (fun node ↦ (node.render ⟨.outline, 3, false⟩).toOption.isSome) = some true := by
    decide +kernel
  rw [hnode] at hrendered
  simp [Except.toOption, hfault] at hrendered

/-- An alternation with a parameter is shown three columns a level, and found in order. A bracket
without its partner before an escape that is none is met with one message by all commands, also for
an indentation that is too wide for any leaf, and it is met in a file as well. -/
theorem commands_agree_alternation_escape :
    (∃ shown checked, showTree "a/\x7bb\x7d" ⟨.outline, 3, false⟩ = .ok shown ∧
      checkAll (fun _ ↦ .ok "") ["a/\x7bb\x7d"] none = .ok checked ∧
        shown.error = none ∧ checked.error = none) ∧
    ∃ listed checked filed shown error, listTokens "(\\b" = .ok listed ∧
      checkAll (fun _ ↦ .ok "(\\b\x0d\n") ["(\\b"] none = .ok checked ∧
      checkAll (fun _ ↦ .ok "(\\b\x0d\n") [] (some "list.txt") = .ok filed ∧
      showTree "(\\b" ⟨.outline, 9223372036854775808, true⟩ = .ok shown ∧
      listed.error = some error ∧ shown.error.map CommandError.message = some error.message ∧
        checked.errorOutput = error.message ++ "\n" ∧ checked.exitCode = 1 ∧
          filed.error ≠ none := by
  constructor
  · obtain ⟨listed, checked, -, hchecked, hlayouts, -⟩ :=
      commands_agree (fun _ ↦ .ok "") "a/\x7bb\x7d"
    obtain ⟨shown, hshown, hsame, -⟩ := hlayouts _ canShow_alternation
    have hnone : (showTree "a/\x7bb\x7d" ⟨.outline, 3, false⟩).map Outcome.error = .ok none := by
      decide +kernel
    rw [hshown] at hnone
    have hnone' : shown.error = none := Except.ok.inj hnone
    exact ⟨shown, checked, hshown, hchecked, hnone', hsame.mp hnone'⟩
  · have hlayout : CanShow ⟨.outline, 9223372036854775808, true⟩ "(\\b" := by
      intro node hnode fault
      have hrejected : (Node.ofSource "(\\b").toOption = none := by decide +kernel
      rw [hnode] at hrejected
      cases hrejected
    obtain ⟨listed, checked, hlisted, hchecked, hlayouts, hlexical, hfile⟩ :=
      commands_agree (fun _ ↦ .ok "(\\b\x0d\n") "(\\b"
    have hfails : (listTokens "(\\b").map (fun outcome ↦ outcome.error.isSome) = .ok true := by
      decide +kernel
    rw [hlisted] at hfails
    obtain ⟨error, herror⟩ := Option.isSome_iff_exists.mp (Except.ok.inj hfails)
    obtain ⟨shown, hshown, -, hmessage⟩ := hlayouts _ hlayout
    obtain ⟨shown', hshown', hwording, -⟩ :=
      hlexical error herror ⟨.outline, 9223372036854775808, true⟩
    obtain rfl : shown = shown' := Except.ok.inj (hshown.symm.trans hshown')
    obtain ⟨error', herror', hword⟩ := Option.map_eq_some_iff.mp hwording
    obtain ⟨hwritten, -, -, hcode⟩ := hmessage error' herror'
    obtain ⟨filed, hfiled, hfiles⟩ := hfile "list.txt" .returnAndLineFeed
      ⟨by decide +kernel, by decide +kernel, by decide +kernel⟩ (by decide +kernel)
    refine ⟨listed, checked, filed, shown, error, hlisted, hchecked, hfiled, hshown, herror,
      hwording, by rw [hwritten, hword], hcode, ?_⟩
    intro hnone
    rw [Outcome.exitCode, hfiles.mp hnone] at hcode
    cases hcode

end CommandLine

end CucumberExpression
