import CucumberExpression.Proofs.CommandLine.Agreement
import CucumberExpression.Proofs.Text.LineStarts

/-!
# Gathering what is to be checked

A check takes its arguments in their order, and behind them the lines of a file that are not blank.
Every line of the file is looked at where it stands: its number is told from the line feeds in front
of it, so blank lines count (`fileSubjects_eq_placedLines`). It does not matter how the lines end,
or which blank lines are put between them: the texts that are written as lines are the ones that are
checked (`writtenTexts_unlines`).
-/

set_option autoImplicit false
set_option relaxedAutoImplicit false

namespace CucumberExpression

namespace CommandLine

/-! ### Lines with their numbers -/

/-- The subject that a line with the given front and text makes, unless it is blank. It goes by the
path of the file and the number of the line. -/
def lineSubject? (path : String) (entry : List Char × List Char) : Option Subject :=
  if entry.2.all Text.isBlank then none
  else some ⟨path ++ ":" ++ toString (entry.1.count '\n' + 1), String.ofList entry.2⟩

/-- The subjects in a file are made by the lines in their places. -/
theorem fileSubjects_eq_placedLines (path contents : String) :
    fileSubjects path contents =
      (Text.placedLines contents.toList).filterMap (lineSubject? path) := by
  rw [fileSubjects, Text.placedLines, List.filterMap_map]
  refine List.filterMap_congr fun entry hmem ↦ ?_
  obtain ⟨row, index⟩ := entry
  obtain ⟨hindex, -⟩ := List.getElem?_eq_some_iff.mp (List.mk_mem_zipIdx_iff_getElem?.mp hmem)
  simp only [Function.comp_apply, lineSubject?, Text.count_lineFeed_take hindex]

/-! ### Texts that are written as lines -/

/-- The texts of the lines that are not blank. -/
def writtenTexts (cs : List Char) : List (List Char) :=
  ((Text.lines cs).map Text.Line.text).filter fun text ↦ !text.all Text.isBlank

/-- The expressions in a file are the texts of its lines that are not blank. -/
theorem map_expression_fileSubjects (path contents : String) :
    (fileSubjects path contents).map Subject.expression =
      (writtenTexts contents.toList).map String.ofList := by
  rw [fileSubjects_eq_placedLines, List.map_filterMap, writtenTexts, Text.map_text_lines,
    ← Text.map_snd_placedLines, ← List.filterMap_eq_map, List.filterMap_filter, List.filterMap_map]
  refine List.filterMap_congr fun entry _ ↦ ?_
  simp only [lineSubject?, Function.comp_apply]
  cases entry.2.all Text.isBlank <;> rfl

variable {row : Text.Line} {rows : List Text.Line} {back : List Char}

/-- A line in front of a text adds its own text to those that are written, if it is not blank. -/
theorem writtenTexts_append (hunbroken : '\n' ∉ row.text)
    (hclosed : row.text.all Text.isBlank = true ∨ row.text.getLast? ≠ some '\r')
    (hlast : row.ending = .missing → back = []) :
    writtenTexts (row.text ++ (row.ending.chars ++ back)) =
      [row.text].filter (fun text ↦ !text.all Text.isBlank) ++ writtenTexts back := by
  have hread {other : Text.Line} (hother : other.IsWhole)
      (hlast : other.ending = .missing → back = []) :
      writtenTexts (other.text ++ (other.ending.chars ++ back)) =
        [other.text].filter (fun text ↦ !text.all Text.isBlank) ++ writtenTexts back := by
    rw [writtenTexts, Text.lines_append hother hlast, List.map_cons, ← List.singleton_append,
      List.filter_append]
    rfl
  obtain ⟨text, ending⟩ := row
  cases ending with
  | missing =>
    by_cases htext : text = []
    · rw [hlast rfl, htext]
      rfl
    · exact hread ⟨hunbroken, fun _ ↦ htext, nofun⟩ hlast
  | returnAndLineFeed => exact hread ⟨hunbroken, nofun, nofun⟩ hlast
  | lineFeed =>
    by_cases hreturn : text.getLast? = some '\r'
    · -- The carriage return belongs to the end of the line, which is blank.
      obtain ⟨inside, rfl⟩ := List.getLast?_eq_some_iff.mp hreturn
      have hblank := hclosed.resolve_right (not_not_intro hreturn)
      have hwhole : Text.Line.IsWhole ⟨inside, .returnAndLineFeed⟩ :=
        ⟨fun hmem ↦ hunbroken (List.mem_append_left _ hmem), nofun, nofun⟩
      have hother := hread hwhole nofun
      have hinside : inside.all Text.isBlank = true := by
        rw [List.all_append, Bool.and_eq_true] at hblank
        exact hblank.1
      rw [List.filter_singleton] at hother ⊢
      simp only [hblank, hinside, List.append_assoc] at hother ⊢
      exact hother
    · exact hread ⟨hunbroken, nofun, fun _ ↦ hreturn⟩ hlast

/-- The texts that are written as lines are those of the rows that are not blank. -/
theorem writtenTexts_unlines (hunbroken : ∀ row ∈ rows, '\n' ∉ row.text)
    (hclosed : ∀ row ∈ rows,
      row.text.all Text.isBlank = true ∨ row.text.getLast? ≠ some '\r')
    (hended : Text.Ended rows) : writtenTexts (Text.unlines rows) =
      (rows.map Text.Line.text).filter fun text ↦ !text.all Text.isBlank := by
  induction rows with
  | nil => rfl
  | cons row rows ih =>
    obtain ⟨hlast, hended⟩ := Text.ended_cons_iff.mp hended
    obtain ⟨hunbroken, hunbrokens⟩ := List.forall_mem_cons.mp hunbroken
    obtain ⟨hclosed, hcloseds⟩ := List.forall_mem_cons.mp hclosed
    have hback : row.ending = .missing → Text.unlines rows = [] := by
      intro hmissing
      rw [hlast hmissing]
      rfl
    rw [Text.unlines_cons, writtenTexts_append hunbroken hclosed hback,
      ih hunbrokens hcloseds hended, List.map_cons, ← List.filter_append, List.singleton_append]

/-- The rows are the given texts in their order, with any blank rows before, between and behind
them. Every row but the last has an end, of whichever kind. -/
structure Spread (texts : List String) (rows : List Text.Line) : Prop where
  texts_eq : ((rows.map Text.Line.text).filter fun text ↦ !text.all Text.isBlank).map
    String.ofList = texts
  unbroken : ∀ row ∈ rows, '\n' ∉ row.text
  ended : Text.Ended rows

/-- Texts that fill lines are found in a file that is made of them and of blank rows. -/
theorem Spread.map_expression {texts : List String} (h : Spread texts rows)
    (htexts : ∀ text ∈ texts, FillsLine text) {contents : String}
    (hcontents : contents.toList = Text.unlines rows) (path : String) :
    (fileSubjects path contents).map Subject.expression = texts := by
  have hclosed : ∀ row ∈ rows,
      row.text.all Text.isBlank = true ∨ row.text.getLast? ≠ some '\r' := by
    intro row hrow
    cases hblank : row.text.all Text.isBlank with
    | true => exact .inl rfl
    | false =>
      have hmem : String.ofList row.text ∈ texts := by
        rw [← h.texts_eq]
        refine List.mem_map_of_mem (List.mem_filter.mpr ⟨List.mem_map_of_mem hrow, ?_⟩)
        rw [hblank]
        rfl
      have hfills := (htexts _ hmem).closed
      rw [String.toList_ofList] at hfills
      exact .inr hfills
  rw [map_expression_fileSubjects, hcontents, writtenTexts_unlines h.unbroken hclosed h.ended,
    h.texts_eq]

/-! ### What is gathered -/

theorem gatherSubjects_of_read {read : Reader} {path contents : String}
    (h : read path = .ok contents) (expressions : List String) :
    gatherSubjects read expressions (some path) =
      .ok (expressions.map argument ++ fileSubjects path contents) := by
  simp only [gatherSubjects, h]
  rfl

/-- What is to be checked are the arguments in their order, and behind them, where a file is given,
its lines that are not blank, as they are and in their order, each under the path of the file and
the number of the line: one more than there are line feeds in front of it. In particular, texts that
fill lines are gathered from a file as they are and in their order, whatever ends the lines, and
whatever blank lines are put between them. -/
theorem gatherSubjects_in_order (read : Reader) (expressions : List String) :
    gatherSubjects read expressions none = .ok (expressions.map argument) ∧
    ∀ path contents, read path = .ok contents →
      (∃ entries, Text.ListsLines contents.toList entries ∧
        gatherSubjects read expressions (some path) =
          .ok (expressions.map argument ++ entries.filterMap (lineSubject? path))) ∧
      ∀ texts rows, (∀ text ∈ texts, FillsLine text) → Spread texts rows →
        contents.toList = Text.unlines rows →
        ∃ subjects, gatherSubjects read expressions (some path) = .ok subjects ∧
          subjects.map Subject.expression = expressions ++ texts := by
  refine ⟨rfl, fun path contents hread ↦ ?_⟩
  rw [gatherSubjects_of_read hread]
  refine ⟨⟨_, Text.listsLines_placedLines contents.toList, ?_⟩,
    fun texts rows htexts hspread hcontents ↦ ⟨_, rfl, ?_⟩⟩
  · rw [fileSubjects_eq_placedLines]
  · have harguments : (expressions.map argument).map Subject.expression = expressions := by
      rw [List.map_map]
      exact List.map_id expressions
    rw [List.map_append, harguments, hspread.map_expression htexts hcontents]

/-- An argument, and a file in which two lines are blank and carriage returns stand alone. -/
theorem gatherSubjects_in_order_mixed :
    (∃ entries, Text.ListsLines "a\r\n \t\n\rb\r\r\n\n\x7bc\r".toList entries ∧
      ["x"].map argument ++ entries.filterMap (lineSubject? "list") =
        [⟨"<expression>", "x"⟩, ⟨"list:1", "a"⟩, ⟨"list:3", "\rb\r"⟩, ⟨"list:5", "\x7bc\r"⟩]) ∧
    ∃ subjects,
      gatherSubjects (fun _ ↦ .ok "a\r\n\t\r\r\n\rb ") ["x"] (some "list") = .ok subjects ∧
        subjects.map Subject.expression = ["x", "a", "\rb "] := by
  constructor
  · obtain ⟨entries, hentries, hgather⟩ := ((gatherSubjects_in_order
      (fun _ ↦ .ok "a\r\n \t\n\rb\r\r\n\n\x7bc\r") ["x"]).2 "list" _ rfl).1
    refine ⟨entries, hentries, Except.ok.inj (hgather.symm.trans ?_)⟩
    decide +kernel
  · refine ((gatherSubjects_in_order (fun _ ↦ .ok "a\r\n\t\r\r\n\rb ") ["x"]).2 "list" _ rfl).2
      ["a", "\rb "] [⟨['a'], .returnAndLineFeed⟩, ⟨['\t', '\r'], .returnAndLineFeed⟩,
        ⟨['\r', 'b', ' '], .missing⟩] ?_ ?_ (by decide)
    · have ha : FillsLine "a" := ⟨by decide, by decide, by decide⟩
      have hb : FillsLine "\rb " := ⟨by decide, by decide, by decide⟩
      simp [ha, hb]
    · exact ⟨by decide, by decide, by simp [Text.Ended]⟩

end CommandLine

end CucumberExpression
