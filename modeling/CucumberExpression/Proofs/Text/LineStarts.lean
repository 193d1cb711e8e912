import CucumberExpression.Proofs.Text.Lines
import Mathlib.Data.List.Basic

/-!
# Where lines start

A line starts at the beginning of a text or behind a line feed, and goes on up to the next line
feed, without the feed and without a carriage return directly before it (`LineAt`). Reading the
lines of a text finds all of these and nothing else (`mem_placedLines_iff`), in their order, and
in front of a line there are as many line feeds as lines (`count_lineFeed_take`).

What makes this work is that lines which can be read are read again when they are written
(`lines_append`): such a line has no line feed inside, is not empty if it lacks an end, and does not
lose a carriage return to its end (`Line.IsWhole`).
-/

set_option autoImplicit false
set_option relaxedAutoImplicit false

namespace CucumberExpression.Text

/-! ### Lines that can be read -/

/-- A line that can be read. -/
structure Line.IsWhole (line : Line) : Prop where
  unbroken : '\n' ∉ line.text
  written : line.ending = .missing → line.text ≠ []
  closed : line.ending = .lineFeed → line.text.getLast? ≠ some '\r'

/-- Every line but the last has an end. -/
def Ended (rows : List Line) : Prop := ∀ row ∈ rows.dropLast, row.ending ≠ .missing

variable {row : Line} {rows before after : List Line} {c : Char} {cs front back text : List Char}

theorem ended_cons_iff :
    Ended (row :: rows) ↔ (row.ending = .missing → rows = []) ∧ Ended rows := by
  cases rows with
  | nil => simp [Ended]
  | cons next rest =>
    rw [Ended, List.dropLast_cons_cons, List.forall_mem_cons]
    simp [Ended]

theorem unlines_cons (row : Line) (rows : List Line) :
    unlines (row :: rows) = row.text ++ (row.ending.chars ++ unlines rows) := by
  rw [unlines, List.flatMap_cons, List.append_assoc]
  rfl

theorem unlines_append (front back : List Line) :
    unlines (front ++ back) = unlines front ++ unlines back :=
  List.flatMap_append

/-- A character that is no part of a line end stands in front of the first line. -/
theorem lines_cons_of_ne (hfeed : c ≠ '\n') (hreturn : c = '\r' → cs.head? ≠ some '\n') :
    lines (c :: cs) = Line.attach c (lines cs) := by
  rw [lines]
  · exact hfeed
  · rintro rest rfl rfl
    exact hreturn rfl rfl

/-- A line that can be read is the first of the lines of every text that it begins, if nothing
follows where it lacks an end. -/
theorem lines_append (hrow : row.IsWhole) (hlast : row.ending = .missing → back = []) :
    lines (row.text ++ (row.ending.chars ++ back)) = row :: lines back := by
  obtain ⟨text, ending⟩ := row
  induction text with
  | nil =>
    cases ending with
    | missing => exact absurd rfl (hrow.written rfl)
    | lineFeed => rfl
    | returnAndLineFeed => rfl
  | cons c text ih =>
    obtain ⟨hfeed, htext⟩ : c ≠ '\n' ∧ '\n' ∉ text := by
      simpa [eq_comm] using hrow.unbroken
    cases text with
    | nil =>
      cases ending with
      | missing =>
        obtain rfl := hlast rfl
        exact lines_cons_of_ne hfeed fun _ ↦ by simp [LineEnd.chars]
      | lineFeed =>
        have hreturn : c ≠ '\r' := fun hc ↦ hrow.closed rfl (congrArg some hc)
        exact lines_cons_of_ne hfeed fun hc ↦ absurd hc hreturn
      | returnAndLineFeed => exact lines_cons_of_ne hfeed fun _ ↦ by simp [LineEnd.chars]
    | cons next text =>
      have hrest : Line.IsWhole ⟨next :: text, ending⟩ :=
        ⟨htext, fun _ ↦ List.cons_ne_nil _ _, hrow.closed⟩
      have hnext : next ≠ '\n' := fun hnext ↦ htext (hnext ▸ List.mem_cons_self)
      have hhead : (next :: text ++ (ending.chars ++ back)).head? ≠ some '\n' :=
        fun hhead ↦ hnext (Option.some.inj hhead)
      have hlines := lines_cons_of_ne hfeed fun _ ↦ hhead
      rw [ih hrest hlast] at hlines
      exact hlines

/-- Lines that can be read, each with an end, are read again in front of any text. -/
theorem lines_unlines_append (h : ∀ row ∈ rows, row.IsWhole ∧ row.ending ≠ .missing)
    (back : List Char) : lines (unlines rows ++ back) = rows ++ lines back := by
  induction rows with
  | nil => rfl
  | cons row rows ih =>
    obtain ⟨⟨hrow, hending⟩, hrows⟩ := List.forall_mem_cons.mp h
    rw [unlines_cons, List.append_assoc, List.append_assoc,
      lines_append hrow fun hmissing ↦ absurd hmissing hending, ih hrows, List.cons_append]

/-- A character in front of a line that can be read makes another such line. -/
theorem Line.IsWhole.cons (hrow : row.IsWhole) (hfeed : c ≠ '\n')
    (hreturn : row.text = [] → row.ending = .lineFeed → c ≠ '\r') :
    Line.IsWhole { row with text := c :: row.text } where
  unbroken := by simpa [hfeed.symm] using hrow.unbroken
  written := fun _ ↦ List.cons_ne_nil _ _
  closed := by
    intro hending
    cases htext : row.text with
    | nil => simpa using hreturn htext hending
    | cons next text =>
      rw [List.getLast?_cons_cons, ← htext]
      exact hrow.closed hending

/-- An empty line with an end can be read. -/
theorem Line.isWhole_nil {ending : LineEnd} (h : ending ≠ .missing) :
    Line.IsWhole ⟨[], ending⟩ where
  unbroken := List.not_mem_nil
  written := fun hmissing ↦ absurd hmissing h
  closed := fun _ ↦ by simp

/-- The lines of a text can be read, and only the last of them may lack an end. -/
theorem isWhole_lines (cs : List Char) : (∀ row ∈ lines cs, row.IsWhole) ∧ Ended (lines cs) := by
  fun_induction lines cs with
  | case1 => simp [Ended]
  | case2 rest ih =>
    have hrow : Line.IsWhole ⟨[], .lineFeed⟩ := Line.isWhole_nil (by decide)
    exact ⟨List.forall_mem_cons.mpr ⟨hrow, ih.1⟩, ended_cons_iff.mpr ⟨by simp, ih.2⟩⟩
  | case3 rest ih =>
    have hrow : Line.IsWhole ⟨[], .returnAndLineFeed⟩ := Line.isWhole_nil (by decide)
    exact ⟨List.forall_mem_cons.mpr ⟨hrow, ih.1⟩, ended_cons_iff.mpr ⟨by simp, ih.2⟩⟩
  | case4 c rest hfeed hreturn ih =>
    cases hlines : lines rest with
    | nil =>
      have hrow : Line.IsWhole ⟨[c], .missing⟩ :=
        ⟨by simpa [eq_comm] using hfeed, fun _ ↦ List.cons_ne_nil _ _, by simp⟩
      simpa [Line.attach, Ended] using hrow
    | cons row rows =>
      rw [hlines] at ih
      obtain ⟨⟨hrow, hrows⟩, hended⟩ := And.imp_left List.forall_mem_cons.mp ih
      have hlast := ended_cons_iff.mp hended
      refine ⟨List.forall_mem_cons.mpr ⟨hrow.cons hfeed fun htext hending hc ↦ ?_, hrows⟩,
        ended_cons_iff.mpr hlast⟩
      -- A carriage return right before a line feed is another case of the reader.
      refine hreturn (unlines rows) hc ?_
      rw [← unlines_lines rest, hlines, unlines_cons, htext, hending]
      rfl

/-- All lines in front of a line have ends. -/
theorem Ended.of_append (h : Ended (before ++ row :: after)) :
    ∀ other ∈ before, other.ending ≠ .missing := by
  intro other hother
  refine h other ?_
  rw [List.dropLast_append_of_ne_nil (List.cons_ne_nil row after)]
  exact List.mem_append_left _ hother

/-- Nothing is behind a line that lacks an end. -/
theorem Ended.eq_nil (h : Ended (before ++ row :: after)) (hmissing : row.ending = .missing) :
    after = [] := by
  by_contra hafter
  refine h row ?_ hmissing
  rw [List.dropLast_append_of_ne_nil (List.cons_ne_nil row after),
    List.dropLast_cons_of_ne_nil hafter]
  exact List.mem_append_right _ List.mem_cons_self

/-- Lines with ends make an empty text, or one that ends with a line feed. -/
theorem getLast?_unlines (h : ∀ row ∈ rows, row.ending ≠ .missing) :
    unlines rows = [] ∨ (unlines rows).getLast? = some '\n' := by
  rcases List.eq_nil_or_concat rows with rfl | ⟨front, row, rfl⟩
  · exact .inl rfl
  · obtain ⟨init, hchars⟩ : ∃ init, row.ending.chars = init ++ ['\n'] := by
      cases hrow : row.ending with
      | missing => exact absurd hrow (h row (by simp))
      | lineFeed => exact ⟨[], rfl⟩
      | returnAndLineFeed => exact ⟨['\r'], rfl⟩
    right
    rw [List.concat_eq_append, unlines_append, unlines_cons, hchars]
    simp [unlines]

/-- Where a text is empty or ends with a line feed, all of its lines have ends. -/
theorem ending_ne_missing (h : cs = [] ∨ cs.getLast? = some '\n') :
    ∀ row ∈ lines cs, row.ending ≠ .missing := by
  intro row hrow hmissing
  obtain ⟨hwhole, hended⟩ := isWhole_lines cs
  have htext := (hwhole row hrow).written hmissing
  obtain ⟨before, after, hlines⟩ := List.append_of_mem hrow
  rw [hlines] at hended
  have hcs : cs = unlines before ++ row.text := by
    rw [← unlines_lines cs, hlines, unlines_append, unlines_cons, hmissing,
      hended.eq_nil hmissing]
    simp [LineEnd.chars, unlines]
  rcases h with hnil | hfeed
  · exact htext (List.append_eq_nil_iff.mp (hcs.symm.trans hnil)).2
  · rw [hcs, List.getLast?_append_of_ne_nil _ htext] at hfeed
    exact (hwhole row hrow).unbroken (List.mem_of_getLast? hfeed)

theorem count_lineFeed_unlines (h : ∀ row ∈ rows, row.IsWhole ∧ row.ending ≠ .missing) :
    (unlines rows).count '\n' = rows.length := by
  induction rows with
  | nil => rfl
  | cons row rows ih =>
    obtain ⟨⟨hrow, hending⟩, hrows⟩ := List.forall_mem_cons.mp h
    have hone : row.ending.chars.count '\n' = 1 := by
      cases hchars : row.ending with
      | missing => exact absurd hchars hending
      | lineFeed | returnAndLineFeed => rfl
    rw [unlines_cons, List.count_append, List.count_append, List.count_eq_zero.mpr hrow.unbroken,
      hone, ih hrows, List.length_cons]
    omega

/-! ### Lines in their places -/

/-- The line with the given text stands in a text behind the given part: the part is empty or ends
with a line feed, and the line goes on up to the next end of a line or to the end of the text. -/
structure LineAt (cs front text : List Char) : Prop where
  start : front = [] ∨ front.getLast? = some '\n'
  cut : ∃ ending back, cs = front ++ (text ++ (LineEnd.chars ending ++ back)) ∧
    Line.IsWhole ⟨text, ending⟩ ∧ (ending = .missing → back = [])

/-- The lines of a text, each with what stands in front of it. -/
def placedLines (cs : List Char) : List (List Char × List Char) :=
  (lines cs).zipIdx.map fun (row, index) ↦ (unlines ((lines cs).take index), row.text)

/-- The lines that are read are the lines in their places. -/
theorem lineAt_iff : LineAt cs front text ↔ ∃ before row after,
    lines cs = before ++ row :: after ∧ front = unlines before ∧ text = row.text := by
  constructor
  · rintro ⟨hstart, ending, back, rfl, hwhole, hlast⟩
    refine ⟨lines front, ⟨text, ending⟩, lines back, ?_, (unlines_lines front).symm, rfl⟩
    have hrows : ∀ row ∈ lines front, row.IsWhole ∧ row.ending ≠ .missing := fun row hrow ↦
      ⟨(isWhole_lines front).1 row hrow, ending_ne_missing hstart row hrow⟩
    have hfront := lines_unlines_append hrows (text ++ (ending.chars ++ back))
    rw [unlines_lines] at hfront
    rw [hfront]
    exact congrArg _ (lines_append hwhole hlast)
  · rintro ⟨before, row, after, hlines, rfl, rfl⟩
    obtain ⟨hwhole, hended⟩ := isWhole_lines cs
    rw [hlines] at hwhole hended
    refine ⟨getLast?_unlines hended.of_append, row.ending, unlines after, ?_,
      hwhole row (by simp), fun hmissing ↦ ?_⟩
    · rw [← unlines_cons, ← unlines_append, ← hlines, unlines_lines]
    · rw [hended.eq_nil hmissing]
      rfl

/-- A line is listed with what stands in front of it exactly if it is a line in its place. -/
theorem mem_placedLines_iff : (front, text) ∈ placedLines cs ↔ LineAt cs front text := by
  rw [lineAt_iff, placedLines, List.mem_map]
  constructor
  · rintro ⟨⟨row, index⟩, hmem, hplace⟩
    obtain ⟨rfl, rfl⟩ := Prod.mk.inj hplace
    obtain ⟨hindex, hrow⟩ := List.getElem?_eq_some_iff.mp (List.mk_mem_zipIdx_iff_getElem?.mp hmem)
    refine ⟨(lines cs).take index, row, (lines cs).drop (index + 1), ?_, rfl, rfl⟩
    rw [← hrow, ← List.drop_eq_getElem_cons hindex, List.take_append_drop]
  · rintro ⟨before, row, after, hlines, rfl, rfl⟩
    refine ⟨(row, before.length), List.mk_mem_zipIdx_iff_getElem?.mpr ?_, ?_⟩
    · rw [hlines, List.getElem?_append_right (Nat.le_refl _), Nat.sub_self]
      rfl
    · simp only [hlines, List.take_left]

/-- In front of a line there are as many line feeds as lines. -/
theorem count_lineFeed_take {index : Nat} (h : index < (lines cs).length) :
    (unlines ((lines cs).take index)).count '\n' = index := by
  obtain ⟨hwhole, hended⟩ := isWhole_lines cs
  have hfront : ∀ row ∈ (lines cs).take index, row.ending ≠ .missing := by
    rw [← List.take_append_drop index (lines cs), List.drop_eq_getElem_cons h] at hended
    exact hended.of_append
  rw [count_lineFeed_unlines fun row hrow ↦ ⟨hwhole row (List.mem_of_mem_take hrow),
    hfront row hrow⟩, List.length_take, Nat.min_eq_left (Nat.le_of_lt h)]

/-- The lines are listed in their order. -/
theorem pairwise_placedLines (cs : List Char) :
    (placedLines cs).Pairwise fun a b ↦ a.1.length < b.1.length := by
  rw [placedLines, List.pairwise_map, List.pairwise_iff_getElem]
  intro first last hfirst hlast hlt
  simp only [List.length_zipIdx, List.getElem_zipIdx, Nat.zero_add] at hfirst hlast ⊢
  obtain ⟨count, rfl⟩ := Nat.exists_eq_add_of_lt hlt
  have hcut : unlines ((lines cs).take (first + count + 1)) =
      unlines ((lines cs).take first) ++
        unlines (((lines cs).drop first).take (count + 1)) := by
    rw [Nat.add_assoc, List.take_add, unlines_append]
  -- Between the two lines there is a line feed at least.
  have hfeeds := congrArg (List.count '\n') hcut
  rw [List.count_append, count_lineFeed_take hfirst, count_lineFeed_take hlast] at hfeeds
  have hlength : (unlines (((lines cs).drop first).take (count + 1))).count '\n' ≤ _ :=
    List.count_le_length
  rw [hcut, List.length_append]
  omega

theorem map_snd_placedLines (cs : List Char) :
    (placedLines cs).map Prod.snd = linesOfPieces (cs.splitOn '\n') := by
  rw [placedLines, List.map_map, ← map_text_lines]
  conv_rhs => rw [← List.zipIdx_map_fst 0 (lines cs), List.map_map]
  rfl

/-- The entries are the lines of a text in their order, each with what stands in front of it. The
lines lie between the line feeds of the text. -/
structure ListsLines (cs : List Char) (entries : List (List Char × List Char)) : Prop where
  mem_iff : ∀ front text, (front, text) ∈ entries ↔ LineAt cs front text
  ordered : entries.Pairwise fun a b ↦ a.1.length < b.1.length
  texts_eq : entries.map Prod.snd = linesOfPieces (cs.splitOn '\n')

theorem listsLines_placedLines (cs : List Char) : ListsLines cs (placedLines cs) :=
  ⟨fun _ _ ↦ mem_placedLines_iff, pairwise_placedLines cs, map_snd_placedLines cs⟩

end CucumberExpression.Text
