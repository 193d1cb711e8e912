import CucumberExpression.Text.Lines

/-!
# Lines and line feeds

The lines of a text can be told from where its line feeds stand, without a look at what ends each
of them. Between the line feeds there are pieces; every piece but the last has lost a line feed, and
with it a carriage return directly before; the last piece is a line as it is, unless it is empty
(`linesOfPieces`). These are the texts of the lines that are read (`map_text_lines`). In particular
a text without line feeds, whatever ends it, is one line (`linesOfPieces_line`).
-/

set_option autoImplicit false
set_option relaxedAutoImplicit false

namespace CucumberExpression.Text

/-- The piece without a carriage return at its end. -/
def dropReturn (piece : List Char) : List Char :=
  if piece.getLast? = some '\r' then piece.dropLast else piece

/-- The texts of the lines that lie between line feeds as the given pieces do. -/
def linesOfPieces : List (List Char) → List (List Char)
  | [] => []
  | [last] => if last = [] then [] else [last]
  | piece :: next :: rest => dropReturn piece :: linesOfPieces (next :: rest)

theorem dropReturn_of_ne {piece : List Char} (h : piece.getLast? ≠ some '\r') :
    dropReturn piece = piece :=
  if_neg h

theorem dropReturn_append_return (piece : List Char) : dropReturn (piece ++ ['\r']) = piece := by
  rw [dropReturn, if_pos List.getLast?_concat, List.dropLast_concat]

/-- A character stays in front of a piece, unless it is a carriage return that ends it. -/
theorem dropReturn_cons {c : Char} {piece : List Char} (h : piece ≠ [] ∨ c ≠ '\r') :
    dropReturn (c :: piece) = c :: dropReturn piece := by
  cases piece with
  | nil => exact if_neg (by simpa using h)
  | cons next rest =>
    rw [dropReturn, dropReturn, List.getLast?_cons_cons, List.dropLast_cons_of_ne_nil (by simp)]
    split <;> rfl

/-! ### Pieces between line feeds -/

theorem splitOn_cons_lineFeed (cs : List Char) :
    ('\n' :: cs).splitOn '\n' = [] :: cs.splitOn '\n' := by
  rw [List.splitOn_cons_eq_if_modifyHead, if_pos (by decide)]

theorem splitOn_cons_of_ne {c : Char} (hc : c ≠ '\n') (cs : List Char) :
    (c :: cs).splitOn '\n' = (cs.splitOn '\n').modifyHead (c :: ·) := by
  rw [List.splitOn_cons_eq_if_modifyHead, if_neg (by simpa using hc)]

theorem exists_splitOn (cs : List Char) : ∃ piece rest, cs.splitOn '\n' = piece :: rest :=
  List.exists_cons_of_ne_nil (List.splitOn_ne_nil '\n' cs)

/-- Only a text that begins with a line feed has an empty piece in front of another one. -/
theorem exists_cons_of_splitOn {cs next : List Char} {rest : List (List Char)}
    (h : cs.splitOn '\n' = [] :: next :: rest) : ∃ cs', cs = '\n' :: cs' := by
  cases cs with
  | nil => cases h
  | cons c cs =>
    by_cases hc : c = '\n'
    · exact ⟨cs, by rw [hc]⟩
    · obtain ⟨piece, others, hsplit⟩ := exists_splitOn cs
      rw [splitOn_cons_of_ne hc, hsplit] at h
      cases h

/-! ### Lines -/

theorem map_text_attach (c : Char) {parts : List Line} {text : List Char} {texts : List (List Char)}
    (h : parts.map Line.text = text :: texts) :
    (Line.attach c parts).map Line.text = (c :: text) :: texts := by
  cases parts with
  | nil => cases h
  | cons line parts =>
    obtain ⟨rfl, rfl⟩ := List.cons.inj h
    rfl

/-- The texts of the lines are told from the pieces between the line feeds. -/
theorem map_text_lines (cs : List Char) :
    (lines cs).map Line.text = linesOfPieces (cs.splitOn '\n') := by
  fun_induction lines cs with
  | case1 => rfl
  | case2 rest ih =>
    obtain ⟨piece, others, hsplit⟩ := exists_splitOn rest
    rw [splitOn_cons_lineFeed, List.map_cons, ih, hsplit]
    rfl
  | case3 rest ih =>
    obtain ⟨piece, others, hsplit⟩ := exists_splitOn rest
    rw [splitOn_cons_of_ne (by decide), splitOn_cons_lineFeed, List.map_cons, ih, hsplit]
    rfl
  | case4 c rest hfeed hreturn ih =>
    obtain ⟨piece, others, hsplit⟩ := exists_splitOn rest
    rw [splitOn_cons_of_ne hfeed, hsplit, List.modifyHead_cons]
    rw [hsplit] at ih
    cases others with
    | nil =>
      by_cases hpiece : piece = []
      · rw [hpiece] at ih ⊢
        rw [List.map_eq_nil_iff.mp ih]
        rfl
      · rw [linesOfPieces, if_neg hpiece] at ih
        exact map_text_attach c ih
    | cons next others =>
      -- A carriage return right before a line feed is another case of the reader.
      have hkeep : piece ≠ [] ∨ c ≠ '\r' := by
        by_cases hpiece : piece = []
        · rw [hpiece] at hsplit
          obtain ⟨rest', hrest⟩ := exists_cons_of_splitOn hsplit
          exact .inr fun hc ↦ hreturn rest' hc hrest
        · exact .inl hpiece
      rw [linesOfPieces, dropReturn_cons hkeep]
      exact map_text_attach c ih

/-- Assumes: a text that is not empty, has no line feed, and does not end in a carriage return. With
any line end behind it, it is one line. -/
theorem linesOfPieces_line {text : List Char} (hne : text ≠ []) (hfeed : '\n' ∉ text)
    (hreturn : text.getLast? ≠ some '\r') (ending : LineEnd) :
    linesOfPieces ((text ++ ending.chars).splitOn '\n') = [text] := by
  cases ending with
  | missing =>
    rw [LineEnd.chars, List.append_nil, List.splitOn_eq_singleton hfeed, linesOfPieces, if_neg hne]
  | lineFeed =>
    rw [LineEnd.chars, List.splitOn_append_cons_self_of_not_mem hfeed, List.splitOn_nil,
      linesOfPieces, dropReturn_of_ne hreturn]
    rfl
  | returnAndLineFeed =>
    have hfeed' : '\n' ∉ text ++ ['\r'] := by simpa using hfeed
    have hchars : text ++ ['\r', '\n'] = (text ++ ['\r']) ++ ['\n'] := by simp
    rw [LineEnd.chars, hchars, List.splitOn_append_cons_self_of_not_mem hfeed', List.splitOn_nil,
      linesOfPieces, dropReturn_append_return]
    rfl

/-- A carriage return at the end of a text is no part of a line end. -/
example : (lines ['a', '\r', '\n', '\n', '\r', 'b', '\r']).map Line.text =
    [['a'], [], ['\r', 'b', '\r']] := by
  decide

end CucumberExpression.Text
