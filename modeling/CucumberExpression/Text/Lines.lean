/-!
# Bytes and lines of a text

Offsets into an expression count characters, but the place of an error is reported in bytes of the
UTF-8 form. Texts are measured in bytes and cut at byte offsets; a cut inside a character has no
result.

A line ends with a line feed, or with a carriage return and a line feed. A carriage return that
stands alone is a character of its line. The last line may lack its end, and an empty text has no
line; so the lines with their ends, put together again, are the text (`unlines_lines`).
-/

set_option autoImplicit false
set_option relaxedAutoImplicit false

namespace CucumberExpression.Text

/-! ### Bytes -/

/-- The length of the UTF-8 form of the characters. -/
def byteLength : List Char → Nat
  | [] => 0
  | c :: cs => c.utf8Size + byteLength cs

@[simp] theorem byteLength_nil : byteLength [] = 0 := rfl

@[simp] theorem byteLength_cons (c : Char) (cs : List Char) :
    byteLength (c :: cs) = c.utf8Size + byteLength cs := rfl

@[simp] theorem byteLength_append (cs ds : List Char) :
    byteLength (cs ++ ds) = byteLength cs + byteLength ds := by
  induction cs with
  | nil => simp
  | cons c cs ih => simp [ih, Nat.add_assoc]

/-- The byte offset at which the character of an index starts; past the last character, the
length of the whole text. -/
def byteOffset : List Char → Nat → Nat
  | [], _ => 0
  | _ :: _, 0 => 0
  | c :: cs, index + 1 => c.utf8Size + byteOffset cs index

/-- The text from a byte offset on. There is none where the offset lies inside a character or
past the end. -/
def dropBytes? : Nat → List Char → Option (List Char)
  | 0, cs => some cs
  | _ + 1, [] => none
  | count + 1, c :: cs =>
    if c.utf8Size ≤ count + 1 then dropBytes? (count + 1 - c.utf8Size) cs else none

/-- The text up to a byte offset. There is none where the offset lies inside a character or past
the end. -/
def takeBytes? : Nat → List Char → Option (List Char)
  | 0, _ => some []
  | _ + 1, [] => none
  | count + 1, c :: cs =>
    if c.utf8Size ≤ count + 1 then
      (takeBytes? (count + 1 - c.utf8Size) cs).map (c :: ·)
    else none

/-- The text between two byte offsets. -/
def cutBytes? (start stop : Nat) (cs : List Char) : Option (List Char) :=
  if start ≤ stop then (dropBytes? start cs).bind (takeBytes? (stop - start)) else none

/-- The byte offset of an index is the length of the characters before it. -/
theorem byteOffset_eq_byteLength_take (cs : List Char) (index : Nat) :
    byteOffset cs index = byteLength (cs.take index) := by
  induction cs generalizing index with
  | nil => simp [byteOffset]
  | cons c cs ih =>
    cases index with
    | zero => simp [byteOffset]
    | succ index => simp [byteOffset, ih]

/-! ### Lines -/

/-- What ends a line. -/
inductive LineEnd where
  | missing
  | lineFeed
  | returnAndLineFeed
  deriving Repr, DecidableEq

/-- The characters of a line end. -/
def LineEnd.chars : LineEnd → List Char
  | missing => []
  | lineFeed => ['\n']
  | returnAndLineFeed => ['\r', '\n']

/-- A line, without its end, and the end. -/
structure Line where
  text : List Char
  ending : LineEnd
  deriving Repr, DecidableEq

namespace Line

/-- The bytes of the line together with its end. -/
def byteLength (line : Line) : Nat :=
  Text.byteLength line.text + Text.byteLength line.ending.chars

/-- The lines with a character put in front of the first of them. -/
def attach (c : Char) : List Line → List Line
  | [] => [⟨[c], .missing⟩]
  | line :: rest => { line with text := c :: line.text } :: rest

end Line

/-- The lines of a text. -/
def lines : List Char → List Line
  | [] => []
  | '\n' :: rest => ⟨[], .lineFeed⟩ :: lines rest
  | '\r' :: '\n' :: rest => ⟨[], .returnAndLineFeed⟩ :: lines rest
  | c :: rest => Line.attach c (lines rest)

/-- The text of the given lines. -/
def unlines (parts : List Line) : List Char :=
  parts.flatMap fun line ↦ line.text ++ line.ending.chars

theorem unlines_attach (c : Char) (parts : List Line) :
    unlines (Line.attach c parts) = c :: unlines parts := by
  cases parts <;> simp [unlines, Line.attach, LineEnd.chars]

/-- Reading the lines of a text loses nothing of it. -/
theorem unlines_lines (cs : List Char) : unlines (lines cs) = cs := by
  fun_induction lines cs with
  | case1 => rfl
  | case2 rest ih => simpa [unlines, LineEnd.chars] using ih
  | case3 rest ih => simpa [unlines, LineEnd.chars] using ih
  | case4 c rest _ _ ih => rw [unlines_attach, ih]

end CucumberExpression.Text
