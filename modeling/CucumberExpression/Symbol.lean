import CucumberExpression.Text.Blank

/-!
# Special characters

Six characters have a meaning of their own in an expression: two pairs of brackets, the separator
of alternatives, and the escape that takes such a meaning away.
-/

set_option autoImplicit false
set_option relaxedAutoImplicit false

namespace CucumberExpression

/-- The characters with a meaning of their own. -/
inductive Symbol where
  | beginParameter
  | endParameter
  | beginOptional
  | endOptional
  | alternation
  | escape
  deriving Repr, DecidableEq

/-- What a special character is for. -/
inductive SymbolCategory where
  | delimiter
  | separator
  | escape
  deriving Repr, DecidableEq

namespace Symbol

/-- Every special character, in the order in which they are listed. -/
def all : List Symbol :=
  [beginParameter, endParameter, beginOptional, endOptional, alternation, escape]

theorem mem_all (symbol : Symbol) : symbol ∈ all := by
  cases symbol <;> decide

instance {property : Symbol → Prop} [DecidablePred property] :
    Decidable (∃ symbol, property symbol) :=
  decidable_of_decidable_of_iff (p := ∃ symbol ∈ all, property symbol)
    ⟨fun ⟨symbol, _, h⟩ ↦ ⟨symbol, h⟩, fun ⟨symbol, h⟩ ↦ ⟨symbol, symbol.mem_all, h⟩⟩

/-- The character itself. -/
def char : Symbol → Char
  | beginParameter => '{'
  | endParameter => '}'
  | beginOptional => '('
  | endOptional => ')'
  | alternation => '/'
  | escape => '\\'

/-- The special character that a character is, if it is one. -/
def ofChar? (c : Char) : Option Symbol :=
  all.find? fun symbol ↦ symbol.char == c

@[simp] theorem ofChar?_char (symbol : Symbol) : ofChar? symbol.char = some symbol := by
  cases symbol <;> decide

/-- The special characters, written out. -/
theorem isSome_ofChar?_iff {c : Char} :
    (ofChar? c).isSome = true ↔ c ∈ ['\x7b', '\x7d', '(', ')', '/', '\\'] := by
  have hchars : all.map char = ['\x7b', '\x7d', '(', ')', '/', '\\'] := rfl
  rw [← hchars, ofChar?, List.find?_isSome, List.mem_map]
  simp only [beq_iff_eq]

theorem char_of_ofChar? {c : Char} {symbol : Symbol} (h : ofChar? c = some symbol) :
    symbol.char = c := by
  simpa using List.find?_some h

/-- What a special character is for. -/
def category : Symbol → SymbolCategory
  | beginParameter | endParameter | beginOptional | endOptional => .delimiter
  | alternation => .separator
  | escape => .escape

/-- The bracket that closes an opening bracket. -/
def closedBy? : Symbol → Option Symbol
  | beginParameter => some endParameter
  | beginOptional => some endOptional
  | _ => none

/-- A sentence that explains the character, with an example of its use. -/
def description : Symbol → String
  | beginParameter => "Opens a parameter, e.g. `\x7bint\x7d`."
  | endParameter => "Closes a parameter."
  | beginOptional => "Opens optional text, e.g. `cucumber(s)`."
  | endOptional => "Closes optional text."
  | alternation =>
    "Separates alternatives between whitespace boundaries, e.g. `belly/stomach`."
  | escape => "Makes the next special character or whitespace literal text."

end Symbol

/-- Whether a character may follow the escape character. -/
def canEscape (c : Char) : Bool :=
  Text.isBlank c || (Symbol.ofChar? c).isSome

/-- The characters that may be escaped are the blanks and the six special characters. -/
theorem canEscape_iff {c : Char} :
    canEscape c = true ↔ Text.isBlank c = true ∨ c ∈ ['\x7b', '\x7d', '(', ')', '/', '\\'] := by
  rw [canEscape, Bool.or_eq_true, Symbol.isSome_ofChar?_iff]

end CucumberExpression
