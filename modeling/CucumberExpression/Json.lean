/-!
# JSON

The part of JSON that trees are written in: strings, natural numbers, arrays, and objects whose
members keep their order. `Json.compact` writes a value without blanks, `Json.pretty` one member
to a line.
-/

set_option autoImplicit false
set_option relaxedAutoImplicit false

namespace CucumberExpression

/-- A JSON value. -/
inductive Json where
  | string (text : String)
  | number (value : Nat)
  | array (items : List Json)
  | object (members : List (String × Json))
  deriving Repr, Inhabited

namespace Json

/-! ### Strings -/

/-- A character as it is written in a string: quotes, backslashes and controls are escaped, all
others stand for themselves. -/
def escapedChar (c : Char) : List Char :=
  if c = '"' then ['\\', '"']
  else if c = '\\' then ['\\', '\\']
  else if c = '\x08' then ['\\', 'b']
  else if c = '\t' then ['\\', 't']
  else if c = '\n' then ['\\', 'n']
  else if c = '\x0c' then ['\\', 'f']
  else if c = '\r' then ['\\', 'r']
  else if c.toNat < 0x20 then
    ['\\', 'u', '0', '0', Nat.digitChar (c.toNat / 16), Nat.digitChar (c.toNat % 16)]
  else [c]

/-- A string in quotes. -/
def quote (s : String) : String :=
  String.ofList ('"' :: s.toList.flatMap escapedChar ++ ['"'])

/-! ### Compact form -/

mutual

/-- The value without blanks. -/
def compact : Json → String
  | string text => quote text
  | number value => toString value
  | array items => "[" ++ compactItems items ++ "]"
  | object members => "\x7b" ++ compactMembers members ++ "\x7d"

/-- Items with commas between them. -/
def compactItems : List Json → String
  | [] => ""
  | [item] => compact item
  | item :: items => compact item ++ "," ++ compactItems items

/-- Members with commas between them. -/
def compactMembers : List (String × Json) → String
  | [] => ""
  | [(key, value)] => quote key ++ ":" ++ compact value
  | (key, value) :: members =>
    quote key ++ ":" ++ compact value ++ "," ++ compactMembers members

end

/-! ### Form with one member to a line -/

/-- A line break, and two blanks for each level. -/
def newLine (level : Nat) : String :=
  "\n" ++ String.ofList (List.replicate (2 * level) ' ')

mutual

/-- The value at a nesting level. What an array or object holds stands on lines of its own, one
level deeper, unless it is empty. -/
def prettyAt (level : Nat) : Json → String
  | string text => quote text
  | number value => toString value
  | array [] => "[]"
  | array (item :: items) =>
    "[" ++ prettyItems (level + 1) (item :: items) ++ newLine level ++ "]"
  | object [] => "\x7b\x7d"
  | object (member :: members) =>
    "\x7b" ++ prettyMembers (level + 1) (member :: members) ++ newLine level ++ "\x7d"

/-- Items on lines of their own, with commas between them. -/
def prettyItems (level : Nat) : List Json → String
  | [] => ""
  | [item] => newLine level ++ prettyAt level item
  | item :: items =>
    newLine level ++ prettyAt level item ++ "," ++ prettyItems level items

/-- Members on lines of their own, with commas between them. -/
def prettyMembers (level : Nat) : List (String × Json) → String
  | [] => ""
  | [(key, value)] => newLine level ++ quote key ++ ": " ++ prettyAt level value
  | (key, value) :: members =>
    newLine level ++ quote key ++ ": " ++ prettyAt level value ++ ","
      ++ prettyMembers level members

end

/-- The value with each member on a line of its own. -/
def pretty (value : Json) : String := prettyAt 0 value

end Json

end CucumberExpression
