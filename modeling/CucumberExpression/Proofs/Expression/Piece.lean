import CucumberExpression.Proofs.Grammar.Derivation

/-!
# Expressions as data

An expression put together from its pieces and not read from a source. The leaves are lexemes:
literal text, blanks and single special characters. Which special characters may stand bare depends
on the place, and no two neighbours may belong to one run, since these would be read as one; the
types carry both conditions, so every value of `Expression` is well-formed.

Every kind of piece has a written form, as a row of lexemes, and nodes, which depend on the offset
at which it begins (`Piece`). A construct spans its written form, brackets included.
`Expression.print` is the source that the pieces are written as, and `Expression.node` is the tree
that they are.
-/

set_option autoImplicit false
set_option relaxedAutoImplicit false

namespace CucumberExpression

/-! ### Pieces -/

/-- A kind of piece of an expression: how a piece is written, and the nodes that it makes where it
begins at an offset. -/
class Piece (α : Type) where
  lexemes : α → List Lexeme
  nodes : Nat → α → List Node

namespace Piece

variable {α : Type} [Piece α]

/-- The number of characters in the written form of a piece. -/
def width (piece : α) : Nat := (Lexeme.encodeAll (lexemes piece)).length

/-- The nodes of pieces that are written one after another. -/
def rowNodes : Nat → List α → List Node
  | _, [] => []
  | offset, piece :: pieces => nodes offset piece ++ rowNodes (offset + width piece) pieces

instance : Piece (List α) where
  lexemes := List.flatMap lexemes
  nodes := rowNodes

end Piece

instance : Piece Lexeme where
  lexemes lexeme := [lexeme]
  nodes offset lexeme := [(lexeme.tokenAt offset).leaf]

/-! ### Brackets -/

/-- A parameter: literal text, blanks and special characters other than `\x7d`, between braces. -/
structure Parameter where
  inside : List Lexeme
  canonical : Lexeme.Canonical inside
  kinds : ∀ lexeme ∈ inside, lexeme.kind ≠ .endParameter

instance : Piece Parameter where
  lexemes parameter := ⟨.beginParameter, ['{']⟩ :: (parameter.inside ++ [⟨.endParameter, ['}']⟩])
  nodes offset parameter :=
    [.branch .parameter ⟨offset, offset + 1 + Piece.width parameter.inside + 1⟩
      (Piece.nodes (offset + 1) parameter.inside)]

/-- A lexeme by itself, or a construct in brackets. -/
inductive Item (α : Type) where
  | bare (lexeme : Lexeme)
  | group (construct : α)

namespace Item

variable {α : Type}

instance [Piece α] : Piece (Item α) where
  lexemes
    | bare lexeme => [lexeme]
    | group construct => Piece.lexemes construct
  nodes offset
    | bare lexeme => [(lexeme.tokenAt offset).leaf]
    | group construct => Piece.nodes offset construct

/-- Whether two neighbours would be read as one. -/
def Apart : Item α → Item α → Prop
  | bare a, bare b => ¬ a.Joins b
  | _, _ => True

instance : (a b : Item α) → Decidable (Apart a b)
  | bare a, bare b => inferInstanceAs (Decidable (¬ a.Joins b))
  | bare _, group _ | group _, _ => .isTrue trivial

/-- The lexeme that an item is, if it stands by itself. -/
def bare? : Item α → Option Lexeme
  | bare lexeme => some lexeme
  | group _ => none

theorem bare?_eq_some_iff {item : Item α} {lexeme : Lexeme} :
    item.bare? = some lexeme ↔ item = bare lexeme := by
  cases item <;> simp [bare?]

instance {items : List (Item α)} {property : Lexeme → Prop} [DecidablePred property] :
    Decidable (∀ lexeme, .bare lexeme ∈ items → property lexeme) :=
  decidable_of_iff (∀ lexeme ∈ items.filterMap bare?, property lexeme) <| by
    simp [List.mem_filterMap, bare?_eq_some_iff]

end Item

/-- Items of which the bare ones have one of the given kinds, and no two neighbours belong together.
-/
structure Row (α : Type) (kinds : List TokenKind) where
  items : List (Item α)
  valid : ∀ lexeme, .bare lexeme ∈ items → lexeme.Valid ∧ lexeme.kind ∈ kinds
  apart : items.IsChain Item.Apart

/-- The inside of an optional part: literal text, blanks, the special characters `(`, `\x7d` and
`/`, and parameters. -/
abbrev OptionalInside : Type :=
  Row Parameter [.text, .whiteSpace, .beginOptional, .endParameter, .alternation]

/-- A construct in brackets: a parameter or an optional part. -/
inductive Group where
  | parameter (parameter : Parameter)
  | optional (inside : OptionalInside)

instance : Piece Group where
  lexemes
    | .parameter parameter => Piece.lexemes parameter
    | .optional inside =>
      ⟨.beginOptional, ['(']⟩ :: (Piece.lexemes inside.items ++ [⟨.endOptional, [')']⟩])
  nodes offset
    | .parameter parameter => Piece.nodes offset parameter
    | .optional inside =>
      [.branch .optional ⟨offset, offset + 1 + Piece.width inside.items + 1⟩
        (Piece.nodes (offset + 1) inside.items)]

/-! ### Expressions -/

/-- What a word is made of: literal text, the special characters `)` and `\x7d`, optional parts and
parameters. A word may be empty between separators only. -/
abbrev Word : Type := Row Group [.text, .endOptional, .endParameter]

/-- The written form of the words of an alternation behind the first. -/
def Word.separated (words : List Word) : List Lexeme :=
  words.flatMap fun word ↦ ⟨.alternation, ['/']⟩ :: Piece.lexemes word.items

/-- The alternatives that words make which are parted by separators. -/
def Word.alternatives : Nat → List Word → List Node
  | _, [] => []
  | offset, word :: words =>
    let stop := offset + Piece.width word.items
    .branch .alternative ⟨offset, stop⟩ (Piece.nodes offset word.items) ::
      alternatives (stop + 1) words

/-- A segment of an expression: blanks, a word, or an alternation of two or more words. -/
inductive Segment where
  | blank (lexeme : Lexeme) (hkind : lexeme.kind = .whiteSpace) (hvalid : lexeme.Valid)
  | word (content : Word) (hne : content.items ≠ [])
  | alternation (first second : Word) (others : List Word)

namespace Segment

/-- Whether the segment separates words. -/
def isBlank : Segment → Bool
  | blank _ _ _ => true
  | _ => false

/-- How a segment is written. -/
def lexemes : Segment → List Lexeme
  | blank lexeme _ _ => [lexeme]
  | word content _ => Piece.lexemes content.items
  | alternation first second others =>
    Piece.lexemes first.items ++ Word.separated (second :: others)

instance : Piece Segment where
  lexemes := lexemes
  nodes offset segment :=
    match segment with
    | blank lexeme _ _ => [(lexeme.tokenAt offset).leaf]
    | word content _ => Piece.nodes offset content.items
    | alternation first second others =>
      [.branch .alternation ⟨offset, offset + (Lexeme.encodeAll segment.lexemes).length⟩
        (Word.alternatives offset (first :: second :: others))]

end Segment

/-- An expression: words and alternations, with blanks between them, and perhaps at either end. -/
structure Expression where
  segments : List Segment
  alternate : segments.IsChain fun a b ↦ a.isBlank ≠ b.isBlank

namespace Expression

/-- The source that an expression is written as. -/
def print (expression : Expression) : String :=
  String.ofList (Lexeme.encodeAll (Piece.lexemes expression.segments))

/-- The tree of an expression. -/
def node (expression : Expression) : Node :=
  .branch .expression ⟨0, Piece.width expression.segments⟩ (Piece.nodes 0 expression.segments)

end Expression

end CucumberExpression
