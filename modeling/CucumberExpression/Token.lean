import CucumberExpression.Span
import CucumberExpression.Symbol

/-!
# Tokens

A token is a stretch of an expression that the grammar reads as a unit: a bracket, a separator, a
run of blanks or a run of other text. Its text has the escapes taken away, its span covers them.
Two further kinds name the edges of the line on which an expression stands; reading an expression
never produces them, but a caller may put them into a list of tokens.
-/

set_option autoImplicit false
set_option relaxedAutoImplicit false

namespace CucumberExpression

/-- What a token stands for. -/
inductive TokenKind where
  | startOfLine
  | endOfLine
  | beginParameter
  | endParameter
  | beginOptional
  | endOptional
  | alternation
  | whiteSpace
  | text
  deriving Repr, DecidableEq, Inhabited

namespace TokenKind

/-- Every kind, in the order in which they are listed. -/
def all : List TokenKind :=
  [startOfLine, endOfLine, beginParameter, endParameter, beginOptional, endOptional, alternation,
    whiteSpace, text]

theorem mem_all (kind : TokenKind) : kind ∈ all := by
  cases kind <;> decide

/-- The name of a kind in listings and messages. -/
def name : TokenKind → String
  | startOfLine => "StartOfLine"
  | endOfLine => "EndOfLine"
  | beginParameter => "BeginParameter"
  | endParameter => "EndParameter"
  | beginOptional => "BeginOptional"
  | endOptional => "EndOptional"
  | alternation => "Alternation"
  | whiteSpace => "WhiteSpace"
  | text => "Text"

/-- The kind of the token that a special character makes. The escape character makes none. -/
def ofSymbol? : Symbol → Option TokenKind
  | .beginParameter => some beginParameter
  | .endParameter => some endParameter
  | .beginOptional => some beginOptional
  | .endOptional => some endOptional
  | .alternation => some alternation
  | .escape => none

/-- The special character that makes tokens of a kind. -/
def symbol? : TokenKind → Option Symbol
  | beginParameter => some .beginParameter
  | endParameter => some .endParameter
  | beginOptional => some .beginOptional
  | endOptional => some .endOptional
  | alternation => some .alternation
  | _ => none

/-- The kind of the token that a character makes when no escape stands before it. -/
def ofChar (c : Char) : TokenKind :=
  if Text.isBlank c then whiteSpace else ((Symbol.ofChar? c).bind ofSymbol?).getD text

/-- Whether a word may begin after, or end before, a token of this kind. -/
def isBoundary : TokenKind → Bool
  | startOfLine | endOfLine | whiteSpace => true
  | _ => false

/-- Whether the kind names an edge of the line. -/
def isEdge : TokenKind → Bool
  | startOfLine | endOfLine => true
  | _ => false

/-- Whether neighbours of this kind belong to one token. -/
def isRun : TokenKind → Bool
  | whiteSpace | text => true
  | _ => false

end TokenKind

/-- A unit of an expression. -/
structure Token where
  kind : TokenKind
  span : Span
  text : String
  deriving Repr, DecidableEq, Inhabited

namespace Token

/-- Two neighbours as one token, where both belong to one run. -/
def join? (a b : Token) : Option Token :=
  if a.kind = b.kind ∧ a.kind.isRun = true then
    some ⟨a.kind, a.span.merge b.span, a.text ++ b.text⟩
  else none

/-- The tokens with one more in front, joined with the first of them where the two join. -/
def attach (token : Token) : List Token → List Token
  | [] => [token]
  | next :: rest =>
    match token.join? next with
    | some joined => joined :: rest
    | none => token :: next :: rest

/-- The tokens with each run of neighbours that join made one token. -/
def fuse (tokens : List Token) : List Token :=
  tokens.foldr attach []

end Token

end CucumberExpression
