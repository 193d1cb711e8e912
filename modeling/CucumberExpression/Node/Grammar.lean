import CucumberExpression.Node
import CucumberExpression.Token.Line

/-!
# The grammar of expressions

Trees are read from tokens by ordered choice. A rule looks at the tokens from some place on, and
at the kind of the token before them; it declines, or tells how many of the tokens it takes and
what they make. Where no rule of a choice takes a token, and where a bracket is not closed, the
whole expression is refused.

```
expression  = (alternation | optional | parameter | text)*
alternation = alternative ("/" alternative)+    after a blank or the start of the line,
                                                up to a blank or the end of the line
alternative = (optional | parameter | text)*
optional    = "(" (parameter | text)* ")"
parameter   = "{" text* "}"
text        = any token
```

An alternation is tried first. Its attempt reads the whole run up to the next blank, and when no
separator turns up the run is read again without it.
-/

set_option autoImplicit false
set_option relaxedAutoImplicit false

namespace CucumberExpression

namespace Grammar

/-! ### Rules and choices -/

/-- What a rule makes, and how many tokens it takes for it. -/
structure Piece (α : Type) where
  count : Nat
  value : α

/-- A rule is given the kind before the tokens, and the tokens. It may decline. -/
abbrev Rule (α : Type) := TokenKind → List Token → Except Failure (Option (Piece α))

/-- The rule with its result put into another form. -/
def Rule.map {α β : Type} (f : α → β) (rule : Rule α) : Rule β := fun before tokens ↦
  (rule before tokens).map fun taken ↦ taken.map fun piece ↦ ⟨piece.count, f piece.value⟩

/-- The piece of the first rule that takes at least one token; a failure of a rule that is tried
before it is a failure of the choice. -/
def firstOf {α : Type} : List (Rule α) → TokenKind → List Token → Except Failure (Piece α)
  | [], _, tokens =>
    .error (.rejected ⟨.noEligibleRule (TokenLine.kindAt ⟨tokens⟩ 0), TokenLine.spanAt ⟨tokens⟩ 0⟩)
  | rule :: rules, before, tokens => do
    match ← rule before tokens with
    | some ⟨count + 1, value⟩ => return ⟨count + 1, value⟩
    | _ => firstOf rules before tokens

/-- The pieces that a choice makes of the tokens, up to the first token of a stopping kind that no
piece takes, and how many tokens they take together. The first argument counts the tokens ahead
that the last piece has already taken. -/
def readUntil {α : Type} (rules : List (Rule α)) (stops : List TokenKind) :
    Nat → TokenKind → List Token → Except Failure (Nat × List α)
  | _, _, [] => .ok (0, [])
  | taken + 1, _, token :: rest => readUntil rules stops taken token.kind rest
  | 0, before, token :: rest =>
    if token.kind ∈ stops then .ok (0, [])
    else do
      let piece ← firstOf rules before (token :: rest)
      let (count, values) ← readUntil rules stops (piece.count - 1) token.kind rest
      return (piece.count + count, piece.value :: values)

/-! ### The rules -/

/-- Any token may stand for its text. -/
def text : Rule Node := fun _ tokens ↦
  match tokens with
  | [] => .ok none
  | token :: _ => .ok (some ⟨1, .leaf .text token.span token.text⟩)

/-- A construct that stands between two brackets. -/
structure Bracket where
  kind : NodeKind
  opening : TokenKind
  closing : TokenKind

/-- The part between an opening bracket and the first closing one that no inner piece takes. An
opening bracket without its partner is an error. -/
def Bracket.rule (bracket : Bracket) (inside : List (Rule Node)) : Rule Node := fun _ tokens ↦
  match tokens with
  | [] => .ok none
  | token :: rest =>
    if token.kind = bracket.opening then do
      let (count, children) ← readUntil inside [bracket.closing] 0 token.kind rest
      match rest.drop count with
      | [] => .error (.rejected ⟨.unclosed bracket.opening bracket.closing, token.span⟩)
      | closing :: _ =>
        let span ← (Span.ofBounds token.span.start closing.span.stop).mapError .fault
        return some ⟨count + 2, .branch bracket.kind span children⟩
    else .ok none

/-- A parameter, whose inside is text. -/
def parameter : Rule Node :=
  Bracket.rule ⟨.parameter, .beginParameter, .endParameter⟩ [text]

/-- An optional part, whose inside is parameters and text. -/
def optional : Rule Node :=
  Bracket.rule ⟨.optional, .beginOptional, .endOptional⟩ [parameter, text]

/-- What a run of alternatives is made of. -/
inductive RunItem where
  | separator (span : Span)
  | content (node : Node)

/-- A token that parts two alternatives. -/
def separator : Rule RunItem := fun _ tokens ↦
  match tokens with
  | [] => .ok none
  | token :: _ =>
    if token.kind = .alternation then .ok (some ⟨1, .separator token.span⟩) else .ok none

/-- Whether an item parts two alternatives. -/
def RunItem.isSeparator : RunItem → Bool
  | separator _ => true
  | content _ => false

/-- The alternatives of a run that ends at `stop`. The one at hand begins at `start` and has
gathered the nodes of `group`; each separator ends it and begins the next one. -/
def alternatives (stop : Nat) :
    Nat → List Node → List RunItem → Except Failure (List Node)
  | start, group, [] => do
    let span ← (Span.ofBounds start stop).mapError .fault
    return [.branch .alternative span group]
  | start, group, .separator parting :: items => do
    let span ← (Span.ofBounds start parting.start).mapError .fault
    let following ← alternatives stop parting.stop [] items
    return .branch .alternative span group :: following
  | start, group, .content node :: items => alternatives stop start (group ++ [node]) items

/-- Two or more alternatives, which fill the line between two boundaries. The rule declines away
from the beginning of a word, and where the word has no separator. -/
def alternation : Rule Node := fun before tokens ↦
  if before = .startOfLine ∨ before = .whiteSpace then do
    let (count, items) ← readUntil
      [separator, optional.map .content, parameter.map .content, text.map .content]
      [.whiteSpace, .endOfLine] 0 before tokens
    if items.any RunItem.isSeparator then
      let line : TokenLine := ⟨tokens⟩
      let span ← (Span.ofBounds (line.spanAt 0).start (line.spanAt count).start).mapError .fault
      let children ← alternatives span.stop span.start [] items
      return some ⟨count, .branch .alternation span children⟩
    else return none
  else .ok none

/-- What an expression is made of, in the order in which the rules are tried. -/
def expression : List (Rule Node) := [alternation, optional, parameter, text]

end Grammar

namespace Node

/-- The tree of an expression that is given by its tokens. The line has to end where the
expression does, so a token that stands for the end must not occur before. -/
def ofTokens (tokens : List Token) : Except Failure Node := do
  let line : TokenLine := ⟨tokens⟩
  let (count, children) ← Grammar.readUntil Grammar.expression [.endOfLine] 0 .startOfLine tokens
  if count = tokens.length then
    return .branch .expression ⟨0, (line.spanAt count).stop⟩ children
  else
    .error (.rejected ⟨.unconsumed (count + 2) (tokens.length + 2), line.spanAt (count + 1)⟩)

/-- The tree of an expression. -/
def ofSource (source : String) : Except Failure Node := do
  let tokens ← (Token.scan source).mapError .rejected
  ofTokens tokens

end Node

end CucumberExpression
