import CucumberExpression.SyntaxError

/-!
# Lines of tokens

Each character of an expression makes a token of its own, an escape together with the character
after it; then neighbours that belong to one run of text or of blanks become one token. The first
bad escape from the left is the error of the whole expression.

The tokens of an expression stand on a line. Before the first there is an edge of kind
`startOfLine`, after the last one of kind `endOfLine`; positions count from the first token and
may be negative, so every position has a kind and a span. The edges are not in the list and have
no text.
-/

set_option autoImplicit false
set_option relaxedAutoImplicit false

namespace CucumberExpression

/-! ### Reading tokens -/

namespace Token

/-- The tokens of the single characters, the first of which stands at the given offset. An escape
takes the next character as text, which must be blank or special; there must be one. -/
def singles : Nat → List Char → Except SyntaxError (List Token)
  | _, [] => .ok []
  | offset, c :: rest =>
    if c = Symbol.escape.char then
      match rest with
      | [] => .error ⟨.escapedEnd, ⟨offset, offset + 1⟩⟩
      | escaped :: rest =>
        if canEscape escaped then
          (singles (offset + 2) rest).map
            (⟨.text, ⟨offset, offset + 2⟩, escaped.toString⟩ :: ·)
        else .error ⟨.badEscape, ⟨offset + 1, offset + 2⟩⟩
    else
      (singles (offset + 1) rest).map
        (⟨.ofChar c, ⟨offset, offset + 1⟩, c.toString⟩ :: ·)

/-- The tokens of an expression. -/
def scan (source : String) : Except SyntaxError (List Token) :=
  (singles 0 source.toList).map fuse

end Token

/-! ### Positions on a line -/

/-- Tokens between two edges. -/
structure TokenLine where
  tokens : List Token

namespace TokenLine

/-- How many tokens the line holds, the edges not counted. -/
def length (line : TokenLine) : Nat := line.tokens.length

/-- Whether the line holds no token. -/
def isEmpty (line : TokenLine) : Bool := line.tokens.isEmpty

/-- The position of the edge after the last token. -/
def endPosition (line : TokenLine) : Int := line.length

/-- The offset at which the last token ends, zero on an empty line. -/
def endOffset (line : TokenLine) : Nat :=
  (line.tokens.getLast?.map fun token ↦ token.span.stop).getD 0

/-- The token at a position. -/
def get? (line : TokenLine) (position : Int) : Option Token :=
  if position < 0 then none else line.tokens[position.toNat]?

/-- The kind at a position: that of the token, or of the edge on that side. -/
def kindAt (line : TokenLine) (position : Int) : TokenKind :=
  match line.get? position with
  | some token => token.kind
  | none => if position < 0 then .startOfLine else .endOfLine

/-- The span at a position: that of the token, or the empty span where the edge stands. -/
def spanAt (line : TokenLine) (position : Int) : Span :=
  match line.get? position with
  | some token => token.span
  | none => if position < 0 then .point 0 else .point line.endOffset

/-- Whether a position has the given kind. -/
def isAt (line : TokenLine) (position : Int) (kind : TokenKind) : Bool :=
  line.kindAt position == kind

/-- Whether a position has one of the given kinds. -/
def isAtAny (line : TokenLine) (position : Int) (kinds : List TokenKind) : Bool :=
  kinds.any (line.isAt position)

end TokenLine

end CucumberExpression
