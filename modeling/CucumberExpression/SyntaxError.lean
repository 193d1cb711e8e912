import CucumberExpression.Token

/-!
# Errors in expressions

An error has a cause and the span of the character to blame. The cause decides the kind, the
message and the hints, so two errors of one cause differ in their place only. A `Failure` is what
reading an expression ends with when it gives no tree: an error, or a fault.
-/

set_option autoImplicit false
set_option relaxedAutoImplicit false

namespace CucumberExpression

/-- The kinds of errors. -/
inductive ErrorKind where
  | unclosed
  | badEscape
  | escapedEnd
  | noEligibleRule
  | unconsumed
  deriving Repr, DecidableEq

namespace ErrorKind

/-- Every kind. -/
def all : List ErrorKind :=
  [unclosed, badEscape, escapedEnd, noEligibleRule, unconsumed]

/-- The code that a report opens with. -/
def code : ErrorKind → String
  | unclosed => "cukex::missing_end_token"
  | badEscape => "cukex::cant_escape"
  | escapedEnd => "cukex::end_of_line_escaped"
  | noEligibleRule => "cukex::internal::no_eligible_parsers"
  | unconsumed => "cukex::internal::unconsumed_tokens"

/-- The words that stand at the marked place of a report. -/
def label : ErrorKind → String
  | unclosed => "missing end token"
  | badEscape | escapedEnd => "invalid escape"
  | noEligibleRule | unconsumed => "internal parser error"

/-- Whether errors of this kind blame the grammar and not the expression. -/
def isInternal : ErrorKind → Bool
  | noEligibleRule | unconsumed => true
  | _ => false

end ErrorKind

/-- The message for an opening bracket that is never closed. -/
def Symbol.unclosedMessage (opening closing : Symbol) : String :=
  "The '" ++ opening.char.toString ++ "' does not have a matching '"
    ++ closing.char.toString ++ "'"

/-- The hint that goes with `unclosedMessage`. -/
def Symbol.unclosedHint (opening closing : Symbol) : String :=
  "If you did not intend to use " ++ opening.char.toString ++ closing.char.toString
    ++ " you can use '\\" ++ opening.char.toString ++ "' to escape the "
    ++ opening.char.toString

/-- What is wrong with an expression. -/
inductive ErrorCause where
  /-- A bracket is opened and not closed. -/
  | unclosed (opening closing : TokenKind)
  /-- The escape character stands before a character that needs no escape. -/
  | badEscape
  /-- The escape character stands at the end. -/
  | escapedEnd
  /-- No rule of the grammar takes the token. -/
  | noEligibleRule (found : TokenKind)
  /-- Tokens are left after the expression has ended. -/
  | unconsumed (consumed expected : Nat)
  /-- A cause that a caller words. -/
  | worded (kind : ErrorKind) (message : String) (hints : List String)
  deriving Repr, DecidableEq

namespace ErrorCause

/-- The kind of the errors with this cause. -/
def kind : ErrorCause → ErrorKind
  | unclosed _ _ => .unclosed
  | badEscape => .badEscape
  | escapedEnd => .escapedEnd
  | noEligibleRule _ => .noEligibleRule
  | unconsumed _ _ => .unconsumed
  | worded kind _ _ => kind

/-- What the error says. A bracket is shown as its character, any other token by its kind. -/
def message : ErrorCause → String
  | unclosed opening closing =>
    match opening.symbol?, closing.symbol? with
    | some openingSymbol, some closingSymbol =>
      openingSymbol.unclosedMessage closingSymbol
    | _, _ => "The " ++ opening.name ++ " does not have a matching " ++ closing.name
  | badEscape =>
    "Only the characters '\x7b', '\x7d', '(', ')', '\\', '/' and whitespace can be escaped"
  | escapedEnd => "The end of line can not be escaped"
  | noEligibleRule found => "No eligible parsers for " ++ found.name
  | unconsumed consumed expected =>
    "Could not parse the whole expression: consumed " ++ toString consumed ++ " of "
      ++ toString expected ++ " tokens"
  | worded _ message _ => message

/-- What the user may do about it. -/
def hints : ErrorCause → List String
  | unclosed opening closing =>
    match opening.symbol?, closing.symbol? with
    | some openingSymbol, some closingSymbol => [openingSymbol.unclosedHint closingSymbol]
    | _, _ => []
  | badEscape => ["If you did mean to use an '\\' you can use '\\\\' to escape it"]
  | escapedEnd => ["You can use '\\\\' to escape the '\\'"]
  | noEligibleRule _ | unconsumed _ _ => []
  | worded _ _ hints => hints

end ErrorCause

/-- What is wrong with an expression, and where. -/
structure SyntaxError where
  cause : ErrorCause
  span : Span
  deriving Repr, DecidableEq

namespace SyntaxError

/-- The kind of the error. -/
def kind (error : SyntaxError) : ErrorKind := error.cause.kind

/-- What the error says. -/
def message (error : SyntaxError) : String := error.cause.message

/-- What the user may do about the error. -/
def hints (error : SyntaxError) : List String := error.cause.hints

/-- The hints as one text of a line each, if there are any. -/
def help? (error : SyntaxError) : Option String :=
  if error.hints.isEmpty then none else some ("\n".intercalate error.hints)

end SyntaxError

/-- Why an expression gave no tree. -/
inductive Failure where
  /-- The expression is wrong. -/
  | rejected (error : SyntaxError)
  /-- The computation was given up. -/
  | fault (fault : Fault)
  deriving Repr, DecidableEq

end CucumberExpression
