import CucumberExpression.Text.Lines

/-!
# Spans

A span is a stretch of an expression between two offsets, counted in characters: from `start` up
to, and without, `stop`. `Span.ofBounds` refuses bounds in the wrong order; spans that come with
a token are taken as they are.

Bounds in the wrong order are a fault. A fault is a misuse that no answer can describe: a span whose
ends are reversed, or a size that does not fit the machine. It is kept apart from the errors that
tell a user what is wrong with an expression, and names its cause so that the wording stands in one
place.
-/

set_option autoImplicit false
set_option relaxedAutoImplicit false

namespace CucumberExpression

/-! ### Faults -/

/-- Why a computation was given up without an answer. -/
inductive Fault where
  /-- A span was asked for that starts after it ends. -/
  | reversedSpan (start stop : Nat)
  /-- An offset one past the largest offset was needed. -/
  | offsetTooLarge
  /-- The product of a nesting level and an indentation width has no 64-bit form. -/
  | indentTooLarge
  /-- A text of 2^63 characters or more was asked for. -/
  | textTooLarge
  deriving Repr, DecidableEq

namespace Fault

/-- The wording of a fault. -/
def message : Fault → String
  | reversedSpan start stop =>
    "span start " ++ toString start ++ " is after end " ++ toString stop
  | offsetTooLarge => "attempt to add with overflow"
  | indentTooLarge => "attempt to multiply with overflow"
  | textTooLarge => "capacity overflow"

end Fault

/-- The number of distinct offsets: every offset and every width is below it. -/
def offsetLimit : Nat := 1 <<< 64

/-! ### Spans -/

/-- A stretch of characters between two offsets. -/
structure Span where
  start : Nat
  stop : Nat
  deriving Repr, DecidableEq, Inhabited

namespace Span

/-- The span with the given bounds, which must not be reversed. -/
def ofBounds (start stop : Nat) : Except Fault Span :=
  if start ≤ stop then .ok ⟨start, stop⟩ else .error (.reversedSpan start stop)

/-- The empty span at an offset. -/
def point (offset : Nat) : Span := ⟨offset, offset⟩

/-- How many characters the span holds. -/
def length (span : Span) : Nat := span.stop - span.start

/-- Whether the span holds no character. -/
def isEmpty (span : Span) : Bool := span.start == span.stop

/-- Whether the second span lies within the first. -/
def contains (outer inner : Span) : Bool :=
  outer.start ≤ inner.start && inner.stop ≤ outer.stop

/-- The smallest span that contains both. -/
def merge (a b : Span) : Span := ⟨min a.start b.start, max a.stop b.stop⟩

/-- The written form, `start..stop`. -/
def render (span : Span) : String :=
  toString span.start ++ ".." ++ toString span.stop

/-- The bytes of the source that the span covers, as far as the source reaches. -/
def byteRange (span : Span) (source : String) : Nat × Nat :=
  (Text.byteOffset source.toList span.start, Text.byteOffset source.toList span.stop)

/-- The part of the source that the span covers. -/
def slice? (span : Span) (source : String) : Option String :=
  let (start, stop) := span.byteRange source
  (Text.cutBytes? start stop source.toList).map String.ofList

theorem ofBounds_of_le {start stop : Nat} (h : start ≤ stop) :
    ofBounds start stop = .ok ⟨start, stop⟩ := by
  simp [ofBounds, h]

end Span

end CucumberExpression
