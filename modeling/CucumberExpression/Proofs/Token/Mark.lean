import CucumberExpression.Proofs.Token.Scanning

/-!
# Escapes paired from the left

From the left, an escape and the character after it make a pair, and every other character stands
bare; an escape that is the last character stands alone. `marks` is this division of a source. It
says which sources are refused before any bracket is looked at: the first pair whose character needs
no escape is to blame, and without such a pair a lone escape (`escapeError?`). In all other sources
each mark makes a token of its own (`singles_eq`), and the tokens of the source are joined from
these (`Token.scan_eq`).
-/

set_option autoImplicit false
set_option relaxedAutoImplicit false

namespace CucumberExpression

/-- What stands at a place of a source, with the offset of its first character. -/
inductive Mark where
  /-- A character that no escape stands before. -/
  | bare (offset : Nat) (c : Char)
  /-- An escape and the character after it. -/
  | pair (offset : Nat) (c : Char)
  /-- An escape that no character follows. -/
  | lone (offset : Nat)
  deriving Repr, DecidableEq

/-- The marks of a source whose first character has the given offset. -/
def marks : Nat → List Char → List Mark
  | _, [] => []
  | offset, c :: rest =>
    if c = Symbol.escape.char then
      match rest with
      | [] => [.lone offset]
      | escaped :: rest => .pair offset escaped :: marks (offset + 2) rest
    else .bare offset c :: marks (offset + 1) rest

theorem marks_bare {c : Char} (h : c ≠ Symbol.escape.char) (offset : Nat) (rest : List Char) :
    marks offset (c :: rest) = .bare offset c :: marks (offset + 1) rest := by
  rw [marks.eq_def]
  exact if_neg h

theorem marks_pair (c : Char) (offset : Nat) (rest : List Char) :
    marks offset (Symbol.escape.char :: c :: rest) = .pair offset c :: marks (offset + 2) rest := by
  rw [marks, if_pos rfl]

theorem marks_lone (offset : Nat) : marks offset [Symbol.escape.char] = [.lone offset] := by
  rw [marks, if_pos rfl]

namespace Mark

/-- The offset of the character of a pair, where it is neither blank nor special. -/
def badEscape? : Mark → Option Nat
  | pair offset c => if canEscape c then none else some (offset + 1)
  | _ => none

/-- Whether a mark is an escape that no character follows. -/
def isLone : Mark → Bool
  | lone _ => true
  | _ => false

/-- The token that a mark makes. A lone escape makes none. -/
def token? : Mark → Option Token
  | bare offset c => some ⟨.ofChar c, ⟨offset, offset + 1⟩, c.toString⟩
  | pair offset c => some ⟨.text, ⟨offset, offset + 2⟩, c.toString⟩
  | lone _ => none

end Mark

/-- The error of the escapes in a source that ends at an offset: the first bad pair is blamed before
an escape at the end. -/
def escapeError? (stop : Nat) (marks : List Mark) : Option SyntaxError :=
  match marks.findSome? Mark.badEscape? with
  | some position => some ⟨.badEscape, ⟨position, position + 1⟩⟩
  | none => if marks.any Mark.isLone then some ⟨.escapedEnd, ⟨stop - 1, stop⟩⟩ else none

theorem escapeError?_eq_none_iff {stop : Nat} {marks : List Mark} :
    escapeError? stop marks = none ↔
      (∀ mark ∈ marks, mark.badEscape? = none) ∧ marks.any Mark.isLone = false := by
  rw [escapeError?, ← List.findSome?_eq_none_iff]
  cases marks.findSome? Mark.badEscape? with
  | some position => simp
  | none => cases marks.any Mark.isLone <;> simp

/-- A mark that is not to blame leaves the blame to the marks behind it. -/
theorem escapeError?_cons {mark : Mark} (hgood : mark.badEscape? = none)
    (hlone : mark.isLone = false) (stop : Nat) (marks : List Mark) :
    escapeError? stop (mark :: marks) = escapeError? stop marks := by
  rw [escapeError?, escapeError?, List.findSome?_cons, hgood, List.any_cons, hlone, Bool.false_or]

/-- Assumes: a mark that is not to blame, and that makes a token. The tokens of a source that begins
with it are this token and those of the marks behind it. -/
theorem map_cons_singles {mark : Mark} {token : Token} (htoken : mark.token? = some token)
    (hgood : mark.badEscape? = none) (stop : Nat) (marks : List Mark) :
    (match escapeError? stop marks with
      | some error => Except.error error
      | none => .ok (marks.filterMap Mark.token?)).map (token :: ·) =
      match escapeError? stop (mark :: marks) with
      | some error => .error error
      | none => .ok ((mark :: marks).filterMap Mark.token?) := by
  have hlone : mark.isLone = false := by
    cases mark with
    | lone => exact absurd htoken (by simp [Mark.token?])
    | _ => rfl
  rw [escapeError?_cons hgood hlone, List.filterMap_cons, htoken]
  cases escapeError? stop marks <;> rfl

/-- The tokens of the single characters of a source are those of its marks, unless an escape is to
blame. -/
theorem singles_eq (offset : Nat) (chars : List Char) :
    Token.singles offset chars =
      match escapeError? (offset + chars.length) (marks offset chars) with
      | some error => .error error
      | none => .ok ((marks offset chars).filterMap Mark.token?) := by
  induction offset, chars using Token.singles.induct with
  | case1 offset => rfl
  | case2 offset => rfl
  | case3 offset c rest hc ih =>
    have hstop : offset + (Symbol.escape.char :: c :: rest).length = offset + 2 + rest.length := by
      rw [List.length_cons, List.length_cons]
      omega
    have hgood : (Mark.pair offset c).badEscape? = none := if_pos hc
    rw [Lexeme.singles_escaped hc, ih, marks_pair, hstop]
    exact map_cons_singles rfl hgood _ _
  | case4 offset c rest hc =>
    have hbad : (Mark.pair offset c).badEscape? = some (offset + 1) := if_neg hc
    rw [Token.singles, if_pos rfl, if_neg hc, marks_pair, escapeError?, List.findSome?_cons, hbad]
  | case5 offset c rest hc ih =>
    have hstop : offset + (c :: rest).length = offset + 1 + rest.length := by
      rw [List.length_cons]
      omega
    rw [Lexeme.singles_bare hc, ih, marks_bare hc, hstop]
    exact map_cons_singles rfl rfl _ _

namespace Token

/-- The tokens of a source are joined from those of its marks, unless an escape is to blame. -/
theorem scan_eq (source : String) :
    scan source = match escapeError? source.length (marks 0 source.toList) with
      | some error => .error error
      | none => .ok (fuse ((marks 0 source.toList).filterMap Mark.token?)) := by
  have hsingles := singles_eq 0 source.toList
  rw [Nat.zero_add, String.length_toList] at hsingles
  rw [scan, hsingles]
  cases escapeError? source.length (marks 0 source.toList) <;> rfl

/-- A source is read exactly if no escape in it is to blame. -/
theorem exists_scan_iff {source : String} :
    (∃ tokens, scan source = .ok tokens) ↔
      escapeError? source.length (marks 0 source.toList) = none := by
  rw [scan_eq]
  cases escapeError? source.length (marks 0 source.toList) <;> simp

end Token

end CucumberExpression
