import CucumberExpression.Proofs.Token.Coverage

/-!
# Seams

Escapes are paired from the left, so a source may be cut between any two of its marks, and two
sources may be joined where the first of them does not end in a lone escape (`marks_append`): the
marks of the second are the same as before, only further on (`marks_add`). Every mark stands at such
a cut, with its own characters behind it (`exists_cut_of_mem_marks`).

A part without an escape to blame leaves the blame to the part behind it (`escapeError?_append`).
-/

set_option autoImplicit false
set_option relaxedAutoImplicit false

namespace CucumberExpression

namespace Mark

/-- What a mark is written as. -/
def chars : Mark → List Char
  | bare _ c => [c]
  | pair _ c => [Symbol.escape.char, c]
  | lone _ => [Symbol.escape.char]

/-- The mark so many characters further on. -/
def shift (count : Nat) : Mark → Mark
  | bare offset c => bare (count + offset) c
  | pair offset c => pair (count + offset) c
  | lone offset => lone (count + offset)

theorem badEscape?_shift (count : Nat) (mark : Mark) :
    (mark.shift count).badEscape? = mark.badEscape?.map (count + ·) := by
  cases mark with
  | pair offset c => by_cases hc : canEscape c <;> simp [shift, badEscape?, hc, Nat.add_assoc]
  | _ => rfl

theorem isLone_shift (count : Nat) (mark : Mark) : (mark.shift count).isLone = mark.isLone := by
  cases mark <;> rfl

end Mark

/-! ### Marks of a part -/

/-- The marks of a source that stands further on are the same, further on. -/
theorem marks_add (count offset : Nat) (chars : List Char) :
    marks (count + offset) chars = (marks offset chars).map (Mark.shift count) := by
  induction offset, chars using marks.induct with
  | case1 offset => rfl
  | case2 offset => rfl
  | case3 offset c rest ih =>
    rw [marks_pair, marks_pair, List.map_cons, Nat.add_assoc, ih]
    rfl
  | case4 offset c rest hc ih =>
    rw [marks_bare hc, marks_bare hc, List.map_cons, Nat.add_assoc, ih]
    rfl

/-- Assumes: a source that does not end in a lone escape. What stands behind it changes none of its
marks, and has the marks that it has by itself. -/
theorem marks_append {offset : Nat} {front : List Char}
    (h : (marks offset front).any Mark.isLone = false) (back : List Char) :
    marks offset (front ++ back) = marks offset front ++ marks (offset + front.length) back := by
  induction offset, front using marks.induct with
  | case1 offset => rfl
  | case2 offset =>
    rw [marks_lone] at h
    simp [Mark.isLone] at h
  | case3 offset c rest ih =>
    rw [marks_pair] at h ⊢
    have hlength : offset + (Symbol.escape.char :: c :: rest).length =
        offset + 2 + rest.length := by
      simp only [List.length_cons]
      omega
    rw [List.cons_append, List.cons_append, marks_pair, ih h, hlength, List.cons_append]
  | case4 offset c rest hc ih =>
    rw [marks_bare hc] at h ⊢
    have hlength : offset + (c :: rest).length = offset + 1 + rest.length := by
      rw [List.length_cons]
      omega
    rw [List.cons_append, marks_bare hc, ih h, hlength, List.cons_append]

/-- Every mark stands at a cut of the source, before which no escape is left alone. Behind a lone
escape nothing follows. -/
theorem exists_cut_of_mem_marks {offset : Nat} {chars : List Char} {mark : Mark}
    (h : mark ∈ marks offset chars) :
    ∃ front back, chars = front ++ (mark.chars ++ back) ∧
      (marks offset front).any Mark.isLone = false ∧ mark.span.start = offset + front.length ∧
        (mark.isLone = true → back = []) := by
  induction offset, chars using marks.induct with
  | case1 offset => exact absurd h List.not_mem_nil
  | case2 offset =>
    obtain rfl : mark = .lone offset := List.mem_singleton.mp h
    exact ⟨[], [], rfl, rfl, rfl, fun _ ↦ rfl⟩
  | case3 offset c rest ih =>
    rw [marks_pair] at h
    rcases List.mem_cons.mp h with rfl | h
    · exact ⟨[], rest, rfl, rfl, rfl, by simp [Mark.isLone]⟩
    · obtain ⟨front, back, rfl, hlone, hoffset, hback⟩ := ih h
      refine ⟨Symbol.escape.char :: c :: front, back, rfl, ?_, ?_, hback⟩
      · rw [marks_pair]
        exact hlone
      · rw [hoffset, List.length_cons, List.length_cons]
        omega
  | case4 offset c rest hc ih =>
    rw [marks_bare hc] at h
    rcases List.mem_cons.mp h with rfl | h
    · exact ⟨[], rest, rfl, rfl, rfl, by simp [Mark.isLone]⟩
    · obtain ⟨front, back, rfl, hlone, hoffset, hback⟩ := ih h
      refine ⟨c :: front, back, rfl, ?_, ?_, hback⟩
      · rw [marks_bare hc]
        exact hlone
      · rw [hoffset, List.length_cons]
        omega

/-! ### Escapes to blame -/

/-- Marks none of which is to blame leave the blame to the marks behind them. -/
theorem escapeError?_append {stop stop' : Nat} {front : List Mark}
    (h : escapeError? stop front = none) (back : List Mark) :
    escapeError? stop' (front ++ back) = escapeError? stop' back := by
  obtain ⟨hgood, hlone⟩ := escapeError?_eq_none_iff.mp h
  rw [escapeError?, escapeError?, List.findSome?_append, List.findSome?_eq_none_iff.mpr hgood,
    Option.none_or, List.any_append, hlone, Bool.false_or]

end CucumberExpression
