import CucumberExpression.Span
import Mathlib.Data.List.Basic

/-!
# Tilings

Spans tile a stretch when the first of them starts where the stretch does, each of the others starts
where the one before it stops, and the last one stops where the stretch does. Then no offset is left
out and none is covered twice (`Tiles.countP_covers`). Empty spans may stand in a tiling, and cover
nothing.
-/

set_option autoImplicit false
set_option relaxedAutoImplicit false

namespace CucumberExpression

namespace Span

/-- Whether the character at an offset belongs to the span. -/
def covers (span : Span) (offset : Nat) : Bool :=
  span.start ≤ offset && offset < span.stop

theorem covers_iff {span : Span} {offset : Nat} :
    span.covers offset = true ↔ span.start ≤ offset ∧ offset < span.stop := by
  simp [covers]

theorem contains_iff {outer inner : Span} :
    outer.contains inner = true ↔ outer.start ≤ inner.start ∧ inner.stop ≤ outer.stop := by
  simp [contains]

/-- What a span covers is covered by every span that contains it. -/
theorem covers_of_contains {outer inner : Span} (h : outer.contains inner = true) {offset : Nat}
    (hcovers : inner.covers offset = true) : outer.covers offset = true := by
  rw [contains_iff] at h
  rw [covers_iff] at hcovers ⊢
  omega

/-- The spans stand end to end, from one offset to another. -/
def Tiles : Nat → Nat → List Span → Prop
  | start, stop, [] => start = stop
  | start, stop, span :: spans =>
    span.start = start ∧ start ≤ span.stop ∧ Tiles span.stop stop spans

namespace Tiles

variable {start stop : Nat} {front back spans : List Span}

theorem le (h : Tiles start stop spans) : start ≤ stop := by
  induction spans generalizing start with
  | nil => exact Nat.le_of_eq h
  | cons span spans ih =>
    obtain ⟨-, hupright, hrest⟩ := h
    exact Nat.le_trans hupright (ih hrest)

theorem singleton {span : Span} (h : span.start ≤ span.stop) :
    Tiles span.start span.stop [span] :=
  ⟨rfl, h, rfl⟩

theorem append {middle : Nat} (hfront : Tiles start middle front)
    (hback : Tiles middle stop back) : Tiles start stop (front ++ back) := by
  induction front generalizing start with
  | nil =>
    obtain rfl : start = middle := hfront
    exact hback
  | cons span front ih =>
    obtain ⟨hstart, hupright, hrest⟩ := hfront
    exact ⟨hstart, hupright, ih hrest⟩

/-- A tiling may be cut before each of its spans. -/
theorem exists_middle (h : Tiles start stop (front ++ back)) :
    ∃ middle, Tiles start middle front ∧ Tiles middle stop back := by
  induction front generalizing start with
  | nil => exact ⟨start, rfl, h⟩
  | cons span front ih =>
    obtain ⟨hstart, hupright, hrest⟩ := h
    obtain ⟨middle, hfront, hback⟩ := ih hrest
    exact ⟨middle, ⟨hstart, hupright, hfront⟩, hback⟩

theorem head_start (h : Tiles start stop spans) : ∀ span ∈ spans.head?, span.start = start := by
  cases spans with
  | nil => simp
  | cons first spans =>
    intro span hspan
    obtain rfl := Option.some.inj hspan
    exact h.1

theorem last_stop (h : Tiles start stop spans) : ∀ span ∈ spans.getLast?, span.stop = stop := by
  intro span hspan
  obtain ⟨front, rfl⟩ := List.getLast?_eq_some_iff.mp hspan
  obtain ⟨middle, -, -, -, hstop⟩ := h.exists_middle
  exact hstop

/-- What tiles a stretch ends where the stretch does. -/
theorem stop_unique {stop' : Nat} (h : Tiles start stop spans) (h' : Tiles start stop' spans) :
    stop = stop' := by
  induction spans generalizing start with
  | nil => exact h.symm.trans h'
  | cons span spans ih => exact ih h.2.2 h'.2.2

/-- Every span of a tiling lies between its ends. -/
theorem bounds (h : Tiles start stop spans) :
    ∀ span ∈ spans, start ≤ span.start ∧ span.start ≤ span.stop ∧ span.stop ≤ stop := by
  induction spans generalizing start with
  | nil => simp
  | cons first spans ih =>
    obtain ⟨hstart, hupright, hrest⟩ := h
    intro span hspan
    rcases List.mem_cons.mp hspan with rfl | hspan
    · exact ⟨Nat.le_of_eq hstart.symm, hstart ▸ hupright, hrest.le⟩
    · obtain ⟨hfirst, hinner, hlast⟩ := ih hrest span hspan
      exact ⟨Nat.le_trans hupright hfirst, hinner, hlast⟩

theorem countP_covers_of_outside (h : Tiles start stop spans) {offset : Nat}
    (hoffset : offset < start ∨ stop ≤ offset) : spans.countP (·.covers offset) = 0 := by
  rw [List.countP_eq_zero]
  intro span hspan hcovers
  have hinside := covers_iff.mp hcovers
  have hbounds := h.bounds span hspan
  omega

/-- Every offset of the stretch is covered by one span of a tiling and by no other. -/
theorem countP_covers (h : Tiles start stop spans) {offset : Nat} (hstart : start ≤ offset)
    (hstop : offset < stop) : spans.countP (·.covers offset) = 1 := by
  induction spans generalizing start with
  | nil =>
    have hempty : start = stop := h
    omega
  | cons span spans ih =>
    obtain ⟨hfirst, -, hrest⟩ := h
    by_cases hnear : offset < span.stop
    · have hcovers : span.covers offset = true := covers_iff.mpr ⟨by omega, hnear⟩
      rw [List.countP_cons, if_pos hcovers, hrest.countP_covers_of_outside (.inl hnear)]
    · have hcovers : ¬ span.covers offset = true := fun h ↦ hnear (covers_iff.mp h).2
      rw [List.countP_cons, if_neg hcovers, ih hrest (Nat.le_of_not_lt hnear)]

end Tiles

end Span

end CucumberExpression
