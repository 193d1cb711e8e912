import CucumberExpression.Proofs.Expression.Piece
import Mathlib.Data.List.Chain

/-!
# Well-formed expressions are canonical

The written form of an expression is a canonical row of lexemes (`canonical_lexemes`), so it is read
as that row. Neighbours within a piece stand apart by the conditions on pieces. At a seam between
two pieces it is enough to know the lexemes at the ends of both (`Bordered`): a bracket or a
separator belongs to no run, and of two neighbouring segments just one consists of blanks.
-/

set_option autoImplicit false
set_option relaxedAutoImplicit false

namespace CucumberExpression

namespace Lexeme

/-! ### Seams -/

/-- The first and the last lexeme of a row have a property. -/
structure Bordered (property : Lexeme → Prop) (lexemes : List Lexeme) : Prop where
  first : ∀ lexeme ∈ lexemes.head?, property lexeme
  last : ∀ lexeme ∈ lexemes.getLast?, property lexeme

theorem bordered_nil (property : Lexeme → Prop) : Bordered property [] :=
  ⟨by simp, by simp⟩

theorem bordered_singleton {property : Lexeme → Prop} {lexeme : Lexeme} (h : property lexeme) :
    Bordered property [lexeme] :=
  ⟨by simpa using h, by simpa using h⟩

theorem Bordered.append {property : Lexeme → Prop} {front back : List Lexeme}
    (hfront : Bordered property front) (hback : Bordered property back) :
    Bordered property (front ++ back) := by
  constructor
  · intro lexeme hlexeme
    cases front with
    | nil => exact hback.first lexeme hlexeme
    | cons first front => exact hfront.first lexeme hlexeme
  · intro lexeme hlexeme
    rw [List.getLast?_append] at hlexeme
    cases hlast : back.getLast? with
    | none => exact hfront.last lexeme (by simpa [hlast] using hlexeme)
    | some last => exact hback.last lexeme (by simpa [hlast] using hlexeme)

theorem bordered_flatMap {α : Type} {property : Lexeme → Prop} {write : α → List Lexeme}
    {pieces : List α} (h : ∀ piece ∈ pieces, Bordered property (write piece)) :
    Bordered property (pieces.flatMap write) := by
  induction pieces with
  | nil => exact bordered_nil property
  | cons piece pieces ih =>
    rw [List.flatMap_cons]
    exact (h piece List.mem_cons_self).append
      (ih fun other hother ↦ h other (List.mem_cons_of_mem _ hother))

theorem Bordered.mono {property property' : Lexeme → Prop} {lexemes : List Lexeme}
    (h : Bordered property lexemes) (himp : ∀ lexeme, property lexeme → property' lexeme) :
    Bordered property' lexemes :=
  ⟨fun lexeme hlexeme ↦ himp lexeme (h.first lexeme hlexeme),
    fun lexeme hlexeme ↦ himp lexeme (h.last lexeme hlexeme)⟩

/-- Assumes: canonical rows that are not empty, each of which stands apart from the next. Written
one after another they are a canonical row. -/
theorem canonical_flatMap {α : Type} {write : α → List Lexeme} {pieces : List α}
    (hcanonical : ∀ piece ∈ pieces, Canonical (write piece))
    (hne : ∀ piece ∈ pieces, write piece ≠ [])
    (hapart : pieces.IsChain fun a b ↦
      ∀ x ∈ (write a).getLast?, ∀ y ∈ (write b).head?, ¬ x.Joins y) :
    Canonical (pieces.flatMap write) := by
  constructor
  · intro lexeme hlexeme
    obtain ⟨piece, hpiece, hmem⟩ := List.mem_flatMap.mp hlexeme
    exact (hcanonical piece hpiece).valid lexeme hmem
  · have hnil : [] ∉ pieces.map write := by
      intro hmem
      obtain ⟨piece, hpiece, hempty⟩ := List.mem_map.mp hmem
      exact hne piece hpiece hempty
    rw [List.flatMap_def, List.isChain_flatten hnil]
    refine ⟨fun lexemes hlexemes ↦ ?_, (List.isChain_map write).mpr hapart⟩
    obtain ⟨piece, hpiece, rfl⟩ := List.mem_map.mp hlexemes
    exact (hcanonical piece hpiece).apart

theorem Canonical.append {front back : List Lexeme} (hfront : Canonical front)
    (hback : Canonical back)
    (hapart : ∀ x ∈ front.getLast?, ∀ y ∈ back.head?, ¬ x.Joins y) : Canonical (front ++ back) := by
  refine ⟨fun lexeme hlexeme ↦ ?_, hfront.apart.append hback.apart hapart⟩
  rcases List.mem_append.mp hlexeme with hmem | hmem
  · exact hfront.valid lexeme hmem
  · exact hback.valid lexeme hmem

theorem canonical_singleton {lexeme : Lexeme} (h : lexeme.Valid) : Canonical [lexeme] :=
  ⟨by simpa using h, List.isChain_singleton lexeme⟩

/-- A lexeme that belongs to no run. -/
def Solid (lexeme : Lexeme) : Prop := lexeme.kind.isRun = false

theorem Solid.not_joins {a b : Lexeme} (h : a.Solid) : ¬ a.Joins b := fun hjoins ↦
  absurd hjoins.2 (by rw [h]; decide)

theorem Solid.not_joins_right {a b : Lexeme} (h : b.Solid) : ¬ a.Joins b := fun hjoins ↦
  absurd hjoins.2 (by rw [hjoins.1, h]; decide)

/-- A canonical row that can stand beside any other. -/
structure Enclosed (lexemes : List Lexeme) : Prop where
  canonical : Canonical lexemes
  border : Bordered Solid lexemes
  nonempty : lexemes ≠ []

/-- A canonical row between two brackets is enclosed. -/
theorem enclosed_of_brackets {opening closing : Lexeme} {inside : List Lexeme}
    (hopening : opening.Valid) (hclosing : closing.Valid) (hsolid : opening.Solid)
    (hsolid' : closing.Solid) (hinside : Canonical inside) :
    Enclosed (opening :: (inside ++ [closing])) := by
  have hback : Canonical (inside ++ [closing]) := by
    refine hinside.append (canonical_singleton hclosing) fun x _ y hy ↦ ?_
    obtain rfl : closing = y := Option.some.inj hy
    exact hsolid'.not_joins_right
  have hall : Canonical ([opening] ++ (inside ++ [closing])) := by
    refine (canonical_singleton hopening).append hback fun x hx y _ ↦ ?_
    obtain rfl : opening = x := Option.some.inj hx
    exact hsolid.not_joins
  refine ⟨hall, ⟨fun lexeme hlexeme ↦ ?_, fun lexeme hlexeme ↦ ?_⟩, List.cons_ne_nil _ _⟩
  · obtain rfl : opening = lexeme := Option.some.inj hlexeme
    exact hsolid
  · rw [← List.cons_append, List.getLast?_concat] at hlexeme
    obtain rfl : closing = lexeme := Option.some.inj hlexeme
    exact hsolid'

end Lexeme

open Lexeme

/-! ### Rows of items -/

section Row

variable {α : Type} [Piece α] {kinds : List TokenKind}

/-- Assumes: constructs that can stand beside anything. The items of a row are written as a
canonical row of lexemes. -/
theorem Row.canonical_lexemes (row : Row α kinds)
    (hgroup : ∀ construct : α, Enclosed (Piece.lexemes construct)) :
    Canonical (Piece.lexemes row.items) := by
  refine canonical_flatMap (fun item hitem ↦ ?_) (fun item hitem ↦ ?_)
    (row.apart.imp fun a b hab ↦ ?_)
  · cases item with
    | bare lexeme => exact canonical_singleton (row.valid lexeme hitem).1
    | group construct => exact (hgroup construct).canonical
  · cases item with
    | bare lexeme => exact List.cons_ne_nil _ _
    | group construct => exact (hgroup construct).nonempty
  · intro x hx y hy
    cases a with
    | group construct => exact ((hgroup construct).border.last x hx).not_joins
    | bare lexeme =>
      cases b with
      | group construct => exact ((hgroup construct).border.first y hy).not_joins_right
      | bare lexeme' =>
        obtain rfl : lexeme = x := Option.some.inj hx
        obtain rfl : lexeme' = y := Option.some.inj hy
        exact hab

/-- The written form of a row begins and ends with a bare lexeme of one of its kinds, or with a
bracket. -/
theorem Row.bordered_lexemes (row : Row α kinds)
    (hgroup : ∀ construct : α, Enclosed (Piece.lexemes construct)) :
    Bordered (fun lexeme ↦ lexeme.kind ∈ kinds ∨ lexeme.Solid) (Piece.lexemes row.items) := by
  refine bordered_flatMap fun item hitem ↦ ?_
  cases item with
  | bare lexeme => exact bordered_singleton (.inl (row.valid lexeme hitem).2)
  | group construct => exact (hgroup construct).border.mono fun _ ↦ .inr

end Row

theorem Parameter.enclosed_lexemes (parameter : Parameter) : Enclosed (Piece.lexemes parameter) :=
  enclosed_of_brackets ⟨.beginParameter, rfl, rfl⟩ ⟨.endParameter, rfl, rfl⟩ rfl rfl
    parameter.canonical

theorem Group.enclosed_lexemes (group : Group) : Enclosed (Piece.lexemes group) := by
  cases group with
  | parameter parameter => exact parameter.enclosed_lexemes
  | optional inside =>
    exact enclosed_of_brackets ⟨.beginOptional, rfl, rfl⟩ ⟨.endOptional, rfl, rfl⟩ rfl rfl
      (inside.canonical_lexemes Parameter.enclosed_lexemes)

/-! ### Words and segments -/

/-- A word neither begins nor ends with a blank. -/
theorem Word.bordered_lexemes (word : Word) :
    Bordered (fun lexeme ↦ lexeme.kind ≠ .whiteSpace) (Piece.lexemes word.items) := by
  refine (Row.bordered_lexemes word Group.enclosed_lexemes).mono fun lexeme hlexeme hkind ↦ ?_
  rw [Solid, hkind] at hlexeme
  exact absurd hlexeme (by decide)

/-- The words of an alternation behind the first are written as a canonical row of lexemes, which
begins with a separator. -/
theorem Word.separated_spec (words : List Word) :
    Canonical (separated words) ∧ (∀ lexeme ∈ (separated words).head?, lexeme.Solid) ∧
      Bordered (fun lexeme ↦ lexeme.kind ≠ .whiteSpace) (separated words) := by
  have hseparator : Valid ⟨.alternation, ['/']⟩ := ⟨.alternation, rfl, rfl⟩
  have hsolid : Solid ⟨.alternation, ['/']⟩ := rfl
  refine ⟨canonical_flatMap (fun word _ ↦ ?_) (fun word _ ↦ List.cons_ne_nil _ _) ?_, ?_,
    bordered_flatMap fun word _ ↦ ?_⟩
  · have hword := Row.canonical_lexemes word Group.enclosed_lexemes
    refine (canonical_singleton hseparator).append hword fun x hx y _ ↦ ?_
    obtain rfl := Option.some.inj hx
    exact hsolid.not_joins
  · refine List.Pairwise.isChain (List.pairwise_of_forall fun a b x _ y hy ↦ ?_)
    obtain rfl := Option.some.inj hy
    exact hsolid.not_joins_right
  · cases words with
    | nil => simp [separated]
    | cons word words =>
      intro lexeme hlexeme
      obtain rfl := Option.some.inj hlexeme
      exact hsolid
  · have hborder : Bordered (fun lexeme ↦ lexeme.kind ≠ .whiteSpace) [⟨.alternation, ['/']⟩] :=
      bordered_singleton (by decide)
    exact hborder.append word.bordered_lexemes

namespace Segment

theorem canonical_lexemes (segment : Segment) : Canonical segment.lexemes := by
  cases segment with
  | blank lexeme hkind hvalid => exact canonical_singleton hvalid
  | word content hne => exact content.canonical_lexemes Group.enclosed_lexemes
  | alternation first second others =>
    obtain ⟨hcanonical, hhead, -⟩ := Word.separated_spec (second :: others)
    exact (first.canonical_lexemes Group.enclosed_lexemes).append hcanonical fun x _ y hy ↦
      (hhead y hy).not_joins_right

theorem lexemes_ne_nil (segment : Segment) : segment.lexemes ≠ [] := by
  cases segment with
  | blank lexeme hkind hvalid => exact List.cons_ne_nil _ _
  | word content hne =>
    obtain ⟨item, items, hitems⟩ := List.exists_cons_of_ne_nil hne
    rw [lexemes, hitems]
    refine List.append_ne_nil_of_left_ne_nil ?_ _
    cases item with
    | bare lexeme => exact List.cons_ne_nil _ _
    | group construct => exact construct.enclosed_lexemes.nonempty
  | alternation first second others =>
    exact List.append_ne_nil_of_right_ne_nil _ (List.cons_ne_nil _ _)

/-- A segment of blanks begins and ends with a blank, any other segment does not. -/
theorem bordered_lexemes (segment : Segment) :
    Bordered (fun lexeme ↦ lexeme.kind = .whiteSpace ↔ segment.isBlank = true) segment.lexemes := by
  cases segment with
  | blank lexeme hkind hvalid => exact bordered_singleton (iff_of_true hkind rfl)
  | word content hne =>
    exact content.bordered_lexemes.mono fun lexeme hne ↦ by simpa [isBlank] using hne
  | alternation first second others =>
    exact (first.bordered_lexemes.append (Word.separated_spec (second :: others)).2.2).mono
      fun lexeme hne ↦ by simpa [isBlank] using hne

end Segment

/-- The written form of an expression is a canonical row of lexemes. -/
theorem Expression.canonical_lexemes (expression : Expression) :
    Canonical (Piece.lexemes expression.segments) := by
  refine canonical_flatMap (fun segment _ ↦ segment.canonical_lexemes)
    (fun segment _ ↦ segment.lexemes_ne_nil) (expression.alternate.imp fun a b hab ↦ ?_)
  intro x hx y hy hjoins
  have hx' := a.bordered_lexemes.last x hx
  have hy' := b.bordered_lexemes.first y hy
  rw [hjoins.1] at hx'
  exact hab (Bool.eq_iff_iff.mpr (hx'.symm.trans hy'))

end CucumberExpression
