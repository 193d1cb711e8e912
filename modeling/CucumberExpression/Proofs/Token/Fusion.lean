import CucumberExpression.Proofs.Node.Translation
import Mathlib.Order.MinMax

/-!
# Runs across a seam

Joining neighbours of one run needs no look at the whole row. The tokens of two rows, put together
and joined, are the joined tokens of each of them, where the last of the first row and the first of
the second are one token if both are literal text or both are blanks (`fuse_append`). Joining also
commutes with moving all offsets and rewriting all texts, as long as the offsets keep their order
and the texts are rewritten piece by piece (`fuse_map`).
-/

set_option autoImplicit false
set_option relaxedAutoImplicit false

namespace CucumberExpression

namespace Token

/-! ### Two rows end to end -/

/-- Whether two tokens are both literal text or both blanks. -/
def Alike (a b : Token) : Prop :=
  (a.kind = .text ∧ b.kind = .text) ∨ (a.kind = .whiteSpace ∧ b.kind = .whiteSpace)

instance (a b : Token) : Decidable (a.Alike b) := inferInstanceAs (Decidable (_ ∨ _))

/-- One token for two: the texts one after the other, and the span over both. -/
def fused (a b : Token) : Token := ⟨a.kind, a.span.merge b.span, a.text ++ b.text⟩

/-- Two rows of tokens end to end, the last token of the first and the first token of the second
fused where they are alike. -/
def abut : List Token → List Token → List Token
  | [], back => back
  | [last], [] => [last]
  | [last], next :: rest =>
    if last.Alike next then last.fused next :: rest else last :: next :: rest
  | token :: other :: front, back => token :: abut (other :: front) back

theorem join?_eq (a b : Token) : a.join? b = if a.Alike b then some (a.fused b) else none := by
  obtain ⟨kind, span, text⟩ := a
  obtain ⟨kind', span', text'⟩ := b
  cases kind <;> cases kind' <;> rfl

theorem attach_cons (token next : Token) (rest : List Token) :
    token.attach (next :: rest) =
      if token.Alike next then token.fused next :: rest else token :: next :: rest := by
  rw [attach, join?_eq]
  split_ifs <;> rfl

theorem abut_singleton (last : Token) (back : List Token) :
    abut [last] back = last.attach back := by
  cases back with
  | nil => rfl
  | cons next rest => exact (attach_cons last next rest).symm

theorem alike_fused_left {a b : Token} (h : a.Alike b) (c : Token) :
    (a.fused b).Alike c ↔ b.Alike c := by
  rcases h with ⟨ha, hb⟩ | ⟨ha, hb⟩ <;> simp [Alike, fused, ha, hb]

theorem alike_fused_right {b c : Token} (a : Token) : a.Alike (b.fused c) ↔ a.Alike b := Iff.rfl

theorem fused_fused (a b c : Token) : (a.fused b).fused c = a.fused (b.fused c) := by
  simp only [fused, Span.merge, min_assoc, max_assoc, String.append_assoc]

/-- A token attached to a token that is attached to a row is attached as both together, where it is
like the first of them. -/
theorem attach_attach (token next : Token) (back : List Token) :
    token.attach (next.attach back) =
      if token.Alike next then (token.fused next).attach back
      else token :: next.attach back := by
  cases back with
  | nil => exact attach_cons token next []
  | cons other rest =>
    rw [attach_cons next, attach_cons (token.fused next)]
    by_cases hleft : token.Alike next <;> by_cases hright : next.Alike other
    · rw [if_pos hright, attach_cons, if_pos hleft, if_pos (alike_fused_right token |>.mpr hleft),
        if_pos ((alike_fused_left hleft other).mpr hright), fused_fused]
    · rw [if_neg hright, attach_cons, if_pos hleft, if_pos hleft,
        if_neg (mt (alike_fused_left hleft other).mp hright)]
    · rw [if_pos hright, attach_cons, if_neg (mt (alike_fused_right token).mp hleft), if_neg hleft]
    · rw [if_neg hright, attach_cons, if_neg hleft, if_neg hleft]

/-- A token is attached to two rows end to end as it is to the first of them. -/
theorem attach_abut (token : Token) (front back : List Token) :
    token.attach (abut front back) = abut (token.attach front) back := by
  cases front with
  | nil => exact (abut_singleton token back).symm
  | cons next rest =>
    rw [attach_cons]
    cases rest with
    | nil =>
      rw [abut_singleton, attach_attach]
      split_ifs
      · rw [abut_singleton]
      · rw [abut, abut_singleton]
    | cons other rest =>
      rw [abut, attach_cons]
      split_ifs <;> rfl

/-- Joining two rows put together is joining each of them, and fusing the two tokens at the seam
where they are alike. -/
theorem fuse_append (front back : List Token) :
    fuse (front ++ back) = abut (fuse front) (fuse back) := by
  induction front with
  | nil => rfl
  | cons token front ih =>
    show token.attach (fuse (front ++ back)) = abut (token.attach (fuse front)) (fuse back)
    rw [ih, attach_abut]

/-! ### Rows moved and rewritten -/

variable {move : Nat → Nat} {rewrite : String → String}

theorem fused_map (hmove : Monotone move)
    (hrewrite : ∀ front back, rewrite (front ++ back) = rewrite front ++ rewrite back)
    (a b : Token) :
    (a.fused b).map move rewrite = (a.map move rewrite).fused (b.map move rewrite) := by
  simp only [fused, map, Span.map, Span.merge, hmove.map_min, hmove.map_max, hrewrite]

/-- Assumes: offsets that keep their order, and texts that are rewritten piece by piece. Moved and
rewritten, neighbours join as before. -/
theorem fuse_map (hmove : Monotone move)
    (hrewrite : ∀ front back, rewrite (front ++ back) = rewrite front ++ rewrite back)
    (tokens : List Token) :
    fuse (tokens.map (map move rewrite)) = (fuse tokens).map (map move rewrite) := by
  induction tokens with
  | nil => rfl
  | cons token tokens ih =>
    show (token.map move rewrite).attach (fuse (tokens.map (map move rewrite))) =
      (token.attach (fuse tokens)).map (map move rewrite)
    rw [ih]
    cases fuse tokens with
    | nil => rfl
    | cons next rest =>
      have halike : (token.map move rewrite).Alike (next.map move rewrite) ↔ token.Alike next :=
        Iff.rfl
      rw [List.map_cons, attach_cons, attach_cons]
      by_cases h : token.Alike next
      · rw [if_pos h, if_pos (halike.mpr h), List.map_cons, fused_map hmove hrewrite]
      · rw [if_neg h, if_neg (mt halike.mp h), List.map_cons, List.map_cons]

end Token

end CucumberExpression
