import CucumberExpression.Proofs.Token.Lexeme
import CucumberExpression.Token.Line

/-!
# Tokens in order

The tokens of one line stand in order: none is reversed, and each ends where or before the next one
starts. Gaps are allowed. Every construct takes its span from two of its tokens, so in a row in
order no construct asks for a reversed span. Lexemes that are laid out from an offset are in order.

The spans of tokens in order are spaced: none is reversed, each ends where or before the next one
starts, and all lie between two offsets (`Token.InOrder.spaced`). This is a tiling that may leave
offsets out; the tokens of a source leave none out, those of a caller may.
-/

set_option autoImplicit false
set_option relaxedAutoImplicit false

namespace CucumberExpression

/-! ### Spaced spans -/

namespace Span

/-- The spans stand in order between one offset and another. -/
def Spaced : Nat → Nat → List Span → Prop
  | start, stop, [] => start ≤ stop
  | start, stop, span :: spans =>
    start ≤ span.start ∧ span.start ≤ span.stop ∧ Spaced span.stop stop spans

namespace Spaced

variable {start middle stop : Nat} {front back spans : List Span}

theorem le (h : Spaced start stop spans) : start ≤ stop := by
  induction spans generalizing start with
  | nil => exact h
  | cons span spans ih =>
    obtain ⟨hstart, hupright, hrest⟩ := h
    exact (hstart.trans hupright).trans (ih hrest)

theorem singleton {span : Span} (hstart : start ≤ span.start) (hupright : span.start ≤ span.stop)
    (hstop : span.stop ≤ stop) : Spaced start stop [span] :=
  ⟨hstart, hupright, hstop⟩

/-- Spans that are spaced stay so between offsets that are further apart. -/
theorem mono {start' stop' : Nat} (h : Spaced start stop spans) (hstart : start' ≤ start)
    (hstop : stop ≤ stop') : Spaced start' stop' spans := by
  induction spans generalizing start start' with
  | nil => exact (hstart.trans h).trans hstop
  | cons span spans ih =>
    obtain ⟨hfirst, hupright, hrest⟩ := h
    exact ⟨hstart.trans hfirst, hupright, ih hrest (Nat.le_refl _)⟩

theorem append (hfront : Spaced start middle front) (hback : Spaced middle stop back) :
    Spaced start stop (front ++ back) := by
  induction front generalizing start with
  | nil => exact hback.mono hfront (Nat.le_refl _)
  | cons span front ih =>
    obtain ⟨hstart, hupright, hrest⟩ := hfront
    exact ⟨hstart, hupright, ih hrest⟩

/-- Spaced spans may be cut before each of them. -/
theorem exists_middle (h : Spaced start stop (front ++ back)) :
    ∃ middle, Spaced start middle front ∧ Spaced middle stop back := by
  induction front generalizing start with
  | nil => exact ⟨start, Nat.le_refl start, h⟩
  | cons span front ih =>
    obtain ⟨hstart, hupright, hrest⟩ := h
    obtain ⟨middle, hfront, hback⟩ := ih hrest
    exact ⟨middle, ⟨hstart, hupright, hfront⟩, hback⟩

/-- Every span lies between the offsets. -/
theorem bounds (h : Spaced start stop spans) :
    ∀ span ∈ spans, start ≤ span.start ∧ span.stop ≤ stop := by
  intro span hspan
  obtain ⟨front, back, rfl⟩ := List.append_of_mem hspan
  obtain ⟨middle, hfront, hmiddle, -, hrest⟩ := h.exists_middle
  exact ⟨hfront.le.trans hmiddle, hrest.le⟩

theorem isChain (h : Spaced start stop spans) : spans.IsChain fun a b ↦ a.stop ≤ b.start := by
  induction spans generalizing start with
  | nil => exact List.isChain_nil
  | cons span spans ih =>
    obtain ⟨-, -, hrest⟩ := h
    refine List.isChain_cons.mpr ⟨fun next hnext ↦ ?_, ih hrest⟩
    exact (hrest.bounds next (List.mem_of_head? hnext)).1

end Spaced

end Span

/-! ### Tokens in order -/

namespace Token

/-- The tokens stand in order, without overlap. -/
structure InOrder (tokens : List Token) : Prop where
  upright : ∀ token ∈ tokens, token.span.start ≤ token.span.stop
  apart : tokens.IsChain fun a b ↦ a.span.stop ≤ b.span.start

instance (tokens : List Token) : Decidable (InOrder tokens) :=
  decidable_of_iff ((∀ token ∈ tokens, token.span.start ≤ token.span.stop) ∧
      tokens.IsChain fun a b ↦ a.span.stop ≤ b.span.start)
    ⟨fun h ↦ ⟨h.1, h.2⟩, fun h ↦ ⟨h.upright, h.apart⟩⟩

namespace InOrder

variable {tokens front back : List Token} {token : Token}

theorem left (h : InOrder (front ++ back)) : InOrder front :=
  ⟨fun token htoken ↦ h.upright token (List.mem_append_left back htoken),
    (List.isChain_append.mp h.apart).1⟩

theorem right (h : InOrder (front ++ back)) : InOrder back :=
  ⟨fun token htoken ↦ h.upright token (List.mem_append_right front htoken),
    (List.isChain_append.mp h.apart).2.1⟩

theorem tail (h : InOrder (token :: tokens)) : InOrder tokens :=
  have hsplit : InOrder ([token] ++ tokens) := h
  hsplit.right

theorem of_part {part : List Token} (h : InOrder tokens) (hpart : part <:+: tokens) :
    InOrder part := by
  obtain ⟨front, back, rfl⟩ := hpart
  exact h.left.right

/-- A token ends where or before every later one starts, not only the next one. -/
theorem stop_le_start (h : InOrder (token :: tokens)) :
    ∀ later ∈ tokens, token.span.stop ≤ later.span.start := by
  induction tokens generalizing token with
  | nil => simp
  | cons next tokens ih =>
    have hnext : token.span.stop ≤ next.span.start := (List.isChain_cons_cons.mp h.apart).1
    intro later hlater
    rcases List.mem_cons.mp hlater with rfl | hlater
    · exact hnext
    · have hupright := h.tail.upright next List.mem_cons_self
      exact (hnext.trans hupright).trans (ih h.tail later hlater)

/-- The span from a token to itself or a later one is not reversed. -/
theorem start_le_stop (h : InOrder (token :: tokens)) :
    ∀ later ∈ token :: tokens, token.span.start ≤ later.span.stop := by
  have hupright := h.upright token List.mem_cons_self
  intro later hlater
  rcases List.mem_cons.mp hlater with rfl | hmem
  · exact hupright
  · exact (hupright.trans (h.stop_le_start later hmem)).trans (h.upright later hlater)

/-- Every token of the front ends where or before every token behind it starts. -/
theorem stop_le_start_of_append (h : InOrder (front ++ back)) :
    ∀ token ∈ front, ∀ later ∈ back, token.span.stop ≤ later.span.start := by
  intro token htoken later hlater
  obtain ⟨first, last, rfl⟩ := List.append_of_mem htoken
  rw [List.append_assoc, List.cons_append] at h
  exact h.right.stop_le_start later (List.mem_append_right last hlater)

/-- The end of the line is at or after the end of every token. -/
theorem stop_le_endOffset (h : InOrder tokens) :
    ∀ token ∈ tokens, token.span.stop ≤ TokenLine.endOffset ⟨tokens⟩ := by
  intro token htoken
  obtain ⟨front, back, rfl⟩ := List.append_of_mem htoken
  cases hlast : back.getLast? with
  | none =>
    obtain rfl := List.getLast?_eq_none_iff.mp hlast
    simp [TokenLine.endOffset]
  | some last =>
    have hmem := List.mem_of_getLast? hlast
    have hle := (h.right.stop_le_start last hmem).trans
      (h.right.upright last (List.mem_cons_of_mem _ hmem))
    simpa [TokenLine.endOffset, List.getLast?_append, List.getLast?_cons, hlast] using hle

end InOrder

end Token

/-- Lexemes that are laid out from an offset are in order. -/
theorem Lexeme.inOrder_place (offset : Nat) (lexemes : List Lexeme) :
    Token.InOrder (place offset lexemes) := by
  induction lexemes generalizing offset with
  | nil => exact ⟨by simp, List.isChain_nil⟩
  | cons lexeme lexemes ih =>
    have hrest := ih (offset + lexeme.encode.length)
    refine ⟨List.forall_mem_cons.mpr ⟨Nat.le_add_right _ _, hrest.upright⟩, ?_⟩
    refine List.isChain_cons.mpr ⟨fun next hnext ↦ ?_, hrest.apart⟩
    cases lexemes with
    | nil => simp at hnext
    | cons other lexemes =>
      obtain rfl : other.tokenAt (offset + lexeme.encode.length) = next := Option.some.inj hnext
      exact Nat.le_refl _

/-! ### The end of a line -/

/-- A line ends where the tokens behind one of its tokens do, if there are any. -/
theorem TokenLine.endOffset_append_cons (front : List Token) (token : Token) {rest : List Token}
    (h : rest ≠ []) : endOffset ⟨front ++ token :: rest⟩ = endOffset ⟨rest⟩ := by
  obtain ⟨next, rest, rfl⟩ := List.exists_cons_of_ne_nil h
  simp [endOffset, List.getLast?_append, List.getLast?_cons]

theorem Lexeme.endOffset_place_cons (offset : Nat) (lexeme : Lexeme) (lexemes : List Lexeme) :
    TokenLine.endOffset ⟨place offset (lexeme :: lexemes)⟩ =
      offset + (encodeAll (lexeme :: lexemes)).length := by
  induction lexemes generalizing offset lexeme with
  | nil => simp [TokenLine.endOffset, tokenAt]
  | cons next lexemes ih =>
    have hrest : place (offset + lexeme.encode.length) (next :: lexemes) ≠ [] :=
      List.cons_ne_nil _ _
    have hdrop := TokenLine.endOffset_append_cons [] (lexeme.tokenAt offset) hrest
    rw [List.nil_append] at hdrop
    rw [place_cons, hdrop, ih, encodeAll_cons lexeme, List.length_append, Nat.add_assoc]

/-- A line that is laid out from the first offset ends at the length of its written form. -/
theorem Lexeme.endOffset_place (lexemes : List Lexeme) :
    TokenLine.endOffset ⟨place 0 lexemes⟩ = (encodeAll lexemes).length := by
  cases lexemes with
  | nil => rfl
  | cons lexeme lexemes => rw [endOffset_place_cons, Nat.zero_add]

/-- Tokens in order are spaced between offsets that none of them crosses. -/
theorem Token.InOrder.spaced {tokens : List Token} (h : InOrder tokens) {start stop : Nat}
    (hle : start ≤ stop) (hstart : ∀ token ∈ tokens, start ≤ token.span.start)
    (hstop : ∀ token ∈ tokens, token.span.stop ≤ stop) :
    Span.Spaced start stop (tokens.map Token.span) := by
  induction tokens generalizing start with
  | nil => exact hle
  | cons token tokens ih =>
    refine ⟨hstart token List.mem_cons_self, h.upright token List.mem_cons_self, ?_⟩
    exact ih h.tail (hstop token List.mem_cons_self) h.stop_le_start
      fun other hother ↦ hstop other (List.mem_cons_of_mem token hother)

end CucumberExpression
