import CucumberExpression.Proofs.Token.Scanning

/-!
# Canonical tokens

A token is written down again from its kind and its text alone (`Token.encode`): literal text gets
an escape before every character that can have one, and every other token is its text. A row of
tokens is `Canonical` when each token is one that reading can make, no two neighbours belong to one
run, and the spans stand end to end from the first offset on, each as long as its token is written.

Reading and writing are inverse to each other between the sources that are read and the canonical
rows (`scan_inverse_encodeAll`). The same is known of lexemes, which have no spans; what is added
here is that the spans of a row say no more than where its lexemes are laid out
(`place_lexeme_eq_iff`).
-/

set_option autoImplicit false
set_option relaxedAutoImplicit false

namespace CucumberExpression

namespace Token

/-- The token without its place. -/
def lexeme (token : Token) : Lexeme := ⟨token.kind, token.text.toList⟩

/-- How a token is written. -/
def encode (token : Token) : List Char := token.lexeme.encode

/-- How a row of tokens is written. -/
def encodeAll (tokens : List Token) : String := String.ofList (tokens.flatMap encode)

@[simp] theorem lexeme_tokenAt (lexeme : Lexeme) (offset : Nat) :
    (lexeme.tokenAt offset).lexeme = lexeme := by
  simp [Token.lexeme, Lexeme.tokenAt]

theorem map_lexeme_place (offset : Nat) (lexemes : List Lexeme) :
    (Lexeme.place offset lexemes).map lexeme = lexemes := by
  induction lexemes generalizing offset with
  | nil => rfl
  | cons first lexemes ih => rw [Lexeme.place_cons, List.map_cons, lexeme_tokenAt, ih]

theorem encodeAll_eq (tokens : List Token) :
    encodeAll tokens = String.ofList (Lexeme.encodeAll (tokens.map lexeme)) := by
  rw [encodeAll, Lexeme.encodeAll, List.flatMap_map]
  rfl

/-! ### Spans -/

/-- The spans stand end to end from an offset on, each as long as its token is written. -/
structure LaidOut (offset : Nat) (tokens : List Token) : Prop where
  first : ∀ token ∈ tokens.head?, token.span.start = offset
  touching : tokens.IsChain fun a b ↦ b.span.start = a.span.stop
  long : ∀ token ∈ tokens, token.span.stop = token.span.start + token.encode.length

theorem laidOut_cons_iff {offset : Nat} {token : Token} {tokens : List Token} :
    LaidOut offset (token :: tokens) ↔ token.span.start = offset ∧
      token.span.stop = offset + token.encode.length ∧
        LaidOut (offset + token.encode.length) tokens := by
  constructor
  · intro h
    have hstart : token.span.start = offset := h.first token rfl
    have hstop : token.span.stop = offset + token.encode.length := by
      rw [h.long token List.mem_cons_self, hstart]
    obtain ⟨hnext, htouching⟩ := List.isChain_cons.mp h.touching
    refine ⟨hstart, hstop, fun next hmem ↦ ?_, htouching, fun other hother ↦ ?_⟩
    · rw [hnext next hmem, hstop]
    · exact h.long other (List.mem_cons_of_mem token hother)
  · rintro ⟨hstart, hstop, hrest⟩
    refine ⟨by simpa using hstart, List.isChain_cons.mpr ⟨fun next hmem ↦ ?_, hrest.touching⟩,
      List.forall_mem_cons.mpr ⟨by rw [hstart, hstop], hrest.long⟩⟩
    rw [hrest.first next hmem, hstop]

/-- A row of tokens is what its lexemes are laid out as, from an offset, exactly if its spans stand
end to end from that offset. -/
theorem place_lexeme_eq_iff {offset : Nat} {tokens : List Token} :
    Lexeme.place offset (tokens.map lexeme) = tokens ↔ LaidOut offset tokens := by
  induction tokens generalizing offset with
  | nil => exact iff_of_true rfl ⟨by simp, List.isChain_nil, by simp⟩
  | cons token tokens ih =>
    have htoken : token.lexeme.tokenAt offset = token ↔
        token.span.start = offset ∧ token.span.stop = offset + token.encode.length := by
      obtain ⟨kind, ⟨start, stop⟩, text⟩ := token
      simp [Lexeme.tokenAt, Token.lexeme, encode, eq_comm]
    rw [List.map_cons, Lexeme.place_cons, List.cons.injEq, htoken, laidOut_cons_iff, and_assoc]
    exact and_congr_right' (and_congr_right' ih)

/-! ### Canonical rows -/

/-- The rows of tokens that reading can make. -/
structure Canonical (tokens : List Token) : Prop where
  valid : ∀ token ∈ tokens, token.lexeme.Valid
  apart : tokens.IsChain fun a b ↦ ¬ (a.kind = b.kind ∧ a.kind.isRun = true)
  laidOut : LaidOut 0 tokens

theorem canonical_iff {tokens : List Token} :
    Canonical tokens ↔
      Lexeme.Canonical (tokens.map lexeme) ∧ Lexeme.place 0 (tokens.map lexeme) = tokens := by
  rw [place_lexeme_eq_iff]
  constructor
  · intro h
    refine ⟨⟨fun other hother ↦ ?_, (List.isChain_map lexeme).mpr h.apart⟩, h.laidOut⟩
    obtain ⟨token, htoken, rfl⟩ := List.mem_map.mp hother
    exact h.valid token htoken
  · rintro ⟨hcanonical, hlaidOut⟩
    refine ⟨fun token htoken ↦ ?_, (List.isChain_map lexeme).mp hcanonical.apart, hlaidOut⟩
    exact hcanonical.valid token.lexeme (List.mem_map_of_mem htoken)

instance (tokens : List Token) : Decidable (Canonical tokens) :=
  decidable_of_iff _ canonical_iff.symm

theorem canonical_place {lexemes : List Lexeme} (h : Lexeme.Canonical lexemes) :
    Canonical (Lexeme.place 0 lexemes) := by
  rw [canonical_iff, map_lexeme_place]
  exact ⟨h, rfl⟩

/-- A source that is read is told from its tokens. -/
theorem scan_inj {source source' : String} {tokens : List Token} (h : scan source = .ok tokens)
    (h' : scan source' = .ok tokens) : source = source' := by
  obtain ⟨lexemes, -, hplace, hencode⟩ := scan_eq_ok_iff.mp h
  obtain ⟨lexemes', -, hplace', hencode'⟩ := scan_eq_ok_iff.mp h'
  obtain rfl : lexemes = lexemes' := by
    rw [← map_lexeme_place 0 lexemes, hplace, ← hplace', map_lexeme_place]
  exact String.toList_inj.mp (hencode.symm.trans hencode')

/-- The tokens of every source that is read are a canonical row, without edges of the line, which is
written as the source; and what a canonical row is written as is read as that row. -/
theorem scan_inverse_encodeAll :
    (∀ source tokens, scan source = .ok tokens →
      Canonical tokens ∧ encodeAll tokens = source ∧
        ∀ token ∈ tokens, token.kind ≠ .startOfLine ∧ token.kind ≠ .endOfLine) ∧
      ∀ tokens, Canonical tokens → scan (encodeAll tokens) = .ok tokens := by
  constructor
  · intro source tokens h
    obtain ⟨lexemes, hcanonical, rfl, hencode⟩ := scan_eq_ok_iff.mp h
    have hrow := canonical_place hcanonical
    refine ⟨hrow, ?_, fun token htoken ↦ ?_⟩
    · rw [encodeAll_eq, map_lexeme_place, hencode, String.ofList_toList]
    · have hedge : token.kind.isEdge = false := (hrow.valid token htoken).isEdge
      constructor <;> intro hkind <;> simp [hkind, TokenKind.isEdge] at hedge
  · intro tokens h
    obtain ⟨hcanonical, hplace⟩ := canonical_iff.mp h
    rw [encodeAll_eq, scan_encodeAll hcanonical, hplace]

/-- A row with escapes in its texts, blanks of two sorts, and two brackets side by side. -/
def mixedRow : List Token :=
  [⟨.text, ⟨0, 3⟩, "\x7ba"⟩, ⟨.whiteSpace, ⟨3, 5⟩, " \u3000"⟩, ⟨.beginOptional, ⟨5, 6⟩, "("⟩,
    ⟨.beginOptional, ⟨6, 7⟩, "("⟩, ⟨.text, ⟨7, 9⟩, "/"⟩]

theorem scan_inverse_mixedRow :
    scan "\\\x7ba \u3000((\\/" = .ok mixedRow ∧
      (Canonical mixedRow ∧ encodeAll mixedRow = "\\\x7ba \u3000((\\/" ∧
        ∀ token ∈ mixedRow, token.kind ≠ .startOfLine ∧ token.kind ≠ .endOfLine) ∧
      scan (encodeAll mixedRow) = .ok mixedRow :=
  have hscan : scan "\\\x7ba \u3000((\\/" = .ok mixedRow := by decide +kernel
  have hcanonical : Canonical mixedRow := by decide +kernel
  ⟨hscan, scan_inverse_encodeAll.1 _ _ hscan, scan_inverse_encodeAll.2 mixedRow hcanonical⟩

end Token

end CucumberExpression
