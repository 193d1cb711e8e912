import CucumberExpression.Proofs.Token.Lexeme

/-!
# Reading lexemes

Reading an expression and writing a canonical row of lexemes undo each other: the sources that are
read are the written forms of the canonical rows, and the tokens of such a source are the row laid
out from its first character (`scan_eq_ok_iff`).

Both halves rest on the lexemes of one character. The tokens of the single characters of a source
are valid lexemes that are written as the source is (`exists_place_of_singles`), and a source
written by valid lexemes of one character is read as these (`singles_encodeAll`).
-/

set_option autoImplicit false
set_option relaxedAutoImplicit false

namespace CucumberExpression

/-! ### Kinds of single characters -/

theorem canEscape_escape : canEscape Symbol.escape.char = true := by decide

/-- A character that needs no escape is literal text. -/
theorem ofChar_of_not_canEscape {c : Char} (h : canEscape c = false) :
    TokenKind.ofChar c = .text := by
  obtain ⟨hblank, hsymbol⟩ : Text.isBlank c = false ∧ Symbol.ofChar? c = none := by
    simpa [canEscape] using h
  simp [TokenKind.ofChar, hblank, hsymbol]

theorem ofChar_of_isBlank {c : Char} (h : Text.isBlank c = true) :
    TokenKind.ofChar c = .whiteSpace := by
  simp [TokenKind.ofChar, h]

theorem ofChar_symbol {kind : TokenKind} {symbol : Symbol} (h : kind.symbol? = some symbol) :
    TokenKind.ofChar symbol.char = kind := by
  revert h
  cases kind <;> cases symbol <;> decide

theorem ne_escape_of_isBlank {c : Char} (h : Text.isBlank c = true) : c ≠ Symbol.escape.char := by
  rintro rfl
  revert h
  decide

theorem ne_escape_of_symbol {kind : TokenKind} {symbol : Symbol} (h : kind.symbol? = some symbol) :
    symbol.char ≠ Symbol.escape.char := by
  revert h
  cases kind <;> cases symbol <;> decide

namespace Lexeme

/-- The lexeme of a character that is not escaped. -/
def ofChar (c : Char) : Lexeme := ⟨.ofChar c, [c]⟩

/-- Assumes: a character other than the escape. Bare it is a valid lexeme, which is written as the
character. -/
theorem ofChar_valid_encode {c : Char} (h : c ≠ Symbol.escape.char) :
    (ofChar c).Valid ∧ (ofChar c).encode = [c] := by
  by_cases hblank : Text.isBlank c = true
  · rw [ofChar, ofChar_of_isBlank hblank]
    exact ⟨⟨List.cons_ne_nil c [], by simpa using hblank⟩, rfl⟩
  cases hsymbol : Symbol.ofChar? c with
  | none =>
    have hbare : canEscape c = false := by simp [canEscape, hblank, hsymbol]
    rw [ofChar, ofChar_of_not_canEscape hbare]
    refine ⟨List.cons_ne_nil c [], ?_⟩
    simp [encode, escapedText, escapedChar, hbare]
  | some symbol =>
    obtain rfl := Symbol.char_of_ofChar? hsymbol
    cases symbol with
    | escape => exact absurd rfl h
    | _ => exact ⟨⟨_, rfl, rfl⟩, rfl⟩

/-- A valid lexeme of one character is that character bare, or literal text with an escape. -/
theorem Valid.eq_ofChar_or_escaped {kind : TokenKind} {c : Char} (h : Valid ⟨kind, [c]⟩) :
    (c ≠ Symbol.escape.char ∧ kind = .ofChar c ∧ encode ⟨kind, [c]⟩ = [c]) ∨
      (canEscape c = true ∧ kind = .text ∧ encode ⟨kind, [c]⟩ = [Symbol.escape.char, c]) := by
  cases kind with
  | text =>
    by_cases hc : canEscape c = true
    · exact .inr ⟨hc, rfl, by simp [encode, escapedText, escapedChar, hc]⟩
    · have hbare : canEscape c = false := by simpa using hc
      refine .inl ⟨?_, (ofChar_of_not_canEscape hbare).symm, ?_⟩
      · rintro rfl
        exact hc canEscape_escape
      · simp [encode, escapedText, escapedChar, hbare]
  | whiteSpace =>
    have hblank : Text.isBlank c = true := h.2 c (List.mem_singleton_self c)
    exact .inl ⟨ne_escape_of_isBlank hblank, (ofChar_of_isBlank hblank).symm, rfl⟩
  | _ =>
    obtain ⟨symbol, hsymbol, htext⟩ := h
    obtain rfl : c = symbol.char := (List.cons.inj htext).1
    exact .inl ⟨ne_escape_of_symbol hsymbol, (ofChar_symbol hsymbol).symm, rfl⟩

/-! ### From lexemes to tokens and back -/

theorem singles_bare {c : Char} (h : c ≠ Symbol.escape.char) (offset : Nat) (rest : List Char) :
    Token.singles offset (c :: rest) =
      (Token.singles (offset + 1) rest).map
        (⟨.ofChar c, ⟨offset, offset + 1⟩, c.toString⟩ :: ·) := by
  rw [Token.singles.eq_def]
  exact if_neg h

theorem singles_escaped {c : Char} (h : canEscape c = true) (offset : Nat) (rest : List Char) :
    Token.singles offset (Symbol.escape.char :: c :: rest) =
      (Token.singles (offset + 2) rest).map
        (⟨.text, ⟨offset, offset + 2⟩, c.toString⟩ :: ·) := by
  rw [Token.singles, if_pos rfl, if_pos h]

/-- Assumes: a valid lexeme of one character. The tokens of a source that begins with its written
form are its token and those of the rest. -/
theorem singles_encode_append {lexeme : Lexeme} (hvalid : lexeme.Valid)
    (hone : ∃ c, lexeme.text = [c]) (offset : Nat) (rest : List Char) :
    Token.singles offset (lexeme.encode ++ rest) =
      (Token.singles (offset + lexeme.encode.length) rest).map (lexeme.tokenAt offset :: ·) := by
  obtain ⟨kind, text⟩ := lexeme
  obtain ⟨c, rfl⟩ : ∃ c, text = [c] := hone
  rcases hvalid.eq_ofChar_or_escaped with ⟨hc, hkind, hencode⟩ | ⟨hc, hkind, hencode⟩
  · rw [hencode, List.singleton_append, singles_bare hc, tokenAt, hencode, hkind]
    rfl
  · rw [hencode, List.cons_append, List.singleton_append, singles_escaped hc, tokenAt, hencode,
      hkind]
    rfl

/-- A source that is written by valid lexemes of one character is read as these. -/
theorem singles_encodeAll {lexemes : List Lexeme}
    (h : ∀ lexeme ∈ lexemes, lexeme.Valid ∧ ∃ c, lexeme.text = [c]) (offset : Nat) :
    Token.singles offset (encodeAll lexemes) = .ok (place offset lexemes) := by
  induction lexemes generalizing offset with
  | nil => rfl
  | cons lexeme lexemes ih =>
    obtain ⟨hvalid, hone⟩ := h lexeme List.mem_cons_self
    have hrest := ih (fun other hother ↦ h other (List.mem_cons_of_mem _ hother))
      (offset + lexeme.encode.length)
    rw [encodeAll_cons, singles_encode_append hvalid hone, hrest, place_cons]
    rfl

/-- Assumes: a valid lexeme of one character, in front of a source of which this is known. The
tokens of the single characters are valid lexemes that are written as the source is. -/
theorem exists_place_cons {lexeme : Lexeme} (hvalid : lexeme.Valid)
    (hone : ∃ c, lexeme.text = [c]) {written : List Char} (hencode : lexeme.encode = written)
    {offset : Nat} {rest : List Char} {tokens : List Token}
    (hrest : ∀ following, Token.singles (offset + written.length) rest = .ok following →
      ∃ lexemes : List Lexeme, (∀ other ∈ lexemes, other.Valid) ∧
        place (offset + written.length) lexemes = following ∧ encodeAll lexemes = rest)
    (h : Token.singles offset (written ++ rest) = .ok tokens) :
    ∃ lexemes : List Lexeme, (∀ other ∈ lexemes, other.Valid) ∧
      place offset lexemes = tokens ∧ encodeAll lexemes = written ++ rest := by
  subst hencode
  rw [singles_encode_append hvalid hone] at h
  cases hsingles : Token.singles (offset + lexeme.encode.length) rest with
  | error error => simp [hsingles, Except.map] at h
  | ok following =>
    obtain ⟨lexemes, hall, rfl, rfl⟩ := hrest following hsingles
    rw [hsingles] at h
    obtain rfl := Except.ok.inj h
    exact ⟨lexeme :: lexemes, List.forall_mem_cons.mpr ⟨hvalid, hall⟩, rfl, rfl⟩

/-- The tokens of the single characters of a source are valid lexemes, laid out from its first
character, which are written as the source is. -/
theorem exists_place_of_singles {offset : Nat} {chars : List Char} {tokens : List Token}
    (h : Token.singles offset chars = .ok tokens) :
    ∃ lexemes : List Lexeme, (∀ lexeme ∈ lexemes, lexeme.Valid) ∧
      place offset lexemes = tokens ∧ encodeAll lexemes = chars := by
  induction offset, chars using Token.singles.induct generalizing tokens with
  | case1 offset =>
    obtain rfl : [] = tokens := Except.ok.inj h
    exact ⟨[], by simp, rfl, rfl⟩
  | case2 offset => simp [Token.singles] at h
  | case3 offset c rest hc ih =>
    have hvalid : Valid ⟨.text, [c]⟩ := List.cons_ne_nil c []
    have hencode : encode ⟨.text, [c]⟩ = [Symbol.escape.char, c] := by
      simp [encode, escapedText, escapedChar, hc]
    exact exists_place_cons hvalid ⟨c, rfl⟩ hencode (fun _ ↦ ih) h
  | case4 offset c rest hc => simp [Token.singles, hc] at h
  | case5 offset c rest hc ih =>
    obtain ⟨hvalid, hencode⟩ := ofChar_valid_encode hc
    exact exists_place_cons hvalid ⟨c, rfl⟩ hencode (fun _ ↦ ih) h

end Lexeme

namespace Token

/-! ### Reading and writing -/

open Lexeme

/-- Every source that is read is written by a canonical row, laid out from the first character. -/
theorem exists_canonical_of_scan {source : String} {tokens : List Token}
    (h : scan source = .ok tokens) :
    ∃ lexemes : List Lexeme, Canonical lexemes ∧ place 0 lexemes = tokens ∧
      encodeAll lexemes = source.toList := by
  cases hsingles : singles 0 source.toList with
  | error error => simp [scan, hsingles, Except.map] at h
  | ok following =>
    obtain ⟨lexemes, hvalid, rfl, hencode⟩ := exists_place_of_singles hsingles
    rw [scan, hsingles] at h
    obtain rfl := Except.ok.inj h
    exact ⟨Lexeme.fuse lexemes, canonical_fuse hvalid, (fuse_place 0 lexemes).symm,
      (encodeAll_fuse lexemes).trans hencode⟩

/-- The written form of a canonical row is read as that row. -/
theorem scan_encodeAll {lexemes : List Lexeme} (h : Canonical lexemes) :
    scan (String.ofList (encodeAll lexemes)) = .ok (place 0 lexemes) := by
  have hparts : ∀ part ∈ lexemes.flatMap Lexeme.split, part.Valid ∧ ∃ c, part.text = [c] := by
    intro part hpart
    obtain ⟨lexeme, hlexeme, hpart⟩ := List.mem_flatMap.mp hpart
    exact valid_of_mem_split (h.valid lexeme hlexeme) hpart
  have hsingles := singles_encodeAll hparts 0
  rw [encodeAll_flatMap_split] at hsingles
  rw [scan, String.toList_ofList, hsingles]
  show Except.ok (fuse (place 0 (lexemes.flatMap Lexeme.split))) = _
  rw [fuse_place, fuse_flatMap_split h]

/-- The sources that are read are the written forms of the canonical rows, and the tokens of such a
source are the row laid out from its first character. -/
theorem scan_eq_ok_iff {source : String} {tokens : List Token} :
    scan source = .ok tokens ↔ ∃ lexemes : List Lexeme, Canonical lexemes ∧
      place 0 lexemes = tokens ∧ encodeAll lexemes = source.toList := by
  constructor
  · exact exists_canonical_of_scan
  · rintro ⟨lexemes, hcanonical, rfl, hencode⟩
    have hsource : String.ofList (encodeAll lexemes) = source := by
      rw [hencode, String.ofList_toList]
    rw [← hsource]
    exact scan_encodeAll hcanonical

end Token

end CucumberExpression
