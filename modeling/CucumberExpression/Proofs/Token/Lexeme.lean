import CucumberExpression.Token.Line
import Mathlib.Data.List.Chain

/-!
# Lexemes and their places

A lexeme is a token without its place: a kind and the text that is left when the escapes are taken
away. `Lexeme.encode` writes a lexeme down again, with an escape before every character of literal
text that could be taken for something else, and `Lexeme.place` lays a row of lexemes out from an
offset, each as long as its written form. A row is `Canonical` when each of its lexemes is one that
reading can produce and no two neighbours belong to one run.

Every row of valid lexemes is written as one canonical row is, which joining neighbours gives
(`canonical_fuse`, `encodeAll_fuse`), and a canonical row is what joining its single characters
gives back (`fuse_flatMap_split`). Joining commutes with laying out (`fuse_place`).
-/

set_option autoImplicit false
set_option relaxedAutoImplicit false

namespace CucumberExpression

/-! ### Written forms -/

/-- How a character of literal text is written. -/
def escapedChar (c : Char) : List Char :=
  if canEscape c then [Symbol.escape.char, c] else [c]

/-- How literal text is written. -/
def escapedText (text : List Char) : List Char := text.flatMap escapedChar

@[simp] theorem escapedText_append (front back : List Char) :
    escapedText (front ++ back) = escapedText front ++ escapedText back :=
  List.flatMap_append

theorem length_le_length_escapedText (text : List Char) :
    text.length ≤ (escapedText text).length := by
  induction text with
  | nil => rfl
  | cons c text ih =>
    have hone : 1 ≤ (escapedChar c).length := by
      unfold escapedChar
      split <;> simp
    have hsplit : escapedText (c :: text) = escapedChar c ++ escapedText text := rfl
    rw [hsplit, List.length_append, List.length_cons]
    omega

/-- A written form that is no longer than its text has no escapes, so it is the text. -/
theorem escapedText_eq_self_of_length {text : List Char}
    (h : (escapedText text).length = text.length) : escapedText text = text := by
  induction text with
  | nil => rfl
  | cons c text ih =>
    have hsplit : escapedText (c :: text) = escapedChar c ++ escapedText text := rfl
    have hrest := length_le_length_escapedText text
    rw [hsplit, List.length_append, List.length_cons] at h
    by_cases hc : canEscape c
    · have htwo : (escapedChar c).length = 2 := by simp [escapedChar, hc]
      omega
    · have hone : escapedChar c = [c] := by simp [escapedChar, hc]
      rw [hone, List.length_singleton] at h
      rw [hsplit, hone, ih (by omega), List.singleton_append]

/-- A token without its place. -/
structure Lexeme where
  kind : TokenKind
  text : List Char
  deriving Repr, DecidableEq

namespace Lexeme

/-- How a lexeme is written. Only literal text has escapes. -/
def encode (lexeme : Lexeme) : List Char :=
  if lexeme.kind = .text then escapedText lexeme.text else lexeme.text

/-- How a row of lexemes is written. -/
def encodeAll (lexemes : List Lexeme) : List Char := lexemes.flatMap encode

@[simp] theorem encodeAll_nil : encodeAll [] = [] := rfl

@[simp] theorem encodeAll_cons (lexeme : Lexeme) (lexemes : List Lexeme) :
    encodeAll (lexeme :: lexemes) = lexeme.encode ++ encodeAll lexemes := rfl

@[simp] theorem encodeAll_append (front back : List Lexeme) :
    encodeAll (front ++ back) = encodeAll front ++ encodeAll back :=
  List.flatMap_append

theorem encode_mk_append (kind : TokenKind) (front back : List Char) :
    encode ⟨kind, front ++ back⟩ = encode ⟨kind, front⟩ ++ encode ⟨kind, back⟩ := by
  unfold encode
  split <;> simp

/-! ### Places -/

/-- The token that a lexeme makes at an offset. -/
def tokenAt (lexeme : Lexeme) (offset : Nat) : Token :=
  ⟨lexeme.kind, ⟨offset, offset + lexeme.encode.length⟩, String.ofList lexeme.text⟩

/-- The tokens that a row of lexemes makes from an offset on. -/
def place : Nat → List Lexeme → List Token
  | _, [] => []
  | offset, lexeme :: lexemes =>
    lexeme.tokenAt offset :: place (offset + lexeme.encode.length) lexemes

@[simp] theorem place_nil (offset : Nat) : place offset [] = [] := rfl

@[simp] theorem place_cons (offset : Nat) (lexeme : Lexeme) (lexemes : List Lexeme) :
    place offset (lexeme :: lexemes) =
      lexeme.tokenAt offset :: place (offset + lexeme.encode.length) lexemes := rfl

theorem place_append (offset : Nat) (front back : List Lexeme) :
    place offset (front ++ back) =
      place offset front ++ place (offset + (encodeAll front).length) back := by
  induction front generalizing offset with
  | nil => rfl
  | cons lexeme front ih => simp [ih, Nat.add_assoc]

/-- Every token of a layout is a lexeme at its place. -/
theorem exists_tokenAt_of_mem_place {token : Token} {offset : Nat} {lexemes : List Lexeme}
    (h : token ∈ place offset lexemes) :
    ∃ lexeme ∈ lexemes, ∃ position, lexeme.tokenAt position = token := by
  induction lexemes generalizing offset with
  | nil => simp at h
  | cons lexeme lexemes ih =>
    rcases List.mem_cons.mp h with rfl | h
    · exact ⟨lexeme, List.mem_cons_self, offset, rfl⟩
    · obtain ⟨other, hother, hplace⟩ := ih h
      exact ⟨other, List.mem_cons_of_mem _ hother, hplace⟩

/-! ### Joining lexemes -/

/-- Whether two neighbours belong to one run. -/
def Joins (a b : Lexeme) : Prop := a.kind = b.kind ∧ a.kind.isRun = true

instance (a b : Lexeme) : Decidable (a.Joins b) := inferInstanceAs (Decidable (_ ∧ _))

/-- The row with one more lexeme in front, joined with the first one where the two belong to one
run. -/
def attach (lexeme : Lexeme) : List Lexeme → List Lexeme
  | [] => [lexeme]
  | next :: rest =>
    if lexeme.Joins next then ⟨lexeme.kind, lexeme.text ++ next.text⟩ :: rest
    else lexeme :: next :: rest

theorem attach_of_not_joins {lexeme : Lexeme} {lexemes : List Lexeme}
    (h : ∀ next ∈ lexemes.head?, ¬ lexeme.Joins next) :
    lexeme.attach lexemes = lexeme :: lexemes := by
  cases lexemes with
  | nil => rfl
  | cons next rest => exact if_neg (h next rfl)

theorem encodeAll_attach (lexeme : Lexeme) (lexemes : List Lexeme) :
    encodeAll (lexeme.attach lexemes) = lexeme.encode ++ encodeAll lexemes := by
  cases lexemes with
  | nil => rfl
  | cons next rest =>
    by_cases hjoins : lexeme.Joins next
    · obtain ⟨kind, text⟩ := lexeme
      obtain ⟨kind', text'⟩ := next
      obtain rfl : kind = kind' := hjoins.1
      rw [attach, if_pos hjoins, encodeAll_cons, encodeAll_cons, encode_mk_append,
        List.append_assoc]
    · rw [attach, if_neg hjoins, encodeAll_cons]

/-- Joining commutes with laying out. -/
theorem attach_place (lexeme : Lexeme) (offset : Nat) (lexemes : List Lexeme) :
    Token.attach (lexeme.tokenAt offset) (place (offset + lexeme.encode.length) lexemes) =
      place offset (lexeme.attach lexemes) := by
  cases lexemes with
  | nil => rfl
  | cons next rest =>
    by_cases hjoins : lexeme.Joins next
    · obtain ⟨kind, text⟩ := lexeme
      obtain ⟨kind', text'⟩ := next
      obtain rfl : kind = kind' := hjoins.1
      have hrun : kind.isRun = true := hjoins.2
      have hlength := congrArg List.length (encode_mk_append kind text text')
      rw [List.length_append] at hlength
      rw [attach, if_pos hjoins, place_cons, place_cons, Token.attach, Token.join?]
      simp only [tokenAt, hrun, and_self, if_true, Span.merge, hlength, String.ofList_append,
        Nat.add_assoc, Nat.min_eq_left (Nat.le_add_right _ _),
        Nat.max_eq_right (Nat.add_le_add_left (Nat.le_add_right _ _) _)]
    · have hnone : (lexeme.tokenAt offset).join?
          (next.tokenAt (offset + lexeme.encode.length)) = none := if_neg hjoins
      rw [attach, if_neg hjoins, place_cons, place_cons, place_cons, Token.attach, hnone]

/-! ### Canonical rows -/

/-- The lexemes that reading can produce: literal text and blanks are not empty, and every other
lexeme is its own special character. -/
def Valid (lexeme : Lexeme) : Prop :=
  match lexeme.kind with
  | .text => lexeme.text ≠ []
  | .whiteSpace => lexeme.text ≠ [] ∧ ∀ c ∈ lexeme.text, Text.isBlank c = true
  | kind => ∃ symbol, kind.symbol? = some symbol ∧ lexeme.text = [symbol.char]

instance : (lexeme : Lexeme) → Decidable lexeme.Valid
  | ⟨.text, text⟩ => inferInstanceAs (Decidable (text ≠ []))
  | ⟨.whiteSpace, text⟩ =>
    decidable_of_iff (text ≠ [] ∧ text.all Text.isBlank = true) (and_congr_right' List.all_eq_true)
  | ⟨.startOfLine, text⟩ | ⟨.endOfLine, text⟩ | ⟨.beginOptional, text⟩ | ⟨.endOptional, text⟩
  | ⟨.beginParameter, text⟩ | ⟨.endParameter, text⟩ | ⟨.alternation, text⟩ =>
    inferInstanceAs (Decidable (∃ symbol : Symbol, _ ∧ text = [symbol.char]))

theorem Valid.text_ne_nil {lexeme : Lexeme} (h : lexeme.Valid) : lexeme.text ≠ [] := by
  obtain ⟨kind, text⟩ := lexeme
  cases kind with
  | text => exact h
  | whiteSpace => exact h.1
  | _ =>
    obtain ⟨symbol, -, htext⟩ := h
    exact htext ▸ List.cons_ne_nil symbol.char []

theorem Valid.encode_ne_nil {lexeme : Lexeme} (h : lexeme.Valid) : lexeme.encode ≠ [] := by
  have htext := List.length_pos_iff.mpr h.text_ne_nil
  rw [← List.length_pos_iff, encode]
  split
  · exact htext.trans_le (length_le_length_escapedText lexeme.text)
  · exact htext

/-- Reading produces no edges of the line. -/
theorem Valid.isEdge {lexeme : Lexeme} (h : lexeme.Valid) : lexeme.kind.isEdge = false := by
  obtain ⟨kind, text⟩ := lexeme
  cases kind with
  | startOfLine | endOfLine =>
    obtain ⟨symbol, hsymbol, -⟩ := h
    exact absurd hsymbol (by simp [TokenKind.symbol?])
  | _ => rfl

/-- A special character that stands by itself is written as it is. -/
theorem Valid.text_of_symbol {lexeme : Lexeme} (h : lexeme.Valid) {symbol : Symbol}
    (hsymbol : lexeme.kind.symbol? = some symbol) :
    lexeme.text = [symbol.char] ∧ lexeme.encode = [symbol.char] := by
  obtain ⟨kind, text⟩ := lexeme
  cases kind with
  | text | whiteSpace => exact absurd hsymbol (by simp [TokenKind.symbol?])
  | _ =>
    obtain ⟨symbol', hsymbol', htext⟩ := h
    obtain rfl : symbol' = symbol := Option.some.inj (hsymbol'.symm.trans hsymbol)
    exact ⟨htext, htext⟩

/-- A lexeme of more than one character is a run. -/
theorem Valid.isRun_or_eq_nil {kind : TokenKind} {c : Char} {text : List Char}
    (h : Valid ⟨kind, c :: text⟩) : kind.isRun = true ∨ text = [] := by
  cases kind with
  | text | whiteSpace => exact .inl rfl
  | _ =>
    obtain ⟨symbol, -, htext⟩ := h
    exact .inr (List.cons.inj htext).2

theorem valid_append_of_joins {a b : Lexeme} (ha : a.Valid) (hb : b.Valid) (hjoins : a.Joins b) :
    Valid ⟨a.kind, a.text ++ b.text⟩ := by
  obtain ⟨kind, text⟩ := a
  obtain ⟨kind', text'⟩ := b
  obtain rfl : kind = kind' := hjoins.1
  have hrun : kind.isRun = true := hjoins.2
  cases kind with
  | text => exact List.append_ne_nil_of_left_ne_nil ha text'
  | whiteSpace =>
    refine ⟨List.append_ne_nil_of_left_ne_nil ha.1 text', fun c hc ↦ ?_⟩
    rcases List.mem_append.mp hc with hc | hc
    · exact ha.2 c hc
    · exact hb.2 c hc
  | _ => exact absurd hrun (by decide)

/-- A row of lexemes that reading can produce. -/
structure Canonical (lexemes : List Lexeme) : Prop where
  valid : ∀ lexeme ∈ lexemes, lexeme.Valid
  apart : lexemes.IsChain fun a b ↦ ¬ a.Joins b

instance (lexemes : List Lexeme) : Decidable (Canonical lexemes) :=
  decidable_of_iff ((∀ lexeme ∈ lexemes, lexeme.Valid) ∧ lexemes.IsChain fun a b ↦ ¬ a.Joins b)
    ⟨fun h ↦ ⟨h.1, h.2⟩, fun h ↦ ⟨h.valid, h.apart⟩⟩

theorem Canonical.of_append {front back : List Lexeme} (h : Canonical (front ++ back)) :
    Canonical front ∧ Canonical back := by
  obtain ⟨hfront, hback, -⟩ := List.isChain_append.mp h.apart
  exact ⟨⟨fun lexeme hmem ↦ h.valid lexeme (List.mem_append_left back hmem), hfront⟩,
    ⟨fun lexeme hmem ↦ h.valid lexeme (List.mem_append_right front hmem), hback⟩⟩

/-- Assumes: a valid lexeme in front of a canonical row. Attached to the row it gives a canonical
row. -/
theorem Canonical.attach {lexeme : Lexeme} {lexemes : List Lexeme} (hvalid : lexeme.Valid)
    (h : Canonical lexemes) : Canonical (lexeme.attach lexemes) := by
  cases lexemes with
  | nil => exact ⟨by simpa [Lexeme.attach] using hvalid, List.isChain_singleton _⟩
  | cons next rest =>
    have hnext : next.Valid := h.valid next List.mem_cons_self
    have hrest : ∀ other ∈ rest, other.Valid := fun other hother ↦
      h.valid other (List.mem_cons_of_mem _ hother)
    by_cases hjoins : lexeme.Joins next
    · rw [Lexeme.attach, if_pos hjoins]
      constructor
      · intro other hother
        rcases List.mem_cons.mp hother with rfl | hother
        · exact valid_append_of_joins hvalid hnext hjoins
        · exact hrest other hother
      · -- The joined lexeme has the kind of `next`, so it is as far from the rest as `next` is.
        have hapart := List.isChain_cons.mp h.apart
        refine List.isChain_cons.mpr ⟨fun other hother hjoins' ↦ hapart.1 other hother ?_, hapart.2⟩
        exact ⟨hjoins.1.symm.trans hjoins'.1, by rw [← hjoins.1]; exact hjoins'.2⟩
    · rw [Lexeme.attach, if_neg hjoins]
      constructor
      · intro other hother
        rcases List.mem_cons.mp hother with rfl | hother
        · exact hvalid
        · exact h.valid other hother
      · exact List.isChain_cons_cons.mpr ⟨hjoins, h.apart⟩

/-- What holds of the token of each valid lexeme holds of all tokens of a canonical row. -/
theorem Canonical.forall_place {lexemes : List Lexeme} (h : Canonical lexemes)
    {property : Token → Prop}
    (hproperty : ∀ lexeme : Lexeme, lexeme.Valid → ∀ offset, property (lexeme.tokenAt offset))
    (offset : Nat) : ∀ token ∈ place offset lexemes, property token := by
  intro token htoken
  obtain ⟨lexeme, hlexeme, position, rfl⟩ := exists_tokenAt_of_mem_place htoken
  exact hproperty lexeme (h.valid lexeme hlexeme) position

/-- Reading produces no end of the line. -/
theorem Canonical.ne_endOfLine {lexemes : List Lexeme} (h : Canonical lexemes) (offset : Nat) :
    ∀ token ∈ place offset lexemes, token.kind ≠ .endOfLine := by
  refine h.forall_place (fun lexeme hvalid position hkind ↦ ?_) offset
  have hedge := hvalid.isEdge
  rw [show lexeme.kind = .endOfLine from hkind] at hedge
  exact absurd hedge (by decide)

/-- Every token that is read has a text. -/
theorem Canonical.text_ne_empty {lexemes : List Lexeme} (h : Canonical lexemes) (offset : Nat) :
    ∀ token ∈ place offset lexemes, token.text ≠ "" := by
  refine h.forall_place (fun lexeme hvalid position hempty ↦ ?_) offset
  have htext := congrArg String.toList hempty
  rw [tokenAt, String.toList_ofList] at htext
  exact hvalid.text_ne_nil htext

/-- Every token that is read covers a character. -/
theorem Canonical.start_lt_stop {lexemes : List Lexeme} (h : Canonical lexemes) (offset : Nat) :
    ∀ token ∈ place offset lexemes, token.span.start < token.span.stop := by
  refine h.forall_place (fun lexeme hvalid position ↦ ?_) offset
  exact Nat.lt_add_of_pos_right (List.length_pos_iff.mpr hvalid.encode_ne_nil)

/-- The row with neighbours of one run made one lexeme. -/
def fuse (lexemes : List Lexeme) : List Lexeme := lexemes.foldr attach []

/-- The canonical row that is written as a row of valid lexemes is. -/
theorem canonical_fuse {lexemes : List Lexeme} (h : ∀ lexeme ∈ lexemes, lexeme.Valid) :
    Canonical (fuse lexemes) := by
  induction lexemes with
  | nil => exact ⟨by simp [fuse], List.isChain_nil⟩
  | cons lexeme lexemes ih =>
    have hrest : Canonical (fuse lexemes) :=
      ih fun other hother ↦ h other (List.mem_cons_of_mem _ hother)
    exact hrest.attach (h lexeme List.mem_cons_self)

theorem encodeAll_fuse (lexemes : List Lexeme) : encodeAll (fuse lexemes) = encodeAll lexemes := by
  induction lexemes with
  | nil => rfl
  | cons lexeme lexemes ih =>
    show encodeAll (lexeme.attach (fuse lexemes)) = _
    rw [encodeAll_attach, ih, encodeAll_cons]

theorem fuse_place (offset : Nat) (lexemes : List Lexeme) :
    Token.fuse (place offset lexemes) = place offset (fuse lexemes) := by
  induction lexemes generalizing offset with
  | nil => rfl
  | cons lexeme lexemes ih =>
    show Token.attach _ (Token.fuse (place _ lexemes)) = place offset (lexeme.attach (fuse _))
    rw [ih, attach_place]

/-! ### Lexemes of one character -/

/-- The lexemes of the single characters of a lexeme. -/
def split (lexeme : Lexeme) : List Lexeme := lexeme.text.map fun c ↦ ⟨lexeme.kind, [c]⟩

theorem encodeAll_split (lexeme : Lexeme) : encodeAll lexeme.split = lexeme.encode := by
  obtain ⟨kind, text⟩ := lexeme
  induction text with
  | nil =>
    unfold encode
    split <;> rfl
  | cons c text ih =>
    have hsplit : split ⟨kind, c :: text⟩ = ⟨kind, [c]⟩ :: split ⟨kind, text⟩ := rfl
    rw [hsplit, encodeAll_cons, ih, ← encode_mk_append, List.singleton_append]

theorem encodeAll_flatMap_split (lexemes : List Lexeme) :
    encodeAll (lexemes.flatMap split) = encodeAll lexemes := by
  induction lexemes with
  | nil => rfl
  | cons lexeme lexemes ih =>
    rw [List.flatMap_cons, encodeAll_append, encodeAll_split, ih, encodeAll_cons]

theorem valid_of_mem_split {lexeme part : Lexeme} (hvalid : lexeme.Valid)
    (hpart : part ∈ lexeme.split) : part.Valid ∧ ∃ c, part.text = [c] := by
  obtain ⟨kind, text⟩ := lexeme
  obtain ⟨c, hc, rfl⟩ := List.mem_map.mp hpart
  refine ⟨?_, c, rfl⟩
  cases kind with
  | text => exact List.cons_ne_nil c []
  | whiteSpace => exact ⟨List.cons_ne_nil c [], by simpa using hvalid.2 c hc⟩
  | _ =>
    obtain ⟨symbol, hsymbol, htext⟩ := hvalid
    change text = [symbol.char] at htext
    have hchar : c = symbol.char := List.mem_singleton.mp (htext ▸ hc)
    exact ⟨symbol, hsymbol, by rw [hchar]⟩

/-- A run of characters that stands apart from what follows is fused to one lexeme. -/
theorem foldr_attach_split {kind : TokenKind} {lexemes : List Lexeme} (c : Char) (text : List Char)
    (hapart : ∀ next ∈ lexemes.head?, ¬ Joins ⟨kind, c :: text⟩ next)
    (hrun : kind.isRun = true ∨ text = []) :
    (split ⟨kind, c :: text⟩).foldr attach lexemes = ⟨kind, c :: text⟩ :: lexemes := by
  induction text generalizing c with
  | nil => exact attach_of_not_joins hapart
  | cons c' text ih =>
    have hkind : kind.isRun = true := hrun.resolve_right (List.cons_ne_nil c' text)
    have hsplit : split ⟨kind, c :: c' :: text⟩ = ⟨kind, [c]⟩ :: split ⟨kind, c' :: text⟩ := rfl
    have hjoins : Joins ⟨kind, [c]⟩ ⟨kind, c' :: text⟩ := ⟨rfl, hkind⟩
    rw [hsplit, List.foldr_cons, ih c' hapart (.inl hkind), attach, if_pos hjoins]
    rfl

/-- A canonical row is what fusing its single characters gives. -/
theorem fuse_flatMap_split {lexemes : List Lexeme} (h : Canonical lexemes) :
    fuse (lexemes.flatMap split) = lexemes := by
  induction lexemes with
  | nil => rfl
  | cons lexeme lexemes ih =>
    have hapart := List.isChain_cons.mp h.apart
    have hrest : fuse (lexemes.flatMap split) = lexemes :=
      ih ⟨fun other hother ↦ h.valid other (List.mem_cons_of_mem _ hother), hapart.2⟩
    obtain ⟨kind, text⟩ := lexeme
    have hvalid : Valid ⟨kind, text⟩ := h.valid _ List.mem_cons_self
    obtain ⟨c, text, rfl⟩ := List.exists_cons_of_ne_nil hvalid.text_ne_nil
    rw [fuse, List.flatMap_cons, List.foldr_append, ← fuse, hrest]
    exact foldr_attach_split c text hapart.1 hvalid.isRun_or_eq_nil

end Lexeme

end CucumberExpression
