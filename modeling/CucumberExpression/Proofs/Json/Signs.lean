import CucumberExpression.Proofs.Text.Quoted

/-!
# Signs of a JSON value

JSON is written with signs: brackets, commas and colons, strings, and numbers. The signs of a value
tell the value, whatever signs stand behind them (`signs_append_inj`). Commas stand between the
parts of an array or object, and these tell where each part ends: no part begins with a closing
bracket, and a comma is not a closing bracket (`separated_inj`).

A text is laid out from signs when it has them in their order and nothing but gaps around them. A
string is one sign, so that gaps are outside of strings only. Signs other than numbers tell where
they end, and a number ends where no digit stands behind it (`Sign.spell_append_inj`). When the gaps
are made of blanks, which no sign begins with, the text can be laid out from one row of signs only
(`Laid.unique`), and so stands for one value at most (`Denotes.unique`).
-/

set_option autoImplicit false
set_option relaxedAutoImplicit false

namespace CucumberExpression.Json

/-- A property holds of every value when it holds of an array and of an object whose parts have
it. -/
theorem forall_of_parts {property : Json → Prop} (hstring : ∀ text, property (.string text))
    (hnumber : ∀ value, property (.number value))
    (harray : ∀ items, (∀ item ∈ items, property item) → property (.array items))
    (hobject : ∀ members, (∀ member ∈ members, property member.2) → property (.object members))
    (value : Json) : property value := by
  induction hsize : sizeOf value using Nat.strongRecOn generalizing value with
  | ind size ih =>
    cases value with
    | string text => exact hstring text
    | number value => exact hnumber value
    | array items =>
      refine harray items fun item hitem ↦ ih (sizeOf item) ?_ item rfl
      have hless := List.sizeOf_lt_of_mem hitem
      rw [array.sizeOf_spec] at hsize
      omega
    | object members =>
      refine hobject members fun member hmember ↦ ih (sizeOf member.2) ?_ member.2 rfl
      have hless := List.sizeOf_lt_of_mem hmember
      obtain ⟨key, value⟩ := member
      rw [Prod.mk.sizeOf_spec] at hless
      rw [object.sizeOf_spec] at hsize
      dsimp only
      omega

/-! ### Signs -/

/-- Brackets, commas and colons. -/
inductive Punctuation where
  | openArray
  | closeArray
  | openObject
  | closeObject
  | comma
  | colon
  deriving Repr, DecidableEq

/-- The character of a mark. -/
def Punctuation.char : Punctuation → Char
  | openArray => '['
  | closeArray => ']'
  | openObject => '{'
  | closeObject => '}'
  | comma => ','
  | colon => ':'

/-- What JSON texts are made of. -/
inductive Sign where
  | mark (kind : Punctuation)
  | string (text : String)
  | number (value : Nat)
  deriving Repr, DecidableEq

namespace Sign

/-- The characters of a sign. -/
def spell : Sign → List Char
  | .mark kind => [kind.char]
  | .string text => (quote text).toList
  | .number value => (toString value).toList

/-- Whether a sign ends before the text: the digits of a number do not go on in it. -/
def EndsBefore : Sign → List Char → Prop
  | .number _, rest => ∀ c ∈ rest.head?, c.isDigit = false
  | .mark _, _ => True
  | .string _, _ => True

end Sign

mutual

/-- The signs of a value. -/
def signs : Json → List Sign
  | string text => [.string text]
  | number value => [.number value]
  | array items =>
    .mark .openArray :: ([.mark .comma].intercalate (signsOfItems items) ++ [.mark .closeArray])
  | object members =>
    .mark .openObject ::
      ([.mark .comma].intercalate (signsOfMembers members) ++ [.mark .closeObject])

/-- The signs of each item. -/
def signsOfItems : List Json → List (List Sign)
  | [] => []
  | item :: items => signs item :: signsOfItems items

/-- The signs of each member. -/
def signsOfMembers : List (String × Json) → List (List Sign)
  | [] => []
  | (key, value) :: members =>
    (.string key :: .mark .colon :: signs value) :: signsOfMembers members

end

/-- The signs of a member. -/
def signsOfMember (member : String × Json) : List Sign :=
  .string member.1 :: .mark .colon :: signs member.2

theorem signsOfItems_eq (items : List Json) : signsOfItems items = items.map signs := by
  induction items with
  | nil => rw [signsOfItems, List.map_nil]
  | cons item items ih => rw [signsOfItems, ih, List.map_cons]

theorem signsOfMembers_eq (members : List (String × Json)) :
    signsOfMembers members = members.map signsOfMember := by
  induction members with
  | nil => rw [signsOfMembers, List.map_nil]
  | cons member members ih => rw [signsOfMembers, ih, List.map_cons, signsOfMember]

/-! ### Values from signs -/

/-- Rows with a separator between them are the first row and a separator before each other one. -/
theorem intercalate_cons_eq {α : Type} (separator row : List α) (rows : List (List α)) :
    separator.intercalate (row :: rows) = row ++ rows.flatMap (separator ++ ·) := by
  induction rows generalizing row with
  | nil => simp
  | cons next rows ih =>
    rw [List.intercalate_cons_cons, ih, List.flatMap_cons, List.append_assoc, List.append_assoc]

section

variable {Part : Type} {write : Part → List Sign} {close : Punctuation} {parts parts' : List Part}
  {rest rest' : List Sign}

/-- Parts with a comma before each of them are told from their signs up to a closing bracket, when
each part is told from its signs. -/
theorem flatMap_comma_inj (hclose : close ≠ .comma)
    (hwrite : ∀ part ∈ parts, ∀ part' rest rest',
      write part ++ rest = write part' ++ rest' → part = part' ∧ rest = rest')
    (h : (parts.map write).flatMap ([.mark .comma] ++ ·) ++ .mark close :: rest =
      (parts'.map write).flatMap ([.mark .comma] ++ ·) ++ .mark close :: rest') :
    parts = parts' ∧ rest = rest' := by
  induction parts generalizing parts' with
  | nil =>
    cases parts' with
    | nil => exact ⟨rfl, (List.cons.inj h).2⟩
    | cons part' parts' => exact absurd (Sign.mark.inj (List.cons.inj h).1) hclose
  | cons part parts ih =>
    cases parts' with
    | nil => exact absurd (Sign.mark.inj (List.cons.inj h).1).symm hclose
    | cons part' parts' =>
      simp only [List.map_cons, List.flatMap_cons, List.append_assoc, List.singleton_append] at h
      obtain ⟨rfl, hothers⟩ := hwrite part List.mem_cons_self _ _ _ (List.cons.inj h).2
      obtain ⟨rfl, hrest⟩ := ih (fun other hother ↦ hwrite other (.tail _ hother)) hothers
      exact ⟨rfl, hrest⟩

/-- Parts with commas between them are told from their signs up to a closing bracket, when each part
is told from its signs and does not begin with the bracket. -/
theorem separated_inj (hclose : close ≠ .comma)
    (hfirst : ∀ part rest rest', write part ++ rest ≠ .mark close :: rest')
    (hwrite : ∀ part ∈ parts, ∀ part' rest rest',
      write part ++ rest = write part' ++ rest' → part = part' ∧ rest = rest')
    (h : [.mark .comma].intercalate (parts.map write) ++ .mark close :: rest =
      [.mark .comma].intercalate (parts'.map write) ++ .mark close :: rest') :
    parts = parts' ∧ rest = rest' := by
  cases parts with
  | nil =>
    cases parts' with
    | nil => exact ⟨rfl, (List.cons.inj h).2⟩
    | cons part' parts' =>
      rw [List.map_cons, intercalate_cons_eq, List.append_assoc] at h
      exact absurd h.symm (hfirst _ _ _)
  | cons part parts =>
    rw [List.map_cons, intercalate_cons_eq, List.append_assoc] at h
    cases parts' with
    | nil => exact absurd h (hfirst _ _ _)
    | cons part' parts' =>
      rw [List.map_cons, intercalate_cons_eq, List.append_assoc] at h
      obtain ⟨rfl, hothers⟩ := hwrite part List.mem_cons_self _ _ _ h
      obtain ⟨rfl, hrest⟩ := flatMap_comma_inj hclose
        (fun other hother ↦ hwrite other (.tail _ hother)) hothers
      exact ⟨rfl, hrest⟩

end

/-- A value does not begin with a closing bracket. -/
theorem signs_append_ne (value : Json) (rest rest' : List Sign) :
    signs value ++ rest ≠ .mark .closeArray :: rest' := by
  intro h
  cases value <;> rw [signs] at h <;> cases (List.cons.inj h).1

/-- A value is told from its signs, whatever signs stand behind them. -/
theorem signs_append_inj (value : Json) :
    ∀ value' rest rest', signs value ++ rest = signs value' ++ rest' →
      value = value' ∧ rest = rest' := by
  induction value using forall_of_parts with
  | hstring text =>
    intro value' rest rest' h
    rw [signs] at h
    cases value' <;> rw [signs] at h <;> cases (List.cons.inj h).1
    exact ⟨rfl, (List.cons.inj h).2⟩
  | hnumber number =>
    intro value' rest rest' h
    rw [signs] at h
    cases value' <;> rw [signs] at h <;> cases (List.cons.inj h).1
    exact ⟨rfl, (List.cons.inj h).2⟩
  | harray items ih =>
    intro value' rest rest' h
    rw [signs] at h
    cases value' <;> rw [signs] at h <;> cases (List.cons.inj h).1
    have hitems := (List.cons.inj h).2
    rw [List.append_eq, List.append_eq, signsOfItems_eq, signsOfItems_eq, List.append_assoc,
      List.append_assoc] at hitems
    obtain ⟨rfl, hback⟩ := separated_inj (by decide) signs_append_ne ih hitems
    exact ⟨rfl, hback⟩
  | hobject members ih =>
    intro value' rest rest' h
    rw [signs] at h
    cases value' <;> rw [signs] at h <;> cases (List.cons.inj h).1
    have hmembers := (List.cons.inj h).2
    rw [List.append_eq, List.append_eq, signsOfMembers_eq, signsOfMembers_eq, List.append_assoc,
      List.append_assoc] at hmembers
    have hfirst (member : String × Json) (rest rest' : List Sign) :
        signsOfMember member ++ rest ≠ .mark .closeObject :: rest' := by
      intro h
      cases (List.cons.inj h).1
    have hmember : ∀ member ∈ members, ∀ member' rest rest',
        signsOfMember member ++ rest = signsOfMember member' ++ rest' →
          member = member' ∧ rest = rest' := by
      intro member hmem member' rest rest' h
      obtain ⟨hkey, hcolon⟩ := List.cons.inj h
      obtain ⟨hvalue, hrest⟩ := ih member hmem member'.2 _ _ (List.cons.inj hcolon).2
      exact ⟨Prod.ext (Sign.string.inj hkey) hvalue, hrest⟩
    obtain ⟨rfl, hback⟩ := separated_inj (by decide) hfirst hmember hmembers
    exact ⟨rfl, hback⟩

theorem signs_inj {value value' : Json} (h : signs value = signs value') : value = value' :=
  (signs_append_inj value value' [] [] (by rw [h])).1

/-! ### Signs from texts -/

/-- Whether a text has the signs in their order, and gaps of the given characters before, between
and behind them. -/
def Laid (isGap : Char → Bool) : List Sign → List Char → Prop
  | [], text => ∀ c ∈ text, isGap c = true
  | sign :: signs, text =>
    ∃ gap rest, text = gap ++ (sign.spell ++ rest) ∧ (∀ c ∈ gap, isGap c = true) ∧
      sign.EndsBefore rest ∧ Laid isGap signs rest

/-- Whether a character may stand between signs. -/
def isBlank (c : Char) : Bool := c == ' ' || c == '\t' || c == '\n' || c == '\r'

theorem isBlank_of_isDigit {c : Char} (h : c.isDigit = true) : isBlank c = false := by
  rw [← Bool.not_eq_true]
  intro hblank
  simp only [isBlank, Bool.or_eq_true, beq_iff_eq] at hblank
  rcases hblank with ((rfl | rfl) | rfl) | rfl <;> exact absurd h (by decide)

namespace Punctuation

/-- The character of a mark is not a quote, a digit or a blank. -/
theorem char_ne (kind : Punctuation) :
    kind.char ≠ '"' ∧ kind.char.isDigit = false ∧ isBlank kind.char = false := by
  cases kind <;> decide

theorem char_inj {kind kind' : Punctuation} (h : kind.char = kind'.char) : kind = kind' := by
  cases kind <;> cases kind' <;> first | rfl | exact absurd h (by decide)

end Punctuation

namespace Sign

variable {sign sign' : Sign} {rest rest' : List Char}

/-- The digits of a number, of which there is at least one. -/
theorem exists_spell_number (value : Nat) :
    ∃ c digits, (number value).spell = c :: digits ∧ c.isDigit = true := by
  rcases hdigits : (number value).spell with _ | ⟨c, digits⟩
  · rw [spell, Text.toList_toString] at hdigits
    exact absurd hdigits Nat.toDigits_ne_nil
  · have hmem : c ∈ (number value).spell := hdigits ▸ List.mem_cons_self
    exact ⟨c, digits, rfl, Text.isDigit_of_mem_toString c hmem⟩

/-- No sign begins with a blank. -/
theorem exists_spell (sign : Sign) : ∃ c cs, sign.spell = c :: cs ∧ isBlank c = false := by
  cases sign with
  | mark kind => exact ⟨kind.char, [], rfl, kind.char_ne.2.2⟩
  | string text => exact ⟨'"', _, by rw [spell, toList_quote], by decide⟩
  | number value =>
    obtain ⟨c, digits, hspell, hdigit⟩ := exists_spell_number value
    exact ⟨c, digits, hspell, isBlank_of_isDigit hdigit⟩

theorem mark_append_ne_string {kind : Punctuation} {text : String} :
    (mark kind).spell ++ rest ≠ (string text).spell ++ rest' := by
  intro h
  rw [spell, spell, toList_quote] at h
  exact kind.char_ne.1 (List.cons.inj h).1

theorem mark_append_ne_number {kind : Punctuation} {value : Nat} :
    (mark kind).spell ++ rest ≠ (number value).spell ++ rest' := by
  obtain ⟨c, digits, hspell, hdigit⟩ := exists_spell_number value
  intro h
  rw [hspell, spell] at h
  rw [← (List.cons.inj h).1, kind.char_ne.2.1] at hdigit
  cases hdigit

theorem string_append_ne_number {text : String} {value : Nat} :
    (string text).spell ++ rest ≠ (number value).spell ++ rest' := by
  obtain ⟨c, digits, hspell, hdigit⟩ := exists_spell_number value
  intro h
  rw [hspell, spell, toList_quote] at h
  rw [← (List.cons.inj h).1] at hdigit
  exact absurd hdigit (by decide)

/-- A sign is told from its characters when it ends before what stands behind it. -/
theorem spell_append_inj (hends : sign.EndsBefore rest) (hends' : sign'.EndsBefore rest')
    (h : sign.spell ++ rest = sign'.spell ++ rest') : sign = sign' ∧ rest = rest' := by
  cases sign with
  | mark kind =>
    cases sign' with
    | mark kind' =>
      obtain ⟨hkind, hrest⟩ := List.cons.inj h
      exact ⟨by rw [Punctuation.char_inj hkind], hrest⟩
    | string text' => exact absurd h mark_append_ne_string
    | number value' => exact absurd h mark_append_ne_number
  | string text =>
    cases sign' with
    | mark kind' => exact absurd h.symm mark_append_ne_string
    | string text' =>
      obtain ⟨rfl, hrest⟩ := quote_append_inj h
      exact ⟨rfl, hrest⟩
    | number value' => exact absurd h string_append_ne_number
  | number value =>
    cases sign' with
    | mark kind' => exact absurd h.symm mark_append_ne_number
    | string text' => exact absurd h.symm string_append_ne_number
    | number value' =>
      obtain ⟨rfl, hrest⟩ := Text.toString_append_inj hends hends' h
      exact ⟨rfl, hrest⟩

end Sign

/-! ### Values from texts -/

/-- A text that has a sign is not made of blanks. -/
theorem not_forall_isBlank {sign : Sign} {gap rest : List Char} :
    ¬ ∀ c ∈ gap ++ (sign.spell ++ rest), isBlank c = true := by
  obtain ⟨c, cs, hspell, hblank⟩ := sign.exists_spell
  intro h
  have hmem : c ∈ gap ++ (sign.spell ++ rest) := by simp [hspell]
  rw [h c hmem] at hblank
  cases hblank

/-- A text is laid out from one row of signs only. -/
theorem Laid.unique {row row' : List Sign} {text : List Char} (h : Laid isBlank row text)
    (h' : Laid isBlank row' text) : row = row' := by
  induction row generalizing row' text with
  | nil =>
    cases row' with
    | nil => rfl
    | cons sign' row' =>
      obtain ⟨gap', rest', rfl, -⟩ := h'
      exact absurd h not_forall_isBlank
  | cons sign row ih =>
    obtain ⟨gap, rest, rfl, hgap, hends, hrest⟩ := h
    cases row' with
    | nil => exact absurd h' not_forall_isBlank
    | cons sign' row' =>
      obtain ⟨gap', rest', htext, hgap', hends', hrest'⟩ := h'
      have hfirst (sign : Sign) (rest : List Char) :
          ∀ c ∈ (sign.spell ++ rest).head?, isBlank c = false := by
        obtain ⟨c, cs, hspell, hblank⟩ := sign.exists_spell
        simpa [hspell] using hblank
      obtain ⟨-, hsigns⟩ := Text.append_inj_of_forall isBlank hgap hgap' (hfirst sign rest)
        (hfirst sign' rest') htext
      obtain ⟨rfl, rfl⟩ := Sign.spell_append_inj hends hends' hsigns
      rw [ih hrest hrest']

/-- Whether a text stands for a value: the signs of the value are laid out in it, with blanks around
them. -/
def Denotes (text : String) (value : Json) : Prop := Laid isBlank (signs value) text.toList

/-- A text stands for one value at most. -/
theorem Denotes.unique {text : String} {value value' : Json} (h : Denotes text value)
    (h' : Denotes text value') : value = value' :=
  signs_inj (Laid.unique h h')

end CucumberExpression.Json
