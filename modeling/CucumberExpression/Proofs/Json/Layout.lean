import CucumberExpression.Proofs.Json.Signs

/-!
# The forms of a JSON value

Both forms of a value have its signs in their order. The compact form has nothing else
(`toList_compact`); the form with one member to a line has blanks around them, and nothing else
(`lays_prettyAt`). So both forms stand for the value, and for no other (`denotes_compact_iff`,
`denotes_pretty_iff`).

What is put in front of a text keeps it laid out (`Lays`), so that forms can be put together from
their parts, from the back to the front. A number is put only where no digit stands behind it: at
the end of a text, and in front of a comma, a closing bracket or a line break.
-/

set_option autoImplicit false
set_option relaxedAutoImplicit false

namespace CucumberExpression.Json

variable {isGap : Char → Bool}

/-! ### Gaps -/

namespace Laid

variable {row : List Sign} {text : List Char}

theorem gap_append {gap : List Char} (hgap : ∀ c ∈ gap, isGap c = true) (h : Laid isGap row text) :
    Laid isGap row (gap ++ text) := by
  cases row with
  | nil =>
    intro c hc
    rcases List.mem_append.mp hc with hfront | hback
    · exact hgap c hfront
    · exact h c hback
  | cons sign row =>
    obtain ⟨front, back, rfl, hfront, hends, hback⟩ := h
    refine ⟨gap ++ front, back, by rw [List.append_assoc], ?_, hends, hback⟩
    intro c hc
    rcases List.mem_append.mp hc with hfirst | hsecond
    · exact hgap c hfirst
    · exact hfront c hsecond

theorem spell_append (sign : Sign) (hends : sign.EndsBefore text) (h : Laid isGap row text) :
    Laid isGap (sign :: row) (sign.spell ++ text) :=
  ⟨[], text, rfl, by simp, hends, h⟩

/-- A text without gaps is its signs one after another. -/
theorem eq_flatMap (h : Laid (fun _ ↦ false) row text) : text = row.flatMap Sign.spell := by
  have hnil {gap : List Char} (hgap : ∀ c ∈ gap, false = true) : gap = [] :=
    List.eq_nil_iff_forall_not_mem.mpr fun c hc ↦ Bool.false_ne_true (hgap c hc)
  induction row generalizing text with
  | nil => rw [List.flatMap_nil, hnil h]
  | cons sign row ih =>
    obtain ⟨gap, rest, rfl, hgap, -, hrest⟩ := h
    rw [hnil hgap, List.nil_append, List.flatMap_cons, ih hrest]

end Laid

/-! ### Putting signs in front -/

/-- Whether a text can be put in front of others, which then have the signs of the text in front of
theirs. They must not begin with a digit. -/
def Lays (isGap : Char → Bool) (text : List Char) (front : List Sign) : Prop :=
  ∀ row rest, (∀ c ∈ rest.head?, c.isDigit = false) → Laid isGap row rest →
    Laid isGap (front ++ row) (text ++ rest)

namespace Lays

variable {text back : List Char} {front row : List Sign}

theorem nil : Lays isGap [] [] := fun _ _ _ h ↦ h

theorem number (value : Nat) : Lays isGap (toString value).toList [.number value] :=
  fun _ _ hends h ↦ h.spell_append (.number value) hends

theorem string (s : String) : Lays isGap (quote s).toList [.string s] :=
  fun _ _ _ h ↦ h.spell_append (.string s) trivial

theorem gap_append {gap : List Char} (hgap : ∀ c ∈ gap, isGap c = true)
    (h : Lays isGap text front) : Lays isGap (gap ++ text) front := by
  intro row rest hends hrest
  rw [List.append_assoc]
  exact (h row rest hends hrest).gap_append hgap

theorem mark_cons (kind : Punctuation) (h : Lays isGap text front) :
    Lays isGap (kind.char :: text) (.mark kind :: front) :=
  fun row rest hends hrest ↦ (h row rest hends hrest).spell_append (.mark kind) trivial

theorem append (hdigit : ∀ c ∈ back.head?, c.isDigit = false) (h : Lays isGap text front)
    (hback : Lays isGap back row) : Lays isGap (text ++ back) (front ++ row) := by
  intro others rest hends hrest
  rw [List.append_assoc, List.append_assoc]
  refine h _ _ ?_ (hback others rest hends hrest)
  cases back with
  | nil => exact hends
  | cons c back => exact hdigit

/-- A text between brackets, with a gap before the closing one. -/
theorem enclosed (opening closing : Punctuation) (gap : List Char)
    (hgap : ∀ c ∈ gap, isGap c = true) (hdigit : ∀ c ∈ gap.head?, c.isDigit = false)
    (h : Lays isGap text front) :
    Lays isGap (opening.char :: (text ++ (gap ++ [closing.char])))
      (.mark opening :: (front ++ [.mark closing])) := by
  have hclosing : Lays isGap (gap ++ [closing.char]) [.mark closing] :=
    (nil.mark_cons closing).gap_append hgap
  refine (h.append ?_ hclosing).mark_cons opening
  cases gap with
  | nil => simpa using closing.char_ne.2.1
  | cons c gap => exact hdigit

/-- A key, a colon and a value. -/
theorem member (key : String) (h : Lays isGap text front) :
    Lays isGap ((quote key).toList ++ ':' :: text) (.string key :: .mark .colon :: front) :=
  (string key).append (by simp) (h.mark_cons .colon)

/-- Parts with commas between them. -/
theorem separated {Part : Type} {write : Part → List Char} {spell : Part → List Sign}
    {parts : List Part} (h : ∀ part ∈ parts, Lays isGap (write part) (spell part)) :
    Lays isGap ([','].intercalate (parts.map write))
      ([.mark .comma].intercalate (parts.map spell)) := by
  induction parts with
  | nil => exact nil
  | cons part parts ih =>
    have hpart := h part List.mem_cons_self
    cases parts with
    | nil => simpa using hpart
    | cons next parts =>
      have hothers := (ih fun other hother ↦ h other (.tail _ hother)).mark_cons .comma
      rw [List.map_cons, List.map_cons, List.intercalate_cons_cons, List.append_assoc,
        List.map_cons, List.map_cons, List.intercalate_cons_cons, List.append_assoc]
      exact hpart.append (by simp) hothers

end Lays

/-- What can be put in front of every text is laid out by itself. -/
theorem Lays.laid {text : List Char} {row : List Sign} (h : Lays isGap text row) :
    Laid isGap row text := by
  have hend : Laid isGap (row ++ []) (text ++ []) := h [] [] (by simp) (by simp [Laid])
  rwa [List.append_nil, List.append_nil] at hend

/-- A text for parts that is written part by part, with a comma behind each but the last. -/
theorem toList_eq_intercalate {Part : Type} {write : List Part → String}
    {writePart : Part → List Char} (hnil : write [] = "")
    (hlast : ∀ part, (write [part]).toList = writePart part)
    (hcons : ∀ part next parts, (write (part :: next :: parts)).toList =
      writePart part ++ ',' :: (write (next :: parts)).toList) {parts : List Part} :
    (write parts).toList = [','].intercalate (parts.map writePart) := by
  induction parts with
  | nil => rw [hnil, String.toList_empty, List.map_nil, List.intercalate_nil]
  | cons part parts ih =>
    cases parts with
    | nil => rw [hlast, List.map_singleton, List.intercalate_singleton]
    | cons next parts =>
      rw [hcons, ih, List.map_cons, List.map_cons, List.map_cons, List.intercalate_cons_cons,
        List.append_assoc, List.singleton_append]

/-! ### Compact form -/

theorem toList_compactItems (items : List Json) :
    (compactItems items).toList =
      [','].intercalate (items.map fun item ↦ (compact item).toList) :=
  toList_eq_intercalate rfl (fun _ ↦ by rw [compactItems]) (fun _ _ _ ↦ by simp [compactItems])

/-- A member of an object in compact form. -/
def compactMember (member : String × Json) : List Char :=
  (quote member.1).toList ++ ':' :: (compact member.2).toList

theorem toList_compactMembers (members : List (String × Json)) :
    (compactMembers members).toList = [','].intercalate (members.map compactMember) :=
  toList_eq_intercalate rfl (fun _ ↦ by simp [compactMembers, compactMember])
    (fun _ _ _ ↦ by simp [compactMembers, compactMember])

/-- The compact form needs no gaps. -/
theorem lays_compact (isGap : Char → Bool) (value : Json) :
    Lays isGap (compact value).toList (signs value) := by
  induction value using forall_of_parts with
  | hstring text =>
    rw [compact, signs]
    exact .string text
  | hnumber number =>
    rw [compact, signs]
    exact .number number
  | harray items ih =>
    rw [compact, signs, String.toList_append, String.toList_append, toList_compactItems,
      signsOfItems_eq]
    exact (Lays.separated ih).enclosed .openArray .closeArray [] (by simp) (by simp)
  | hobject members ih =>
    have hmember : ∀ member ∈ members,
        Lays isGap (compactMember member) (signsOfMember member) := fun member hmem ↦
      (ih member hmem).member member.1
    rw [compact, signs, String.toList_append, String.toList_append, toList_compactMembers,
      signsOfMembers_eq]
    exact (Lays.separated hmember).enclosed .openObject .closeObject [] (by simp) (by simp)

/-- The compact form is the signs of the value, one after another. -/
theorem toList_compact (value : Json) :
    (compact value).toList = (signs value).flatMap Sign.spell :=
  (lays_compact _ value).laid.eq_flatMap

/-! ### Form with one member to a line -/

theorem toList_newLine (level : Nat) :
    (newLine level).toList = '\n' :: List.replicate (2 * level) ' ' := by
  simp [newLine]

theorem isBlank_of_mem_newLine (level : Nat) : ∀ c ∈ (newLine level).toList, isBlank c = true := by
  intro c hc
  rw [toList_newLine] at hc
  rcases List.mem_cons.mp hc with rfl | hblank
  · decide
  · rw [List.eq_of_mem_replicate hblank]
    decide

/-- An item of an array on a line of its own. -/
def prettyItem (level : Nat) (item : Json) : List Char :=
  (newLine level).toList ++ (prettyAt level item).toList

theorem toList_prettyItems (level : Nat) (items : List Json) :
    (prettyItems level items).toList = [','].intercalate (items.map (prettyItem level)) :=
  toList_eq_intercalate rfl (fun _ ↦ by simp [prettyItems, prettyItem])
    (fun _ _ _ ↦ by simp [prettyItems, prettyItem])

/-- A member of an object on a line of its own. -/
def prettyMember (level : Nat) (member : String × Json) : List Char :=
  (newLine level).toList ++
    ((quote member.1).toList ++ ':' :: ' ' :: (prettyAt level member.2).toList)

theorem toList_prettyMembers (level : Nat) (members : List (String × Json)) :
    (prettyMembers level members).toList =
      [','].intercalate (members.map (prettyMember level)) :=
  toList_eq_intercalate rfl (fun _ ↦ by simp [prettyMembers, prettyMember])
    (fun _ _ _ ↦ by simp [prettyMembers, prettyMember])

theorem newLine_head? (level : Nat) : ∀ c ∈ (newLine level).toList.head?, c.isDigit = false := by
  simp [toList_newLine]

/-- The form with one member to a line has blanks in its gaps. -/
theorem lays_prettyAt (level : Nat) (value : Json) :
    Lays isBlank (prettyAt level value).toList (signs value) := by
  induction value using forall_of_parts generalizing level with
  | hstring text =>
    rw [prettyAt, signs]
    exact .string text
  | hnumber number =>
    rw [prettyAt, signs]
    exact .number number
  | harray items ih =>
    cases items with
    | nil =>
      rw [prettyAt, signs]
      exact Lays.nil.enclosed .openArray .closeArray [] (by simp) (by simp)
    | cons item items =>
      have hitem : ∀ other ∈ item :: items,
          Lays isBlank (prettyItem (level + 1) other) (signs other) := fun other hmem ↦
        (ih other hmem (level + 1)).gap_append (isBlank_of_mem_newLine (level + 1))
      rw [prettyAt, signs, String.toList_append, String.toList_append, String.toList_append,
        toList_prettyItems, signsOfItems_eq, List.append_assoc, List.append_assoc]
      exact (Lays.separated hitem).enclosed .openArray .closeArray _ (isBlank_of_mem_newLine level)
        (newLine_head? level)
  | hobject members ih =>
    cases members with
    | nil =>
      rw [prettyAt, signs]
      exact Lays.nil.enclosed .openObject .closeObject [] (by simp) (by simp)
    | cons member members =>
      have hmember : ∀ other ∈ member :: members,
          Lays isBlank (prettyMember (level + 1) other) (signsOfMember other) := by
        intro other hmem
        have hblank : ∀ c ∈ [' '], isBlank c = true := List.forall_mem_singleton.mpr rfl
        have hvalue := (ih other hmem (level + 1)).gap_append hblank
        exact (hvalue.member other.1).gap_append (isBlank_of_mem_newLine (level + 1))
      rw [prettyAt, signs, String.toList_append, String.toList_append, String.toList_append,
        toList_prettyMembers, signsOfMembers_eq, List.append_assoc, List.append_assoc]
      exact (Lays.separated hmember).enclosed .openObject .closeObject _
        (isBlank_of_mem_newLine level) (newLine_head? level)

/-! ### What the forms stand for -/

/-- The compact form stands for the value and for no other. -/
theorem denotes_compact_iff (value other : Json) :
    Denotes (compact value) other ↔ other = value := by
  have hvalue : Denotes (compact value) value := (lays_compact isBlank value).laid
  exact ⟨fun hother ↦ hother.unique hvalue, fun heq ↦ heq ▸ hvalue⟩

/-- The form with one member to a line stands for the value and for no other. -/
theorem denotes_pretty_iff (value other : Json) :
    Denotes (pretty value) other ↔ other = value := by
  have hvalue : Denotes (pretty value) value := (lays_prettyAt 0 value).laid
  exact ⟨fun hother ↦ hother.unique hvalue, fun heq ↦ heq ▸ hvalue⟩

theorem compact_inj {value value' : Json} (h : compact value = compact value') : value = value' :=
  (denotes_compact_iff value' value).mp (h ▸ (denotes_compact_iff value value).mpr rfl)

theorem pretty_inj {value value' : Json} (h : pretty value = pretty value') : value = value' :=
  (denotes_pretty_iff value' value).mp (h ▸ (denotes_pretty_iff value value).mpr rfl)

end CucumberExpression.Json
