/-!
# Blanks

Character classes are written as lists of closed ranges of code points in increasing order. A search
may stop at the first range that starts above the point, so text in the low part of the code space
never walks a long table.

The first of these classes are the blanks, the characters with the Unicode property White_Space.
They separate the words of an expression, may be escaped, and are what trimming removes. What is
left by trimming does not end in a blank, and is the only part of the text that can be left
(`trimEnd_eq_iff`).
-/

set_option autoImplicit false
set_option relaxedAutoImplicit false

namespace CucumberExpression.Text

/-! ### Ranges of code points -/

/-- A closed range of code points. -/
structure CodeRange where
  first : Nat
  last : Nat
  deriving Repr, DecidableEq

namespace CodeRange

/-- Whether a point lies in one of the ranges. Assumes: the ranges stand in increasing order. -/
def covers : List CodeRange → Nat → Bool
  | [], _ => false
  | range :: rest, point =>
    if point < range.first then false
    else if point ≤ range.last then true
    else covers rest point

end CodeRange

/-! ### Blanks -/

/-- The code points with the property White_Space. -/
def blankRanges : List CodeRange :=
  [⟨0x09, 0x0D⟩, ⟨0x20, 0x20⟩, ⟨0x85, 0x85⟩, ⟨0xA0, 0xA0⟩, ⟨0x1680, 0x1680⟩, ⟨0x2000, 0x200A⟩,
    ⟨0x2028, 0x2029⟩, ⟨0x202F, 0x202F⟩, ⟨0x205F, 0x205F⟩, ⟨0x3000, 0x3000⟩]

/-- Whether a character has the property White_Space. -/
def isBlank (c : Char) : Bool :=
  CodeRange.covers blankRanges c.toNat

/-! ### Trimming -/

/-- The text without the characters at its end that satisfy a predicate. -/
def dropEndWhile (property : Char → Bool) (s : String) : String :=
  String.ofList (s.toList.reverse.dropWhile property).reverse

/-- What is left of a text does not end in a character with the property, and only characters with
the property stand behind it. Nothing else is a part of the text of this form. -/
theorem dropEndWhile_eq_iff {property : Char → Bool} {s t : String} :
    dropEndWhile property s = t ↔
      (∃ dropped, s.toList = t.toList ++ dropped ∧ ∀ c ∈ dropped, property c = true) ∧
        ∀ c ∈ t.toList.getLast?, property c = false := by
  constructor
  · rintro rfl
    rw [dropEndWhile, String.toList_ofList]
    refine ⟨⟨(s.toList.reverse.takeWhile property).reverse, ?_, fun c hc ↦ ?_⟩, fun c hc ↦ ?_⟩
    · rw [← List.reverse_append, List.takeWhile_append_dropWhile, List.reverse_reverse]
    · exact List.all_eq_true.mp List.all_takeWhile c (List.mem_reverse.mp hc)
    · have hfirst := List.head?_dropWhile_not property s.toList.reverse
      rw [List.getLast?_reverse] at hc
      rw [hc] at hfirst
      exact hfirst
  · rintro ⟨⟨dropped, hs, hdropped⟩, hlast⟩
    have hback : ∀ c ∈ dropped.reverse, property c = true :=
      fun c hc ↦ hdropped c (List.mem_reverse.mp hc)
    have hfront : t.toList.reverse.dropWhile property = t.toList.reverse := by
      rw [← List.head?_reverse] at hlast
      cases hreverse : t.toList.reverse with
      | nil => rfl
      | cons c cs =>
        rw [hreverse] at hlast
        exact List.dropWhile_cons_of_neg (by simp [hlast c rfl])
    rw [dropEndWhile, hs, List.reverse_append, List.dropWhile_append_of_pos hback, hfront,
      List.reverse_reverse, String.ofList_toList]

/-- The text without the blanks at its end. -/
def trimEnd (s : String) : String := dropEndWhile isBlank s

/-- What is left of a text does not end in a blank, and only blanks stand behind it. -/
theorem trimEnd_eq_iff {s t : String} : trimEnd s = t ↔
    (∃ blanks, s.toList = t.toList ++ blanks ∧ ∀ c ∈ blanks, isBlank c = true) ∧
      ∀ c ∈ t.toList.getLast?, isBlank c = false :=
  dropEndWhile_eq_iff

end CucumberExpression.Text
