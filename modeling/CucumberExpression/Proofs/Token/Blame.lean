import CucumberExpression.Proofs.Token.Seam

/-!
# Marks to blame, and their mending

An error blames one mark of a source (`Mark.blame?`): a bare opening bracket for not being closed, a
bad pair or a lone escape for what follows the escape. Such a mark is loose, and one more escape
before the character to blame mends it (`Mark.mended`), as the hint of the error asks (`Heeded`).

Nothing but the mark changes, because the source is cut before it and behind it (`Mending`). A
mended mark makes a good pair, with a bare character behind it that is no bracket, or with nothing,
so mending leaves one loose mark less (`Mending.looseCount`) and spoils no escape
(`Mending.strayCount_le`). Both counts are of properties that do not depend on where a mark stands
(`Mark.countMarks`).
-/

set_option autoImplicit false
set_option relaxedAutoImplicit false

namespace CucumberExpression

namespace Mark

/-! ### Marks to blame -/

/-- The error that blames a mark: a bracket for not being closed, an escape for what follows it. -/
def blame? : Mark → Option SyntaxError
  | bare offset c =>
    if c = '\x7b' then some ⟨.unclosed .beginParameter .endParameter, ⟨offset, offset + 1⟩⟩
    else if c = '(' then some ⟨.unclosed .beginOptional .endOptional, ⟨offset, offset + 1⟩⟩
    else none
  | pair offset c => if canEscape c then none else some ⟨.badEscape, ⟨offset + 1, offset + 2⟩⟩
  | lone offset => some ⟨.escapedEnd, ⟨offset, offset + 1⟩⟩

/-- Whether an error may blame the mark. -/
def isLoose (mark : Mark) : Bool := mark.blame?.isSome

/-- Whether the mark is an escape to blame. -/
def isStray (mark : Mark) : Bool := mark.badEscape?.isSome || mark.isLone

/-- The characters of a mark with one more escape, before the character that its error blames. -/
def mended : Mark → List Char
  | bare _ c => [Symbol.escape.char, c]
  | pair _ c => [Symbol.escape.char, Symbol.escape.char, c]
  | lone _ => [Symbol.escape.char, Symbol.escape.char]

/-- The last character of a mark, which is the one that its error blames. -/
def blamed : Mark → Char
  | bare _ c | pair _ c => c
  | lone _ => Symbol.escape.char

/-- The error of a mark has the span of the character to blame, and one more escape stands there in
the mended mark. -/
theorem exists_lead {mark : Mark} {error : SyntaxError} (h : mark.blame? = some error) :
    ∃ lead, mark.chars = lead ++ [mark.blamed] ∧
      mark.mended = lead ++ [Symbol.escape.char, mark.blamed] ∧
        error.span = ⟨mark.span.start + lead.length, mark.span.start + lead.length + 1⟩ := by
  cases mark with
  | bare offset c =>
    refine ⟨[], rfl, rfl, ?_⟩
    rw [blame?] at h
    split_ifs at h <;> exact congrArg SyntaxError.span (Option.some.inj h).symm
  | pair offset c =>
    refine ⟨[Symbol.escape.char], rfl, rfl, ?_⟩
    rw [blame?] at h
    split_ifs at h
    exact congrArg SyntaxError.span (Option.some.inj h).symm
  | lone offset => exact ⟨[], rfl, rfl, congrArg SyntaxError.span (Option.some.inj h).symm⟩

theorem isLoose_bare {offset : Nat} {c : Char} :
    (bare offset c).isLoose = true ↔ c = '\x7b' ∨ c = '(' := by
  rw [isLoose, blame?]
  split_ifs with hbrace hparenthesis <;> simp [*]

theorem isLoose_pair {offset : Nat} {c : Char} :
    (pair offset c).isLoose = !canEscape c := by
  rw [isLoose, blame?]
  cases canEscape c <;> rfl

theorem isStray_pair {offset : Nat} {c : Char} : (pair offset c).isStray = !canEscape c := by
  simp only [isStray, badEscape?, isLone, Bool.or_false]
  cases canEscape c <;> rfl

theorem isLoose_shift (count : Nat) (mark : Mark) : (mark.shift count).isLoose = mark.isLoose := by
  cases mark with
  | bare offset c =>
    rw [Bool.eq_iff_iff]
    exact isLoose_bare.trans isLoose_bare.symm
  | pair offset c => exact isLoose_pair.trans isLoose_pair.symm
  | lone offset => rfl

theorem isStray_shift (count : Nat) (mark : Mark) : (mark.shift count).isStray = mark.isStray := by
  rw [isStray, badEscape?_shift, isLone_shift, Option.isSome_map, isStray]

/-! ### Counting marks -/

/-- How many marks of a source have a property. -/
def countMarks (property : Mark → Bool) (chars : List Char) : Nat :=
  (marks 0 chars).countP property

section Count

variable {property : Mark → Bool}
  (hshift : ∀ count mark, property (mark.shift count) = property mark)

include hshift

/-- The count does not depend on where the source stands. -/
theorem countP_marks (offset : Nat) (chars : List Char) :
    (marks offset chars).countP property = countMarks property chars := by
  have hmove : marks offset chars = (marks 0 chars).map (shift offset) := marks_add offset 0 chars
  rw [hmove, List.countP_map, countMarks]
  exact List.countP_congr fun mark _ ↦ by rw [Function.comp_apply, hshift]

theorem countMarks_append {front : List Char} (h : (marks 0 front).any isLone = false)
    (back : List Char) :
    countMarks property (front ++ back) =
      countMarks property front + countMarks property back := by
  rw [countMarks, marks_append h, List.countP_append, countP_marks hshift _ back]
  rfl

theorem countMarks_bare {c : Char} (h : c ≠ Symbol.escape.char) (offset : Nat) (back : List Char) :
    countMarks property (c :: back) =
      countMarks property back + if property (.bare offset c) then 1 else 0 := by
  have hmove : property (.bare offset c) = property (.bare 0 c) := hshift offset (.bare 0 c)
  rw [hmove, countMarks, marks_bare h, List.countP_cons, countP_marks hshift]

theorem countMarks_pair (c : Char) (offset : Nat) (back : List Char) :
    countMarks property (Symbol.escape.char :: c :: back) =
      countMarks property back + if property (.pair offset c) then 1 else 0 := by
  have hmove : property (.pair offset c) = property (.pair 0 c) := hshift offset (.pair 0 c)
  rw [hmove, countMarks, marks_pair, List.countP_cons, countP_marks hshift]

/-! ### Mending one mark -/

variable {mark : Mark} {back : List Char} (hloose : mark.isLoose = true)
  (hback : mark.isLone = true → back = [])

include hloose hback

/-- A loose mark counts for itself. -/
theorem countMarks_chars_append : countMarks property (mark.chars ++ back) =
    countMarks property back + if property mark then 1 else 0 := by
  cases mark with
  | bare offset c =>
    have hc : c ≠ Symbol.escape.char := by
      rcases isLoose_bare.mp hloose with rfl | rfl <;> decide
    exact countMarks_bare hshift hc offset back
  | pair offset c => exact countMarks_pair hshift c offset back
  | lone offset =>
    have hmove : property (.lone offset) = property (.lone 0) := hshift offset (.lone 0)
    rw [hback rfl, hmove, List.append_nil, chars, countMarks, marks_lone, List.countP_singleton]
    exact (Nat.zero_add _).symm

/-- Assumes: a property that neither a good pair nor the character of a bad one has by itself. When
a loose mark is mended, nothing of it has the property any more. -/
theorem countMarks_mended_append
    (hgood : ∀ offset c, canEscape c = true → property (.pair offset c) = false)
    (hplain : ∀ offset c, canEscape c = false → property (.bare offset c) = false) :
    countMarks property (mark.mended ++ back) = countMarks property back := by
  have hescape : property (.pair 0 Symbol.escape.char) = false := hgood 0 _ canEscape_escape
  cases mark with
  | bare offset c =>
    have hc : canEscape c = true := by
      rcases isLoose_bare.mp hloose with rfl | rfl <;> decide
    have hpair := countMarks_pair hshift c offset back
    rw [hgood offset c hc] at hpair
    exact hpair
  | pair offset c =>
    have hc : canEscape c = false := by
      rw [isLoose_pair] at hloose
      simpa using hloose
    have hne : c ≠ Symbol.escape.char := by
      rintro rfl
      exact absurd hc (by decide)
    have hbare := countMarks_bare hshift hne offset back
    have hpair := countMarks_pair hshift Symbol.escape.char 0 (c :: back)
    rw [hplain offset c hc] at hbare
    rw [hescape, hbare] at hpair
    exact hpair
  | lone offset =>
    have hpair := countMarks_pair hshift Symbol.escape.char 0 back
    rw [hescape] at hpair
    rw [hback rfl] at hpair ⊢
    exact hpair

end Count

/-- Every loose mark has an escape or an opening bracket of its own. -/
theorem countP_isLoose_le (offset : Nat) (chars : List Char) :
    (marks offset chars).countP isLoose ≤ chars.countP (· ∈ ['\\', '(', '\x7b']) := by
  induction offset, chars using marks.induct with
  | case1 offset => exact Nat.le_refl 0
  | case2 offset => exact List.countP_le_length
  | case3 offset c rest ih =>
    rw [marks_pair, List.countP_cons, List.countP_cons, List.countP_cons]
    have hescape : decide (Symbol.escape.char ∈ ['\\', '(', '\x7b']) = true := by decide
    rw [hescape, if_pos rfl]
    split_ifs <;> omega
  | case4 offset c rest hc ih =>
    rw [marks_bare hc, List.countP_cons, List.countP_cons]
    by_cases hloose : (bare offset c).isLoose = true
    · have hmem : decide (c ∈ ['\\', '(', '\x7b']) = true := by
        rcases isLoose_bare.mp hloose with rfl | rfl <;> decide
      rw [if_pos hloose, if_pos hmem]
      exact Nat.add_le_add_right ih 1
    · rw [if_neg hloose]
      exact Nat.le_add_right_of_le ih

end Mark

/-! ### One mending -/

/-- The source with one more escape, before the character at an offset. -/
def escapeAt (offset : Nat) (source : String) : String :=
  String.ofList (source.toList.take offset ++ Symbol.escape.char :: source.toList.drop offset)

theorem toList_escapeAt {source : String} {front back : List Char}
    (h : source.toList = front ++ back) :
    (escapeAt front.length source).toList = front ++ Symbol.escape.char :: back := by
  rw [escapeAt, String.toList_ofList, h, List.take_left, List.drop_left]

/-- What the hint of an error asks for: to double an escape that escapes nothing, or to escape a
bracket. -/
inductive Heeded : SyntaxError → List Char → List Char → Prop
  | badEscape (front : List Char) (c : Char) (back : List Char) (hc : canEscape c = false) :
    Heeded ⟨.badEscape, ⟨front.length + 1, front.length + 2⟩⟩ (front ++ '\\' :: c :: back)
      (front ++ '\\' :: '\\' :: c :: back)
  | escapedEnd (front : List Char) :
    Heeded ⟨.escapedEnd, ⟨front.length, front.length + 1⟩⟩ (front ++ ['\\'])
      (front ++ ['\\', '\\'])
  | parameter (front back : List Char) :
    Heeded ⟨.unclosed .beginParameter .endParameter, ⟨front.length, front.length + 1⟩⟩
      (front ++ '\x7b' :: back) (front ++ '\\' :: '\x7b' :: back)
  | optional (front back : List Char) :
    Heeded ⟨.unclosed .beginOptional .endOptional, ⟨front.length, front.length + 1⟩⟩
      (front ++ '(' :: back) (front ++ '\\' :: '(' :: back)

/-- A source with a mark that an error blames, before and after the mark is mended. -/
structure Mending (error : SyntaxError) (before after : List Char) where
  mark : Mark
  front : List Char
  back : List Char
  blamed : mark.blame? = some error
  start_eq : mark.span.start = front.length
  /-- The mark is not the second half of a pair. -/
  apart : (marks 0 front).any Mark.isLone = false
  back_eq_nil : mark.isLone = true → back = []
  before_eq : before = front ++ (mark.chars ++ back)
  after_eq : after = front ++ (mark.mended ++ back)

namespace Mending

open Mark

variable {error : SyntaxError} {before after : List Char}

theorem isLoose (mending : Mending error before after) : mending.mark.isLoose = true := by
  rw [Mark.isLoose, mending.blamed]
  rfl

section Count

variable {property : Mark → Bool}
  (hshift : ∀ count mark, property (mark.shift count) = property mark)

include hshift

theorem count_before (mending : Mending error before after) : countMarks property before =
    countMarks property mending.front +
      (countMarks property mending.back + if property mending.mark then 1 else 0) := by
  have hcount := congrArg (countMarks property) mending.before_eq
  rw [hcount, countMarks_append hshift mending.apart,
    countMarks_chars_append hshift mending.isLoose mending.back_eq_nil]

theorem count_after (mending : Mending error before after)
    (hgood : ∀ offset c, canEscape c = true → property (.pair offset c) = false)
    (hplain : ∀ offset c, canEscape c = false → property (.bare offset c) = false) :
    countMarks property after =
      countMarks property mending.front + countMarks property mending.back := by
  have hcount := congrArg (countMarks property) mending.after_eq
  rw [hcount, countMarks_append hshift mending.apart,
    countMarks_mended_append hshift mending.isLoose mending.back_eq_nil hgood hplain]

end Count

/-- Mending leaves one loose mark less. -/
theorem looseCount (mending : Mending error before after) :
    countMarks Mark.isLoose after + 1 = countMarks Mark.isLoose before := by
  rw [mending.count_before isLoose_shift, mending.count_after isLoose_shift,
    if_pos mending.isLoose, Nat.add_assoc]
  · intro offset c hc
    rw [isLoose_pair, hc]
    rfl
  · intro offset c hc
    rw [← Bool.not_eq_true, isLoose_bare]
    rintro (rfl | rfl) <;> exact absurd hc (by decide)

/-- Mending spoils no escape. -/
theorem strayCount_le (mending : Mending error before after) :
    countMarks isStray after ≤ countMarks isStray before := by
  rw [mending.count_before isStray_shift, mending.count_after isStray_shift]
  · exact Nat.add_le_add_left (Nat.le_add_right _ _) _
  · intro offset c hc
    rw [isStray_pair, hc]
    rfl
  · exact fun offset c hc ↦ rfl

/-- Mending does what the hint of the error asks for. -/
theorem heeded (mending : Mending error before after) : Heeded error before after := by
  obtain ⟨mark, front, back, hblamed, hoffset, -, hback, rfl, rfl⟩ := mending
  cases mark with
  | bare offset c =>
    obtain rfl : offset = front.length := hoffset
    rw [blame?] at hblamed
    split_ifs at hblamed with hbrace hparenthesis
    · obtain rfl := hbrace
      obtain rfl := Option.some.inj hblamed
      exact .parameter front back
    · obtain rfl := hparenthesis
      obtain rfl := Option.some.inj hblamed
      exact .optional front back
  | pair offset c =>
    obtain rfl : offset = front.length := hoffset
    rw [blame?] at hblamed
    split_ifs at hblamed with hc
    obtain rfl := Option.some.inj hblamed
    exact .badEscape front c back (by simpa using hc)
  | lone offset =>
    obtain rfl : offset = front.length := hoffset
    obtain rfl := Option.some.inj hblamed
    rw [hback rfl]
    exact .escapedEnd front

end Mending

end CucumberExpression
