import CucumberExpression.Json
import CucumberExpression.Text.Quoted
import CucumberExpression.Proofs.Text.Delimited
import Mathlib.Tactic.SplitIfs

/-!
# Reading quoted texts

A quoted text is written piece by piece, one for each character, and each piece can be read back:
the backslash opens an escape, which tells by the next character where it ends, and any other
character stands for itself (`Text.readPiece?_quotedChar`). No piece begins with a quote, so the
quote behind the pieces ends them. Hence a quoted text is told from what it is written as, whatever
stands behind it (`Text.quoteHiding_append_inj`), and it is a part of one line
(`Text.lineFeed_not_mem_quoteHiding`). All of this holds for any set of hidden characters.

The strings of JSON are written in the same way with escapes of their own
(`Json.readEscaped?_escapedChar`), of six characters when the backslash is followed by `u` and of
two otherwise.
-/

set_option autoImplicit false
set_option relaxedAutoImplicit false

namespace CucumberExpression

namespace Text

/-! ### Hexadecimal digits -/

/-- The value of a hexadecimal digit. -/
def hexValue (c : Char) : Nat :=
  if c.isDigit then c.toNat - '0'.toNat else c.toNat - 'a'.toNat + 10

/-- The number that hexadecimal digits stand for. -/
def hexNumber (digits : List Char) : Nat :=
  digits.foldl (fun value c ↦ 16 * value + hexValue c) 0

theorem hexValue_digitChar : ∀ value < 16, hexValue value.digitChar = value := by
  decide

theorem hexNumber_toDigits (number : Nat) : hexNumber (Nat.toDigits 16 number) = number := by
  induction number using Nat.strongRecOn with
  | _ number ih =>
    by_cases hsmall : number < 16
    · rw [Nat.toDigits_of_lt_base hsmall, hexNumber, List.foldl_cons, List.foldl_nil,
        hexValue_digitChar number hsmall, Nat.mul_zero, Nat.zero_add]
    · have hfront := ih (number / 16) (by omega)
      rw [hexNumber] at hfront
      rw [Nat.toDigits_of_base_le (by decide) (by omega), hexNumber, List.foldl_append, hfront,
        List.foldl_cons, List.foldl_nil, hexValue_digitChar _ (Nat.mod_lt _ (by decide)),
        Nat.div_add_mod]

/-- Hexadecimal digits are written with digits and the first letters. -/
theorem exists_digitChar_of_mem_toDigits {number : Nat} {c : Char}
    (hc : c ∈ Nat.toDigits 16 number) : ∃ value < 16, c = value.digitChar := by
  induction number using Nat.strongRecOn with
  | _ number ih =>
    by_cases hsmall : number < 16
    · rw [Nat.toDigits_of_lt_base hsmall] at hc
      exact ⟨number, hsmall, List.mem_singleton.mp hc⟩
    · rw [Nat.toDigits_of_base_le (by decide) (by omega)] at hc
      rcases List.mem_append.mp hc with hfront | hlast
      · exact ih (number / 16) (by omega) hfront
      · exact ⟨number % 16, Nat.mod_lt _ (by decide), List.mem_singleton.mp hlast⟩

theorem digitChar_ne : ∀ value < 16, value.digitChar ≠ '}' ∧ value.digitChar ≠ '\n' := by
  decide

/-! ### Pieces -/

/-- The character that a short escape stands for. -/
def unescape? (c : Char) : Option Char :=
  if c = '"' ∨ c = '\\' then some c
  else if c = '0' then some '\x00'
  else if c = 't' then some '\t'
  else if c = 'n' then some '\n'
  else if c = 'r' then some '\r'
  else none

/-- Reads the first piece of a quoted text: the character that it stands for, and what stands behind
the piece. -/
def readPiece? : List Char → Option (Char × List Char)
  | [] => none
  | '\\' :: 'u' :: '{' :: rest =>
    some (Char.ofNat (hexNumber (rest.takeWhile (· != '}'))), (rest.dropWhile (· != '}')).drop 1)
  | '\\' :: c :: rest => (unescape? c).map (·, rest)
  | c :: rest => some (c, rest)

theorem readPiece?_codePointEscape (c : Char) (back : List Char) :
    readPiece? (codePointEscape c ++ back) = some (c, back) := by
  have hdigits : ∀ digit ∈ Nat.toDigits 16 c.toNat, (digit != '}') = true := by
    intro digit hdigit
    obtain ⟨value, hvalue, rfl⟩ := exists_digitChar_of_mem_toDigits hdigit
    rw [bne_iff_ne]
    exact (digitChar_ne value hvalue).1
  have hpiece : codePointEscape c ++ back =
      '\\' :: 'u' :: '{' :: (Nat.toDigits 16 c.toNat ++ '}' :: back) := by
    simp [codePointEscape]
  rw [hpiece, readPiece?, List.takeWhile_append_of_pos hdigits,
    List.dropWhile_append_of_pos hdigits, List.takeWhile_cons_of_neg (by decide),
    List.dropWhile_cons_of_neg (by decide), List.append_nil, hexNumber_toDigits, Char.ofNat_toNat]
  rfl

variable {hidden hidden' : Char → Bool}

/-- Each piece is read back, whatever stands behind it. The reader does not know which characters
are hidden. -/
theorem readPiece?_quotedChar (hidden : Char → Bool) (c : Char) (back : List Char) :
    readPiece? (quotedChar hidden c ++ back) = some (c, back) := by
  unfold quotedChar
  split_ifs with hquote hbackslash hnull htab hfeed hreturn hhidden
  · rw [hquote]; rfl
  · rw [hbackslash]; rfl
  · rw [hnull]; rfl
  · rw [htab]; rfl
  · rw [hfeed]; rfl
  · rw [hreturn]; rfl
  · exact readPiece?_codePointEscape c back
  · rw [List.singleton_append, readPiece?]
    · exact fun _ hc _ ↦ hbackslash hc
    · exact fun _ _ hc _ ↦ hbackslash hc

/-- No piece begins with a quote. -/
theorem quotedChar_append_ne (hidden : Char → Bool) (c : Char) (back rest : List Char) :
    quotedChar hidden c ++ back ≠ '"' :: rest := by
  unfold quotedChar
  split_ifs with hquote
  all_goals try exact fun h ↦ absurd (List.cons.inj h).1 (by decide)
  exact fun h ↦ hquote (List.cons.inj h).1

theorem legible_quotedChar (hidden : Char → Bool) :
    Legible '"' (quotedChar hidden) readPiece? :=
  ⟨readPiece?_quotedChar hidden, quotedChar_append_ne hidden⟩

theorem lineFeed_not_mem_quotedChar (hidden : Char → Bool) (c : Char) :
    '\n' ∉ quotedChar hidden c := by
  unfold quotedChar
  split_ifs with hquote hbackslash hnull htab hfeed hreturn hhidden
  all_goals try decide
  · intro hmem
    have hdigit : '\n' ∈ Nat.toDigits 16 c.toNat := by simpa [codePointEscape] using hmem
    obtain ⟨value, hvalue, hfeed⟩ := exists_digitChar_of_mem_toDigits hdigit
    exact (digitChar_ne value hvalue).2 hfeed.symm
  · exact fun hmem ↦ hfeed (List.mem_singleton.mp hmem).symm

/-! ### Quoted texts -/

theorem toList_quoteHiding (hidden : Char → Bool) (s : String) :
    (quoteHiding hidden s).toList = '"' :: (s.toList.flatMap (quotedChar hidden) ++ ['"']) := by
  rw [quoteHiding, String.toList_ofList, List.cons_append]

/-- A quoted text is told from what it is written as, whatever stands behind it. Which characters
count as hidden does not matter for this, nor do two texts need to agree on it. -/
theorem quoteHiding_append_inj {s t : String} {back back' : List Char}
    (h : (quoteHiding hidden s).toList ++ back = (quoteHiding hidden' t).toList ++ back') :
    s = t ∧ back = back' := by
  rw [toList_quoteHiding, toList_quoteHiding] at h
  exact enclosed_inj_of_legible (legible_quotedChar hidden) (legible_quotedChar hidden') h

theorem quote_append_inj {s t : String} {back back' : List Char}
    (h : (quote s).toList ++ back = (quote t).toList ++ back') : s = t ∧ back = back' :=
  quoteHiding_append_inj h

/-- A quoted text has no line feed inside, whichever characters count as hidden. -/
theorem lineFeed_not_mem_quoteHiding (hidden : Char → Bool) (s : String) :
    '\n' ∉ (quoteHiding hidden s).toList := by
  simp [toList_quoteHiding, lineFeed_not_mem_quotedChar]

theorem lineFeed_not_mem_quote (s : String) : '\n' ∉ (quote s).toList :=
  lineFeed_not_mem_quoteHiding isHidden s

end Text

/-! ### Strings of JSON -/

namespace Json

/-! ### Pieces -/

/-- The character that an escape of two characters stands for. -/
def unescape? (c : Char) : Option Char :=
  if c = '"' ∨ c = '\\' ∨ c = '/' then some c
  else if c = 'b' then some '\x08'
  else if c = 't' then some '\t'
  else if c = 'n' then some '\n'
  else if c = 'f' then some '\x0c'
  else if c = 'r' then some '\r'
  else none

/-- Reads the first piece of a string: the character that it stands for, and what stands behind the
piece. -/
def readEscaped? : List Char → Option (Char × List Char)
  | [] => none
  | '\\' :: 'u' :: a :: b :: c :: d :: rest =>
    some (Char.ofNat (Text.hexNumber [a, b, c, d]), rest)
  | '\\' :: c :: rest => (unescape? c).map (·, rest)
  | c :: rest => some (c, rest)

/-- The four digits of an escaped control are its number. -/
theorem hexNumber_control {number : Nat} (h : number < 0x20) :
    Text.hexNumber ['0', '0', Nat.digitChar (number / 16), Nat.digitChar (number % 16)] =
      number := by
  rw [Text.hexNumber, List.foldl_cons, List.foldl_cons, List.foldl_cons, List.foldl_cons,
    List.foldl_nil, Text.hexValue_digitChar _ (by omega),
    Text.hexValue_digitChar _ (Nat.mod_lt _ (by decide)), show Text.hexValue '0' = 0 from rfl]
  omega

/-- Each piece is read back, whatever stands behind it. -/
theorem readEscaped?_escapedChar (c : Char) (back : List Char) :
    readEscaped? (escapedChar c ++ back) = some (c, back) := by
  unfold escapedChar
  split_ifs with hquote hbackslash hbackspace htab hfeed hpage hreturn hcontrol
  · rw [hquote]; rfl
  · rw [hbackslash]; rfl
  · rw [hbackspace]; rfl
  · rw [htab]; rfl
  · rw [hfeed]; rfl
  · rw [hpage]; rfl
  · rw [hreturn]; rfl
  · rw [List.cons_append, List.cons_append, List.cons_append, List.cons_append, List.cons_append,
      List.singleton_append, readEscaped?, hexNumber_control hcontrol, Char.ofNat_toNat]
  · rw [List.singleton_append, readEscaped?]
    · exact fun _ _ _ _ _ hc _ ↦ hbackslash hc
    · exact fun _ _ hc _ ↦ hbackslash hc

/-- No piece begins with a quote. -/
theorem escapedChar_append_ne (c : Char) (back rest : List Char) :
    escapedChar c ++ back ≠ '"' :: rest := by
  unfold escapedChar
  split_ifs with hquote
  all_goals try exact fun h ↦ absurd (List.cons.inj h).1 (by decide)
  exact fun h ↦ hquote (List.cons.inj h).1

theorem legible_escapedChar : Text.Legible '"' escapedChar readEscaped? :=
  ⟨readEscaped?_escapedChar, escapedChar_append_ne⟩

/-! ### Strings -/

theorem toList_quote (s : String) :
    (quote s).toList = '"' :: (s.toList.flatMap escapedChar ++ ['"']) := by
  rw [quote, String.toList_ofList, List.cons_append]

/-- A string is told from what it is written as, whatever stands behind it. -/
theorem quote_append_inj {s t : String} {back back' : List Char}
    (h : (quote s).toList ++ back = (quote t).toList ++ back') : s = t ∧ back = back' := by
  rw [toList_quote, toList_quote] at h
  exact Text.enclosed_inj_of_legible legible_escapedChar legible_escapedChar h

end Json

end CucumberExpression
