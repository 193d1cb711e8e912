import Mathlib.Data.List.Basic

/-!
# Where a part of a text ends

A text that is put together from parts can be taken apart again when each part tells where it ends.
The simplest way to tell is a class of characters: all characters of the part are in it, and the one
behind the part is not (`append_inj_of_forall`). Lines end before their line feed (`ofLines_inj`),
and the digits of a number before a character that is no digit (`toString_append_inj`). Characters
with escapes among them end before a closing character that begins none of their written forms
(`enclosed_inj_of_legible`).
-/

set_option autoImplicit false
set_option relaxedAutoImplicit false

namespace CucumberExpression.Text

variable {back back' : List Char}

/-- Assumes: two texts that begin with characters of a class, up to one that is not in it. They are
equal only if they begin with the same characters of the class, and go on in the same way. -/
theorem append_inj_of_forall (inClass : Char → Bool) {front front' : List Char}
    (hfront : ∀ c ∈ front, inClass c = true) (hfront' : ∀ c ∈ front', inClass c = true)
    (hback : ∀ c ∈ back.head?, inClass c = false) (hback' : ∀ c ∈ back'.head?, inClass c = false)
    (h : front ++ back = front' ++ back') : front = front' ∧ back = back' := by
  have hnone {cs : List Char} (hcs : ∀ c ∈ cs.head?, inClass c = false) :
      cs.takeWhile inClass = [] := by
    cases cs with
    | nil => rfl
    | cons c cs => exact List.takeWhile_cons_of_neg (by simp [hcs c rfl])
  have htake := congrArg (List.takeWhile inClass) h
  rw [List.takeWhile_append_of_pos hfront, List.takeWhile_append_of_pos hfront', hnone hback,
    hnone hback', List.append_nil, List.append_nil] at htake
  rw [htake] at h
  exact ⟨htake, List.append_cancel_left h⟩

/-- The class may be all characters but one, which is the one behind the part. -/
theorem append_inj_of_not_mem {mark : Char} {front front' : List Char} (hfront : mark ∉ front)
    (hfront' : mark ∉ front') (hback : ∀ c ∈ back.head?, c = mark)
    (hback' : ∀ c ∈ back'.head?, c = mark) (h : front ++ back = front' ++ back') :
    front = front' ∧ back = back' := by
  have hinside {cs : List Char} (hcs : mark ∉ cs) : ∀ c ∈ cs, (c != mark) = true := by
    intro c hc
    rw [bne_iff_ne]
    exact fun hmark ↦ hcs (hmark ▸ hc)
  refine append_inj_of_forall (· != mark) (hinside hfront) (hinside hfront')
    (fun c hc ↦ ?_) (fun c hc ↦ ?_) h
  · rw [hback c hc, bne_self_eq_false]
  · rw [hback' c hc, bne_self_eq_false]

/-! ### Pieces -/

section

variable {close : Char} {write write' : Char → List Char}
  {read : List Char → Option (Char × List Char)}

/-- Each character is written as a piece that can be read back, whatever stands behind it, and no
piece begins with the closing character. -/
structure Legible (close : Char) (write : Char → List Char)
    (read : List Char → Option (Char × List Char)) : Prop where
  read_eq : ∀ c back, read (write c ++ back) = some (c, back)
  append_ne : ∀ c back rest, write c ++ back ≠ close :: rest

/-- Assumes: two ways to write characters, both legible to one reader. Pieces up to the closing
character are the written form of one row of characters only, in whichever way they are written. -/
theorem flatMap_inj_of_legible (hwrite : Legible close write read)
    (hwrite' : Legible close write' read) {cs cs' : List Char}
    (h : cs.flatMap write ++ close :: back = cs'.flatMap write' ++ close :: back') :
    cs = cs' ∧ back = back' := by
  induction cs generalizing cs' with
  | nil =>
    cases cs' with
    | nil => exact ⟨rfl, (List.cons.inj h).2⟩
    | cons c' cs' =>
      rw [List.flatMap_cons, List.append_assoc] at h
      exact absurd h.symm (hwrite'.append_ne c' _ _)
  | cons c cs ih =>
    rw [List.flatMap_cons, List.append_assoc] at h
    cases cs' with
    | nil => exact absurd h (hwrite.append_ne c _ _)
    | cons c' cs' =>
      rw [List.flatMap_cons, List.append_assoc] at h
      have hpiece := congrArg read h
      rw [hwrite.read_eq, hwrite'.read_eq] at hpiece
      obtain ⟨rfl, hrest⟩ := Prod.mk.inj (Option.some.inj hpiece)
      obtain ⟨rfl, hback⟩ := ih hrest
      exact ⟨rfl, hback⟩

/-- Under the same assumptions a text that is written between two closing characters is told from
what it is written as, whatever stands behind it. -/
theorem enclosed_inj_of_legible (hwrite : Legible close write read)
    (hwrite' : Legible close write' read) {s t : String}
    (h : (close :: (s.toList.flatMap write ++ [close])) ++ back =
      (close :: (t.toList.flatMap write' ++ [close])) ++ back') : s = t ∧ back = back' := by
  rw [List.cons_append, List.cons_append, List.append_assoc, List.append_assoc] at h
  obtain ⟨hchars, hback⟩ := flatMap_inj_of_legible hwrite hwrite' (List.cons.inj h).2
  exact ⟨String.toList_inj.mp hchars, hback⟩

end

/-! ### Lines -/

/-- The lines of a text, each with a line feed behind it. -/
def ofLines (lines : List String) : String := String.join (lines.map (· ++ "\n"))

theorem toList_ofLines (lines : List String) :
    (ofLines lines).toList = lines.flatMap fun line ↦ line.toList ++ ['\n'] := by
  rw [ofLines, String.toList_join, List.flatMap_map]
  simp

theorem ofLines_append (front back : List String) :
    ofLines (front ++ back) = ofLines front ++ ofLines back := by
  rw [← String.toList_inj, String.toList_append, toList_ofLines, toList_ofLines, toList_ofLines,
    List.flatMap_append]

/-- Lines without line feeds inside are told from the text that they make. -/
theorem ofLines_inj {lines lines' : List String} (hlines : ∀ line ∈ lines, '\n' ∉ line.toList)
    (hlines' : ∀ line ∈ lines', '\n' ∉ line.toList) (h : ofLines lines = ofLines lines') :
    lines = lines' := by
  have hchars := congrArg String.toList h
  rw [toList_ofLines, toList_ofLines] at hchars
  clear h
  induction lines generalizing lines' with
  | nil =>
    cases lines' with
    | nil => rfl
    | cons line' lines' => simp at hchars
  | cons line lines ih =>
    cases lines' with
    | nil => simp at hchars
    | cons line' lines' =>
      simp only [List.flatMap_cons, List.append_assoc, List.singleton_append] at hchars
      obtain ⟨hline, hrest⟩ := append_inj_of_not_mem (hlines line List.mem_cons_self)
        (hlines' line' List.mem_cons_self) (by simp) (by simp) hchars
      rw [String.toList_inj.mp hline, ih (fun other hother ↦ hlines other (.tail _ hother))
        (fun other hother ↦ hlines' other (.tail _ hother)) (List.cons.inj hrest).2]

/-! ### Numbers -/

theorem toList_toString (number : Nat) : (toString number).toList = Nat.toDigits 10 number := by
  rw [Nat.toString_eq_repr, Nat.toList_repr]

theorem isDigit_of_mem_toString {number : Nat} :
    ∀ c ∈ (toString number).toList, c.isDigit = true := by
  intro c hc
  rw [toList_toString] at hc
  exact Nat.isDigit_of_mem_toDigits (by decide) (by decide) hc

/-- A number is told from its digits when no digit stands behind them. -/
theorem toString_append_inj {number number' : Nat} (hback : ∀ c ∈ back.head?, c.isDigit = false)
    (hback' : ∀ c ∈ back'.head?, c.isDigit = false)
    (h : (toString number).toList ++ back = (toString number').toList ++ back') :
    number = number' ∧ back = back' := by
  obtain ⟨hdigits, hrest⟩ := append_inj_of_forall Char.isDigit isDigit_of_mem_toString
    isDigit_of_mem_toString hback hback' h
  rw [toList_toString, toList_toString] at hdigits
  have hvalue (n : Nat) : Nat.ofDigitChars 10 (Nat.toDigits 10 n) 0 = n :=
    Nat.ofDigitChars_toDigits (by decide) (by decide)
  rw [← hvalue number, hdigits, hvalue]
  exact ⟨rfl, hrest⟩

end CucumberExpression.Text
