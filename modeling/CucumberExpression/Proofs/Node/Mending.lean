import CucumberExpression.Proofs.Node.Verdict
import CucumberExpression.Proofs.Token.Blame
import Mathlib.Logic.Function.Iterate

/-!
# Following the hints

Every hint says to escape something: the bracket that stays open, or the escape that stands before a
character which needs none, or before nothing. `Node.mend` does so, by one escape at the place of
the error. Mending again and again comes to a source with a tree, after no more steps than there are
escapes and opening brackets in the source (`exists_ofSource_iterate_mend`).

The place of the error may go back and forth on the way, so progress is not seen in it. What goes
down is the number of loose marks, those that an error may blame: every error blames one of them
(`exists_blamed`), and to mend it leaves one less (`looseCount_mend`).
-/

set_option autoImplicit false
set_option relaxedAutoImplicit false

namespace CucumberExpression

/-! ### Errors and their marks -/

/-- An escape that is to blame is one of the marks. -/
theorem exists_blamed_of_escapeError? {chars : List Char} {error : SyntaxError}
    (h : escapeError? chars.length (marks 0 chars) = some error) :
    ∃ mark ∈ marks 0 chars, mark.blame? = some error := by
  rw [escapeError?] at h
  cases hbad : (marks 0 chars).findSome? Mark.badEscape? with
  | some position =>
    rw [hbad] at h
    obtain rfl := Option.some.inj h
    obtain ⟨mark, hmem, hmark⟩ := List.exists_of_findSome?_eq_some hbad
    refine ⟨mark, hmem, ?_⟩
    cases mark with
    | pair offset c =>
      rw [Mark.badEscape?] at hmark
      split_ifs at hmark with hc
      obtain rfl := Option.some.inj hmark
      exact if_neg hc
    | bare | lone => cases hmark
  | none =>
    simp only [hbad] at h
    split_ifs at h with hlone
    obtain rfl := Option.some.inj h
    obtain ⟨mark, hmem, hmark⟩ := List.any_eq_true.mp hlone
    refine ⟨mark, hmem, ?_⟩
    cases mark with
    | lone offset =>
      -- The lone escape is the last character.
      obtain ⟨front, back, hcut, -, hoffset, hback⟩ := exists_cut_of_mem_marks hmem
      have hlength := congrArg List.length hcut
      rw [hback rfl, List.append_nil, List.length_append, Mark.chars, List.length_singleton]
        at hlength
      have hstart : offset = front.length := by rw [← Nat.zero_add front.length]; exact hoffset
      rw [Mark.blame?, hlength, Nat.add_sub_cancel, hstart]
    | bare | pair => cases hmark

namespace Gate

/-- The brackets that stand open, as marks. -/
def openings : Gate Nat → List Mark
  | top => []
  | parameter opening => [.bare opening '\x7b']
  | optional opening => [.bare opening '(']
  | parameterInOptional outer opening => [.bare outer '(', .bare opening '\x7b']

/-- A mark opens no bracket but itself. -/
theorem mem_openings_stepMark {gate : Gate Nat} {mark opening : Mark}
    (h : opening ∈ (gate.stepMark mark).openings) : opening ∈ gate.openings ∨ opening = mark := by
  cases mark with
  | bare offset c =>
    cases gate <;> simp only [stepMark, step] at h <;> split_ifs at h <;>
      simp_all [openings]
  | pair | lone => exact .inl h

theorem mem_openings_foldl {gate : Gate Nat} {marks : List Mark} {opening : Mark}
    (h : opening ∈ (marks.foldl stepMark gate).openings) :
    opening ∈ gate.openings ∨ opening ∈ marks := by
  induction marks generalizing gate with
  | nil => exact .inl h
  | cons mark marks ih =>
    rcases ih h with h | h
    · rcases mem_openings_stepMark h with h | rfl
      · exact .inl h
      · exact .inr List.mem_cons_self
    · exact .inr (List.mem_cons_of_mem mark h)

/-- The error of a source that ends in a bracket blames a bracket that stands open. -/
theorem exists_blamed {gate : Gate Nat} {error : SyntaxError}
    (h : (gate.map fun offset ↦ ⟨offset, offset + 1⟩).error? = some error) :
    ∃ mark ∈ gate.openings, mark.blame? = some error := by
  cases gate with
  | top => cases h
  | parameter opening => exact ⟨_, List.mem_singleton_self _, h⟩
  | optional opening => exact ⟨_, List.mem_singleton_self _, h⟩
  | parameterInOptional outer opening =>
    exact ⟨.bare opening '\x7b', List.mem_cons_of_mem _ (List.mem_singleton_self _), h⟩

end Gate

namespace Node

/-- Every source without a tree has an error that blames one of its marks. -/
theorem exists_blamed {source : String} {failure : Failure}
    (h : ofSource source = .error failure) :
    ∃ mark ∈ marks 0 source.toList, ∃ error, mark.blame? = some error ∧
      failure = .rejected error := by
  obtain ⟨error, rfl, hescape | hgate⟩ := exists_error_of_ofSource h
  · rw [← String.length_toList] at hescape
    obtain ⟨mark, hmem, hmark⟩ := exists_blamed_of_escapeError? hescape
    exact ⟨mark, hmem, error, hmark, rfl⟩
  · obtain ⟨mark, hmem, hmark⟩ := Gate.exists_blamed hgate
    rcases Gate.mem_openings_foldl hmem with hnone | hmem
    · exact absurd hnone List.not_mem_nil
    · exact ⟨mark, hmem, error, hmark, rfl⟩

/-- The source with one more escape at the place of its error. A source with a tree stays as it
is. -/
def mend (source : String) : String :=
  match ofSource source with
  | .error (.rejected error) => escapeAt error.span.start source
  | _ => source

theorem exists_mending {source : String} {failure : Failure}
    (h : ofSource source = .error failure) :
    ∃ error, failure = .rejected error ∧
      Nonempty (Mending error source.toList (mend source).toList) := by
  obtain ⟨mark, hmem, error, hmark, rfl⟩ := exists_blamed h
  obtain ⟨front, back, hcut, hlone, hoffset, hback⟩ := exists_cut_of_mem_marks hmem
  rw [Nat.zero_add] at hoffset
  obtain ⟨lead, hchars, hmended, hspan⟩ := mark.exists_lead hmark
  have hplace : error.span.start = (front ++ lead).length := by
    rw [hspan, hoffset, List.length_append]
  have hafter : (mend source).toList = front ++ (mark.mended ++ back) := by
    have hsplit : source.toList = (front ++ lead) ++ ([mark.blamed] ++ back) := by
      rw [hcut, hchars, List.append_assoc, List.append_assoc]
    simp only [mend, h]
    rw [hplace, toList_escapeAt hsplit, hmended, List.append_assoc, List.append_assoc]
    rfl
  exact ⟨error, rfl, ⟨mark, front, back, hmark, hoffset, hlone, hback, hcut, hafter⟩⟩

/-- Mending a source without a tree leaves one loose mark less. -/
theorem looseCount_mend {source : String} {failure : Failure}
    (h : ofSource source = .error failure) :
    Mark.countMarks Mark.isLoose (mend source).toList + 1 =
      Mark.countMarks Mark.isLoose source.toList := by
  obtain ⟨error, -, ⟨mending⟩⟩ := exists_mending h
  exact mending.looseCount

theorem mend_of_ok {source : String} {root : Node} (h : ofSource source = .ok root) :
    mend source = source := by
  rw [mend, h]

/-! ### Mending again and again -/

/-- A source is divided into tokens exactly if no escape in it is stray. -/
theorem exists_scan_iff_strayCount {source : String} :
    (∃ tokens, Token.scan source = .ok tokens) ↔
      Mark.countMarks Mark.isStray source.toList = 0 := by
  rw [Token.exists_scan_iff, escapeError?_eq_none_iff, Mark.countMarks, List.countP_eq_zero,
    List.any_eq_false, ← forall₂_and]
  simp only [Mark.isStray, Bool.or_eq_true, not_or, Bool.not_eq_true, Option.isSome_eq_false_iff,
    Option.isNone_iff_eq_none]

theorem exists_scan_mend {source : String} (h : ∃ tokens, Token.scan source = .ok tokens) :
    ∃ tokens, Token.scan (mend source) = .ok tokens := by
  cases hresult : ofSource source with
  | ok root =>
    rw [mend_of_ok hresult]
    exact h
  | error failure =>
    obtain ⟨error, -, ⟨mending⟩⟩ := exists_mending hresult
    rw [exists_scan_iff_strayCount] at h ⊢
    exact Nat.le_zero.mp (h ▸ mending.strayCount_le)

/-- Once a source is divided into tokens, it stays so while it is mended. -/
theorem exists_scan_iterate_mend {source : String} {earlier later : Nat} (hle : earlier ≤ later)
    (h : ∃ tokens, Token.scan (mend^[earlier] source) = .ok tokens) :
    ∃ tokens, Token.scan (mend^[later] source) = .ok tokens := by
  induction later, hle using Nat.le_induction with
  | base => exact h
  | succ later hle ih =>
    rw [Function.iterate_succ_apply']
    exact exists_scan_mend ih

/-- Mending comes to a tree after no more steps than there are loose marks, and each step on the way
does what the hint of the error at hand asks for. -/
theorem exists_iterate_mend_le_looseCount (source : String) :
    ∃ count ≤ Mark.countMarks Mark.isLoose source.toList,
      (∃ root, ofSource (mend^[count] source) = .ok root) ∧
      ∀ earlier < count, ∃ error, ofSource (mend^[earlier] source) = .error (.rejected error) ∧
        Heeded error (mend^[earlier] source).toList (mend^[earlier + 1] source).toList := by
  induction hcount : Mark.countMarks Mark.isLoose source.toList using Nat.strong_induction_on
    generalizing source with
  | _ loose ih =>
    cases hresult : ofSource source with
    | ok root => exact ⟨0, Nat.zero_le loose, ⟨root, hresult⟩, by simp⟩
    | error failure =>
      have hless := hcount ▸ looseCount_mend hresult
      obtain ⟨error, rfl, ⟨mending⟩⟩ := exists_mending hresult
      obtain ⟨count, hle, htree, hsteps⟩ := ih _ (by omega) (mend source) rfl
      refine ⟨count + 1, by omega, htree, fun earlier hearlier ↦ ?_⟩
      cases earlier with
      | zero => exact ⟨error, hresult, mending.heeded⟩
      | succ earlier => exact hsteps earlier (Nat.lt_of_succ_lt_succ hearlier)

/-- Following the hints leads to a tree. A source that is mended again and again has a tree after
no more steps than it has escapes and opening brackets; up to then each step does what the hint of
the error asks for. Once the source can be divided into tokens, no step spoils that. -/
theorem exists_ofSource_iterate_mend (source : String) :
    (∃ count ≤ source.toList.countP (· ∈ ['\\', '(', '\x7b']),
      (∃ root, ofSource (mend^[count] source) = .ok root) ∧
      ∀ earlier < count, ∃ error, ofSource (mend^[earlier] source) = .error (.rejected error) ∧
        Heeded error (mend^[earlier] source).toList (mend^[earlier + 1] source).toList) ∧
    ∀ earlier later, earlier ≤ later →
      (∃ tokens, Token.scan (mend^[earlier] source) = .ok tokens) →
        ∃ tokens, Token.scan (mend^[later] source) = .ok tokens := by
  refine ⟨?_, fun earlier later hle h ↦ exists_scan_iterate_mend hle h⟩
  obtain ⟨count, hle, hrun⟩ := exists_iterate_mend_le_looseCount source
  exact ⟨count, hle.trans (Mark.countP_isLoose_le 0 source.toList), hrun⟩

/-- The error goes back from the brace to the parenthesis before it. -/
example : mend "(a \x7bb" = "(a \\\x7bb" ∧ mend^[2] "(a \x7bb" = "\\(a \\\x7bb" := by
  decide +kernel

end Node

end CucumberExpression
