import CucumberExpression.Report
import CucumberExpression.Proofs.Node.Mending
import CucumberExpression.Proofs.Span.ByteRange

/-!
# What a label marks

The label of an error is a stretch of bytes of the source that covers the characters of the error's
span, or the one character behind an empty span (`exists_label_of_lt`, `exists_label_of_eq`). For
the error of an expression this is one character, whichever the error is: the bracket that stands
open, the escape at the end, or the character that the escape before it can do nothing for
(`label_marks`).

The character is found in two steps. An error blames one mark of the source, and the mark says where
in it the character stands (`Mark.exists_lead`). The span of the error is that of the
character, so its range of bytes covers it and nothing else.
-/

set_option autoImplicit false
set_option relaxedAutoImplicit false

namespace CucumberExpression

/-! ### Labels on characters -/

/-- The label lies between characters of the source, behind the given number of them, and covers
exactly the given part. -/
structure Label.Covers (label : Label) (source : String) (index : Nat) (part : List Char) :
    Prop where
  isPrefix : part <+: source.toList.drop index
  offset_eq : label.offset = (String.ofList (source.toList.take index)).utf8ByteSize
  length_eq : label.length = (String.ofList part).utf8ByteSize
  offset_isValid : (⟨label.offset⟩ : String.Pos.Raw).IsValid source
  stop_isValid : (⟨label.offset + label.length⟩ : String.Pos.Raw).IsValid source
  bytes_eq : source.toByteArray.extract label.offset (label.offset + label.length) =
    (String.ofList part).toByteArray

/-- The range of a span is a label on its characters. -/
theorem Span.covers_byteRange {span : Span} (h : span.start ≤ span.stop) (source text : String) :
    (⟨(span.byteRange source).1, (span.byteRange source).2 - (span.byteRange source).1, text⟩ :
      Label).Covers source span.start (span.chars source) := by
  have hgrows := Text.byteOffset_eq_add source h
  rw [← chars_eq] at hgrows
  have hlength : (span.byteRange source).2 - (span.byteRange source).1 =
      (String.ofList (span.chars source)).utf8ByteSize := by
    rw [byteRange, hgrows, Nat.add_sub_cancel_left]
  have hstop : (span.byteRange source).1 + (String.ofList (span.chars source)).utf8ByteSize =
      (span.byteRange source).2 := hgrows.symm
  rw [hlength]
  refine ⟨?_, Text.byteOffset_eq source span.start, rfl, Text.byteOffset_isValid source _, ?_, ?_⟩
  · rw [chars_eq, List.drop_take]
    exact List.take_prefix _ _
  · simp only [hstop]
    exact Text.byteOffset_isValid source span.stop
  · simp only [hstop]
    exact (converts h source).bytes_eq

/-- A span of one character holds the character at its start, if there is one. -/
theorem Span.chars_succ (offset : Nat) (source : String) :
    chars ⟨offset, offset + 1⟩ source = source.toList[offset]?.toList := by
  rw [chars_eq, List.drop_take, Nat.add_sub_cancel_left, List.take_one, List.head?_drop]

namespace SyntaxError

variable {error : SyntaxError}

/-- An error at a span with characters has a label on all of them, as far as the source reaches. -/
theorem exists_label_of_lt (h : error.span.start < error.span.stop) (source : String) :
    ∃ label, error.label source = .ok label ∧
      label.Covers source error.span.start (error.span.chars source) := by
  have hmarked : error.markedSpan = .ok error.span :=
    if_neg (by simpa [Span.isEmpty] using Nat.ne_of_lt h)
  refine ⟨_, by rw [label, hmarked]; rfl, Span.covers_byteRange (Nat.le_of_lt h) source _⟩

/-- An error at an empty span has a label on the character behind it, if there is one. -/
theorem exists_label_of_eq (h : error.span.start = error.span.stop)
    (hlimit : error.span.start + 1 < offsetLimit) (source : String) :
    ∃ label, error.label source = .ok label ∧
      label.Covers source error.span.start source.toList[error.span.start]?.toList := by
  have hempty : error.span.isEmpty = true := by simpa [Span.isEmpty] using h
  have hmarked : error.markedSpan = .ok ⟨error.span.start, error.span.start + 1⟩ := by
    rw [markedSpan, if_pos hempty, if_pos hlimit]
  rw [← Span.chars_succ]
  exact ⟨_, by rw [label, hmarked]; rfl, Span.covers_byteRange (Nat.le_succ _) source _⟩

/-- Behind the last offset there is no character, and no offset to end a label at. -/
theorem label_of_last (h : error.span.start = error.span.stop)
    (hlimit : error.span.start + 1 = offsetLimit) (source : String) :
    error.label source = .error .offsetTooLarge := by
  have hempty : error.span.isEmpty = true := by simpa [Span.isEmpty] using h
  have hmarked : error.markedSpan = .error .offsetTooLarge := by
    rw [markedSpan, if_pos hempty, if_neg (Nat.not_lt_of_le (Nat.le_of_eq hlimit.symm))]
  rw [label, hmarked]
  rfl

end SyntaxError

/-! ### Characters to blame -/

/-- The label of an error that blames a mark of the source covers the character to blame. -/
theorem SyntaxError.exists_label_of_blame? {source : String} {mark : Mark} {error : SyntaxError}
    (hmem : mark ∈ marks 0 source.toList) (h : mark.blame? = some error) :
    ∃ label, error.label source = .ok label ∧
      label.Covers source error.span.start [mark.blamed] := by
  obtain ⟨front, back, hcut, -, hoffset, -⟩ := exists_cut_of_mem_marks hmem
  obtain ⟨lead, hchars, -, hspan⟩ := Mark.exists_lead h
  have hstart : error.span.start = (front ++ lead).length := by
    rw [hspan, hoffset, Nat.zero_add, List.length_append]
  have hblamed : source.toList[error.span.start]? = some mark.blamed := by
    rw [hcut, hchars, hstart, List.append_assoc, ← List.append_assoc front,
      List.getElem?_append_right (Nat.le_refl _), Nat.sub_self]
    rfl
  have hchar : error.span.chars source = [mark.blamed] := by
    have hone : error.span = ⟨error.span.start, error.span.start + 1⟩ := by rw [hspan]
    rw [hone, Span.chars_succ, hblamed]
    rfl
  rw [← hchar]
  refine exists_label_of_lt ?_ source
  rw [hspan]
  exact Nat.lt_succ_self _

/-! ### Errors of expressions -/

/-- What the error of a source may blame a character for. A bracket that no escape stands before is
the last one of those that are open at the end, and the message names it first. An escape is the
last character, and no escape stands before it. Any other character stands directly behind an
escape, and is neither blank nor special. -/
inductive SyntaxError.Blames (source : String) (error : SyntaxError) : Char → Prop
  | parameter (kind : error.kind = .unclosed)
    (opened : (Gate.ofSource source).openings.getLast? = some (.bare error.span.start '\x7b'))
    (message : error.message = "The '\x7b' does not have a matching '\x7d'") :
    Blames source error '\x7b'
  | optional (kind : error.kind = .unclosed)
    (opened : (Gate.ofSource source).openings.getLast? = some (.bare error.span.start '('))
    (message : error.message = "The '(' does not have a matching ')'") : Blames source error '('
  | escapedEnd (kind : error.kind = .escapedEnd)
    (unescaped : .lone error.span.start ∈ marks 0 source.toList)
    (last : error.span.start + 1 = source.length) : Blames source error '\\'
  | badEscape (kind : error.kind = .badEscape) (offset : Nat) (c : Char)
    (start_eq : error.span.start = offset + 1) (escape : source.toList[offset]? = some '\\')
    (escaped : .pair offset c ∈ marks 0 source.toList) (written : Text.isBlank c = false)
    (plain : c ∉ ['\x7b', '\x7d', '(', ')', '/', '\\']) : Blames source error c

/-- An escape that is to blame is blamed for what follows it. -/
theorem cause_of_escapeError? {stop : Nat} {marks : List Mark} {error : SyntaxError}
    (h : escapeError? stop marks = some error) :
    error.cause = .badEscape ∨ error.cause = .escapedEnd := by
  rw [escapeError?] at h
  cases hbad : marks.findSome? Mark.badEscape? with
  | some position =>
    rw [hbad] at h
    exact .inl (congrArg SyntaxError.cause (Option.some.inj h).symm)
  | none =>
    simp only [hbad] at h
    split_ifs at h
    exact .inr (congrArg SyntaxError.cause (Option.some.inj h).symm)

/-- An escape that is to blame is blamed at its own place or at the next one. -/
theorem SyntaxError.blames_of_escapeError? {source : String} {error : SyntaxError}
    (h : escapeError? source.length (marks 0 source.toList) = some error) :
    ∃ mark ∈ marks 0 source.toList, mark.blame? = some error ∧
      error.Blames source mark.blamed := by
  have hcause := cause_of_escapeError? h
  rw [← String.length_toList] at h
  obtain ⟨mark, hmem, hblame⟩ := exists_blamed_of_escapeError? h
  refine ⟨mark, hmem, hblame, ?_⟩
  obtain ⟨front, back, hcut, -, hoffset, hback⟩ := exists_cut_of_mem_marks hmem
  rw [Nat.zero_add] at hoffset
  cases mark with
  | bare offset c =>
    rw [Mark.blame?] at hblame
    split_ifs at hblame
    all_goals
      obtain rfl := Option.some.inj hblame
      simp at hcause
  | pair offset c =>
    obtain rfl : offset = front.length := hoffset
    rw [Mark.blame?] at hblame
    split_ifs at hblame with hc
    obtain rfl := Option.some.inj hblame
    obtain ⟨hwritten, hplain⟩ := not_or.mp (mt canEscape_iff.mpr hc)
    refine .badEscape rfl front.length c rfl ?_ hmem (Bool.eq_false_iff.mpr hwritten) hplain
    rw [hcut, List.getElem?_append_right (Nat.le_refl _), Nat.sub_self]
    rfl
  | lone offset =>
    obtain rfl : offset = front.length := hoffset
    obtain rfl := Option.some.inj hblame
    refine .escapedEnd rfl hmem ?_
    rw [← String.length_toList, hcut, hback rfl, List.append_nil, List.length_append]
    rfl

/-- When all escapes are in order, the error is that of the bracket opened last. -/
theorem SyntaxError.blames_of_gate {source : String} {error : SyntaxError}
    (h : ((Gate.ofSource source).map fun offset ↦ ⟨offset, offset + 1⟩).error? = some error) :
    ∃ mark ∈ marks 0 source.toList, mark.blame? = some error ∧
      error.Blames source mark.blamed := by
  have hmarks {opening : Mark} (hopening : opening ∈ (Gate.ofSource source).openings) :
      opening ∈ marks 0 source.toList :=
    (Gate.mem_openings_foldl hopening).resolve_left List.not_mem_nil
  cases hgate : Gate.ofSource source with
  | top =>
    rw [hgate] at h
    cases h
  | parameter opening | parameterInOptional outer opening =>
    have hlast : (Gate.ofSource source).openings.getLast? = some (.bare opening '\x7b') := by
      rw [hgate]
      rfl
    rw [hgate] at h
    obtain rfl := Option.some.inj h
    exact ⟨.bare opening '\x7b', hmarks (List.mem_of_getLast? hlast), rfl,
      .parameter rfl hlast rfl⟩
  | optional opening =>
    have hlast : (Gate.ofSource source).openings.getLast? = some (.bare opening '(') := by
      rw [hgate]
      rfl
    rw [hgate] at h
    obtain rfl := Option.some.inj h
    exact ⟨.bare opening '(', hmarks (List.mem_of_getLast? hlast), rfl, .optional rfl hlast rfl⟩

/-- A source without a tree has an error, which blames the character of a mark. -/
theorem Node.exists_blames {source : String} {failure : Failure}
    (h : ofSource source = .error failure) :
    ∃ error, failure = .rejected error ∧ ∃ mark ∈ marks 0 source.toList,
      mark.blame? = some error ∧ error.Blames source mark.blamed := by
  obtain ⟨error, rfl, hescape | hgate⟩ := exists_error_of_ofSource h
  · exact ⟨error, rfl, SyntaxError.blames_of_escapeError? hescape⟩
  · exact ⟨error, rfl, SyntaxError.blames_of_gate hgate⟩

/-- A label marks what it is to mark. Of an error at a span that is not empty it covers exactly the
characters of the span, as far as the source reaches, and of an error at an empty span exactly the
character behind it, or nothing at the end of the source; only behind the last offset that there is
can no label be made. Of the error that an expression has it covers one character, the one that is
to blame. -/
theorem label_marks (source : String) :
    (∀ error : SyntaxError, error.span.start < error.span.stop →
      ∃ label, error.label source = .ok label ∧
        label.Covers source error.span.start (error.span.chars source)) ∧
    (∀ error : SyntaxError, error.span.start = error.span.stop →
      error.span.start + 1 < offsetLimit → ∃ label, error.label source = .ok label ∧
        label.Covers source error.span.start source.toList[error.span.start]?.toList) ∧
    (∀ error : SyntaxError, error.span.start = error.span.stop →
      error.span.start + 1 = offsetLimit → error.label source = .error .offsetTooLarge) ∧
    ∀ failure, Node.ofSource source = .error failure →
      ∃ error label c, failure = .rejected error ∧ error.label source = .ok label ∧
        label.Covers source error.span.start [c] ∧ error.Blames source c := by
  refine ⟨fun _ h ↦ SyntaxError.exists_label_of_lt h source,
    fun _ h hlimit ↦ SyntaxError.exists_label_of_eq h hlimit source,
    fun _ h hlimit ↦ SyntaxError.label_of_last h hlimit source, fun failure h ↦ ?_⟩
  obtain ⟨error, rfl, mark, hmem, hblame, hblames⟩ := Node.exists_blames h
  obtain ⟨label, hlabel, hcovers⟩ := SyntaxError.exists_label_of_blame? hmem hblame
  exact ⟨error, label, mark.blamed, rfl, hlabel, hcovers, hblames⟩

/-- A span that goes on past the end, an empty one before a character of four bytes, and one behind
the last offset. A brace stays open in an optional part, behind characters of two bytes and an
escape; it is marked, and the parenthesis that stays open with it is not. -/
theorem label_marks_nested :
    (1 < 9 ∧ ∃ label, (⟨.badEscape, ⟨1, 9⟩⟩ : SyntaxError).label "é😀x" = .ok label ∧
      label.Covers "é😀x" 1 ['😀', 'x']) ∧
    (1 + 1 < offsetLimit ∧ ∃ label, (⟨.escapedEnd, ⟨1, 1⟩⟩ : SyntaxError).label "é😀x" = .ok label ∧
      label.Covers "é😀x" 1 ['😀']) ∧
    (⟨.escapedEnd, ⟨offsetLimit - 1, offsetLimit - 1⟩⟩ : SyntaxError).label "é😀x" =
      .error .offsetTooLarge ∧
    ∃ error label, Node.ofSource "é(ß\\\x7d\x7bü" = .error (.rejected error) ∧
      error.label "é(ß\\\x7d\x7bü" = .ok label ∧ label = ⟨7, 1, "missing end token"⟩ ∧
        label.Covers "é(ß\\\x7d\x7bü" 5 ['\x7b'] := by
  obtain ⟨hlong, hempty, hlast, -⟩ := label_marks "é😀x"
  obtain ⟨-, -, -, herrors⟩ := label_marks "é(ß\\\x7d\x7bü"
  have hsource : Node.ofSource "é(ß\\\x7d\x7bü" =
      .error (.rejected ⟨.unclosed .beginParameter .endParameter, ⟨5, 6⟩⟩) := by
    decide +kernel
  obtain ⟨error, label, c, hfailure, hlabel, hcovers, -⟩ := herrors _ hsource
  obtain rfl := Failure.rejected.inj hfailure
  have hplace : label = ⟨7, 1, "missing end token"⟩ := by
    have hvalue : (⟨.unclosed .beginParameter .endParameter, ⟨5, 6⟩⟩ : SyntaxError).label
        "é(ß\\\x7d\x7bü" = .ok ⟨7, 1, "missing end token"⟩ := by
      decide +kernel
    exact Except.ok.inj (hlabel.symm.trans hvalue)
  have hbrace : c = '\x7b' := by
    simpa using hcovers.isPrefix
  have hchars : Span.chars ⟨1, 9⟩ "é😀x" = ['😀', 'x'] := by decide +kernel
  have hchar : ("é😀x".toList[1]?).toList = ['😀'] := by decide +kernel
  refine ⟨⟨by decide, ?_⟩, ⟨by decide, ?_⟩, hlast _ rfl (by decide),
    ⟨_, label, hsource, hlabel, hplace, ?_⟩⟩
  · rw [← hchars]
    exact hlong ⟨.badEscape, ⟨1, 9⟩⟩ (by decide)
  · rw [← hchar]
    exact hempty ⟨.escapedEnd, ⟨1, 1⟩⟩ rfl (by decide)
  · rw [← hbrace]
    exact hcovers

end CucumberExpression
