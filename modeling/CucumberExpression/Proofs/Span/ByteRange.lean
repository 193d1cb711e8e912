import CucumberExpression.Proofs.Span.Tiling

/-!
# Spans as ranges of bytes

A span counts characters, and its range counts bytes. The byte at which a character of a text starts
is the length of the UTF-8 form of the characters before it (`Text.byteOffset_eq`). So the offset of
every index lies between two characters, also where the index is past the end
(`Text.byteOffset_isValid`), offsets keep the order of the indices (`Text.byteOffset_mono`), and the
bytes between two of them are the UTF-8 form of the characters between the indices
(`Text.extract_byteOffset`). Lengths, boundaries and bytes are those of the text itself here:
`String.utf8ByteSize`, `String.Pos.Raw.IsValid` and `String.toByteArray`.

Hence a cut at the ends of a span falls between characters: a span that is not reversed has a slice
in every source, which holds the characters of the span, as far as the source reaches
(`Span.slice?_eq`), and its range is made of the bytes of these characters (`Span.converts`). Slices
that meet are put together to the slice of both spans (`Span.exists_slice?_append`), and the range
of a span holds the ranges of all spans inside (`Span.byteRange_of_contains`).
-/

set_option autoImplicit false
set_option relaxedAutoImplicit false

namespace CucumberExpression

namespace Text

theorem byteLength_eq (cs : List Char) : byteLength cs = (String.ofList cs).utf8ByteSize := by
  induction cs with
  | nil => rfl
  | cons c cs ih =>
    have hone : (String.ofList [c]).utf8ByteSize = c.utf8Size := by
      rw [← String.singleton_eq_ofList, String.utf8ByteSize_singleton]
    rw [byteLength_cons, ih, ← List.singleton_append, String.ofList_append,
      String.utf8ByteSize_append, hone]

/-- The characters before an index are those before an earlier one and those between the two. -/
theorem take_eq_take_append {first last : Nat} (h : first ≤ last) (cs : List Char) :
    cs.take last = cs.take first ++ (cs.take last).drop first := by
  have hfirst : (cs.take last).take first = cs.take first := by
    rw [List.take_take, Nat.min_eq_left h]
  rw [← hfirst, List.take_append_drop]

variable (source : String) {first last : Nat}

/-! ### Offsets of indices -/

/-- The byte offset of an index is the length of the characters before it, all of them if the index
is past the end. -/
theorem byteOffset_eq (index : Nat) :
    byteOffset source.toList index = (String.ofList (source.toList.take index)).utf8ByteSize := by
  rw [byteOffset_eq_byteLength_take, byteLength_eq]

/-- The byte offset of an index lies between two characters. -/
theorem byteOffset_isValid (index : Nat) :
    (⟨byteOffset source.toList index⟩ : String.Pos.Raw).IsValid source :=
  String.Pos.Raw.isValid_iff_exists_take_toList.mpr ⟨index, byteOffset_eq source index⟩

/-- From an index to a later one the offset grows by the length of the characters between. -/
theorem byteOffset_eq_add (h : first ≤ last) :
    byteOffset source.toList last = byteOffset source.toList first +
      (String.ofList ((source.toList.take last).drop first)).utf8ByteSize := by
  have hlast := congrArg String.ofList (take_eq_take_append h source.toList)
  rw [String.ofList_append] at hlast
  rw [byteOffset_eq source last, hlast, String.utf8ByteSize_append, ← byteOffset_eq]

theorem byteOffset_mono (h : first ≤ last) :
    byteOffset source.toList first ≤ byteOffset source.toList last := by
  rw [byteOffset_eq_add source h]
  exact Nat.le_add_right _ _

/-! ### Bytes between offsets -/

/-- In a text that is put together from three, the bytes of the middle one stand where it stands. -/
theorem extract_append (front middle back : String) :
    (front ++ (middle ++ back)).toByteArray.extract front.utf8ByteSize
      (front.utf8ByteSize + middle.utf8ByteSize) = middle.toByteArray := by
  have hskip := @ByteArray.extract_append_size_add' front.toByteArray
    (middle.toByteArray ++ back.toByteArray) 0 middle.utf8ByteSize _
    String.size_toByteArray.symm
  rw [String.toByteArray_append, String.toByteArray_append]
  rw [Nat.add_zero] at hskip
  rw [hskip, ByteArray.extract_append_eq_left String.size_toByteArray.symm]

/-- The bytes between the offsets of two indices are the UTF-8 form of the characters between the
indices. -/
theorem extract_byteOffset (h : first ≤ last) :
    source.toByteArray.extract (byteOffset source.toList first) (byteOffset source.toList last) =
      (String.ofList ((source.toList.take last).drop first)).toByteArray := by
  have hcut : source = String.ofList (source.toList.take first) ++
      (String.ofList ((source.toList.take last).drop first) ++
        String.ofList (source.toList.drop last)) := by
    rw [← String.ofList_append, ← String.ofList_append, ← List.append_assoc,
      ← take_eq_take_append h, List.take_append_drop, String.ofList_toList]
  have hbytes := extract_append (String.ofList (source.toList.take first))
    (String.ofList ((source.toList.take last).drop first)) (String.ofList (source.toList.drop last))
  rw [← hcut, ← byteOffset_eq, ← byteOffset_eq_add source h] at hbytes
  exact hbytes

end Text

/-! ### Slices -/

namespace Text

/-- A character has at least one byte, so a count that covers it is a successor. -/
theorem exists_succ_utf8Size_add (c : Char) (count : Nat) :
    ∃ previous, c.utf8Size + count = previous + 1 ∧ previous + 1 - c.utf8Size = count := by
  have hpositive := c.utf8Size_pos
  exact ⟨c.utf8Size + count - 1, by omega, by omega⟩

theorem dropBytes?_byteLength_append (front back : List Char) :
    dropBytes? (byteLength front) (front ++ back) = some back := by
  induction front with
  | nil => rw [byteLength_nil, dropBytes?, List.nil_append]
  | cons c front ih =>
    obtain ⟨previous, hcount, hrest⟩ := exists_succ_utf8Size_add c (byteLength front)
    rw [List.cons_append, byteLength_cons, hcount, dropBytes?, if_pos (by omega), hrest, ih]

theorem takeBytes?_byteLength_append (front back : List Char) :
    takeBytes? (byteLength front) (front ++ back) = some front := by
  induction front with
  | nil => rw [byteLength_nil, takeBytes?]
  | cons c front ih =>
    obtain ⟨previous, hcount, hrest⟩ := exists_succ_utf8Size_add c (byteLength front)
    rw [List.cons_append, byteLength_cons, hcount, takeBytes?, if_pos (by omega), hrest, ih]
    rfl

/-- A cut between two characters gives the characters between. -/
theorem cutBytes?_byteLength_append (front middle back : List Char) :
    cutBytes? (byteLength front) (byteLength (front ++ middle)) (front ++ (middle ++ back)) =
      some middle := by
  have hle : byteLength front ≤ byteLength (front ++ middle) := by
    rw [byteLength_append]
    exact Nat.le_add_right _ _
  rw [cutBytes?, if_pos hle, dropBytes?_byteLength_append, Option.bind_some, byteLength_append,
    Nat.add_sub_cancel_left, takeBytes?_byteLength_append]

end Text

namespace Span

/-- A span that is not reversed has a slice, which holds the characters between its ends. -/
theorem slice?_eq {span : Span} (h : span.start ≤ span.stop) (source : String) :
    span.slice? source =
      some (String.ofList ((source.toList.take span.stop).drop span.start)) := by
  have hfront := Text.take_eq_take_append h source.toList
  have hsource : source.toList = source.toList.take span.start ++
      ((source.toList.take span.stop).drop span.start ++ source.toList.drop span.stop) := by
    rw [← List.append_assoc, ← hfront, List.take_append_drop]
  have hcut := Text.cutBytes?_byteLength_append (source.toList.take span.start)
    ((source.toList.take span.stop).drop span.start) (source.toList.drop span.stop)
  rw [← hsource, ← hfront] at hcut
  simp only [slice?, byteRange, Text.byteOffset_eq_byteLength_take, hcut, Option.map_some]

/-- The slice of a span that begins and ends where parts of the source do is the part between. -/
theorem slice?_of_append {source : String} {front middle back : List Char}
    (h : source.toList = front ++ (middle ++ back)) :
    slice? ⟨front.length, front.length + middle.length⟩ source = some (String.ofList middle) := by
  rw [slice?_eq (Nat.le_add_right _ _), h, ← List.append_assoc]
  have hlength : front.length + middle.length = (front ++ middle).length := by
    rw [List.length_append]
  rw [hlength, List.take_left, List.drop_left]

end Span

/-! ### Ranges -/

namespace Text

/-- What is taken or dropped past the end of a text does not count. -/
theorem drop_take_min_length (cs : List Char) (first last : Nat) :
    (cs.take (min last cs.length)).drop (min first cs.length) = (cs.take last).drop first := by
  rw [← List.take_eq_take_min]
  by_cases hinside : first ≤ cs.length
  · rw [Nat.min_eq_left hinside]
  · have hshort : (cs.take last).length ≤ cs.length :=
      (List.take_sublist last cs).length_le
    rw [Nat.min_eq_right (Nat.le_of_not_le hinside), List.drop_eq_nil_of_le hshort,
      List.drop_eq_nil_of_le (by omega)]

/-- The characters between two indices are those up to an index between, and those behind it. -/
theorem drop_take_eq_append {first middle last : Nat} (hfirst : first ≤ middle)
    (hlast : middle ≤ last) (cs : List Char) :
    (cs.take last).drop first = (cs.take middle).drop first ++ (cs.take last).drop middle := by
  rw [← List.append_right_inj (cs.take first)]
  calc cs.take first ++ (cs.take last).drop first
      = cs.take last := (take_eq_take_append (Nat.le_trans hfirst hlast) cs).symm
    _ = cs.take middle ++ (cs.take last).drop middle := take_eq_take_append hlast cs
    _ = (cs.take first ++ (cs.take middle).drop first) ++ (cs.take last).drop middle :=
        congrArg (· ++ (cs.take last).drop middle) (take_eq_take_append hfirst cs)
    _ = cs.take first ++ ((cs.take middle).drop first ++ (cs.take last).drop middle) :=
        List.append_assoc _ _ _

end Text

namespace Span

/-- The characters of a source that a span covers, as far as the source reaches. -/
def chars (span : Span) (source : String) : List Char :=
  (source.toList.take (min span.stop source.length)).drop (min span.start source.length)

theorem chars_eq (span : Span) (source : String) :
    span.chars source = (source.toList.take span.stop).drop span.start := by
  rw [chars, ← String.length_toList, Text.drop_take_min_length]

/-- The range of a span is made of the bytes of its characters. It begins behind the characters
before the span, and ends behind its last one, as far as the source reaches. The slice can be cut,
and holds the characters. -/
structure Converts (span : Span) (source : String) : Prop where
  start_eq : (span.byteRange source).1 =
    (String.ofList (source.toList.take (min span.start source.length))).utf8ByteSize
  stop_eq : (span.byteRange source).2 =
    (String.ofList (source.toList.take (min span.stop source.length))).utf8ByteSize
  start_isValid : (⟨(span.byteRange source).1⟩ : String.Pos.Raw).IsValid source
  stop_isValid : (⟨(span.byteRange source).2⟩ : String.Pos.Raw).IsValid source
  start_le_stop : (span.byteRange source).1 ≤ (span.byteRange source).2
  stop_le : (span.byteRange source).2 ≤ source.utf8ByteSize
  bytes_eq : source.toByteArray.extract (span.byteRange source).1 (span.byteRange source).2 =
    (String.ofList (span.chars source)).toByteArray
  slice_eq : span.slice? source = some (String.ofList (span.chars source))

theorem converts {span : Span} (h : span.start ≤ span.stop) (source : String) :
    span.Converts source where
  start_eq := by
    rw [← String.length_toList, ← List.take_eq_take_min]
    exact Text.byteOffset_eq source span.start
  stop_eq := by
    rw [← String.length_toList, ← List.take_eq_take_min]
    exact Text.byteOffset_eq source span.stop
  start_isValid := Text.byteOffset_isValid source span.start
  stop_isValid := Text.byteOffset_isValid source span.stop
  start_le_stop := Text.byteOffset_mono source h
  stop_le := (Text.byteOffset_isValid source span.stop).le_utf8ByteSize
  bytes_eq := by
    rw [chars_eq]
    exact Text.extract_byteOffset source h
  slice_eq := by rw [chars_eq, slice?_eq h]

/-- The slice of a span and the slice of a span that begins where it ends are put together to the
slice of both. -/
theorem exists_slice?_append {first middle last : Nat} (hfirst : first ≤ middle)
    (hlast : middle ≤ last) (source : String) :
    ∃ front back, slice? ⟨first, middle⟩ source = some front ∧
      slice? ⟨middle, last⟩ source = some back ∧
        slice? ⟨first, last⟩ source = some (front ++ back) := by
  refine ⟨_, _, slice?_eq hfirst source, slice?_eq hlast source, ?_⟩
  rw [slice?_eq (Nat.le_trans hfirst hlast), ← String.ofList_append]
  exact congrArg (fun cs ↦ some (String.ofList cs)) (Text.drop_take_eq_append hfirst hlast _)

/-- The range of a span holds the range of every span inside. -/
theorem byteRange_of_contains {outer inner : Span} (h : outer.contains inner = true)
    (source : String) : (outer.byteRange source).1 ≤ (inner.byteRange source).1 ∧
      (inner.byteRange source).2 ≤ (outer.byteRange source).2 := by
  obtain ⟨hstart, hstop⟩ := contains_iff.mp h
  exact ⟨Text.byteOffset_mono source hstart, Text.byteOffset_mono source hstop⟩

/-- Spans are converted faithfully. The range of a span that is not reversed begins behind as many
characters as stand before the span and ends behind its last one, where the source reaches so far,
and else at the end of the source; both ends lie between characters, in their order, and not past
the end. The slice can always be cut, and holds exactly the characters of the span. The slices of
two spans that meet are put together to the slice from the first start to the last stop, and a span
inside another has its range inside the range of the other. -/
theorem byteRange_faithful (source : String) :
    (∀ span : Span, span.start ≤ span.stop → span.Converts source) ∧
    (∀ first middle last : Nat, first ≤ middle → middle ≤ last → ∃ front back,
      slice? ⟨first, middle⟩ source = some front ∧ slice? ⟨middle, last⟩ source = some back ∧
        slice? ⟨first, last⟩ source = some (front ++ back)) ∧
    ∀ outer inner : Span, outer.contains inner = true →
      (outer.byteRange source).1 ≤ (inner.byteRange source).1 ∧
        (inner.byteRange source).2 ≤ (outer.byteRange source).2 :=
  ⟨fun _ h ↦ converts h source, fun _ _ _ h h' ↦ exists_slice?_append h h' source,
    fun _ _ h ↦ byteRange_of_contains h source⟩

/-- Characters of one byte up to four. A span that begins at the third of them and reaches further
than any source has the bytes of the last two. -/
theorem byteRange_faithful_widths :
    (2 ≤ offsetLimit - 1 ∧ Converts ⟨2, offsetLimit - 1⟩ "aß€😀" ∧
      byteRange ⟨2, offsetLimit - 1⟩ "aß€😀" = (3, 10) ∧
        chars ⟨2, offsetLimit - 1⟩ "aß€😀" = ['€', '😀']) ∧
    (1 ≤ 2 ∧ 2 ≤ 9 ∧ ∃ front back, slice? ⟨1, 2⟩ "aß€😀" = some front ∧
      slice? ⟨2, 9⟩ "aß€😀" = some back ∧ slice? ⟨1, 9⟩ "aß€😀" = some (front ++ back)) ∧
    (contains ⟨1, 9⟩ ⟨2, 3⟩ = true ∧
      (byteRange ⟨1, 9⟩ "aß€😀").1 ≤ (byteRange ⟨2, 3⟩ "aß€😀").1 ∧
        (byteRange ⟨2, 3⟩ "aß€😀").2 ≤ (byteRange ⟨1, 9⟩ "aß€😀").2) := by
  obtain ⟨hconverts, happend, hcontains⟩ := byteRange_faithful "aß€😀"
  refine ⟨⟨by decide, hconverts _ (by decide), by decide +kernel, by decide +kernel⟩, ?_, ?_⟩
  · exact ⟨by decide, by decide, happend 1 2 9 (by decide) (by decide)⟩
  · exact ⟨rfl, hcontains ⟨1, 9⟩ ⟨2, 3⟩ rfl⟩

end Span

end CucumberExpression
