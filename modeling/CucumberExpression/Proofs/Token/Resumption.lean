import CucumberExpression.Proofs.Node.Juxtaposition
import CucumberExpression.Proofs.Token.Fusion

/-!
# Reading on

An expression can be read in parts. What a source is read as decides what any longer source is read
as that begins with it, without a second look at the first part (`scan_append`). Behind a source
with tokens, the rest is read as by itself, only further on, and the tokens at the seam are fused
where they belong to one run. A bad escape is the error of every longer source. A source that ends
in a lone escape is the one case in which the cut has to be moved, to the place before that escape:
the rest decides what is escaped.
-/

set_option autoImplicit false
set_option relaxedAutoImplicit false

namespace CucumberExpression

theorem Mark.token?_shift (count : Nat) (mark : Mark) :
    (mark.shift count).token? = mark.token?.map (Token.shift count) := by
  cases mark <;> rfl

/-- A source in which an escape is left alone has it at the end, and none before. -/
theorem exists_init_of_lone {chars : List Char} (h : (marks 0 chars).any Mark.isLone = true) :
    ∃ init, chars = init ++ [Symbol.escape.char] ∧ (marks 0 init).any Mark.isLone = false := by
  obtain ⟨mark, hmark, hlone⟩ := List.any_eq_true.mp h
  obtain ⟨init, back, hchars, hinit, -, hback⟩ := exists_cut_of_mem_marks hmark
  obtain rfl := hback hlone
  cases mark with
  | lone offset => exact ⟨init, hchars, hinit⟩
  | _ => cases hlone

namespace Token

/-! ### What stands behind a source -/

/-- What is read behind a source of so many characters and with the given tokens, when the rest by
itself is read as the result says: the tokens of the rest stand further on, behind those of the
source, and an error of the rest stands further on. -/
def resume (count : Nat) (front : List Token) :
    Except SyntaxError (List Token) → Except SyntaxError (List Token)
  | .ok back => .ok (abut front (back.map (shift count)))
  | .error error => .error (error.map (count + ·))

theorem fuse_shift (count : Nat) (tokens : List Token) :
    fuse (tokens.map (shift count)) = (fuse tokens).map (shift count) :=
  fuse_map (fun _ _ h ↦ Nat.add_le_add_left h count) (fun _ _ ↦ rfl) tokens

/-- A source with tokens does not have to be read again. -/
theorem scan_append_of_ok {front : String} {tokens : List Token} (h : scan front = .ok tokens)
    (back : String) : scan (front ++ back) = resume front.length tokens (scan back) := by
  have hgood := exists_scan_iff.mp ⟨tokens, h⟩
  have htokens : fuse ((marks 0 front.toList).filterMap Mark.token?) = tokens := by
    rw [scan_eq, hgood] at h
    exact Except.ok.inj h
  have hmarks : (marks front.length back.toList).filterMap Mark.token? =
      ((marks 0 back.toList).filterMap Mark.token?).map (shift front.length) := by
    have hmove : marks front.length back.toList = (marks 0 back.toList).map (Mark.shift _) :=
      marks_add front.length 0 back.toList
    rw [hmove, List.filterMap_map, List.map_filterMap]
    exact congrArg (List.filterMap · _) (funext (Mark.token?_shift _))
  rw [scan_eq, scan_eq, escapeError?_append_right hgood]
  cases escapeError? back.length (marks 0 back.toList) with
  | some error => rfl
  | none =>
    simp only [Option.map_none, resume]
    rw [String.toList_append, marks_append (escapeError?_eq_none_iff.mp hgood).2,
      List.filterMap_append, fuse_append, htokens, Nat.zero_add, String.length_toList, hmarks,
      fuse_shift]

/-- A bad escape in a source is found whatever stands behind the source. -/
theorem scan_append_of_badEscape {front : String} {position : Nat}
    (h : (marks 0 front.toList).findSome? Mark.badEscape? = some position) (back : String) :
    scan (front ++ back) = .error ⟨.badEscape, ⟨position, position + 1⟩⟩ := by
  -- Up to an escape at the end, the marks of the source are marks of the whole.
  have hwhole : (marks 0 (front ++ back).toList).findSome? Mark.badEscape? = some position := by
    rw [String.toList_append]
    cases hlone : (marks 0 front.toList).any Mark.isLone with
    | false => rw [marks_append hlone, List.findSome?_append, h, Option.some_or]
    | true =>
      obtain ⟨init, hfront, hinit⟩ := exists_init_of_lone hlone
      rw [hfront, marks_append hinit, List.findSome?_append, marks_lone] at h
      have hbefore : (marks 0 init).findSome? Mark.badEscape? = some position := by
        simpa [Mark.badEscape?] using h
      rw [hfront, List.append_assoc, marks_append hinit, List.findSome?_append, hbefore,
        Option.some_or]
  rw [scan_eq, escapeError?, hwhole]

/-- A source whose only fault is an escape at its end has tokens without that escape. -/
theorem exists_scan_dropLast {front : String}
    (hbad : (marks 0 front.toList).findSome? Mark.badEscape? = none)
    (hlone : (marks 0 front.toList).any Mark.isLone = true) :
    front = String.ofList front.toList.dropLast ++ "\\" ∧
      ∃ tokens, scan (String.ofList front.toList.dropLast) = .ok tokens := by
  obtain ⟨init, hfront, hinit⟩ := exists_init_of_lone hlone
  rw [hfront, marks_append hinit, List.findSome?_append] at hbad
  rw [hfront, List.dropLast_concat]
  constructor
  · rw [← String.toList_inj, String.toList_append, String.toList_ofList, hfront]
    rfl
  · rw [exists_scan_iff, escapeError?_eq_none_iff, String.toList_ofList]
    exact ⟨List.findSome?_eq_none_iff.mp (Option.or_eq_none_iff.mp hbad).1, hinit⟩

theorem scan_escape_of_not_canEscape {c : Char} {rest : List Char} {back : String}
    (hback : back.toList = c :: rest) (hc : canEscape c = false) :
    scan ("\\" ++ back) = .error ⟨.badEscape, ⟨1, 2⟩⟩ := by
  have hchars : ("\\" ++ back).toList = Symbol.escape.char :: c :: rest := by
    rw [String.toList_append, hback]
    rfl
  rw [scan, hchars, singles, if_pos rfl, if_neg (by simp [hc])]
  rfl

/-- Assumes: a source whose only fault is an escape at its end, and a source behind it that begins
with a character. The character is blamed if it needs no escape; else the two sources are read as
they are when the escape stands at the beginning of the second. -/
theorem scan_append_of_lone {front back : String} {c : Char} {rest : List Char}
    (hbad : (marks 0 front.toList).findSome? Mark.badEscape? = none)
    (hlone : (marks 0 front.toList).any Mark.isLone = true) (hback : back.toList = c :: rest) :
    if canEscape c then
      ∃ tokens, scan (String.ofList front.toList.dropLast) = .ok tokens ∧
        scan (front ++ back) = resume (front.length - 1) tokens (scan ("\\" ++ back))
    else
      ∃ blamed, scan (front ++ back) = .error blamed ∧ blamed.kind = .badEscape ∧
        blamed.span = ⟨front.length, front.length + 1⟩ := by
  obtain ⟨hfront, tokens, htokens⟩ := exists_scan_dropLast hbad hlone
  have hlength : front.length = (String.ofList front.toList.dropLast).length + 1 :=
    (congrArg String.length hfront).trans (String.length_append _ _)
  have hmoved : scan (front ++ back) = resume (front.length - 1) tokens (scan ("\\" ++ back)) := by
    have hcut := scan_append_of_ok htokens ("\\" ++ back)
    rw [← String.append_assoc, ← hfront] at hcut
    rw [hcut, hlength, Nat.add_sub_cancel]
  by_cases hc : canEscape c = true
  · exact (if_pos hc).mpr ⟨tokens, htokens, hmoved⟩
  · rw [scan_escape_of_not_canEscape hback (by simpa using hc)] at hmoved
    refine (if_neg hc).mpr ⟨_, hmoved, rfl, ?_⟩
    simp only [SyntaxError.map, Span.map, Span.mk.injEq]
    omega

/-- Reading is incremental. Behind a source with tokens, any other source is read as by itself, only
further on (`resume`). A bad escape in the first source is the error of both together. When the
first source ends in an escape that is left alone, and the second begins with a character, that
character is blamed if it needs no escape; else the cut may be moved to the place before the escape.
-/
theorem scan_append (front back : String) :
    match scan front with
    | .ok tokens => scan (front ++ back) = resume front.length tokens (scan back)
    | .error error =>
      match error.kind, back.toList with
      | .escapedEnd, c :: _ =>
        if canEscape c then
          ∃ tokens, scan (String.ofList front.toList.dropLast) = .ok tokens ∧
            scan (front ++ back) = resume (front.length - 1) tokens (scan ("\\" ++ back))
        else
          ∃ blamed, scan (front ++ back) = .error blamed ∧ blamed.kind = .badEscape ∧
            blamed.span = ⟨front.length, front.length + 1⟩
      | _, _ => scan (front ++ back) = .error error := by
  cases hscan : scan front with
  | ok tokens => exact scan_append_of_ok hscan back
  | error error =>
    have hread := hscan
    rw [scan_eq, escapeError?] at hread
    cases hbad : (marks 0 front.toList).findSome? Mark.badEscape? with
    | some position =>
      rw [hbad] at hread
      obtain rfl := Except.error.inj hread
      exact scan_append_of_badEscape hbad back
    | none =>
      rw [hbad] at hread
      cases hlone : (marks 0 front.toList).any Mark.isLone with
      | false =>
        rw [hlone] at hread
        cases hread
      | true =>
        rw [hlone] at hread
        obtain rfl := Except.error.inj hread
        cases hback : back.toList with
        | nil =>
          obtain rfl : back = "" := String.toList_eq_nil_iff.mp hback
          rw [String.append_empty]
          exact hscan
        | cons c rest => exact scan_append_of_lone hbad hlone hback

/-- An escape at the end of the first part takes the blank that the second begins with. -/
example : scan ("a\\" ++ " b c") =
    .ok [⟨.text, ⟨0, 4⟩, "a b"⟩, ⟨.whiteSpace, ⟨4, 5⟩, " "⟩, ⟨.text, ⟨5, 6⟩, "c"⟩] := by
  decide +kernel

end Token

end CucumberExpression
