import CucumberExpression.Proofs.Expression.Canonical
import CucumberExpression.Proofs.Node.Runs
import CucumberExpression.Proofs.Node.Translation
import CucumberExpression.Proofs.Node.Verdict
import CucumberExpression.Proofs.Token.Seam

/-!
# Expressions joined by blanks

A source with a tree may be continued by blanks and any other source: the blanks are one leaf, and
what follows is read as by itself, only further on, whether it has a tree or not
(`ofSource_append_blank_append`). The blanks must not run together with others on either side.

Three things must not be changed by the seam. The tokens on both sides are those of the two sources
(`canonical_append_blank`), and an escape to blame is one of the second
(`escapeError?_append_right`). The one-pass reader has closed everything when it comes to the
blanks, just as at the end of the first source (`step_of_close`), and behind them it goes on as from
the start (`foldl_step_behind`).
-/

set_option autoImplicit false
set_option relaxedAutoImplicit false

namespace CucumberExpression

/-! ### Reading on behind a blank -/

namespace OnePass

open Grammar

/-- The state with more nodes done before all others. -/
def State.behind (front : List Node) (state : State) : State :=
  { state with done := front ++ state.done }

variable {front : List Node}

theorem accept_behind (state : State) (node : Node) :
    (state.behind front).accept node = (state.accept node).behind front := by
  obtain ⟨done, run, opened⟩ := state
  cases opened <;> rfl

/-- What is done changes no step. -/
theorem step_behind (state : State) (token : Token) :
    step (state.behind front) token = (step state token).behind front := by
  obtain ⟨done, run, opened⟩ := state
  cases opened with
  | nothing =>
    cases hkind : token.kind with
    | whiteSpace => simp only [State.behind, step, hkind, List.append_assoc]
    | _ => simp only [State.behind, step, hkind, State.accept]
  | optional opening inside =>
    cases hkind : token.kind <;> simp only [State.behind, step, hkind, State.accept]
  | parameter outer opening inside =>
    by_cases hkind : token.kind = .endParameter
    · simp only [step, hkind, if_true]
      exact accept_behind ⟨done, run, .around outer⟩ _
    · simp only [step, hkind, if_false]
      exact accept_behind ⟨done, run, .parameter outer opening inside⟩ _

theorem foldl_step_behind (tokens : List Token) (state : State) :
    tokens.foldl step (state.behind front) = (tokens.foldl step state).behind front := by
  induction tokens generalizing state with
  | nil => rfl
  | cons token tokens ih => rw [List.foldl_cons, step_behind, ih, List.foldl_cons]

theorem close_behind (lineEnd : Nat) (state : State) :
    (state.behind front).close lineEnd = (state.close lineEnd).map (front ++ ·) := by
  obtain ⟨done, run, opened⟩ := state
  cases herror : opened.error? with
  | some error => simp only [State.behind, State.close, herror, Except.map]
  | none => simp only [State.behind, State.close, herror, Except.map, List.append_assoc]

/-- A blank does what the end of the line would do in its place. -/
theorem step_of_close {state : State} {blank : Token} {nodes : List Node}
    (hblank : blank.kind = .whiteSpace) (h : state.close blank.span.start = .ok nodes) :
    step state blank = ⟨nodes ++ [blank.leaf], [], .nothing⟩ := by
  obtain ⟨done, run, opened⟩ := state
  cases opened with
  | nothing =>
    obtain rfl : done ++ RunItem.gather blank.span.start run = nodes := Except.ok.inj h
    simp only [step, hblank]
  | optional | parameter => cases h

/-- Assumes: tokens that the reader closes where a blank starts. What stands behind the blank is
read as from the start, with the nodes of these tokens and the blank in front. -/
theorem close_foldl_step_blank {tokens rest : List Token} {blank : Token} {nodes : List Node}
    (hblank : blank.kind = .whiteSpace)
    (h : (tokens.foldl step start).close blank.span.start = .ok nodes) (lineEnd : Nat) :
    ((tokens ++ blank :: rest).foldl step start).close lineEnd =
      ((rest.foldl step start).close lineEnd).map ((nodes ++ [blank.leaf]) ++ ·) := by
  have hstart : (⟨nodes ++ [blank.leaf], [], .nothing⟩ : State) =
      start.behind (nodes ++ [blank.leaf]) := by
    rw [State.behind, start, List.append_nil]
  rw [List.foldl_append, List.foldl_cons, step_of_close hblank h, hstart, foldl_step_behind,
    close_behind]

theorem exists_rejected_of_close {state : State} {lineEnd : Nat} {failure : Failure}
    (h : state.close lineEnd = .error failure) : ∃ error, failure = .rejected error := by
  rw [State.close] at h
  cases herror : state.opened.error? with
  | some error =>
    rw [herror] at h
    exact ⟨error, (Except.error.inj h).symm⟩
  | none =>
    rw [herror] at h
    cases h

end OnePass

/-! ### Lexemes on both sides of a blank -/

namespace Lexeme

theorem canonical_append_blank {front back : List Lexeme} {blank : Lexeme} (hblank : blank.Valid)
    (hkind : blank.kind = .whiteSpace) (hfront : Canonical front) (hback : Canonical back)
    (hlast : ∀ lexeme ∈ front.getLast?, lexeme.kind ≠ .whiteSpace)
    (hfirst : ∀ lexeme ∈ back.head?, lexeme.kind ≠ .whiteSpace) :
    Canonical (front ++ blank :: back) := by
  have hright : Canonical ([blank] ++ back) := by
    refine (canonical_singleton hblank).append hback fun x hx y hy hjoins ↦ ?_
    obtain rfl : blank = x := Option.some.inj hx
    exact hfirst y hy (hjoins.1.symm.trans hkind)
  refine hfront.append hright fun x hx y hy hjoins ↦ ?_
  obtain rfl : blank = y := Option.some.inj hy
  exact hlast x hx (hjoins.1.trans hkind)

/-- Behind a source and blanks, lexemes make the same tokens as from the first offset, further
on. -/
theorem place_append_blank {front : String} {lexemes : List Lexeme}
    (hencode : encodeAll lexemes = front.toList) (blank : String) (lexemes' : List Lexeme) :
    place 0 (lexemes ++ ⟨.whiteSpace, blank.toList⟩ :: lexemes') =
      place 0 lexemes ++ ⟨.whiteSpace, ⟨front.length, (front ++ blank).length⟩, blank⟩ ::
        (place 0 lexemes').map (Token.shift (front ++ blank).length) := by
  have hlength : (encode ⟨.whiteSpace, blank.toList⟩).length = blank.length := String.length_toList
  rw [place_append, place_cons, tokenAt, hlength, hencode, String.length_toList, Nat.zero_add,
    String.ofList_toList, ← String.length_append, ← place_add, Nat.add_zero]

/-- The first lexeme of a source is no blank where its first character is none. -/
theorem head_ne_whiteSpace {lexemes : List Lexeme} (h : Canonical lexemes)
    (hhead : (encodeAll lexemes).head?.any Text.isBlank = false) :
    ∀ lexeme ∈ lexemes.head?, lexeme.kind ≠ .whiteSpace := by
  intro lexeme hlexeme hkind
  obtain ⟨rest, rfl⟩ := List.head?_eq_some_iff.mp hlexeme
  obtain ⟨kind, text⟩ := lexeme
  obtain rfl : kind = .whiteSpace := hkind
  obtain ⟨hne, hall⟩ : text ≠ [] ∧ ∀ c ∈ text, Text.isBlank c = true :=
    h.valid _ List.mem_cons_self
  obtain ⟨c, text, rfl⟩ := List.exists_cons_of_ne_nil hne
  have hblank : Text.isBlank c = false := hhead
  rw [hall c List.mem_cons_self] at hblank
  exact absurd hblank (by decide)

end Lexeme

/-- Whether a mark is a blank that no escape stands before. -/
def Mark.isBlank : Mark → Bool
  | bare _ c => Text.isBlank c
  | _ => false

/-- Whether a source ends in a blank that no escape stands before. -/
def EndsInBlank (source : String) : Prop :=
  ∃ mark ∈ marks 0 source.toList, mark.isBlank = true ∧ mark.span.stop = source.length

instance (source : String) : Decidable (EndsInBlank source) :=
  inferInstanceAs (Decidable (∃ mark ∈ _, _))

/-- The last lexeme of a source is no blank where its last character is none, or is escaped. -/
theorem Lexeme.getLast_ne_whiteSpace {source : String} {lexemes : List Lexeme}
    (h : Canonical lexemes) (hencode : encodeAll lexemes = source.toList)
    (hend : ¬ EndsInBlank source) : ∀ lexeme ∈ lexemes.getLast?, lexeme.kind ≠ .whiteSpace := by
  intro lexeme hlexeme hkind
  have hscan : Token.scan source = .ok (place 0 lexemes) :=
    Token.scan_eq_ok_iff.mpr ⟨lexemes, h, rfl, hencode⟩
  obtain ⟨front, rfl⟩ := List.getLast?_eq_some_iff.mp hlexeme
  have hlast : lexeme.tokenAt (0 + (encodeAll front).length) ∈ place 0 (front ++ [lexeme]) := by
    rw [place_append]
    exact List.mem_append_right _ List.mem_cons_self
  -- The last token is not empty, so it covers the last character.
  have hpositive := List.length_pos_iff.mpr
    (h.valid lexeme (List.mem_append_right _ List.mem_cons_self)).encode_ne_nil
  have hlength := congrArg List.length hencode
  rw [encodeAll_append, encodeAll_cons, encodeAll_nil, List.append_nil, List.length_append,
    String.length_toList] at hlength
  have hcovers : (lexeme.tokenAt (0 + (encodeAll front).length)).span.covers
      (source.length - 1) = true := by
    rw [Span.covers_iff]
    simp only [tokenAt]
    omega
  obtain ⟨c, hmark, hblank⟩ := Token.exists_bare_of_covers hscan hlast hkind (by omega) hcovers
  exact hend ⟨_, hmark, hblank, Nat.sub_add_cancel (by omega)⟩

/-! ### Escapes behind a seam -/

/-- The escape to blame in a source that stands further on is the same one, further on. -/
theorem escapeError?_add (count : Nat) (chars : List Char) :
    escapeError? (count + chars.length) (marks count chars) =
      (escapeError? chars.length (marks 0 chars)).map (SyntaxError.map (count + ·)) := by
  have hmove : marks count chars = (marks 0 chars).map (Mark.shift count) := marks_add count 0 chars
  have hbad : (marks count chars).findSome? Mark.badEscape? =
      ((marks 0 chars).findSome? Mark.badEscape?).map (count + ·) := by
    rw [hmove, List.findSome?_map, List.map_findSome?]
    exact congrArg (List.findSome? · _) (funext (Mark.badEscape?_shift count))
  have hany : (marks count chars).any Mark.isLone = (marks 0 chars).any Mark.isLone := by
    rw [hmove, List.any_map]
    exact congrArg (List.any _) (funext (Mark.isLone_shift count))
  rw [escapeError?, escapeError?, hbad, hany]
  cases (marks 0 chars).findSome? Mark.badEscape? with
  | some position => rfl
  | none =>
    cases chars with
    | nil => rfl
    | cons c chars =>
      have hlast : count + (c :: chars).length - 1 = count + ((c :: chars).length - 1) :=
        Nat.add_sub_assoc (Nat.le_add_left 1 _) count
      cases hlone : (marks 0 (c :: chars)).any Mark.isLone with
      | false => rfl
      | true =>
        simp only [Option.map_none, Option.map_some, if_true, SyntaxError.map, Span.map, hlast]

/-- Assumes: a source without an escape to blame. In front of another one it leaves the blame to
the escapes of that one. -/
theorem escapeError?_append_right {front : String}
    (h : escapeError? front.length (marks 0 front.toList) = none) (back : String) :
    escapeError? (front ++ back).length (marks 0 (front ++ back).toList) =
      (escapeError? back.length (marks 0 back.toList)).map
        (SyntaxError.map (front.length + ·)) := by
  have hmove := escapeError?_add front.length back.toList
  rw [String.length_toList] at hmove
  rw [String.toList_append, String.length_append,
    marks_append (escapeError?_eq_none_iff.mp h).2, escapeError?_append h, Nat.zero_add,
    String.length_toList, hmove]

namespace Node

open OnePass Lexeme

/-! ### The joined source -/

theorem exists_rejected {source : String} {failure : Failure}
    (h : ofSource source = .error failure) : ∃ error, failure = .rejected error := by
  cases hscan : Token.scan source with
  | error error =>
    rw [ofSource, hscan] at h
    exact ⟨error, (Except.error.inj h).symm⟩
  | ok tokens =>
    rw [ofSource_of_scan hscan, OnePass.read] at h
    cases hclose : (tokens.foldl step start).close (TokenLine.endOffset ⟨tokens⟩) with
    | ok nodes =>
      rw [hclose] at h
      cases h
    | error failure' =>
      rw [hclose] at h
      obtain rfl : failure' = failure := Except.error.inj h
      exact exists_rejected_of_close hclose

/-- The tokens of a source are read up to its end. -/
theorem ofSource_eq_close {source : String} {lexemes : List Lexeme} (h : Canonical lexemes)
    (hencode : encodeAll lexemes = source.toList) :
    ofSource source = (((place 0 lexemes).foldl step start).close source.length).map
      (.branch .expression ⟨0, source.length⟩) := by
  have hscan := Token.scan_eq_ok_iff.mpr ⟨lexemes, h, rfl, hencode⟩
  rw [ofSource_of_scan hscan, OnePass.read, endOffset_place, hencode, String.length_toList]

/-- Two sources with blanks between them, which run together with neither. -/
structure Parted (front blank back : String) : Prop where
  front : ¬ EndsInBlank front
  nonempty : blank ≠ ""
  blank : blank.toList.all Text.isBlank = true
  back : back.toList.head?.any Text.isBlank = false

namespace Parted

variable {front blank back : String} (h : Parted front blank back)

include h

/-- The blanks are one lexeme. -/
theorem valid : Valid ⟨.whiteSpace, blank.toList⟩ :=
  ⟨fun hnil ↦ h.nonempty (String.toList_eq_nil_iff.mp hnil), List.all_eq_true.mp h.blank⟩

/-- The lexemes of the joined source are those of the two sources, with the blanks between them. -/
theorem canonical {lexemes lexemes' : List Lexeme} (hcanonical : Canonical lexemes)
    (hencode : encodeAll lexemes = front.toList) (hcanonical' : Canonical lexemes')
    (hencode' : encodeAll lexemes' = back.toList) :
    Canonical (lexemes ++ ⟨.whiteSpace, blank.toList⟩ :: lexemes') ∧
      encodeAll (lexemes ++ ⟨.whiteSpace, blank.toList⟩ :: lexemes') =
        (front ++ blank ++ back).toList := by
  constructor
  · refine canonical_append_blank h.valid rfl hcanonical hcanonical'
      (getLast_ne_whiteSpace hcanonical hencode h.front) (head_ne_whiteSpace hcanonical' ?_)
    rw [hencode']
    exact h.back
  · rw [encodeAll_append, encodeAll_cons, hencode, hencode', String.toList_append,
      String.toList_append, List.append_assoc]
    rfl

/-- The first source and the blanks have no escape to blame. -/
theorem escapeError?_eq_none {lexemes : List Lexeme} (hcanonical : Canonical lexemes)
    (hencode : encodeAll lexemes = front.toList) :
    escapeError? (front ++ blank).length (marks 0 (front ++ blank).toList) = none := by
  have hapart : Parted front blank "" := ⟨h.front, h.nonempty, h.blank, rfl⟩
  obtain ⟨hjoined, hencode'⟩ :=
    hapart.canonical hcanonical hencode ⟨by simp, List.isChain_nil⟩ rfl
  rw [String.append_empty] at hencode'
  exact Token.exists_scan_iff.mp ⟨_, Token.scan_eq_ok_iff.mpr ⟨_, hjoined, rfl, hencode'⟩⟩

/-- What the second source is read as decides what the joined source is read as. -/
theorem ofSource_eq {root : Node} (hroot : ofSource front = .ok root) :
    ofSource (front ++ blank ++ back) =
      ((ofSource back).map fun node ↦
        .branch .expression ⟨0, (front ++ blank ++ back).length⟩
          (root.children ++ .leaf .text ⟨front.length, front.length + blank.length⟩ blank ::
            node.children.map (Node.shift (front.length + blank.length)))).mapError
        (Failure.map (front.length + blank.length + ·)) := by
  obtain ⟨lexemes, nodes, hcanonical, hencode, hline, rfl⟩ := ofSource_eq_ok_iff.mp hroot
  rw [← String.length_append]
  cases hescape : escapeError? back.length (marks 0 back.toList) with
  | some error =>
    have hseam := escapeError?_append_right (h.escapeError?_eq_none hcanonical hencode) back
    rw [hescape] at hseam
    rw [ofSource_of_escapeError? hescape, ofSource_of_escapeError? hseam]
    rfl
  | none =>
    obtain ⟨tokens, hscan⟩ := Token.exists_scan_iff.mpr hescape
    obtain ⟨lexemes', hcanonical', -, hencode'⟩ := Token.exists_canonical_of_scan hscan
    obtain ⟨hjoined, hencodeJoined⟩ := h.canonical hcanonical hencode hcanonical' hencode'
    have hclose : ((place 0 lexemes).foldl step start).close front.length = .ok nodes :=
      hline.close_foldl_step []
    rw [ofSource_eq_close hjoined hencodeJoined, place_append_blank hencode,
      close_foldl_step_blank rfl hclose, ofSource_eq_close hcanonical' hencode',
      String.length_append (front ++ blank), close_foldl_step_shift]
    cases ((place 0 lexemes').foldl step start).close back.length with
    | error failure => rfl
    | ok nodes' =>
      simp only [Except.map, Except.mapError, List.append_assoc, List.singleton_append]
      rfl

end Parted

/-- Expressions are read word by word: behind a source with a tree and some blanks, any other source
is read as by itself, only further on. Where it has a tree, its nodes stand behind those of the
first source and the leaf of the blanks; where it has none, its error is that of the whole. -/
theorem ofSource_append_blank_append {front blank back : String}
    (hparted : Parted front blank back) {root : Node} (hroot : ofSource front = .ok root) :
    (∀ node, ofSource back = .ok node →
      ofSource (front ++ blank ++ back) =
        .ok (.branch .expression ⟨0, (front ++ blank ++ back).length⟩
          (root.children ++ .leaf .text ⟨front.length, front.length + blank.length⟩ blank ::
            node.children.map (Node.shift (front.length + blank.length))))) ∧
    ∀ failure, ofSource back = .error failure →
      ∃ error moved, failure = .rejected error ∧
        ofSource (front ++ blank ++ back) = .error (.rejected moved) ∧
          moved.kind = error.kind ∧ moved.message = error.message ∧ moved.hints = error.hints ∧
            moved.span = ⟨front.length + blank.length + error.span.start,
              front.length + blank.length + error.span.stop⟩ := by
  have hjoined := hparted.ofSource_eq hroot
  constructor
  · intro node hnode
    rw [hjoined, hnode]
    rfl
  · intro failure hfailure
    obtain ⟨error, rfl⟩ := exists_rejected hfailure
    refine ⟨error, error.map (front.length + blank.length + ·), rfl, ?_, rfl, rfl, rfl, rfl⟩
    rw [hjoined, hfailure]
    rfl

/-- Two alternatives, the second of which ends in an escaped blank. -/
def blankEnded : Node :=
  .branch .expression ⟨0, 5⟩
    [.branch .alternation ⟨0, 5⟩
      [.branch .alternative ⟨0, 1⟩ [.leaf .text ⟨0, 1⟩ "a"],
        .branch .alternative ⟨2, 5⟩ [.leaf .text ⟨2, 5⟩ "b "]]]

/-- A parameter behind an empty alternative. -/
def slashBegun : Node :=
  .branch .expression ⟨0, 4⟩
    [.branch .alternation ⟨0, 4⟩
      [.branch .alternative ⟨0, 0⟩ [],
        .branch .alternative ⟨1, 4⟩ [.branch .parameter ⟨1, 4⟩ [.leaf .text ⟨2, 3⟩ "c"]]]]

theorem ofSource_append_ideographic_append :
    Parted "a/b\\ " "\u3000 " "/\x7bc\x7d" ∧ Parted "a/b\\ " "\u3000 " "(c" ∧
      ofSource "a/b\\ " = .ok blankEnded ∧ ofSource "/\x7bc\x7d" = .ok slashBegun ∧
      ofSource "(c" = .error (.rejected ⟨.unclosed .beginOptional .endOptional, ⟨0, 1⟩⟩) ∧
      ofSource ("a/b\\ " ++ "\u3000 " ++ "/\x7bc\x7d") = .ok (.branch .expression ⟨0, 11⟩
        [.branch .alternation ⟨0, 5⟩
            [.branch .alternative ⟨0, 1⟩ [.leaf .text ⟨0, 1⟩ "a"],
              .branch .alternative ⟨2, 5⟩ [.leaf .text ⟨2, 5⟩ "b "]],
          .leaf .text ⟨5, 7⟩ "\u3000 ",
          .branch .alternation ⟨7, 11⟩
            [.branch .alternative ⟨7, 7⟩ [],
              .branch .alternative ⟨8, 11⟩
                [.branch .parameter ⟨8, 11⟩ [.leaf .text ⟨9, 10⟩ "c"]]]]) ∧
      ∃ moved : SyntaxError, ofSource ("a/b\\ " ++ "\u3000 " ++ "(c") = .error (.rejected moved) ∧
        moved.kind = .unclosed ∧ moved.span = ⟨7, 8⟩ := by
  have hparted : Parted "a/b\\ " "\u3000 " "/\x7bc\x7d" :=
    ⟨by decide +kernel, by decide, by decide +kernel, by decide +kernel⟩
  have hparted' : Parted "a/b\\ " "\u3000 " "(c" :=
    ⟨by decide +kernel, by decide, by decide +kernel, by decide +kernel⟩
  have hroot : ofSource "a/b\\ " = .ok blankEnded := by decide +kernel
  have hnode : ofSource "/\x7bc\x7d" = .ok slashBegun := by decide +kernel
  have hfailure : ofSource "(c" =
      .error (.rejected ⟨.unclosed .beginOptional .endOptional, ⟨0, 1⟩⟩) := by decide +kernel
  obtain ⟨error, moved, herror, hmoved, hkind, -, -, hspan⟩ :=
    (ofSource_append_blank_append hparted' hroot).2 _ hfailure
  obtain rfl := Failure.rejected.inj herror
  exact ⟨hparted, hparted', hroot, hnode, hfailure,
    (ofSource_append_blank_append hparted hroot).1 _ hnode, moved, hmoved, hkind, hspan⟩

end Node

end CucumberExpression
