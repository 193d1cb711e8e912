import CucumberExpression.Proofs.Expression.Canonical
import CucumberExpression.Proofs.Node.OnePassReading

/-!
# Reading what was written

Every well-formed expression is written as a source that is read as the tree of the expression, with
all texts and spans (`ofSource_print`). The written form is canonical, so its lexemes are found
again; the tokens of each piece are laid out as the constructs of the grammar say
(`Group.isContent_place`, `Word.isRun_place`, `Segment.exists_isRun_place`); and the one-pass reader
follows the constructs from segment to segment (`close_foldl_step`).
-/

set_option autoImplicit false
set_option relaxedAutoImplicit false

namespace CucumberExpression

open Lexeme Grammar

/-! ### Rows of pieces -/

namespace Piece

variable {α : Type} [Piece α]

theorem width_cons (piece : α) (pieces : List α) :
    width (piece :: pieces) = width piece + width pieces := by
  show (encodeAll (lexemes piece ++ lexemes pieces)).length = _
  rw [encodeAll_append, List.length_append]
  rfl

/-- The tokens of a row of pieces are those of its first piece and those of the others. -/
theorem place_cons (offset : Nat) (piece : α) (pieces : List α) :
    place offset (lexemes (piece :: pieces)) =
      place offset (lexemes piece) ++ place (offset + width piece) (lexemes pieces) :=
  place_append offset (lexemes piece) (lexemes pieces)

/-- Bare lexemes are leaves. -/
theorem nodes_lexemes (offset : Nat) (row : List Lexeme) :
    nodes offset row = (place offset row).map Token.leaf := by
  induction row generalizing offset with
  | nil => rfl
  | cons lexeme row ih =>
    have hwidth : width lexeme = lexeme.encode.length := by
      show (lexeme.encode ++ []).length = _
      rw [List.append_nil]
    show (lexeme.tokenAt offset).leaf :: nodes (offset + width lexeme) row = _
    rw [ih, hwidth, Lexeme.place_cons, List.map_cons]

theorem lexemes_lexemes (row : List Lexeme) : lexemes row = row :=
  List.flatMap_singleton' row

end Piece

/-! ### Brackets -/

theorem Parameter.isParameter_place (offset : Nat) (parameter : Parameter) :
    IsParameter (place offset (Piece.lexemes parameter))
      (.branch .parameter ⟨offset, offset + 1 + Piece.width parameter.inside + 1⟩
        (Piece.nodes (offset + 1) parameter.inside)) := by
  have hwidth : Piece.width parameter.inside = (encodeAll parameter.inside).length := by
    rw [Piece.width, Piece.lexemes_lexemes]
  have hinside : ∀ token ∈ place (offset + 1) parameter.inside, token.kind ≠ .endParameter := by
    intro token htoken
    obtain ⟨lexeme, hlexeme, position, rfl⟩ := exists_tokenAt_of_mem_place htoken
    exact parameter.kinds lexeme hlexeme
  have hplace : place offset (Piece.lexemes parameter) =
      tokenAt ⟨.beginParameter, ['{']⟩ offset :: (place (offset + 1) parameter.inside ++
        [tokenAt ⟨.endParameter, ['}']⟩ (offset + 1 + Piece.width parameter.inside)]) := by
    rw [hwidth]
    exact congrArg _ (place_append _ _ _)
  rw [hplace, Piece.nodes_lexemes]
  exact .intro rfl hinside rfl

/-- The items of an optional part are laid out as its inside. -/
theorem isInside_place {items : List (Item Parameter)}
    (hkinds : ∀ lexeme, .bare lexeme ∈ items →
      lexeme.kind ≠ .beginParameter ∧ lexeme.kind ≠ .endOptional) (offset : Nat) :
    IsInside (place offset (Piece.lexemes items)) (Piece.nodes offset items) := by
  induction items generalizing offset with
  | nil => exact .nil
  | cons item items ih =>
    have hrest := ih (fun lexeme hlexeme ↦ hkinds lexeme (List.mem_cons_of_mem _ hlexeme))
      (offset + Piece.width item)
    rw [Piece.place_cons]
    cases item with
    | bare lexeme =>
      obtain ⟨hopening, hclosing⟩ := hkinds lexeme List.mem_cons_self
      exact .text hopening hclosing hrest
    | group parameter => exact .parameter (parameter.isParameter_place offset) hrest

/-- A construct in brackets is laid out as one node. -/
theorem Group.isContent_place (offset : Nat) (group : Group) :
    ∃ node, Piece.nodes offset group = [node] ∧
      IsContent (place offset (Piece.lexemes group)) node := by
  cases group with
  | parameter parameter => exact ⟨_, rfl, .parameter (parameter.isParameter_place offset)⟩
  | optional inside =>
    refine ⟨_, rfl, ?_⟩
    have hkinds : ∀ lexeme, .bare lexeme ∈ inside.items →
        lexeme.kind ≠ .beginParameter ∧ lexeme.kind ≠ .endOptional := by
      intro lexeme hlexeme
      have hkind := (inside.valid lexeme hlexeme).2
      constructor <;> intro h <;> simp [h] at hkind
    have hplace : place offset (Piece.lexemes (Group.optional inside)) =
        tokenAt ⟨.beginOptional, ['(']⟩ offset ::
          (place (offset + 1) (Piece.lexemes inside.items) ++
            [tokenAt ⟨.endOptional, [')']⟩ (offset + 1 + Piece.width inside.items)]) :=
      congrArg _ (place_append _ _ _)
    rw [hplace]
    exact .optional rfl (isInside_place hkinds (offset + 1)) rfl

/-! ### Words -/

namespace Word

/-- The tokens of a word are a run without separators. -/
theorem isRun_place (word : Word) (offset : Nat) :
    IsRun (place offset (Piece.lexemes word.items))
      ((Piece.nodes offset word.items).map .content) := by
  have hkinds : ∀ lexeme, .bare lexeme ∈ word.items → isPlain lexeme.kind = true := by
    intro lexeme hlexeme
    have hkind := (word.valid lexeme hlexeme).2
    revert hkind
    cases lexeme.kind <;> decide
  generalize word.items = items at hkinds
  induction items generalizing offset with
  | nil => exact .nil
  | cons item items ih =>
    have hrest := ih (offset + Piece.width item) fun lexeme hlexeme ↦
      hkinds lexeme (List.mem_cons_of_mem _ hlexeme)
    rw [Piece.place_cons]
    cases item with
    | bare lexeme => exact .content (.text (hkinds lexeme List.mem_cons_self)) hrest
    | group group =>
      obtain ⟨node, hnodes, hgroup⟩ := group.isContent_place offset
      have hall : Piece.nodes offset (Item.group group :: items) =
          node :: Piece.nodes (offset + Piece.width group) items :=
        congrArg (· ++ Piece.nodes (offset + Piece.width group) items) hnodes
      rw [hall]
      exact .content hgroup hrest

/-- The items of the words of an alternation behind the first. -/
def runItems : Nat → List Word → List RunItem
  | _, [] => []
  | offset, word :: words =>
    .separator ⟨offset, offset + 1⟩ :: ((Piece.nodes (offset + 1) word.items).map .content ++
      runItems (offset + 1 + Piece.width word.items) words)

theorem isRun_place_separated (offset : Nat) (words : List Word) :
    IsRun (place offset (separated words)) (runItems offset words) := by
  induction words generalizing offset with
  | nil => exact .nil
  | cons word words ih =>
    have hplace : place offset (separated (word :: words)) =
        tokenAt ⟨.alternation, ['/']⟩ offset :: (place (offset + 1) (Piece.lexemes word.items) ++
          place (offset + 1 + Piece.width word.items) (separated words)) :=
      congrArg _ (place_append _ _ _)
    rw [hplace]
    exact .separator rfl ((word.isRun_place (offset + 1)).append (ih _))

/-- The separators of an alternation part its words. -/
theorem partition_groups (offset : Nat) (word : Word) (words : List Word) :
    RunItem.partition
        (offset + Piece.width word.items + (encodeAll (separated words)).length) offset
        (Piece.nodes offset word.items ++
          (RunItem.groups (runItems (offset + Piece.width word.items) words)).1)
        (RunItem.groups (runItems (offset + Piece.width word.items) words)).2 =
      alternatives offset (word :: words) := by
  induction words generalizing offset word with
  | nil =>
    rw [runItems, RunItem.groups, RunItem.partition, List.append_nil]
    rfl
  | cons next words ih =>
    have hstop : offset + Piece.width word.items + (encodeAll (separated (next :: words))).length =
        offset + Piece.width word.items + 1 + Piece.width next.items +
          (encodeAll (separated words)).length := by
      have hlength : (encodeAll (separated (next :: words))).length =
          (encodeAll (Piece.lexemes next.items ++ separated words)).length + 1 := rfl
      have hwidth : Piece.width next.items = (encodeAll (Piece.lexemes next.items)).length := rfl
      rw [hlength, encodeAll_append, List.length_append, hwidth]
      omega
    rw [runItems, RunItem.groups, RunItem.groups_append, List.append_nil,
      RunItem.partition, hstop, ih]
    rfl

end Word

/-! ### Segments -/

/-- The items of a run that is laid out from an offset begin there. -/
theorem head_start_of_isRun_place {offset : Nat} {lexemes : List Lexeme} {items : List RunItem}
    (h : IsRun (place offset lexemes) items) : ∀ item ∈ items.head?, item.start = offset := by
  cases lexemes with
  | nil => simp [IsRun.eq_nil h]
  | cons lexeme lexemes =>
    obtain ⟨item, others, rfl, hstart⟩ := h.head_start
    intro first hfirst
    obtain rfl : item = first := Option.some.inj hfirst
    exact hstart

namespace Segment

/-- Assumes: a segment other than blanks. Its tokens are a run, of which its nodes are gathered. -/
theorem exists_isRun_place {segment : Segment} (h : segment.isBlank = false) (offset : Nat) :
    ∃ items, IsRun (place offset segment.lexemes) items ∧
      RunItem.gather (offset + Piece.width segment) items = Piece.nodes offset segment := by
  cases segment with
  | blank => exact absurd h Bool.noConfusion
  | word content hne =>
    refine ⟨_, content.isRun_place offset, ?_⟩
    exact RunItem.gather_nodes _ _
  | alternation first second others =>
    have hrun := (first.isRun_place offset).append
      (Word.isRun_place_separated (offset + Piece.width first.items) (second :: others))
    have hplace : place offset (alternation first second others).lexemes =
        place offset (Piece.lexemes first.items) ++
          place (offset + Piece.width first.items) (Word.separated (second :: others)) :=
      place_append _ _ _
    have hwidth : Piece.width (alternation first second others) =
        Piece.width first.items + (encodeAll (Word.separated (second :: others))).length :=
      (congrArg List.length (encodeAll_append _ _)).trans List.length_append
    have hnodes : Piece.nodes offset (alternation first second others) =
        [.branch .alternation ⟨offset, offset + Piece.width (alternation first second others)⟩
          (Word.alternatives offset (first :: second :: others))] := rfl
    rw [← hplace] at hrun
    refine ⟨_, hrun, ?_⟩
    rw [RunItem.gather_of_any (by simp [Word.runItems, RunItem.isSeparator])
      (head_start_of_isRun_place hrun), RunItem.groups_append, hnodes, hwidth, ← Nat.add_assoc,
      Word.partition_groups]

end Segment

/-! ### Expressions -/

/-- Assumes: segments, and before them a run that is not yet gathered unless the segments begin with
a blank. The one-pass reader closes the line with the nodes of the segments. -/
theorem close_foldl_step {segments : List Segment}
    (halternate : segments.IsChain fun a b ↦ a.isBlank ≠ b.isBlank) (offset : Nat)
    (done : List Node) {run : List RunItem}
    (hrun : run = [] ∨ ∀ segment ∈ segments.head?, segment.isBlank = true) :
    ((place offset (Piece.lexemes segments)).foldl OnePass.step ⟨done, run, .nothing⟩).close
        (offset + Piece.width segments) =
      .ok (done ++ RunItem.gather offset run ++ Piece.nodes offset segments) := by
  induction segments generalizing offset done run with
  | nil => exact congrArg Except.ok (List.append_nil _).symm
  | cons segment segments ih =>
    obtain ⟨hnext, hrest⟩ := List.isChain_cons.mp halternate
    have hnodes : Piece.nodes offset (segment :: segments) =
        Piece.nodes offset segment ++ Piece.nodes (offset + Piece.width segment) segments := rfl
    rw [Piece.place_cons, List.foldl_append, Piece.width_cons, ← Nat.add_assoc, hnodes]
    cases hblank : segment.isBlank with
    | true =>
      cases segment with
      | word | alternation => exact absurd hblank Bool.noConfusion
      | blank lexeme hkind hvalid =>
        have hstep : (place offset (Piece.lexemes (Segment.blank lexeme hkind hvalid))).foldl
            OnePass.step ⟨done, run, .nothing⟩ = ⟨done ++ RunItem.gather offset run ++
              [(lexeme.tokenAt offset).leaf], [], .nothing⟩ := by
          show OnePass.step ⟨done, run, .nothing⟩ (lexeme.tokenAt offset) = _
          simp only [OnePass.step, tokenAt, hkind]
        rw [hstep, ih hrest _ _ (.inl rfl), RunItem.gather, List.append_nil, List.append_assoc]
        rfl
    | false =>
      obtain rfl : run = [] := hrun.resolve_right fun h ↦ by simpa [hblank] using h segment rfl
      have hblanks : ∀ next ∈ segments.head?, next.isBlank = true := fun next hmem ↦ by
        simpa [hblank] using hnext next hmem
      obtain ⟨items, hitems, hgather⟩ := Segment.exists_isRun_place hblank offset
      have hread : (place offset (Piece.lexemes segment)).foldl OnePass.step ⟨done, [], .nothing⟩ =
          ⟨done, items, .nothing⟩ := OnePass.foldl_step_of_isRun hitems
      rw [hread, ih hrest _ _ (.inr hblanks), hgather, RunItem.gather, List.append_nil,
        List.append_assoc]

namespace Expression

/-- Every well-formed expression is written as a source that is read as the tree of the expression.
-/
theorem ofSource_print (expression : Expression) :
    Node.ofSource expression.print = .ok expression.node := by
  have hclose := close_foldl_step expression.alternate 0 [] (.inl rfl)
  rw [Nat.zero_add] at hclose
  have hread : Node.ofSource expression.print =
      OnePass.read (place 0 (Piece.lexemes expression.segments)) :=
    Node.ofSource_of_scan (Token.scan_encodeAll expression.canonical_lexemes)
  rw [hread, OnePass.read, endOffset_place]
  exact congrArg (Except.map _) hclose

/-- An alternation of three words, the first with a parameter in an optional part, the second
empty, and the third with an escape, before a word that begins with a parameter. Special characters
stand bare in each construct. -/
def varied : Expression where
  segments := [
    .alternation
      ⟨[.bare ⟨.text, ['a']⟩,
        .group (.optional ⟨[.bare ⟨.text, ['b']⟩, .bare ⟨.whiteSpace, [' ']⟩,
          .group ⟨[⟨.text, ['n']⟩], by decide, by decide⟩, .bare ⟨.alternation, ['/']⟩,
          .bare ⟨.endParameter, ['}']⟩], by decide, by decide⟩)], by decide, by decide⟩
      ⟨[], by decide, by decide⟩
      [⟨[.bare ⟨.text, ['(', 'c']⟩, .bare ⟨.endOptional, [')']⟩], by decide, by decide⟩],
    .blank ⟨.whiteSpace, [' ', '\u3000']⟩ rfl (by decide),
    .word
      ⟨[.group (.parameter ⟨[⟨.text, ['d']⟩, ⟨.whiteSpace, [' ']⟩, ⟨.beginOptional, ['(']⟩],
          by decide, by decide⟩),
        .bare ⟨.endParameter, ['}']⟩], by decide, by decide⟩
      (List.cons_ne_nil _ _)]
  alternate := by decide

theorem ofSource_varied :
    varied.print = "a(b \x7bn\x7d/\x7d)//\\(c) \u3000\x7bd (\x7d\x7d" ∧
      Node.ofSource varied.print = .ok (.branch .expression ⟨0, 24⟩ [
        .branch .alternation ⟨0, 16⟩ [
          .branch .alternative ⟨0, 10⟩ [
            .leaf .text ⟨0, 1⟩ "a",
            .branch .optional ⟨1, 10⟩ [
              .leaf .text ⟨2, 3⟩ "b",
              .leaf .text ⟨3, 4⟩ " ",
              .branch .parameter ⟨4, 7⟩ [.leaf .text ⟨5, 6⟩ "n"],
              .leaf .text ⟨7, 8⟩ "/",
              .leaf .text ⟨8, 9⟩ "\x7d"]],
          .branch .alternative ⟨11, 11⟩ [],
          .branch .alternative ⟨12, 16⟩ [.leaf .text ⟨12, 15⟩ "(c", .leaf .text ⟨15, 16⟩ ")"]],
        .leaf .text ⟨16, 18⟩ " \u3000",
        .branch .parameter ⟨18, 23⟩ [
          .leaf .text ⟨19, 20⟩ "d",
          .leaf .text ⟨20, 21⟩ " ",
          .leaf .text ⟨21, 22⟩ "("],
        .leaf .text ⟨23, 24⟩ "\x7d"]) :=
  ⟨by decide +kernel, ofSource_print varied⟩

end Expression

end CucumberExpression
