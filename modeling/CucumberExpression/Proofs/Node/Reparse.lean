import CucumberExpression.Proofs.Node.Runs
import CucumberExpression.Proofs.Node.Translation
import CucumberExpression.Proofs.Span.ByteRange

/-!
# Parts of expressions

The children of a root may be cut anywhere between two of them, and any block of neighbours is what
the part of the source that it covers is read as (`ofSource_slice`). The cut goes through the tokens
first: where the nodes of a line are cut, the line is cut into two lines (`IsLine.exists_append`),
although what stands before the second one is now the edge and no longer a word. The tokens of the
part are a piece of a canonical row, so the part is read as these tokens, only further to the left,
which changes nothing but spans.
-/

set_option autoImplicit false
set_option relaxedAutoImplicit false

namespace CucumberExpression

open CucumberExpression.Span (Tiles)

namespace Grammar

variable {start stop : Nat}

/-! ### Cutting a line -/

/-- A run is cut where its items are cut. -/
theorem IsRun.exists_append {run : List Token} {front back : List RunItem}
    (h : IsRun run (front ++ back)) :
    ∃ left right, run = left ++ right ∧ IsRun left front ∧ IsRun right back := by
  generalize hitems : front ++ back = items at h
  induction h generalizing front with
  | nil =>
    obtain ⟨rfl, rfl⟩ := List.append_eq_nil_iff.mp hitems
    exact ⟨[], [], rfl, .nil, .nil⟩
  | @separator token tokens items hkind hrest ih =>
    cases front with
    | nil =>
      rw [List.nil_append] at hitems
      exact ⟨[], token :: tokens, rfl, .nil, hitems ▸ .separator hkind hrest⟩
    | cons item front =>
      obtain ⟨rfl, hothers⟩ := List.cons.inj hitems
      obtain ⟨left, right, rfl, hleft, hright⟩ := ih hothers
      exact ⟨token :: left, right, rfl, .separator hkind hleft, hright⟩
  | @content group tokens node items hgroup hrest ih =>
    cases front with
    | nil =>
      rw [List.nil_append] at hitems
      exact ⟨[], group ++ tokens, rfl, .nil, hitems ▸ .content hgroup hrest⟩
    | cons item front =>
      obtain ⟨rfl, hothers⟩ := List.cons.inj hitems
      obtain ⟨left, right, rfl, hleft, hright⟩ := ih hothers
      exact ⟨group ++ left, right, (List.append_assoc group left right).symm,
        .content hgroup hleft, hright⟩

/-- Without separators, the items of a run are its nodes. -/
theorem RunItem.eq_map_groups {items : List RunItem} (h : items.any RunItem.isSeparator = false) :
    items = (RunItem.groups items).1.map .content := by
  induction items with
  | nil => rfl
  | cons item items ih =>
    cases item with
    | separator span => simp [RunItem.isSeparator] at h
    | content node =>
      have hrest := ih (by simpa [RunItem.isSeparator] using h)
      rw [RunItem.groups, List.map_cons, ← hrest]

/-- A run is cut where what it makes is cut. An alternation is one node, and is not cut. -/
theorem IsRun.exists_gather_append {run : List Token} {items : List RunItem} (h : IsRun run items)
    (htiles : Tiles start stop (run.map Token.span)) {front back : List Node}
    (hsplit : RunItem.gather stop items = front ++ back) :
    ∃ middle left right leftItems rightItems, run = left ++ right ∧
      Tiles start middle (left.map Token.span) ∧ Tiles middle stop (right.map Token.span) ∧
        IsRun left leftItems ∧ RunItem.gather middle leftItems = front ∧
          IsRun right rightItems ∧ RunItem.gather stop rightItems = back := by
  cases hany : items.any RunItem.isSeparator with
  | true =>
    obtain ⟨first, hone⟩ := RunItem.exists_gather_of_any hany stop
    cases front with
    | nil =>
      exact ⟨start, [], run, [], items, rfl, rfl, htiles, .nil, rfl, h, hsplit⟩
    | cons node front =>
      obtain ⟨rfl, rfl⟩ : front = [] ∧ back = [] := by
        have hlength := congrArg List.length (hone.symm.trans hsplit)
        simp only [List.length_cons, List.length_nil, List.length_append] at hlength
        exact ⟨List.length_eq_zero_iff.mp (by omega), List.length_eq_zero_iff.mp (by omega)⟩
      exact ⟨stop, run, [], items, [], (List.append_nil run).symm, htiles, rfl, h, hsplit, .nil,
        rfl⟩
  | false =>
    rw [RunItem.gather_of_none hany] at hsplit
    have hitems := RunItem.eq_map_groups hany
    rw [hsplit, List.map_append] at hitems
    subst hitems
    obtain ⟨left, right, rfl, hleft, hright⟩ := h.exists_append
    rw [List.map_append] at htiles
    obtain ⟨middle, hfront, hback⟩ := htiles.exists_middle
    exact ⟨middle, left, right, _, _, rfl, hfront, hback, hleft, RunItem.gather_nodes _ _, hright,
      RunItem.gather_nodes _ _⟩

/-- A line is cut where its nodes are cut. -/
theorem IsLine.exists_append {tokens : List Token} {front back : List Node}
    (h : IsLine stop tokens (front ++ back)) (htiles : Tiles start stop (tokens.map Token.span)) :
    ∃ middle left right, tokens = left ++ right ∧ Tiles start middle (left.map Token.span) ∧
      Tiles middle stop (right.map Token.span) ∧ IsLine middle left front ∧
        IsLine stop right back := by
  generalize hnodes : front ++ back = nodes at h
  induction h generalizing front start with
  | run hrun =>
    obtain ⟨middle, left, right, leftItems, rightItems, rfl, hleft, hright, hrun, rfl, hrun',
      rfl⟩ := hrun.exists_gather_append htiles hnodes.symm
    exact ⟨middle, left, right, rfl, hleft, hright, .run hrun, .run hrun'⟩
  | @blank run rest items blank nodes hrun hblank hrest ih =>
    rw [List.map_append, List.map_cons] at htiles
    obtain ⟨middle, hfront, hmiddle, hupright, hback⟩ := htiles.exists_middle
    subst hmiddle
    rcases List.append_eq_append_iff.mp hnodes with
      ⟨nodes', hgather, hback'⟩ | ⟨nodes', hfront', htail⟩
    · -- The cut is in the run, or between the run and the blank.
      obtain ⟨middle, left, right, leftItems, rightItems, rfl, hleft, hright, hrun, rfl, hrun',
        rfl⟩ := hrun.exists_gather_append hfront hgather
      refine ⟨middle, left, right ++ blank :: rest, List.append_assoc _ _ _, hleft, ?_, .run hrun,
        hback' ▸ .blank hrun' hblank hrest⟩
      rw [List.map_append]
      exact hright.append ⟨rfl, hupright, hback⟩
    · cases nodes' with
      | nil =>
        rw [List.append_nil] at hfront'
        rw [List.nil_append] at htail
        subst hfront'
        exact ⟨blank.span.start, run, blank :: rest, rfl, hfront, ⟨rfl, hupright, hback⟩, .run hrun,
          htail ▸ .blank .nil hblank hrest⟩
      | cons node nodes' =>
        -- The cut is behind the blank.
        obtain ⟨rfl, hnodes'⟩ := List.cons.inj htail
        obtain ⟨middle, left, right, rfl, hleft, hright, hline, hline'⟩ := ih hback hnodes'.symm
        refine ⟨middle, run ++ blank :: left, right, by simp, ?_, hright,
          hfront' ▸ .blank hrun hblank hline, hline'⟩
        rw [List.map_append]
        exact hfront.append ⟨rfl, hupright, hleft⟩

end Grammar

/-! ### Parts of a source -/

namespace Lexeme

/-- A layout is cut where its tokens are cut. -/
theorem exists_append_of_place {offset : Nat} {lexemes : List Lexeme} {left right : List Token}
    (h : place offset lexemes = left ++ right) :
    ∃ front back, lexemes = front ++ back ∧ place offset front = left ∧
      place (offset + (encodeAll front).length) back = right := by
  induction left generalizing offset lexemes with
  | nil => exact ⟨[], lexemes, rfl, rfl, h⟩
  | cons token left ih =>
    cases lexemes with
    | nil => exact absurd h (List.cons_ne_nil token _).symm
    | cons lexeme lexemes =>
      obtain ⟨rfl, hrest⟩ := List.cons.inj h
      obtain ⟨front, back, rfl, rfl, rfl⟩ := ih hrest
      refine ⟨lexeme :: front, back, rfl, rfl, ?_⟩
      rw [encodeAll_cons, List.length_append, Nat.add_assoc]

end Lexeme

namespace Node

open Lexeme Grammar

/-- A row of lexemes that makes a line from an offset on is written as a source with the nodes of
that line, further to the left. -/
theorem exists_ofSource_of_isLine {offset : Nat} {lexemes : List Lexeme} {nodes : List Node}
    (hcanonical : Canonical lexemes)
    (h : IsLine (offset + (encodeAll lexemes).length) (place offset lexemes) nodes) :
    ∃ node, ofSource (String.ofList (encodeAll lexemes)) = .ok node ∧
      node.children.map (Node.shift offset) = nodes := by
  have hclose := h.close_foldl_step []
  have hplace : place offset lexemes = (place 0 lexemes).map (Token.shift offset) :=
    place_add offset 0 lexemes
  have hshift := OnePass.close_foldl_step_shift offset (encodeAll lexemes).length (place 0 lexemes)
  rw [← hplace, OnePass.start, hclose] at hshift
  cases hleft : ((place 0 lexemes).foldl OnePass.step ⟨[], [], .nothing⟩).close
      (encodeAll lexemes).length with
  | error failure =>
    rw [hleft] at hshift
    exact absurd hshift nofun
  | ok children =>
    rw [hleft] at hshift
    obtain ⟨line, hline, hchildren⟩ := exists_isLine_of_close (hcanonical.ne_endOfLine 0) hleft
    rw [List.nil_append] at hchildren
    subst hchildren
    have hlength : (String.ofList (encodeAll lexemes)).length = (encodeAll lexemes).length := by
      rw [← String.length_toList, String.toList_ofList]
    refine ⟨.branch .expression ⟨0, (encodeAll lexemes).length⟩ children, ?_,
      (Except.ok.inj hshift).symm⟩
    rw [ofSource_eq_ok_iff, hlength]
    exact ⟨lexemes, children, hcanonical, String.toList_ofList.symm, hline, rfl⟩

/-- Assumes: a block of neighbours among the children of a root. The part of the source from the
start of the first to the end of the last is read as the block, further to the left. -/
theorem exists_ofSource_slice {source : String} {root : Node} (h : ofSource source = .ok root)
    {front block back : List Node} (hchildren : root.children = front ++ (block ++ back))
    {first last : Node} (hfirst : block.head? = some first) (hlast : block.getLast? = some last) :
    ∃ part node, Span.slice? ⟨first.span.start, last.span.stop⟩ source = some part ∧
      ofSource part = .ok node ∧ node.children.map (Node.shift first.span.start) = block := by
  obtain ⟨lexemes, nodes, hcanonical, hencode, hnodes, rfl⟩ := ofSource_eq_ok_iff.mp h
  obtain rfl : nodes = front ++ (block ++ back) := hchildren
  have htiles := tiles_source hencode
  -- The tokens before the block, those of the block and those behind it, and their lexemes.
  obtain ⟨begin, left, others, hcut, hleft, hothers, -, hrest⟩ := hnodes.exists_append htiles
  obtain ⟨before, following, rfl, rfl, rfl⟩ := exists_append_of_place hcut
  obtain ⟨stop, middle, right, hcut', hmiddle, -, hblock, -⟩ := hrest.exists_append hothers
  obtain ⟨part, behind, rfl, rfl, rfl⟩ := exists_append_of_place hcut'
  obtain rfl : 0 + (encodeAll before).length = begin := (tiles_place 0 before).stop_unique hleft
  rw [Nat.zero_add] at hmiddle hblock
  obtain rfl : (encodeAll before).length + (encodeAll part).length = stop :=
    (tiles_place _ part).stop_unique hmiddle
  -- The block tiles what its tokens tile, so it starts and stops where they do.
  have hspans := hblock.tiles hmiddle
  have hstart : first.span.start = (encodeAll before).length :=
    hspans.head_start first.span (by rw [List.head?_map, hfirst]; rfl)
  have hstop : last.span.stop = (encodeAll before).length + (encodeAll part).length :=
    hspans.last_stop last.span (by rw [List.getLast?_map, hlast]; rfl)
  rw [hstart, hstop]
  have hsource : source.toList = encodeAll before ++ (encodeAll part ++ encodeAll behind) := by
    rw [← hencode, encodeAll_append, encodeAll_append]
  have hpart : Canonical part := hcanonical.of_append.2.of_append.1
  obtain ⟨node, hnode, hshift⟩ := exists_ofSource_of_isLine hpart hblock
  exact ⟨_, node, Span.slice?_of_append hsource, hnode, hshift⟩

/-- The part of a source that neighbouring children of its root cover, from the `i`-th to the
`j`-th, is read as just these children, moved to the left by the start of the first: moved back to
the right they are the same, with all that is below them. -/
theorem ofSource_slice {source : String} {root : Node} (h : ofSource source = .ok root) {i j : Nat}
    (hij : i ≤ j) (hj : j < root.children.length) :
    ∃ part node,
      Span.slice? ⟨root.children[i].span.start, root.children[j].span.stop⟩ source = some part ∧
        ofSource part = .ok node ∧
          node.children.map (Node.shift root.children[i].span.start) =
            (root.children.drop i).take (j + 1 - i) := by
  have hchildren : root.children = root.children.take i ++
      ((root.children.drop i).take (j + 1 - i) ++ (root.children.drop i).drop (j + 1 - i)) := by
    rw [List.take_append_drop, List.take_append_drop]
  refine exists_ofSource_slice h hchildren ?_ ?_
  · rw [List.head?_take, if_neg (by omega), List.head?_drop, List.getElem?_eq_getElem (by omega)]
  · have hindex : i + (j + 1 - i - 1) = j := by omega
    rw [List.getLast?_take, if_neg (by omega), List.getElem?_drop, hindex,
      List.getElem?_eq_getElem hj]
    rfl

/-- An optional part with a separator in it, behind a word, and an alternation with a parameter. -/
def bracketed : Node :=
  .branch .expression ⟨0, 12⟩
    [.leaf .text ⟨0, 1⟩ "é",
      .branch .optional ⟨1, 6⟩
        [.leaf .text ⟨2, 3⟩ "a", .leaf .text ⟨3, 4⟩ "/", .leaf .text ⟨4, 5⟩ "b"],
      .leaf .text ⟨6, 7⟩ " ",
      .branch .alternation ⟨7, 12⟩
        [.branch .alternative ⟨7, 8⟩ [.leaf .text ⟨7, 8⟩ "c"],
          .branch .alternative ⟨9, 12⟩ [.branch .parameter ⟨9, 12⟩ [.leaf .text ⟨10, 11⟩ "d"]]]]

theorem ofSource_slice_bracketed :
    ofSource "é(a/b) c/\x7bd\x7d" = .ok bracketed ∧ 1 ≤ 3 ∧ 3 < bracketed.children.length ∧
      ∃ part node, Span.slice? ⟨1, 12⟩ "é(a/b) c/\x7bd\x7d" = some part ∧ ofSource part = .ok node ∧
        node.children.map (Node.shift 1) =
          [.branch .optional ⟨1, 6⟩
              [.leaf .text ⟨2, 3⟩ "a", .leaf .text ⟨3, 4⟩ "/", .leaf .text ⟨4, 5⟩ "b"],
            .leaf .text ⟨6, 7⟩ " ",
            .branch .alternation ⟨7, 12⟩
              [.branch .alternative ⟨7, 8⟩ [.leaf .text ⟨7, 8⟩ "c"],
                .branch .alternative ⟨9, 12⟩
                  [.branch .parameter ⟨9, 12⟩ [.leaf .text ⟨10, 11⟩ "d"]]]] := by
  have hsource : ofSource "é(a/b) c/\x7bd\x7d" = .ok bracketed := by decide +kernel
  have hij : 1 ≤ 3 := by decide
  have hj : 3 < bracketed.children.length := by decide
  exact ⟨hsource, hij, hj, ofSource_slice hsource hij hj⟩

end Node

end CucumberExpression
