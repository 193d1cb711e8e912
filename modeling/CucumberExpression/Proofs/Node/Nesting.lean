import CucumberExpression.Proofs.Node.Descendants
import CucumberExpression.Proofs.Node.Ending
import CucumberExpression.Proofs.Token.Order

/-!
# Spans nest

A construct takes its span from tokens: from two of its own, from a separator before or behind it,
or from the boundary behind its run. For tokens in order none of these spans is reversed, whichever
rule asks for it and whether or not its attempt is given up later, so reading comes to no fault
(`rule_ne_fault`, `ofTokens_nested`). The spans of the tree nest: each is inside that of its parent,
and siblings stand in order without overlap (`Node.Nested`).

Along the constructs it is shown of a row of nodes that it is spaced between the offsets between
which its tokens are, with nothing but nested nodes in it (`Node.NestedRow`). The tokens need not
touch, and those for the edges of the line may be among them.
-/

set_option autoImplicit false
set_option relaxedAutoImplicit false

namespace CucumberExpression

open CucumberExpression.Span (Spaced)

namespace Node

/-! ### Nested nodes -/

/-- The span of a node is not reversed, and those of its children stand inside it, in order and
without overlap. -/
structure Nested (node : Node) : Prop where
  upright : node.span.start ≤ node.span.stop
  within : ∀ child ∈ node.children, node.span.contains child.span = true
  apart : node.children.IsChain fun a b ↦ a.span.stop ≤ b.span.start

/-- A row of trees that stands in order between two offsets, each of them nested. -/
structure NestedRow (start stop : Nat) (nodes : List Node) : Prop where
  spaced : Spaced start stop (nodes.map span)
  nested : ∀ node ∈ nodes, node.Everywhere Nested

namespace NestedRow

variable {start middle stop : Nat} {front back nodes : List Node}

theorem nil (h : start ≤ stop) : NestedRow start stop [] := ⟨h, by simp⟩

theorem mono {start' stop' : Nat} (h : NestedRow start stop nodes) (hstart : start' ≤ start)
    (hstop : stop ≤ stop') : NestedRow start' stop' nodes :=
  ⟨h.spaced.mono hstart hstop, h.nested⟩

theorem append (hfront : NestedRow start middle front) (hback : NestedRow middle stop back) :
    NestedRow start stop (front ++ back) := by
  constructor
  · rw [List.map_append]
    exact hfront.spaced.append hback.spaced
  · intro node hnode
    rcases List.mem_append.mp hnode with hnode | hnode
    · exact hfront.nested node hnode
    · exact hback.nested node hnode

/-- A node over the whole stretch of a row nests when the row does. -/
theorem everywhere_branch (h : NestedRow start stop nodes) (kind : NodeKind) :
    (branch kind ⟨start, stop⟩ nodes).Everywhere Nested := by
  refine everywhere_iff.mpr ⟨⟨h.spaced.le, fun child hchild ↦ ?_, ?_⟩, h.nested⟩
  · exact Span.contains_iff.mpr (h.spaced.bounds child.span (List.mem_map_of_mem hchild))
  · exact (List.isChain_map span).mp h.spaced.isChain

theorem branch (h : NestedRow start stop nodes) (kind : NodeKind) :
    NestedRow start stop [.branch kind ⟨start, stop⟩ nodes] :=
  ⟨.singleton (Nat.le_refl start) h.spaced.le (Nat.le_refl stop), fun node hnode ↦ by
    rw [List.mem_singleton.mp hnode]
    exact h.everywhere_branch kind⟩

theorem leaves {tokens : List Token} (h : Spaced start stop (tokens.map Token.span)) :
    NestedRow start stop (tokens.map Token.leaf) := by
  have hspans : (tokens.map Token.leaf).map span = tokens.map Token.span := by
    rw [List.map_map]
    rfl
  constructor
  · rwa [hspans]
  · induction tokens generalizing start with
    | nil => simp
    | cons token tokens ih =>
      obtain ⟨-, hupright, hrest⟩ := h
      intro node hnode
      rcases List.mem_cons.mp hnode with rfl | hnode
      · refine everywhere_iff.mpr ⟨⟨hupright, ?_, List.isChain_nil⟩, ?_⟩ <;>
          exact fun child hchild ↦ absurd hchild List.not_mem_nil
      · exact ih hrest (by rw [List.map_map]; rfl) node hnode

/-- Assumes: what stands between two brackets nests wherever its tokens are. The node with the
brackets nests over all the tokens. -/
theorem bracket {opening closing : Token} {inside : List Token} (kind : NodeKind)
    (h : Spaced start stop ((opening :: (inside ++ [closing])).map Token.span))
    (hinside : ∀ first last, Spaced first last (inside.map Token.span) →
      NestedRow first last nodes) :
    NestedRow start stop [.branch kind ⟨opening.span.start, closing.span.stop⟩ nodes] := by
  rw [List.map_cons, List.map_append] at h
  obtain ⟨hstart, hopening, hrest⟩ := h
  obtain ⟨middle, hfront, hclosing, hupright, hstop⟩ := hrest.exists_middle
  have hrow := (hinside _ _ hfront).mono hopening (hclosing.trans hupright)
  exact (hrow.branch kind).mono hstart hstop

end NestedRow

end Node

namespace Grammar

open Node (Nested NestedRow)

variable {start stop : Nat} {tokens group run : List Token} {node : Node} {nodes : List Node}
  {items : List RunItem}

/-! ### Constructs nest over their tokens -/

theorem IsParameter.nestedRow (h : IsParameter group node)
    (hspaced : Spaced start stop (group.map Token.span)) : NestedRow start stop [node] := by
  obtain ⟨⟩ := h
  exact .bracket .parameter hspaced fun _ _ ↦ NestedRow.leaves

theorem IsInside.nestedRow (h : IsInside tokens nodes)
    (hspaced : Spaced start stop (tokens.map Token.span)) : NestedRow start stop nodes := by
  induction h generalizing start with
  | nil => exact .nil hspaced
  | @text token tokens nodes hopening hclosing hrest ih =>
    have htoken : Spaced start token.span.stop ([token].map Token.span) :=
      .singleton hspaced.1 hspaced.2.1 (Nat.le_refl _)
    exact (NestedRow.leaves htoken).append (ih hspaced.2.2)
  | parameter hgroup hrest ih =>
    rw [List.map_append] at hspaced
    obtain ⟨middle, hfront, hback⟩ := hspaced.exists_middle
    exact (hgroup.nestedRow hfront).append (ih hback)

theorem IsContent.nestedRow (h : IsContent group node)
    (hspaced : Spaced start stop (group.map Token.span)) : NestedRow start stop [node] := by
  cases h with
  | text hplain => exact .leaves hspaced
  | parameter hgroup => exact hgroup.nestedRow hspaced
  | optional hopening hinside hclosing =>
    exact .bracket .optional hspaced fun _ _ ↦ hinside.nestedRow

/-- The nodes of a run without separators nest over its tokens. -/
theorem IsRun.nestedRow_groups (h : IsRun run items)
    (hnone : items.any RunItem.isSeparator = false)
    (hspaced : Spaced start stop (run.map Token.span)) :
    NestedRow start stop (RunItem.groups items).1 := by
  induction h generalizing start with
  | nil => exact .nil hspaced
  | separator => simp [RunItem.isSeparator] at hnone
  | content hgroup hrest ih =>
    rw [List.map_append] at hspaced
    obtain ⟨middle, hfront, hback⟩ := hspaced.exists_middle
    have hothers := ih (by simpa [RunItem.isSeparator] using hnone) hback
    exact (hgroup.nestedRow hfront).append hothers

/-- Assumes: the nodes that the alternative at hand has gathered nest up to the rest of the run. The
alternatives nest from the start of the one at hand to the end of the run. -/
theorem IsRun.nestedRow_partition (h : IsRun run items) {middle : Nat}
    (hspaced : Spaced middle stop (run.map Token.span)) (hgathered : NestedRow start middle nodes) :
    NestedRow start stop
      (RunItem.partition stop start (nodes ++ (RunItem.groups items).1)
        (RunItem.groups items).2) := by
  induction h generalizing start middle nodes with
  | nil =>
    rw [RunItem.groups, List.append_nil]
    exact (hgathered.mono (Nat.le_refl start) hspaced).branch .alternative
  | @separator token tokens items hkind hrest ih =>
    obtain ⟨hstart, hupright, hback⟩ := hspaced
    have hfirst := (hgathered.mono (Nat.le_refl start) hstart).branch .alternative
    have hothers := ih hback (NestedRow.nil (Nat.le_refl token.span.stop))
    rw [RunItem.groups, List.append_nil]
    exact (hfirst.mono (Nat.le_refl start) hupright).append hothers
  | content hgroup hrest ih =>
    rw [List.map_append] at hspaced
    obtain ⟨middle', hfront, hback⟩ := hspaced.exists_middle
    have hothers := ih hback (hgathered.append (hgroup.nestedRow hfront))
    rw [List.append_assoc] at hothers
    exact hothers

/-- What a run makes nests over its tokens. -/
theorem IsRun.nestedRow_gather (h : IsRun run items)
    (hspaced : Spaced start stop (run.map Token.span)) :
    NestedRow start stop (RunItem.gather stop items) := by
  cases hany : items.any RunItem.isSeparator with
  | false =>
    rw [RunItem.gather_of_none hany]
    exact h.nestedRow_groups hany hspaced
  | true =>
    obtain ⟨first, others, rfl⟩ := List.exists_cons_of_ne_nil (h.ne_nil_of_any hany)
    obtain ⟨item, rest, hitems, hitem⟩ := h.head_start
    have hhead : ∀ other ∈ items.head?, other.start = first.span.start := by
      rw [hitems]
      intro other hother
      rw [← Option.some.inj hother, hitem]
    have hfirst : Spaced first.span.start stop ((first :: others).map Token.span) :=
      ⟨Nat.le_refl _, hspaced.2⟩
    have hparts := h.nestedRow_partition hfirst (NestedRow.nil (Nat.le_refl _))
    rw [RunItem.gather_of_any hany hhead]
    exact (hparts.branch .alternation).mono hspaced.1 (Nat.le_refl stop)

/-- The nodes of a line nest over its tokens. -/
theorem IsLine.nestedRow (h : IsLine stop tokens nodes)
    (hspaced : Spaced start stop (tokens.map Token.span)) : NestedRow start stop nodes := by
  induction h generalizing start with
  | run hrun => exact hrun.nestedRow_gather hspaced
  | @blank run rest items blank nodes hrun hblank hrest ih =>
    rw [List.map_append, List.map_cons] at hspaced
    obtain ⟨middle, hfront, hmiddle, hupright, hback⟩ := hspaced.exists_middle
    have hrow := hrun.nestedRow_gather (hfront.mono (Nat.le_refl start) hmiddle)
    have hleaf : NestedRow blank.span.start blank.span.stop ([blank].map Token.leaf) :=
      .leaves (.singleton (Nat.le_refl _) hupright (Nat.le_refl _))
    exact hrow.append (hleaf.append (ih hback))

/-! ### No rule comes to a fault -/

open Token (InOrder)

variable {before : TokenKind} {fault : Fault}

theorem parameter_ne_fault (h : InOrder tokens) :
    parameter before tokens ≠ .error (.fault fault) := by
  cases tokens with
  | nil => exact nofun
  | cons opening tokens =>
    by_cases hopening : opening.kind = .beginParameter
    · rcases exists_isParameter hopening tokens with ⟨group, node, rest, hsplit, hgroup⟩ | hopen
      · rw [hsplit] at h ⊢
        rw [parameter_of_isParameter hgroup h.left]
        exact nofun
      · rw [parameter_of_isOpenParameter hopen]
        exact nofun
    · rw [parameter, Bracket.rule_of_ne hopening]
      exact nofun

theorem optional_ne_fault (h : InOrder tokens) :
    optional before tokens ≠ .error (.fault fault) := by
  cases tokens with
  | nil => exact nofun
  | cons opening tokens =>
    by_cases hopening : opening.kind = .beginOptional
    · -- A fault would be what the whole choice comes to.
      intro hfault
      have hchoice : firstOf content before (opening :: tokens) = .error (.fault fault) :=
        firstOf_of_error hfault
      rcases exists_isContent tokens (by rw [hopening]; decide) with
        ⟨group, node, rest, hsplit, hgroup⟩ | ⟨error, hopen⟩
      · rw [hsplit] at h hchoice
        rw [firstOf_content hgroup h.left] at hchoice
        exact absurd hchoice nofun
      · rw [firstOf_content_of_isOpen hopen h] at hchoice
        exact absurd hchoice nofun
    · rw [optional, Bracket.rule_of_ne hopening]
      exact nofun

/-- An attempt at an alternation takes the run, gives up or fails, and comes to no fault in any of
these cases. -/
theorem alternation_ne_fault (h : InOrder tokens) :
    alternation before tokens ≠ .error (.fault fault) := by
  by_cases hbefore : before = .startOfLine ∨ before = .whiteSpace
  · obtain ⟨run, items, rest, rfl, hrun, hstop | ⟨error, hopen⟩⟩ := exists_isRun tokens
    · cases hany : items.any RunItem.isSeparator with
      | true =>
        obtain ⟨node, -, htake⟩ := alternation_of_separator hrun h hstop hbefore hany
        rw [htake]
        exact nofun
      | false =>
        rw [alternation_of_no_separator hrun h.left hstop hany]
        exact nofun
    · rw [alternation_of_isOpen hrun hopen h hbefore]
      exact nofun
  · rw [alternation, if_neg hbefore]
    exact nofun

/-- No rule that an expression is read by comes to a fault, from whatever token on it is tried and
whatever stands before. -/
theorem rule_ne_fault (h : InOrder tokens) : ∀ rule ∈ expression, ∀ before fault,
    rule before tokens ≠ .error (.fault fault) := by
  intro rule hrule before fault
  simp only [expression, List.mem_cons, List.not_mem_nil, or_false] at hrule
  rcases hrule with rfl | rfl | rfl | rfl
  · exact alternation_ne_fault h
  · exact optional_ne_fault h
  · exact parameter_ne_fault h
  · cases tokens <;> exact nofun

end Grammar

namespace Node

open Grammar
open Token (InOrder)

/-- Assumes: tokens in order, of whatever kinds. Reading them comes to no fault, and neither does
any attempt of a rule from one of the tokens on, with whatever before it. The span of the tree
reaches from the first offset to the end of the last token, and all spans in the tree nest. -/
theorem ofTokens_nested {tokens : List Token} (horder : InOrder tokens) :
    (∀ fault, ofTokens tokens ≠ .error (.fault fault)) ∧
    (∀ part, part <:+ tokens → ∀ rule ∈ expression, ∀ before fault,
      rule before part ≠ .error (.fault fault)) ∧
    ∀ root, ofTokens tokens = .ok root →
      root.span = ⟨0, (tokens.getLast?.map fun token ↦ token.span.stop).getD 0⟩ ∧
        root.Everywhere Nested := by
  refine ⟨fun fault hfault ↦ ?_, fun part hpart ↦ rule_ne_fault (horder.of_part hpart.isInfix),
    fun root hroot ↦ ?_⟩
  · rcases ofTokens_outcome horder with ⟨root, hroot⟩ | ⟨error, herror, -⟩ | ⟨i, hi⟩
    · rw [hroot] at hfault
      exact absurd hfault nofun
    · rw [herror] at hfault
      exact absurd hfault nofun
    · rw [ofTokens_of_endsAt horder hi] at hfault
      exact absurd hfault nofun
  · obtain ⟨nodes, hline, rfl⟩ := exists_isLine_of_ofTokens horder hroot
    have hspaced := horder.spaced (Nat.zero_le _) (fun token _ ↦ Nat.zero_le token.span.start)
      horder.stop_le_endOffset
    exact ⟨rfl, (hline.nestedRow hspaced).everywhere_branch .expression⟩

/-- Tokens with gaps and with edges of the line among them: a start of the line in a word, and an
end of the line in an optional part of an alternation. -/
def edged : List Token :=
  [⟨.text, ⟨1, 2⟩, "a"⟩, ⟨.startOfLine, ⟨3, 3⟩, ""⟩, ⟨.whiteSpace, ⟨4, 6⟩, " "⟩,
    ⟨.beginOptional, ⟨7, 8⟩, "("⟩, ⟨.endOfLine, ⟨8, 9⟩, "$"⟩, ⟨.endOptional, ⟨11, 12⟩, ")"⟩,
    ⟨.alternation, ⟨12, 14⟩, "/"⟩, ⟨.startOfLine, ⟨15, 16⟩, "^"⟩, ⟨.whiteSpace, ⟨19, 20⟩, " "⟩]

theorem ofTokens_edged : InOrder edged ∧
    ofTokens edged = .ok (.branch .expression ⟨0, 20⟩
      [.leaf .text ⟨1, 2⟩ "a", .leaf .text ⟨3, 3⟩ "", .leaf .text ⟨4, 6⟩ " ",
        .branch .alternation ⟨7, 19⟩
          [.branch .alternative ⟨7, 12⟩ [.branch .optional ⟨7, 12⟩ [.leaf .text ⟨8, 9⟩ "$"]],
            .branch .alternative ⟨14, 19⟩ [.leaf .text ⟨15, 16⟩ "^"]],
        .leaf .text ⟨19, 20⟩ " "]) ∧
    ∃ root, ofTokens edged = .ok root ∧ root.Everywhere Nested := by
  have horder : InOrder edged := by decide
  have hroot : ofTokens edged = .ok _ := rfl
  exact ⟨horder, rfl, _, hroot, ((ofTokens_nested horder).2.2 _ hroot).2⟩

end Node

end CucumberExpression
