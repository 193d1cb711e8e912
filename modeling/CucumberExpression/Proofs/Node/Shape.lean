import CucumberExpression.Proofs.Node.Parts

/-!
# The shape of nodes

What may stand below a node is given by its kind (`NodeKind.below`), and the kinds go down from
level to level (`NodeKind.rank_lt_of_mem_below`). A node is `Shaped` when its children keep to this,
when it has a text exactly if it is literal text, and when it is no alternation with less than two
alternatives.

The constructs of the grammar make shaped nodes only, from the parameters up to the whole line
(`IsLine.formed`). They carry more than the shape: it is known of each leaf which token it is made
of, and that what stands between brackets is inside their span (`FitsBelow`).
-/

set_option autoImplicit false
set_option relaxedAutoImplicit false

namespace CucumberExpression

/-! ### Kinds of nodes -/

namespace NodeKind

/-- The kinds of the nodes that may stand below a node. -/
def below : NodeKind → List NodeKind
  | expression => [text, optional, parameter, alternation]
  | alternation => [alternative]
  | alternative => [text, optional, parameter]
  | optional => [text, parameter]
  | parameter => [text]
  | text => []

/-- How many levels a tree may have whose root is of the kind. -/
def rank : NodeKind → Nat
  | expression => 6
  | alternation => 5
  | alternative => 4
  | optional => 3
  | parameter => 2
  | text => 1

/-- Whether the nodes of the kind are written between brackets. -/
def isBracket : NodeKind → Bool
  | optional | parameter => true
  | _ => false

/-- Whether a token may be literal text below a node of the kind. Between brackets every token that
does not close them may. -/
def holds : NodeKind → TokenKind → Bool
  | expression, token => Grammar.isPlain token || token == .whiteSpace
  | alternative, token => Grammar.isPlain token
  | _, _ => true

theorem rank_lt_of_mem_below {parent child : NodeKind} (h : child ∈ parent.below) :
    child.rank < parent.rank := by
  revert h
  cases parent <;> cases child <;> decide

end NodeKind

namespace Node

/-! ### Specification -/

/-- A node fits the grammar: its children are of kinds that may stand below it, exactly the nodes of
literal text have a text, and an alternation has at least two alternatives. -/
structure Shaped (node : Node) : Prop where
  below : ∀ child ∈ node.children, child.kind ∈ node.kind.below
  text : node.text ≠ "" ↔ node.kind = .text
  parted : node.kind = .alternation → 2 ≤ node.children.length

theorem Shaped.children_eq_nil {node : Node} (h : node.Shaped) (hkind : node.kind = .text) :
    node.children = [] := by
  refine List.eq_nil_iff_forall_not_mem.mpr fun child hchild ↦ ?_
  have hbelow := h.below child hchild
  rw [hkind] at hbelow
  exact absurd hbelow List.not_mem_nil

/-! ### Nodes over tokens -/

/-- A node may stand below one of the kind and span. If it is a leaf, it is made of one of the
tokens that may be text there, and between brackets it is inside their span. -/
structure FitsBelow (known : List Token) (kind : NodeKind) (span : Span) (child : Node) : Prop where
  kind_mem : child.kind ∈ kind.below
  leaf : child.kind = .text → ∃ token ∈ known, token.leaf = child ∧ kind.holds token.kind = true
  within : kind.isBracket = true → span.contains child.span = true

/-- A node is shaped, and its leaves are made of the tokens. -/
structure Formed (known : List Token) (node : Node) : Prop where
  fits : ∀ child ∈ node.children, child.FitsBelow known node.kind node.span
  text : node.text ≠ "" ↔ node.kind = .text
  parted : node.kind = .alternation → 2 ≤ node.children.length

theorem Formed.shaped {known : List Token} {node : Node} (h : Formed known node) : node.Shaped :=
  ⟨fun child hchild ↦ (h.fits child hchild).kind_mem, h.text, h.parted⟩

variable {known : List Token} {kind : NodeKind} {span : Span}

theorem fitsBelow_leaf {token : Token} (htoken : token ∈ known) (hkind : .text ∈ kind.below)
    (hholds : kind.holds token.kind = true)
    (hwithin : kind.isBracket = true → span.contains token.span = true) :
    token.leaf.FitsBelow known kind span :=
  ⟨hkind, fun _ ↦ ⟨token, htoken, rfl, hholds⟩, hwithin⟩

theorem fitsBelow_of_ne_text {child : Node} (hkind : child.kind ∈ kind.below)
    (htext : child.kind ≠ .text)
    (hwithin : kind.isBracket = true → span.contains child.span = true) :
    child.FitsBelow known kind span :=
  ⟨hkind, fun h ↦ absurd h htext, hwithin⟩

theorem everywhere_formed_leaf {token : Token} (htext : token.text ≠ "") :
    token.leaf.Everywhere (Formed known) := by
  have hchildren : token.leaf.children = [] := rfl
  refine everywhere_iff.mpr ⟨⟨?_, iff_of_true htext rfl, nofun⟩, ?_⟩ <;> simp [hchildren]

/-- A node that only holds other nodes is formed when these are, and fit. -/
theorem everywhere_formed_branch {nodes : List Node} (hkind : kind ≠ .text)
    (hparted : kind = .alternation → 2 ≤ nodes.length)
    (hnodes : ∀ node ∈ nodes, node.FitsBelow known kind span ∧ node.Everywhere (Formed known)) :
    (branch kind span nodes).Everywhere (Formed known) := by
  refine everywhere_iff.mpr ⟨⟨?_, ?_, hparted⟩, fun node hnode ↦ (hnodes node hnode).2⟩
  · exact fun node hnode ↦ (hnodes node hnode).1
  · exact iff_of_false (not_not_intro rfl) hkind

end Node

namespace Grammar

open Token (InOrder)
open Node

variable {known group run tokens : List Token} {items : List RunItem} {node : Node}
  {nodes : List Node} {stop : Nat}

/-! ### Kinds and spans of constructs -/

theorem IsParameter.kind_eq (h : IsParameter group node) : node.kind = .parameter := by
  obtain ⟨⟩ := h
  rfl

/-- A word is made of literal text, optional parts and parameters. -/
theorem IsRun.kind_mem (h : IsRun run items) (hnode : .content node ∈ items) :
    node.kind ∈ [NodeKind.text, .optional, .parameter] := by
  obtain ⟨group, -, hgroup⟩ := h.exists_part hnode
  cases hgroup with
  | text => exact List.mem_cons_self
  | parameter hparameter =>
    rw [hparameter.kind_eq]
    decide
  | optional => exact List.mem_cons_of_mem _ List.mem_cons_self

/-- The span of a bracket contains those of its tokens. -/
theorem contains_of_mem {opening closing token : Token} {inside : List Token}
    (horder : InOrder (opening :: (inside ++ [closing])))
    (htoken : token ∈ opening :: (inside ++ [closing])) :
    Span.contains ⟨opening.span.start, closing.span.stop⟩ token.span = true := by
  refine Span.contains_iff.mpr ⟨?_, ?_⟩
  · have hopening := horder.upright opening List.mem_cons_self
    rcases List.mem_cons.mp htoken with rfl | hlater
    · exact Nat.le_refl _
    · exact hopening.trans (horder.stop_le_start token hlater)
  · have hclosing := horder.upright closing (by simp)
    rw [← List.cons_append] at horder htoken
    rcases List.mem_append.mp htoken with hearlier | hlast
    · have hapart := horder.stop_le_start_of_append token hearlier closing List.mem_cons_self
      exact hapart.trans hclosing
    · rw [List.mem_singleton.mp hlast]

/-- A parameter is inside every span that contains its tokens. -/
theorem IsParameter.contains_span (h : IsParameter group node) {span : Span}
    (hgroup : ∀ token ∈ group, span.contains token.span = true) :
    span.contains node.span = true := by
  obtain @⟨opening, closing, inside, -, -, -⟩ := h
  have hstart := (Span.contains_iff.mp (hgroup opening (by simp))).1
  have hstop := (Span.contains_iff.mp (hgroup closing (by simp))).2
  exact Span.contains_iff.mpr ⟨hstart, hstop⟩

/-! ### Formed nodes -/

variable (hknown : ∀ token ∈ known, token.text ≠ "")

include hknown

theorem IsParameter.formed (h : IsParameter group node) (hgroup : group ⊆ known)
    (horder : InOrder group) : node.Everywhere (Formed known) := by
  obtain @⟨opening, closing, inside, -, -, -⟩ := h
  refine everywhere_formed_branch (by decide) nofun fun child hchild ↦ ?_
  obtain ⟨token, htoken, rfl⟩ := List.mem_map.mp hchild
  have hmem : token ∈ opening :: (inside ++ [closing]) := by simp [htoken]
  constructor
  · exact fitsBelow_leaf (hgroup hmem) (by decide) rfl fun _ ↦ contains_of_mem horder hmem
  · exact everywhere_formed_leaf (hknown token (hgroup hmem))

/-- A node of a word is formed by its tokens. -/
theorem IsContent.formed (h : IsContent group node) (hgroup : group ⊆ known)
    (horder : InOrder group) : node.Everywhere (Formed known) := by
  cases h with
  | @text token hplain =>
    exact everywhere_formed_leaf (hknown token (hgroup (List.mem_singleton_self token)))
  | parameter hparameter => exact hparameter.formed hknown hgroup horder
  | @optional opening closing inside nodes hopening hinside hclosing =>
    refine everywhere_formed_branch (by decide) nofun fun child hchild ↦ ?_
    have hmem : ∀ token ∈ inside, token ∈ opening :: (inside ++ [closing]) := by
      intro token htoken
      simp [htoken]
    rcases hinside.exists_part hchild with ⟨token, htoken, rfl⟩ | ⟨part, hpart, hparameter⟩
    · have hall := hmem token htoken
      constructor
      · exact fitsBelow_leaf (hgroup hall) (by decide) rfl fun _ ↦ contains_of_mem horder hall
      · exact everywhere_formed_leaf (hknown token (hgroup hall))
    · have hall : part ⊆ opening :: (inside ++ [closing]) := fun token htoken ↦
        hmem token (hpart.subset htoken)
      have hkind := hparameter.kind_eq
      constructor
      · refine fitsBelow_of_ne_text (by rw [hkind]; decide) (by rw [hkind]; decide) fun _ ↦ ?_
        exact hparameter.contains_span fun token htoken ↦ contains_of_mem horder (hall htoken)
      · have hpartOrder : InOrder part := horder.tail.left.of_part hpart
        exact hparameter.formed hknown (fun token htoken ↦ hgroup (hall htoken)) hpartOrder

/-- A node of a word is formed, and fits below the root and in an alternative. -/
theorem IsRun.formed (h : IsRun run items) (hrun : run ⊆ known) (horder : InOrder run)
    (hnode : .content node ∈ items) {kind : NodeKind}
    (hkind : kind = .expression ∨ kind = .alternative) (span : Span) :
    node.FitsBelow known kind span ∧ node.Everywhere (Formed known) := by
  obtain ⟨group, hpart, hgroup⟩ := h.exists_part hnode
  have hsubset : group ⊆ known := fun token htoken ↦ hrun (hpart.subset htoken)
  refine ⟨?_, hgroup.formed hknown hsubset (horder.of_part hpart)⟩
  have hbracket : kind.isBracket = true → span.contains node.span = true := by
    rcases hkind with rfl | rfl <;> exact nofun
  have hbelow : node.kind ∈ kind.below := by
    have hmem := h.kind_mem hnode
    rcases hkind with rfl | rfl
    · exact List.mem_append_left [NodeKind.alternation] hmem
    · exact hmem
  cases hgroup with
  | @text token hplain =>
    refine fitsBelow_leaf (hsubset (List.mem_singleton_self token)) hbelow ?_ hbracket
    rcases hkind with rfl | rfl <;> simp [NodeKind.holds, hplain]
  | parameter hparameter =>
    refine fitsBelow_of_ne_text hbelow ?_ hbracket
    rw [hparameter.kind_eq]
    decide
  | optional => exact fitsBelow_of_ne_text hbelow nofun hbracket

/-- The alternation of a run is formed by its tokens. -/
theorem IsRun.formed_alternation (h : IsRun run items) (hrun : run ⊆ known) (horder : InOrder run)
    (hany : items.any RunItem.isSeparator = true) (start : Nat) (span : Span) :
    (branch .alternation span (RunItem.partition stop start (RunItem.groups items).1
      (RunItem.groups items).2)).Everywhere (Formed known) := by
  refine everywhere_formed_branch (by decide) (fun _ ↦ ?_) fun alternative halternative ↦ ?_
  · have hparts := List.length_pos_iff.mpr (RunItem.any_isSeparator_iff.mp hany)
    rw [RunItem.length_partition]
    omega
  · obtain ⟨span, nodes, rfl, hnodes⟩ := RunItem.exists_group_of_partition halternative
    refine ⟨fitsBelow_of_ne_text (List.mem_singleton_self _) nofun nofun, ?_⟩
    refine everywhere_formed_branch (by decide) nofun fun node hnode ↦ ?_
    have hitem : .content node ∈ items := by
      rw [RunItem.content_mem_iff]
      rcases hnodes with rfl | ⟨part, hpart, rfl⟩
      · exact .inl hnode
      · exact .inr ⟨part, hpart, hnode⟩
    exact h.formed hknown hrun horder hitem (.inr rfl) span

/-- The tree of a line is formed by its tokens. -/
theorem IsLine.formed (h : IsLine stop tokens nodes) (htokens : tokens ⊆ known)
    (horder : InOrder tokens) (span : Span) :
    (branch .expression span nodes).Everywhere (Formed known) := by
  refine everywhere_formed_branch (by decide) nofun fun child hchild ↦ ?_
  rcases h.exists_part hchild with
    ⟨blank, hblank, hkind, rfl⟩ | ⟨run, items, runStop, hpart, hrun, hgather⟩
  · have hmem := htokens hblank
    have hholds : NodeKind.expression.holds blank.kind = true := by
      rw [hkind]
      rfl
    exact ⟨fitsBelow_leaf hmem (by decide) hholds nofun, everywhere_formed_leaf (hknown blank hmem)⟩
  · have hsubset : run ⊆ known := fun token htoken ↦ htokens (hpart.subset htoken)
    have hrunOrder : InOrder run := horder.of_part hpart
    rcases RunItem.content_mem_or_alternation hgather with hitem | ⟨hany, start, rfl⟩
    · exact hrun.formed hknown hsubset hrunOrder hitem (.inl rfl) span
    · have hbelow : NodeKind.alternation ∈ NodeKind.expression.below := by decide
      exact ⟨fitsBelow_of_ne_text hbelow nofun nofun,
        hrun.formed_alternation hknown hsubset hrunOrder hany start _⟩

end Grammar

/-- The nodes of the tree of a source are shaped. -/
theorem Node.shaped_of_ofSource {source : String} {root : Node} (h : ofSource source = .ok root) :
    root.Everywhere Shaped := by
  obtain ⟨lexemes, nodes, hcanonical, -, hnodes, rfl⟩ := ofSource_eq_ok_iff.mp h
  have horder := Lexeme.inOrder_place 0 lexemes
  have hformed := hnodes.formed (hcanonical.text_ne_empty 0) (List.Subset.refl _) horder
    ⟨0, source.length⟩
  exact fun node hnode ↦ (hformed node hnode).shaped

end CucumberExpression
