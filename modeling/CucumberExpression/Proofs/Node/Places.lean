import CucumberExpression.Proofs.Node.Descendants
import Mathlib.Data.List.Basic

/-!
# Places in a tree

The place of a node is the way down to it from the root: for each level the index of the child to
go on with (`Node.at?`). Trees may hold equal nodes at several places, so that each node is met once
is said of its place. `Node.placed` lists the nodes with their places: every place of the tree is on
the list (`mem_placed_iff`), and the list is in order, a place before all places below it, and these
before the places to the right (`pairwise_placed`). It is the list of the nodes that a walk over the
tree meets (`map_snd_placed`).

An outline shows of a place its level only, which is how long the way down is (`Node.ranked`).
-/

set_option autoImplicit false
set_option relaxedAutoImplicit false

namespace CucumberExpression

namespace Node

/-- The node at a place. -/
def at? : List Nat → Node → Option Node
  | [], node => some node
  | index :: place, node => node.children[index]?.bind (at? place)

/-- A place in a child, as a place in the tree. -/
def inChild (index : Nat) (entry : List Nat × Node) : List Nat × Node := (index :: entry.1, entry.2)

mutual

/-- The nodes of a tree with their places, the tree itself first. -/
def placed : Node → List (List Nat × Node)
  | ⟨kind, span, text, children⟩ => ([], ⟨kind, span, text, children⟩) :: placedAll 0 children

/-- The nodes of the children from an index on, with their places. -/
def placedAll : Nat → List Node → List (List Nat × Node)
  | _, [] => []
  | index, node :: nodes => (placed node).map (inChild index) ++ placedAll (index + 1) nodes

end

theorem placed_eq (node : Node) : node.placed = ([], node) :: placedAll 0 node.children := by
  obtain ⟨kind, span, text, children⟩ := node
  rw [placed]

/-! ### Every place is listed once -/

variable {node other : Node} {nodes : List Node} {place : List Nat} {first : Nat}

/-- The nodes at places below the children are those of the children. -/
theorem mem_placedAll_iff : (place, other) ∈ placedAll first nodes ↔
    ∃ index rest child, place = (first + index) :: rest ∧ nodes[index]? = some child ∧
      (rest, other) ∈ child.placed := by
  induction nodes generalizing first with
  | nil => simp [placedAll]
  | cons node nodes ih =>
    rw [placedAll, List.mem_append, ih]
    constructor
    · rintro (h | ⟨index, rest, child, rfl, hchild, hmem⟩)
      · obtain ⟨⟨rest, entry⟩, hmem, hinChild⟩ := List.mem_map.mp h
        obtain ⟨rfl, rfl⟩ := Prod.mk.inj hinChild
        exact ⟨0, rest, node, rfl, rfl, hmem⟩
      · exact ⟨index + 1, rest, child, by rw [Nat.add_assoc, Nat.add_comm 1], hchild, hmem⟩
    · rintro ⟨index, rest, child, rfl, hchild, hmem⟩
      cases index with
      | zero =>
        obtain rfl := Option.some.inj hchild
        exact .inl (List.mem_map.mpr ⟨(rest, other), hmem, rfl⟩)
      | succ index =>
        exact .inr ⟨index, rest, child, by rw [Nat.add_assoc, Nat.add_comm 1], hchild, hmem⟩

/-- The list holds every node of the tree at its place, and nothing else. -/
theorem mem_placed_iff : (place, other) ∈ node.placed ↔ node.at? place = some other := by
  induction place generalizing node with
  | nil =>
    have hnone : ([], other) ∉ placedAll 0 node.children := by
      intro h
      obtain ⟨index, rest, child, hplace, -⟩ := mem_placedAll_iff.mp h
      exact absurd hplace (List.cons_ne_nil _ _).symm
    rw [placed_eq, List.mem_cons, at?]
    simp [hnone, eq_comm]
  | cons index place ih =>
    rw [placed_eq, List.mem_cons, mem_placedAll_iff, at?, Option.bind_eq_some_iff]
    constructor
    · rintro (h | ⟨index', rest, child, hplace, hchild, hmem⟩)
      · exact absurd (Prod.mk.inj h).1 (List.cons_ne_nil _ _)
      · obtain ⟨rfl, rfl⟩ := List.cons.inj hplace
        exact ⟨child, by rwa [Nat.zero_add], ih.mp hmem⟩
    · rintro ⟨child, hchild, hat⟩
      exact .inr ⟨index, place, child, by rw [Nat.zero_add], hchild, ih.mpr hat⟩

theorem pairwise_placedAll (h : ∀ node ∈ nodes, (node.placed.map Prod.fst).Pairwise (· < ·)) :
    ((placedAll first nodes).map Prod.fst).Pairwise (· < ·) := by
  induction nodes generalizing first with
  | nil => exact .nil
  | cons node nodes ih =>
    rw [placedAll, List.map_append, List.pairwise_append]
    refine ⟨?_, ih fun other hother ↦ h other (.tail _ hother), ?_⟩
    · have hnode := h node List.mem_cons_self
      rw [List.pairwise_map] at hnode ⊢
      rw [List.pairwise_map]
      exact hnode.imp fun hlt ↦ List.cons_lt_cons_iff.mpr (.inr ⟨rfl, hlt⟩)
    · intro place hplace later hlater
      obtain ⟨entry, hentry, rfl⟩ := List.mem_map.mp hplace
      obtain ⟨inner, -, rfl⟩ := List.mem_map.mp hentry
      obtain ⟨⟨_, other⟩, hother, rfl⟩ := List.mem_map.mp hlater
      obtain ⟨index, rest, child, rfl, -⟩ := mem_placedAll_iff.mp hother
      exact List.cons_lt_cons_iff.mpr (.inl (by omega))

/-- The places are listed in order, so each is listed once, a place before the places below it, and
these before the places to the right of it. -/
theorem pairwise_placed (node : Node) : (node.placed.map Prod.fst).Pairwise (· < ·) := by
  induction node using forall_of_children with
  | h node ih =>
    rw [placed_eq, List.map_cons, List.pairwise_cons]
    refine ⟨fun place hplace ↦ ?_, pairwise_placedAll ih⟩
    obtain ⟨⟨_, other⟩, hother, rfl⟩ := List.mem_map.mp hplace
    obtain ⟨index, rest, child, rfl, -⟩ := mem_placedAll_iff.mp hother
    exact List.nil_lt_cons _ _

/-! ### The walk over a tree -/

theorem walk_eq_flatMap (stack : List Node) : walk stack = stack.flatMap descendants := by
  induction stack with
  | nil => rw [walk, List.flatMap_nil]
  | cons node stack ih => rw [walk_cons, ih, List.flatMap_cons]

/-- A node is met before the nodes of its children, and these from the first child to the last. -/
theorem descendants_eq (node : Node) :
    node.descendants = node :: node.children.flatMap descendants := by
  rw [descendants, walk, List.append_nil, walk_eq_flatMap]

theorem map_snd_placedAll (h : ∀ node ∈ nodes, node.placed.map Prod.snd = node.descendants) :
    (placedAll first nodes).map Prod.snd = nodes.flatMap descendants := by
  induction nodes generalizing first with
  | nil => rfl
  | cons node nodes ih =>
    rw [placedAll, List.map_append, List.map_map, ih fun other hother ↦ h other (.tail _ hother),
      List.flatMap_cons, ← h node List.mem_cons_self]
    rfl

/-- A walk over a tree meets its nodes in the order of their places. -/
theorem map_snd_placed (node : Node) : node.placed.map Prod.snd = node.descendants := by
  induction node using forall_of_children with
  | h node ih => rw [placed_eq, List.map_cons, map_snd_placedAll ih, ← descendants_eq]

/-! ### Levels of places -/

mutual

/-- The nodes of a tree in the order of their places, with their levels. -/
def ranked (level : Nat) : Node → List (Nat × Node)
  | ⟨kind, span, text, children⟩ =>
    (level, ⟨kind, span, text, children⟩) :: rankedAll (level + 1) children

/-- The nodes of a row of trees with their levels. -/
def rankedAll (level : Nat) : List Node → List (Nat × Node)
  | [] => []
  | node :: nodes => ranked level node ++ rankedAll level nodes

end

theorem ranked_eq (level : Nat) (node : Node) :
    node.ranked level = (level, node) :: rankedAll (level + 1) node.children := by
  obtain ⟨kind, span, text, children⟩ := node
  rw [ranked]

/-- An entry with the level of its place, counted from a level on. -/
def levelOf (level : Nat) (entry : List Nat × Node) : Nat × Node :=
  (level + entry.1.length, entry.2)

theorem map_levelOf_placedAll {level : Nat}
    (h : ∀ node ∈ nodes, node.placed.map (levelOf (level + 1)) = node.ranked (level + 1)) :
    (placedAll first nodes).map (levelOf level) = rankedAll (level + 1) nodes := by
  induction nodes generalizing first with
  | nil => rfl
  | cons node nodes ih =>
    have hinChild : levelOf level ∘ inChild first = levelOf (level + 1) := by
      funext entry
      simp only [Function.comp_apply, levelOf, inChild, List.length_cons]
      rw [Nat.add_assoc, Nat.add_comm 1]
    rw [placedAll, List.map_append, List.map_map, hinChild, h node List.mem_cons_self,
      ih fun other hother ↦ h other (.tail _ hother), rankedAll]

/-- The level of a node is the length of its place. -/
theorem map_levelOf_placed (level : Nat) (node : Node) :
    node.placed.map (levelOf level) = node.ranked level := by
  induction node using forall_of_children generalizing level with
  | h node ih =>
    rw [placed_eq, List.map_cons, map_levelOf_placedAll fun child hchild ↦ ih child hchild _,
      ranked_eq]
    rfl

end Node

end CucumberExpression
