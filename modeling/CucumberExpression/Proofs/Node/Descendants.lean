import CucumberExpression.Node
import Mathlib.Data.List.Basic

/-!
# Nodes of a tree

The nodes of a tree are the node at its root and the nodes of its children (`mem_descendants_iff`),
and every node other than the one at the root is a child of another (`exists_parent`). A property
holds everywhere in a tree when it holds of all of its nodes, which can be shown child by child
(`everywhere_iff`). `Node.levels` counts the levels of a tree; when every child has a lower rank
than its parent, there are no more levels than the rank of the root (`levels_le_of_rank`).
-/

set_option autoImplicit false
set_option relaxedAutoImplicit false

namespace CucumberExpression

namespace Node

/-! ### Descendants -/

theorem walk_append (front back : List Node) : walk (front ++ back) = walk front ++ walk back := by
  induction front using walk.induct with
  | case1 => rw [walk, List.nil_append, List.nil_append]
  | case2 node stack ih =>
    rw [List.cons_append, walk, walk, ← List.append_assoc, ih, List.cons_append]

theorem walk_cons (node : Node) (stack : List Node) :
    walk (node :: stack) = node.descendants ++ walk stack :=
  walk_append [node] stack

theorem mem_walk_iff {other : Node} {stack : List Node} :
    other ∈ walk stack ↔ ∃ node ∈ stack, other ∈ node.descendants := by
  induction stack with
  | nil => simp [walk]
  | cons node stack ih =>
    rw [walk_cons, List.mem_append, ih]
    simp only [List.mem_cons, exists_eq_or_imp]

theorem mem_descendants_iff {other node : Node} :
    other ∈ node.descendants ↔
      other = node ∨ ∃ child ∈ node.children, other ∈ child.descendants := by
  rw [descendants, walk, List.append_nil, List.mem_cons, mem_walk_iff]

theorem self_mem_descendants (node : Node) : node ∈ node.descendants :=
  mem_descendants_iff.mpr (.inl rfl)

/-- A node that is met on a walk stands on the stack at the start, or is a child of another node
that is met. -/
theorem exists_parent_of_walk {other : Node} {stack : List Node} (h : other ∈ walk stack) :
    other ∈ stack ∨ ∃ parent ∈ walk stack, other ∈ parent.children := by
  induction stack using walk.induct with
  | case1 => simp [walk] at h
  | case2 node stack ih =>
    rw [walk] at h ⊢
    rcases List.mem_cons.mp h with rfl | h
    · exact .inl List.mem_cons_self
    rcases ih h with hmem | ⟨parent, hparent, hchild⟩
    · rcases List.mem_append.mp hmem with hchild | hmem
      · exact .inr ⟨node, List.mem_cons_self, hchild⟩
      · exact .inl (List.mem_cons_of_mem node hmem)
    · exact .inr ⟨parent, List.mem_cons_of_mem node hparent, hchild⟩

/-- A node of a tree is the one at the root, or a child of another node. -/
theorem exists_parent {other node : Node} (h : other ∈ node.descendants) :
    other = node ∨ ∃ parent ∈ node.descendants, other ∈ parent.children := by
  have hwalk := exists_parent_of_walk h
  rwa [List.mem_singleton] at hwalk

/-- A property of all nodes of a tree. -/
def Everywhere (property : Node → Prop) (node : Node) : Prop :=
  ∀ other ∈ node.descendants, property other

theorem everywhere_iff {property : Node → Prop} {node : Node} :
    node.Everywhere property ↔
      property node ∧ ∀ child ∈ node.children, child.Everywhere property := by
  constructor
  · intro h
    refine ⟨h node node.self_mem_descendants, fun child hchild other hother ↦ ?_⟩
    exact h other (mem_descendants_iff.mpr (.inr ⟨child, hchild, hother⟩))
  · rintro ⟨hnode, hchildren⟩ other hother
    rcases mem_descendants_iff.mp hother with rfl | ⟨child, hchild, hother⟩
    · exact hnode
    · exact hchildren child hchild other hother

/-- Assumes: a property of a node that follows from that of its children. Every node has it. -/
theorem forall_of_children {property : Node → Prop}
    (h : ∀ node, (∀ child ∈ node.children, property child) → property node) (node : Node) :
    property node := by
  induction hsize : node.size using Nat.strongRecOn generalizing node with
  | ind size ih =>
    refine h node fun child hchild ↦ ih child.size ?_ child rfl
    obtain ⟨front, back, hsplit⟩ := List.append_of_mem hchild
    have hsum := node.size_eq
    rw [hsplit, sizes_append, sizes] at hsum
    omega

theorem eq_of_parts {a b : Node} (hkind : a.kind = b.kind) (hspan : a.span = b.span)
    (htext : a.text = b.text) (hchildren : a.children = b.children) : a = b := by
  cases a
  cases b
  simp only at hkind hspan htext hchildren
  rw [hkind, hspan, htext, hchildren]

/-! ### Levels -/

mutual

/-- How many levels the tree has. -/
def levels : Node → Nat
  | ⟨_, _, _, children⟩ => levelsAll children + 1

/-- How many levels the highest tree of a row has. -/
def levelsAll : List Node → Nat
  | [] => 0
  | node :: nodes => max (levels node) (levelsAll nodes)

end

theorem levels_eq (node : Node) : node.levels = levelsAll node.children + 1 := by
  obtain ⟨kind, span, text, children⟩ := node
  rw [levels]

theorem levelsAll_le_iff {nodes : List Node} {bound : Nat} :
    levelsAll nodes ≤ bound ↔ ∀ node ∈ nodes, node.levels ≤ bound := by
  induction nodes with
  | nil => simp [levelsAll]
  | cons node nodes ih => rw [levelsAll, Nat.max_le, ih, List.forall_mem_cons]

/-- Assumes: a rank that is positive, and smaller for each child than for its parent. The tree has
no more levels than the rank of its root. -/
theorem levels_le_of_rank (rank : Node → Nat) {node : Node}
    (h : node.Everywhere fun parent ↦ 0 < rank parent ∧
      ∀ child ∈ parent.children, rank child < rank parent) : node.levels ≤ rank node := by
  induction hrank : rank node using Nat.strongRecOn generalizing node with
  | ind bound ih =>
    obtain ⟨⟨hpositive, hlower⟩, hchildren⟩ := everywhere_iff.mp h
    have hall : levelsAll node.children ≤ bound - 1 := by
      rw [levelsAll_le_iff]
      intro child hchild
      have hchildRank := hlower child hchild
      have hlevels := ih (rank child) (by omega) (hchildren child hchild) rfl
      omega
    rw [levels_eq]
    omega

end Node

end CucumberExpression
