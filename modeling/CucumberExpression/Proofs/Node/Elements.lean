import CucumberExpression.Proofs.Node.Emission
import CucumberExpression.Proofs.Node.Shape
import Mathlib.Data.List.Nodup

/-!
# Leaves and marks of a tree

A tree is written down as leaves and marks (`Node.elements`). A leaf is a node of literal text. The
marks are the delimiters of the nodes: the brackets of parameters and optional parts, and the
separators between alternatives (`mem_elements_iff`). Every other spelling of a tree spells its
elements one by one (`spell_flatMap`).

The elements of the tree of a source are the tokens of the source, in order, and no two of them
stand at one place. So the place of a token tells whether it is a delimiter or a leaf
(`isLeaf_iff`).
-/

set_option autoImplicit false
set_option relaxedAutoImplicit false

namespace CucumberExpression

/-! ### Spelling twice -/

/-- The spelling with each part spelled once more. -/
def Spelling.flatMap {α β : Type} (spelling : Spelling α) (f : α → List β) : Spelling β where
  leaf span text := (spelling.leaf span text).flatMap f
  mark symbol span := (spelling.mark symbol span).flatMap f

namespace Node

section

variable {α β : Type} {spelling : Spelling α} {f : α → List β} {nodes : List Node}

theorem spellAll_eq_flatMap (spelling : Spelling α) (nodes : List Node) :
    spellAll spelling nodes = nodes.flatMap (spell spelling) := by
  induction nodes with
  | nil => rfl
  | cons node nodes ih => rw [spellAll, ih, List.flatMap_cons]

theorem spellAll_flatMap
    (h : ∀ node ∈ nodes, node.spell (spelling.flatMap f) = (node.spell spelling).flatMap f) :
    spellAll (spelling.flatMap f) nodes = (spellAll spelling nodes).flatMap f := by
  rw [spellAll_eq_flatMap, spellAll_eq_flatMap, List.flatMap_assoc]
  exact List.flatMap_congr h

theorem spellParted_flatMap
    (h : ∀ node ∈ nodes, node.spell (spelling.flatMap f) = (node.spell spelling).flatMap f) :
    spellParted (spelling.flatMap f) nodes = (spellParted spelling nodes).flatMap f := by
  induction nodes with
  | nil => rfl
  | cons node nodes ih =>
    have hnode := h node List.mem_cons_self
    have hrest := ih fun other hother ↦ h other (.tail _ hother)
    cases nodes with
    | nil => rw [spellParted, spellParted, hnode]
    | cons next nodes =>
      rw [spellParted, spellParted, hnode, hrest, List.flatMap_append, List.flatMap_append]
      rfl

/-- A tree may be spelled part by part. -/
theorem spell_flatMap (spelling : Spelling α) (f : α → List β) (node : Node) :
    node.spell (spelling.flatMap f) = (node.spell spelling).flatMap f := by
  induction node using forall_of_children with
  | h node ih =>
    obtain ⟨kind, span, text, children⟩ := node
    have hall : spellAll (spelling.flatMap f) children = (spellAll spelling children).flatMap f :=
      spellAll_flatMap ih
    cases kind with
    | text => rfl
    | alternation => exact spellParted_flatMap ih
    | expression | alternative => exact hall
    | optional | parameter =>
      rw [spell, spell, List.flatMap_append, List.flatMap_append, hall]
      rfl

end

end Node

/-! ### Elements and delimiters -/

/-- A leaf or a mark of a tree, with its place and what is written there. -/
structure Node.Element where
  isLeaf : Bool
  placed : Span × String

/-- Leaves and marks told apart. -/
def Spelling.listed : Spelling Node.Element where
  leaf span text := [⟨true, span, text⟩]
  mark symbol span := [⟨false, span, symbol.char.toString⟩]

namespace Node

/-- The leaves and marks of a tree, in order. -/
def elements (node : Node) : List Element := node.spell .listed

/-- The separators between neighbours. -/
def separators (nodes : List Node) : List (Span × String) :=
  nodes.zipWith (fun previous next ↦ (⟨previous.span.stop, next.span.start⟩, "/")) nodes.tail

/-- The brackets around a node, or the separators between its children. -/
def delimiters (node : Node) : List (Span × String) :=
  match node.kind with
  | .optional =>
    [(⟨node.span.start, node.span.start + 1⟩, "("), (⟨node.span.stop - 1, node.span.stop⟩, ")")]
  | .parameter =>
    [(⟨node.span.start, node.span.start + 1⟩, "\x7b"),
      (⟨node.span.stop - 1, node.span.stop⟩, "\x7d")]
  | .alternation => separators node.children
  | _ => []

variable {node : Node} {nodes : List Node} {part : Span × String}

theorem mem_listed_mark_iff {symbol : Symbol} {span : Span} :
    ⟨false, part⟩ ∈ Spelling.listed.mark symbol span ↔ part = (span, symbol.char.toString) := by
  simp [Spelling.listed]

theorem mem_spellAll_iff {element : Element} :
    element ∈ spellAll .listed nodes ↔ ∃ node ∈ nodes, element ∈ node.elements := by
  rw [spellAll_eq_flatMap, List.mem_flatMap]
  rfl

theorem mem_spellParted_iff : ⟨false, part⟩ ∈ spellParted .listed nodes ↔
    part ∈ separators nodes ∨ ∃ node ∈ nodes, ⟨false, part⟩ ∈ node.elements := by
  induction nodes with
  | nil => simp [spellParted, separators]
  | cons node nodes ih =>
    cases nodes with
    | nil => simp [spellParted, separators, elements]
    | cons next nodes =>
      have hseparators : separators (node :: next :: nodes) =
          (⟨node.span.stop, next.span.start⟩, "/") :: separators (next :: nodes) := rfl
      rw [spellParted, List.mem_append, List.mem_append, ih, mem_listed_mark_iff, hseparators,
        List.mem_cons, List.exists_mem_cons_iff _ node, elements]
      tauto

/-- The marks of a tree are the delimiters of its root and the marks of its children. -/
theorem mem_elements_iff_children (htext : node.kind = .text → node.children = []) :
    ⟨false, part⟩ ∈ node.elements ↔
      part ∈ node.delimiters ∨ ∃ child ∈ node.children, ⟨false, part⟩ ∈ child.elements := by
  obtain ⟨kind, span, text, children⟩ := node
  cases kind with
  | text =>
    obtain rfl : children = [] := htext rfl
    simp [elements, spell, delimiters, Spelling.listed]
  | alternation => exact mem_spellParted_iff
  | expression | alternative =>
    rw [elements, spell, mem_spellAll_iff]
    simp [delimiters]
  | optional | parameter =>
    have hpair {opening closing : Span × String} :
        part ∈ [opening, closing] ↔ part = opening ∨ part = closing := by simp
    rw [elements, spell, List.mem_append, List.mem_append, mem_spellAll_iff, mem_listed_mark_iff,
      mem_listed_mark_iff, or_right_comm]
    exact or_congr_left hpair.symm

/-- The marks of a tree are the delimiters of its nodes. -/
theorem mem_elements_iff (h : node.Everywhere Shaped) : ⟨false, part⟩ ∈ node.elements ↔
    ∃ other ∈ node.descendants, part ∈ other.delimiters := by
  induction node using forall_of_children with
  | h node ih =>
    obtain ⟨hshaped, hchildren⟩ := everywhere_iff.mp h
    rw [mem_elements_iff_children hshaped.children_eq_nil]
    constructor
    · rintro (hnode | ⟨child, hchild, hmem⟩)
      · exact ⟨node, node.self_mem_descendants, hnode⟩
      · obtain ⟨other, hother, hpart⟩ := (ih child hchild (hchildren child hchild)).mp hmem
        exact ⟨other, mem_descendants_iff.mpr (.inr ⟨child, hchild, hother⟩), hpart⟩
    · rintro ⟨other, hother, hpart⟩
      rcases mem_descendants_iff.mp hother with rfl | ⟨child, hchild, hother⟩
      · exact .inl hpart
      · exact .inr ⟨child, hchild,
          (ih child hchild (hchildren child hchild)).mpr ⟨other, hother, hpart⟩⟩

end Node

/-! ### Elements and tokens -/

/-- Tokens in order that cover something stand at places of their own. -/
theorem Token.InOrder.nodup_map_span {tokens : List Token} (h : InOrder tokens)
    (hcovering : ∀ token ∈ tokens, token.span.start < token.span.stop) :
    (tokens.map Token.span).Nodup := by
  induction tokens with
  | nil => exact List.nodup_nil
  | cons token tokens ih =>
    obtain ⟨htoken, hothers⟩ := List.forall_mem_cons.mp hcovering
    rw [List.map_cons, List.nodup_cons]
    refine ⟨fun hmem ↦ ?_, ih h.tail hothers⟩
    obtain ⟨later, hlater, hspan⟩ := List.mem_map.mp hmem
    have hapart := h.stop_le_start later hlater
    rw [hspan] at hapart
    exact Nat.not_le_of_lt htoken hapart

theorem Token.nodup_of_scan {source : String} {tokens : List Token}
    (h : Token.scan source = .ok tokens) : (tokens.map Token.span).Nodup := by
  obtain ⟨lexemes, hcanonical, rfl, -⟩ := Token.exists_canonical_of_scan h
  exact (Lexeme.inOrder_place 0 lexemes).nodup_map_span (hcanonical.start_lt_stop 0)

namespace Node

variable {source : String} {root : Node} {tokens : List Token}

/-- The elements of the tree of a source are its tokens. -/
theorem map_placed_elements (h : ofSource source = .ok root)
    (hscan : Token.scan source = .ok tokens) :
    root.elements.map Element.placed = tokens.map Token.placed := by
  have hemitted : root.emitted = root.elements.map Element.placed := by
    rw [List.map_eq_flatMap, elements, ← spell_flatMap]
    rfl
  rw [← hemitted, emitted_of_scan h hscan]

/-- The elements of the tree of a source stand at places of their own. -/
theorem nodup_elements (h : ofSource source = .ok root)
    (hscan : Token.scan source = .ok tokens) :
    (root.elements.map fun element ↦ element.placed.1).Nodup := by
  have hspans := congrArg (List.map Prod.fst) (map_placed_elements h hscan)
  rw [List.map_map, List.map_map] at hspans
  rw [show (root.elements.map fun element ↦ element.placed.1) = tokens.map Token.span from hspans]
  exact Token.nodup_of_scan hscan

/-- An element of the tree of a source is a leaf exactly if it is no delimiter of a node. -/
theorem isLeaf_iff (h : ofSource source = .ok root) (hscan : Token.scan source = .ok tokens)
    {element : Element} (helement : element ∈ root.elements) : element.isLeaf = true ↔
      ∀ node ∈ root.descendants, element.placed ∉ node.delimiters := by
  have hmarks {part : Span × String} : ⟨false, part⟩ ∈ root.elements ↔
      ∃ node ∈ root.descendants, part ∈ node.delimiters := mem_elements_iff (shaped_of_ofSource h)
  obtain ⟨isLeaf, placed⟩ := element
  constructor
  · rintro rfl node hnode hplaced
    -- The delimiter is an element too, and no other element stands at its place.
    have hmark : (⟨false, placed⟩ : Element) ∈ root.elements := hmarks.mpr ⟨node, hnode, hplaced⟩
    have hsame := List.inj_on_of_nodup_map (nodup_elements h hscan) helement hmark rfl
    cases hsame
  · intro hnone
    cases isLeaf with
    | true => rfl
    | false =>
      obtain ⟨node, hnode, hplaced⟩ := hmarks.mp helement
      exact absurd hplaced (hnone node hnode)

end Node

end CucumberExpression
