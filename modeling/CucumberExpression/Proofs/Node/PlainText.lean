import CucumberExpression.Proofs.Node.Elements
import CucumberExpression.Proofs.Node.Places

/-!
# The plain text of a tree

The trees that can be made by leaves and branches are those that have no node with both a text and
children (`Node.isMade_iff`), and the plain text of such a tree is that of its nodes in the order of
a walk (`Node.plainText_eq_join`).

The tree of a source keeps the texts of its tokens, except of those that are brackets of a parameter
or an optional part, or separators of an alternation. For what a tree is written with falls into
leaves, which the plain text is made of (`Node.plainText_eq_join_spell`), and delimiters, and the
tokens that are no delimiters are the leaves (`Node.map_text_filter`).
-/

set_option autoImplicit false
set_option relaxedAutoImplicit false

namespace CucumberExpression

theorem Text.join_flatMap {α : Type} (parts : α → List String) (values : List α) :
    String.join (values.flatMap parts) = String.join (values.map fun value ↦
      String.join (parts value)) := by
  induction values with
  | nil => rfl
  | cons value values ih =>
    rw [List.flatMap_cons, String.join_append, ih, List.map_cons, String.join_cons]

namespace Node

/-! ### Trees of leaves and branches -/

/-- A tree that is made by leaves and branches, of whatever kinds. -/
inductive IsMade : Node → Prop
  | leaf (kind : NodeKind) (span : Span) (text : String) : IsMade (.leaf kind span text)
  | branch (kind : NodeKind) (span : Span) {children : List Node}
      (hchildren : ∀ child ∈ children, IsMade child) : IsMade (.branch kind span children)

/-- A node has no text, or no children. -/
def IsSimple (node : Node) : Prop := node.text = "" ∨ node.children = []

variable {node : Node}

/-- The trees that can be made are those without a node of both a text and children. -/
theorem isMade_iff : node.IsMade ↔ node.Everywhere IsSimple := by
  constructor
  · intro h
    induction h with
    | leaf kind span text =>
      refine everywhere_iff.mpr ⟨.inr rfl, fun child hchild ↦ ?_⟩
      exact absurd hchild List.not_mem_nil
    | branch kind span hchildren ih => exact everywhere_iff.mpr ⟨.inl rfl, ih⟩
  · intro h
    induction node using forall_of_children with
    | h node ih =>
      obtain ⟨hsimple, hchildren⟩ := everywhere_iff.mp h
      obtain ⟨kind, span, text, children⟩ := node
      rcases hsimple with htext | hnil
      · obtain rfl : text = "" := htext
        exact .branch kind span fun child hchild ↦ ih child hchild (hchildren child hchild)
      · obtain rfl : children = [] := hnil
        exact .leaf kind span text

instance (node : Node) : Decidable node.IsMade :=
  decidable_of_iff (∀ other ∈ node.descendants, other.text = "" ∨ other.children = [])
    isMade_iff.symm

theorem plainTexts_eq (nodes : List Node) :
    plainTexts nodes = String.join (nodes.map plainText) := by
  induction nodes with
  | nil => rfl
  | cons node nodes ih => rw [plainTexts, ih, List.map_cons, String.join_cons]

theorem plainText_of_children_eq_nil (h : node.children = []) : node.plainText = node.text := by
  obtain ⟨kind, span, text, children⟩ := node
  obtain rfl : children = [] := h
  rw [plainText]

theorem plainText_of_text_eq (h : node.text = "") :
    node.plainText = String.join (node.children.map plainText) := by
  obtain ⟨kind, span, text, children⟩ := node
  obtain rfl : text = "" := h
  cases children with
  | nil => rfl
  | cons child children => rw [plainText, plainTexts_eq, List.map_cons, String.join_cons]

/-- If the plain texts of the children are put together from parts, so is that of their parent. -/
theorem plainText_eq_join_flatMap (htext : node.text = "") {parts : Node → List String}
    (h : ∀ child ∈ node.children, child.plainText = String.join (parts child)) :
    node.plainText = String.join (node.children.flatMap parts) := by
  rw [plainText_of_text_eq htext, List.map_congr_left h, Text.join_flatMap]

/-- The plain text of a tree is put together from the texts of its nodes. -/
theorem plainText_eq_join (h : node.Everywhere IsSimple) :
    node.plainText = String.join (node.descendants.map text) := by
  induction node using forall_of_children with
  | h node ih =>
    obtain ⟨hsimple, hchildren⟩ := everywhere_iff.mp h
    rw [descendants_eq, List.map_cons, String.join_cons]
    rcases hsimple with htext | hnil
    · rw [htext, String.empty_append, List.map_flatMap]
      exact plainText_eq_join_flatMap htext fun child hchild ↦
        ih child hchild (hchildren child hchild)
    · rw [plainText_of_children_eq_nil hnil, hnil, List.flatMap_nil, List.map_nil]
      exact (String.append_empty).symm

end Node

/-! ### Trees of sources -/

/-- The texts of leaves, without the marks between them. -/
def Spelling.texts : Spelling String where
  leaf _ text := [text]
  mark _ _ := []

namespace Node

variable {node : Node} {source : String} {root : Node} {tokens : List Token}

theorem spellParted_texts (nodes : List Node) :
    spellParted .texts nodes = nodes.flatMap (spell .texts) := by
  induction nodes with
  | nil => rfl
  | cons node nodes ih =>
    rw [List.flatMap_cons, ← ih]
    cases nodes with
    | nil => rw [spellParted, spellParted, List.append_nil]
    | cons next nodes => rw [spellParted, Spelling.texts, List.append_nil]

/-- Without marks, a node that is no literal text is spelled as its children are. -/
theorem spell_texts (h : node.kind ≠ .text) :
    node.spell .texts = node.children.flatMap (spell .texts) := by
  obtain ⟨kind, span, text, children⟩ := node
  cases kind with
  | text => exact absurd rfl h
  | alternation => exact spellParted_texts children
  | expression | alternative => exact spellAll_eq_flatMap .texts children
  | optional | parameter =>
    rw [spell, ← spellAll_eq_flatMap]
    exact List.append_nil _

/-- The plain text of a shaped tree is put together from its leaves. -/
theorem plainText_eq_join_spell (h : node.Everywhere Shaped) :
    node.plainText = String.join (node.spell .texts) := by
  induction node using forall_of_children with
  | h node ih =>
    obtain ⟨hshaped, hchildren⟩ := everywhere_iff.mp h
    by_cases hkind : node.kind = .text
    · rw [plainText_of_children_eq_nil (hshaped.children_eq_nil hkind)]
      obtain ⟨kind, span, text, children⟩ := node
      obtain rfl : kind = .text := hkind
      have hspell : (⟨.text, span, text, children⟩ : Node).spell .texts = [text] := rfl
      rw [hspell, String.join_cons]
      exact (String.append_empty).symm
    · have htext : node.text = "" := Decidable.not_not.mp fun hne ↦ hkind (hshaped.text.mp hne)
      rw [spell_texts hkind]
      exact plainText_eq_join_flatMap htext fun child hchild ↦
        ih child hchild (hchildren child hchild)

/-- The texts of the leaves are those of the elements that are leaves. -/
theorem spell_texts_eq (node : Node) : node.spell .texts =
    (node.elements.filter Element.isLeaf).map fun element ↦ element.placed.2 := by
  have hparts : node.spell .texts =
      node.elements.flatMap fun element ↦ if element.isLeaf then [element.placed.2] else [] :=
    spell_flatMap .listed (fun element ↦ if element.isLeaf then [element.placed.2] else []) node
  rw [hparts]
  induction node.elements with
  | nil => rfl
  | cons element elements ih =>
    rw [List.flatMap_cons, ih]
    cases hleaf : element.isLeaf <;> simp [hleaf]

/-- The tokens of a source without the delimiters in its tree are the leaves of the tree. -/
theorem map_text_filter (h : ofSource source = .ok root)
    (hscan : Token.scan source = .ok tokens) :
    (tokens.filter fun token ↦ ∀ node ∈ root.descendants, token.placed ∉ node.delimiters).map
        Token.text = root.spell .texts := by
  have hfilter : root.elements.filter Element.isLeaf = root.elements.filter fun element ↦
      ∀ node ∈ root.descendants, element.placed ∉ node.delimiters := by
    refine List.filter_congr fun element helement ↦ ?_
    rw [Bool.eq_iff_iff, isLeaf_iff h hscan helement, decide_eq_true_iff]
  -- The elements and the tokens are one row of places and texts, so the filter leaves the same.
  have hparts := congrArg (fun parts ↦ (parts.filter fun part ↦
    decide (∀ node ∈ root.descendants, part ∉ node.delimiters)).map Prod.snd)
    (map_placed_elements h hscan)
  simp only [List.filter_map, List.map_map] at hparts
  rw [spell_texts_eq, hfilter]
  exact hparts.symm

/-- A tree made by leaves and branches has no node with both a text and children, and its plain
text is that of its nodes in the order of a walk. The delimiters in the tree of a source are tokens
of the source, and the plain text of the tree is that of the other tokens, in order. -/
theorem plainText_eq_texts :
    (∀ node : Node, node.IsMade →
      (∀ other ∈ node.descendants, other.text = "" ∨ other.children = []) ∧
        node.plainText = String.join (node.descendants.map text)) ∧
      ∀ (source : String) (root : Node), ofSource source = .ok root →
        ∃ tokens, Token.scan source = .ok tokens ∧
          (∀ node ∈ root.descendants, node.delimiters ⊆ tokens.map Token.placed) ∧
            root.plainText = String.join ((tokens.filter fun token ↦
              ∀ node ∈ root.descendants, token.placed ∉ node.delimiters).map Token.text) := by
  constructor
  · intro node hmade
    have hsimple := isMade_iff.mp hmade
    exact ⟨hsimple, plainText_eq_join hsimple⟩
  · intro source root h
    have hshaped := shaped_of_ofSource h
    obtain ⟨lexemes, hcanonical, hencode, -⟩ := exists_read_of_ofSource h
    have hscan : Token.scan source = .ok (Lexeme.place 0 lexemes) :=
      Token.scan_eq_ok_iff.mpr ⟨lexemes, hcanonical, rfl, hencode⟩
    refine ⟨Lexeme.place 0 lexemes, hscan, fun node hnode part hpart ↦ ?_, ?_⟩
    · have hmark := (mem_elements_iff hshaped).mpr ⟨node, hnode, hpart⟩
      rw [← map_placed_elements h hscan]
      exact List.mem_map_of_mem hmark
    · rw [plainText_eq_join_spell hshaped, map_text_filter h hscan]

/-- A branch of the kind of literal text, above leaves of the kinds of branches. -/
def motley : Node :=
  .branch .text ⟨0, 3⟩ [.leaf .parameter ⟨0, 1⟩ "a",
    .branch .optional ⟨1, 3⟩ [.leaf .alternation ⟨1, 2⟩ "b", .leaf .text ⟨2, 3⟩ ""]]

/-- An alternation in which a separator and a bracket stand for themselves. -/
def parted : Node :=
  .branch .expression ⟨0, 12⟩ [.branch .alternation ⟨0, 12⟩
    [.branch .alternative ⟨0, 7⟩ [.branch .optional ⟨0, 7⟩
      [.leaf .text ⟨1, 4⟩ "(s", .leaf .text ⟨4, 5⟩ "/", .leaf .text ⟨5, 6⟩ "t"]],
    .branch .alternative ⟨8, 12⟩
      [.branch .parameter ⟨8, 11⟩ [.leaf .text ⟨9, 10⟩ "u"], .leaf .text ⟨11, 12⟩ ")"]]]

theorem plainText_motley_parted :
    motley.IsMade ∧ ofSource "(\\(s/t)/\x7bu\x7d)" = .ok parted ∧
      ((∀ other ∈ motley.descendants, other.text = "" ∨ other.children = []) ∧
        motley.plainText = String.join (motley.descendants.map text)) ∧
      motley.plainText = "ab" ∧ parted.plainText = "(s/tu)" ∧
      ∃ tokens, Token.scan "(\\(s/t)/\x7bu\x7d)" = .ok tokens ∧
        (∀ node ∈ parted.descendants, node.delimiters ⊆ tokens.map Token.placed) ∧
          parted.plainText = String.join ((tokens.filter fun token ↦
            ∀ node ∈ parted.descendants, token.placed ∉ node.delimiters).map Token.text) := by
  have hmade : motley.IsMade := by decide +kernel
  have hsource : ofSource "(\\(s/t)/\x7bu\x7d)" = .ok parted := by decide +kernel
  exact ⟨hmade, hsource, plainText_eq_texts.1 motley hmade, rfl, rfl,
    plainText_eq_texts.2 _ parted hsource⟩

end Node

end CucumberExpression
