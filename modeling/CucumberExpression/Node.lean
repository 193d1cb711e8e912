import CucumberExpression.Span

/-!
# Syntax trees

Every node of a tree has a kind, a span, and either a text or children. Nodes are made by
`Node.leaf`, which gives no children, and `Node.branch`, which gives no text; a leaf with an empty
text is the same node as a branch without children. `Node.descendants` lists a tree in the order
in which it is written down: a node before its children, the children from first to last.
-/

set_option autoImplicit false
set_option relaxedAutoImplicit false

namespace CucumberExpression

/-- What a node of a tree stands for. -/
inductive NodeKind where
  | expression
  | optional
  | parameter
  | alternation
  | alternative
  | text
  deriving Repr, DecidableEq, Inhabited

namespace NodeKind

/-- Every kind. -/
def all : List NodeKind :=
  [expression, optional, parameter, alternation, alternative, text]

/-- The name of a kind in an outline. -/
def name : NodeKind → String
  | expression => "Expression"
  | optional => "Optional"
  | parameter => "Parameter"
  | alternation => "Alternation"
  | alternative => "Alternative"
  | text => "Text"

/-- The name of a kind where a tree is written as data. -/
def tag : NodeKind → String
  | expression => "EXPRESSION_NODE"
  | optional => "OPTIONAL_NODE"
  | parameter => "PARAMETER_NODE"
  | alternation => "ALTERNATION_NODE"
  | alternative => "ALTERNATIVE_NODE"
  | text => "TEXT_NODE"

end NodeKind

/-- A node of a syntax tree, with the tree below it. -/
structure Node where
  kind : NodeKind
  span : Span
  text : String
  children : List Node
  deriving Repr, Inhabited

namespace Node

/-! ### Making and comparing nodes -/

/-- A node that holds a text. -/
def leaf (kind : NodeKind) (span : Span) (text : String) : Node := ⟨kind, span, text, []⟩

/-- A node that holds other nodes. -/
def branch (kind : NodeKind) (span : Span) (children : List Node) : Node :=
  ⟨kind, span, "", children⟩

/-- The empty leaf and the empty branch are one node. -/
theorem leaf_empty (kind : NodeKind) (span : Span) : leaf kind span "" = branch kind span [] :=
  rfl

mutual

/-- Decides whether two trees are equal, part by part. -/
def decideEq : (a b : Node) → Decidable (a = b)
  | ⟨kind, span, text, children⟩, ⟨kind', span', text', children'⟩ =>
    match decEq kind kind', decEq span span', decEq text text',
        decideEqAll children children' with
    | isTrue hkind, isTrue hspan, isTrue htext, isTrue hchildren =>
      isTrue (by rw [hkind, hspan, htext, hchildren])
    | isFalse h, _, _, _ => isFalse fun equal ↦ h (congrArg Node.kind equal)
    | _, isFalse h, _, _ => isFalse fun equal ↦ h (congrArg Node.span equal)
    | _, _, isFalse h, _ => isFalse fun equal ↦ h (congrArg Node.text equal)
    | _, _, _, isFalse h => isFalse fun equal ↦ h (congrArg Node.children equal)

/-- Decides whether two rows of trees are equal. -/
def decideEqAll : (as bs : List Node) → Decidable (as = bs)
  | [], [] => isTrue rfl
  | [], _ :: _ => isFalse nofun
  | _ :: _, [] => isFalse nofun
  | a :: as, b :: bs =>
    match decideEq a b, decideEqAll as bs with
    | isTrue hhead, isTrue htail => isTrue (by rw [hhead, htail])
    | isFalse h, _ => isFalse fun equal ↦ h (List.cons.inj equal).1
    | _, isFalse h => isFalse fun equal ↦ h (List.cons.inj equal).2

end

instance : DecidableEq Node := decideEq

/-! ### Texts -/

/-- Whether the node stands for literal text. -/
def isText (node : Node) : Bool := node.kind == .text

mutual

/-- The text of the tree without its brackets and separators: that of a node without children is
its own, that of any other node the texts of its children in order. -/
def plainText : Node → String
  | ⟨_, _, text, []⟩ => text
  | ⟨_, _, _, child :: children⟩ => plainText child ++ plainTexts children

/-- The plain texts of a row of trees, in order. -/
def plainTexts : List Node → String
  | [] => ""
  | node :: nodes => plainText node ++ plainTexts nodes

end

/-! ### Walking a tree -/

mutual

/-- How many nodes the tree has. -/
def size : Node → Nat
  | ⟨_, _, _, children⟩ => sizes children + 1

/-- How many nodes a row of trees has. -/
def sizes : List Node → Nat
  | [] => 0
  | node :: nodes => size node + sizes nodes

end

@[simp] theorem size_eq (node : Node) : node.size = sizes node.children + 1 := by
  cases node
  simp [size]

@[simp] theorem sizes_append (front back : List Node) :
    sizes (front ++ back) = sizes front + sizes back := by
  induction front with
  | nil => simp [sizes]
  | cons node front ih => simp [sizes, ih, Nat.add_assoc]

/-- The nodes met when a stack of trees is worked off from its top: the top node goes out, and
its children take its place, the first on top. -/
def walk : List Node → List Node
  | [] => []
  | node :: stack => node :: walk (node.children ++ stack)
termination_by stack => sizes stack
decreasing_by simp [sizes]

/-- All nodes of a tree, the tree itself first. -/
def descendants (node : Node) : List Node := walk [node]

end Node

end CucumberExpression
