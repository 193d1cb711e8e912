import CucumberExpression.Json
import CucumberExpression.Node.Grammar
import CucumberExpression.Text.Quoted

/-!
# Written forms of trees

A tree is shown as an outline or as data, as the layout says. The layout of an outline has a width
for each level and may leave the spans out; data has a layout of its own, which these settings do
not touch.

An outline is a text of lines at nesting levels. Each level is shown by the same number of blanks
in front of the line. The blanks of one line must number fewer than 2^63, which is checked when
the line is written; a line at level zero always fits. A tree is written with one line for each
node, the children of a node one level below it. A line gives the kind, the span if it is wanted,
and the text of a text node in quotes.

As data, a node is an object: its kind, the ends of its span, its text unless that is empty, and its
children unless there are none.
-/

set_option autoImplicit false
set_option relaxedAutoImplicit false

namespace CucumberExpression

/-! ### Outlines -/

namespace Text

/-- The lines written so far, and the level of the next one. -/
structure Outline where
  width : Nat
  level : Nat
  written : String
  deriving Repr, DecidableEq

namespace Outline

/-- An outline without lines, whose levels are the given number of blanks apart. -/
def empty (width : Nat) : Outline := ⟨width, 0, ""⟩

/-- The next line stands one level deeper. -/
def indent (outline : Outline) : Outline := { outline with level := outline.level + 1 }

/-- The next line stands one level less deep, but not above the top. -/
def dedent (outline : Outline) : Outline := { outline with level := outline.level - 1 }

/-- The length that no text reaches. -/
def lengthLimit : Nat := 1 <<< 63

/-- The blanks in front of a line at the given level. -/
def margin (width level : Nat) : Except Fault String :=
  if offsetLimit ≤ level * width then .error .indentTooLarge
  else if lengthLimit ≤ level * width then .error .textTooLarge
  else .ok (String.ofList (List.replicate (level * width) ' '))

/-- The outline with one more line. -/
def line (outline : Outline) (content : String) : Except Fault Outline :=
  (margin outline.width outline.level).map fun blanks ↦
    { outline with written := outline.written ++ blanks ++ content ++ "\n" }

@[simp] theorem dedent_indent (outline : Outline) : outline.indent.dedent = outline := rfl

/-- At the top no width is too large. -/
theorem margin_zero (width : Nat) : margin width 0 = .ok "" := by
  simp [margin, offsetLimit, lengthLimit]

end Outline

end Text

/-! ### Trees as outlines -/

namespace Node

/-- The line for a node. -/
def heading (showSpans : Bool) (node : Node) : String :=
  node.kind.name
    ++ (if showSpans then " " ++ node.span.render else "")
    ++ (if node.isText then " " ++ Text.quote node.text else "")

mutual

/-- The outline with the lines of a tree added to it. -/
def addTo (showSpans : Bool) : Node → Text.Outline → Except Fault Text.Outline
  | ⟨kind, span, text, children⟩, outline => do
    let opened ← outline.line (heading showSpans ⟨kind, span, text, children⟩)
    let filled ← addAllTo showSpans children opened.indent
    return filled.dedent

/-- The outline with the lines of a row of trees added to it. -/
def addAllTo (showSpans : Bool) : List Node → Text.Outline → Except Fault Text.Outline
  | [], outline => .ok outline
  | node :: nodes, outline => do
    let outline ← addTo showSpans node outline
    addAllTo showSpans nodes outline

end

/-- The outline of a tree, with the given number of blanks for each level. -/
def outline (indentWidth : Nat) (showSpans : Bool) (node : Node) : Except Fault String :=
  (node.addTo showSpans (.empty indentWidth)).map Text.Outline.written

end Node

/-! ### Trees as data -/

namespace Node

mutual

/-- The object for a tree. -/
def toJson : Node → Json
  | ⟨kind, span, text, children⟩ =>
    .object <|
      [("type", .string kind.tag), ("start", .number span.start), ("end", .number span.stop)]
        ++ (if text.isEmpty then [] else [("token", .string text)])
        ++ (if children.isEmpty then [] else [("nodes", .array (toJsons children))])

/-- The objects for a row of trees. -/
def toJsons : List Node → List Json
  | [] => []
  | node :: nodes => toJson node :: toJsons nodes

end

end Node

/-! ### Layouts -/

/-- The forms in which trees are shown. -/
inductive TreeForm where
  | outline
  | data
  deriving Repr, DecidableEq, Inhabited

/-- How trees are shown. -/
structure Layout where
  form : TreeForm := .outline
  indentWidth : Nat := 2
  showSpans : Bool := true
  deriving Repr, DecidableEq, Inhabited

namespace Node

/-- The tree in the form that the layout asks for. -/
def render (layout : Layout) (node : Node) : Except Fault String :=
  match layout.form with
  | .outline => node.outline layout.indentWidth layout.showSpans
  | .data => .ok node.toJson.pretty

/-- The tree of an expression in the form that the layout asks for. -/
def renderSource (layout : Layout) (source : String) : Except Failure String := do
  let node ← ofSource source
  (node.render layout).mapError .fault

end Node

end CucumberExpression
