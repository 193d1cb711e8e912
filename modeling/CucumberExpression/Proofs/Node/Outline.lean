import CucumberExpression.Node.Rendering
import CucumberExpression.Proofs.Node.Places
import CucumberExpression.Proofs.Text.Quoted

/-!
# The lines of an outline

An outline has a line for each node of the tree, in the order in which a walk meets them, each
behind the blanks of its level (`adds`). The level of the outline goes up before the children of a
node and down behind them, so behind a tree it is what it was before. A line has no line feed
inside, since texts are quoted (`lineFeed_not_mem_lineOf`), so there are as many lines as nodes.
-/

set_option autoImplicit false
set_option relaxedAutoImplicit false

namespace CucumberExpression

/-- Blanks in front of a line are so many for each level. -/
theorem Text.Outline.margin_eq_ok {width level : Nat} {blanks : String}
    (h : margin width level = .ok blanks) :
    blanks = String.ofList (List.replicate (level * width) ' ') := by
  unfold margin at h
  split_ifs at h
  exact (Except.ok.inj h).symm

namespace Node

variable {showSpans : Bool} {node : Node} {nodes : List Node} {outline outline' : Text.Outline}

/-- The line for a node at a level: blanks, the kind, the span if it is wanted, and the text in
quotes if the node is literal text. -/
def lineOf (width : Nat) (showSpans : Bool) (level : Nat) (node : Node) : String :=
  String.ofList (List.replicate (level * width) ' ') ++ node.kind.name
    ++ (if showSpans then
          " " ++ toString node.span.start ++ ".." ++ toString node.span.stop
        else "")
    ++ (if node.kind = .text then " " ++ Text.quote node.text else "")

theorem lineOf_eq (width : Nat) (showSpans : Bool) (level : Nat) (node : Node) :
    lineOf width showSpans level node =
      String.ofList (List.replicate (level * width) ' ') ++ node.heading showSpans := by
  simp only [lineOf, heading, Span.render, isText, String.append_assoc, beq_iff_eq]

/-- The lines for nodes with their levels. -/
def linesOf (width : Nat) (showSpans : Bool) (entries : List (Nat × Node)) : List String :=
  entries.map fun (level, node) ↦ lineOf width showSpans level node

/-- The outline with more lines, at the level that it had. -/
def withLines (outline : Text.Outline) (lines : List String) : Text.Outline :=
  { outline with written := outline.written ++ Text.ofLines lines }

theorem line_eq_ok {content : String} (h : outline.line content = .ok outline') :
    outline' = withLines outline
      [String.ofList (List.replicate (outline.level * outline.width) ' ') ++ content] := by
  unfold Text.Outline.line at h
  cases hmargin : Text.Outline.margin outline.width outline.level with
  | error fault =>
    rw [hmargin] at h
    cases h
  | ok blanks =>
    rw [hmargin] at h
    rw [← Except.ok.inj h, Text.Outline.margin_eq_ok hmargin, withLines, Text.ofLines]
    simp [String.append_assoc, String.join]

theorem withLines_append (outline : Text.Outline) (front back : List String) :
    withLines (withLines outline front) back = withLines outline (front ++ back) := by
  simp only [withLines, Text.ofLines_append, String.append_assoc]

/-! ### Trees added to an outline -/

/-- A computation that comes to a value has come to one at each of its steps. -/
theorem exists_of_bind_eq_ok {α β : Type} {first : Except Fault α} {next : α → Except Fault β}
    {value : β} (h : first >>= next = .ok value) : ∃ middle, first = .ok middle ∧
      next middle = .ok value := by
  cases first with
  | error fault => cases h
  | ok middle => exact ⟨middle, rfl, h⟩

/-- A tree is added by its own line, and by its children one level deeper. -/
theorem exists_of_addTo (h : node.addTo showSpans outline = .ok outline') :
    ∃ opened filled, outline.line (node.heading showSpans) = .ok opened ∧
      addAllTo showSpans node.children opened.indent = .ok filled ∧ outline' = filled.dedent := by
  obtain ⟨kind, span, text, children⟩ := node
  rw [addTo] at h
  obtain ⟨opened, hopened, h⟩ := exists_of_bind_eq_ok h
  obtain ⟨filled, hfilled, h⟩ := exists_of_bind_eq_ok h
  exact ⟨opened, filled, hopened, hfilled, (Except.ok.inj h).symm⟩

/-- What trees add to an outline: their lines, from the level of the outline on. -/
def Adds (showSpans : Bool) (node : Node) : Prop :=
  ∀ outline outline', node.addTo showSpans outline = .ok outline' →
    outline' = withLines outline (linesOf outline.width showSpans (node.ranked outline.level))

theorem addAllTo_eq_ok (hnodes : ∀ node ∈ nodes, node.Adds showSpans)
    (h : addAllTo showSpans nodes outline = .ok outline') :
    outline' = withLines outline
      (linesOf outline.width showSpans (rankedAll outline.level nodes)) := by
  induction nodes generalizing outline with
  | nil =>
    rw [addAllTo] at h
    rw [← Except.ok.inj h]
    simp [withLines, rankedAll, linesOf, Text.ofLines, String.join]
  | cons node nodes ih =>
    rw [addAllTo] at h
    obtain ⟨middle, hmiddle, hrest⟩ := exists_of_bind_eq_ok h
    obtain rfl := hnodes node List.mem_cons_self outline middle hmiddle
    rw [ih (fun other hother ↦ hnodes other (.tail _ hother)) hrest, withLines_append, rankedAll,
      linesOf, linesOf, linesOf, List.map_append]
    rfl

/-- A tree adds its lines to an outline, and leaves it at the level that it had. -/
theorem adds (showSpans : Bool) (node : Node) : node.Adds showSpans := by
  induction node using forall_of_children with
  | h node ih =>
    intro outline outline' h
    obtain ⟨opened, filled, hopened, hfilled, rfl⟩ := exists_of_addTo h
    obtain rfl := line_eq_ok hopened
    rw [addAllTo_eq_ok ih hfilled, ranked_eq]
    -- Going one level down and up again only moves the level.
    show withLines (withLines outline _) (linesOf outline.width showSpans
      (rankedAll (outline.level + 1) node.children)) = _
    rw [withLines_append, ← lineOf_eq]
    rfl

/-! ### Whole outlines -/

theorem lineFeed_not_mem_name (kind : NodeKind) : '\n' ∉ kind.name.toList := by
  cases kind <;> decide

theorem lineFeed_not_mem_toString (number : Nat) : '\n' ∉ (toString number).toList :=
  fun h ↦ absurd (Text.isDigit_of_mem_toString '\n' h) (by decide)

/-- A line is one line, whatever the text of its node is. -/
theorem lineFeed_not_mem_lineOf (width : Nat) (showSpans : Bool) (level : Nat) (node : Node) :
    '\n' ∉ (lineOf width showSpans level node).toList := by
  have hblanks : '\n' ∉ (String.ofList (List.replicate (level * width) ' ')).toList := by
    rw [String.toList_ofList]
    exact fun h ↦ absurd (List.eq_of_mem_replicate h) (by decide)
  have hspan : '\n' ∉ (if showSpans then
      " " ++ toString node.span.start ++ ".." ++ toString node.span.stop else "").toList := by
    split
    · simp only [String.toList_append, List.mem_append, not_or]
      exact ⟨⟨⟨by decide, lineFeed_not_mem_toString _⟩, by decide⟩, lineFeed_not_mem_toString _⟩
    · simp
  have htext : '\n' ∉ (if node.kind = .text then " " ++ Text.quote node.text else "").toList := by
    split
    · simp [Text.lineFeed_not_mem_quote]
    · simp
  simp only [lineOf, String.toList_append, List.mem_append, not_or]
  exact ⟨⟨⟨hblanks, lineFeed_not_mem_name node.kind⟩, hspan⟩, htext⟩

/-- The outline of a tree are the lines for its nodes, each at its level. -/
theorem outline_eq_ok {width : Nat} {text : String} (h : node.outline width showSpans = .ok text) :
    text = Text.ofLines (linesOf width showSpans (node.ranked 0)) := by
  unfold outline at h
  cases hadded : node.addTo showSpans (.empty width) with
  | error fault =>
    rw [hadded] at h
    cases h
  | ok added =>
    rw [hadded] at h
    rw [← Except.ok.inj h, node.adds showSpans _ _ hadded]
    exact String.empty_append

/-- Assumes: an outline that could be written. A walk over a tree meets a node before its children,
and these from the first to the last; it meets each node of the tree once, in the order of the
places. The outline has one line for each node that the walk meets, in the same order, and no other;
the level of a line is the length of the way down to its node. No line has a line feed inside, and
behind any tree the level of the outline is the one that it was before. -/
theorem outline_eq_ofLines {width : Nat} {text : String}
    (h : node.outline width showSpans = .ok text) :
    (∀ other : Node, other.descendants = other :: other.children.flatMap descendants) ∧
    node.placed.map Prod.snd = node.descendants ∧
    (node.placed.map Prod.fst).Pairwise (· < ·) ∧
    (∀ place other, (place, other) ∈ node.placed ↔ node.at? place = some other) ∧
    text = Text.ofLines
      (node.placed.map fun (place, other) ↦ lineOf width showSpans place.length other) ∧
    (∀ level other, '\n' ∉ (lineOf width showSpans level other).toList) ∧
    ∀ other outline outline', addTo showSpans other outline = .ok outline' →
      outline'.level = outline.level := by
  refine ⟨descendants_eq, node.map_snd_placed, node.pairwise_placed, fun _ _ ↦ mem_placed_iff, ?_,
    lineFeed_not_mem_lineOf width showSpans, ?_⟩
  · rw [outline_eq_ok h, ← map_levelOf_placed, linesOf, List.map_map]
    simp only [Function.comp_def, levelOf, Nat.zero_add]
  · intro other outline outline' hadded
    rw [other.adds showSpans outline outline' hadded]
    rfl

/-- A node of literal text that holds others, under texts with a line feed and a quote in them. -/
def quoted : Node :=
  .branch .alternation ⟨0, 10⟩
    [.leaf .text ⟨0, 2⟩ "a\n",
      .branch .text ⟨2, 9⟩ [.leaf .optional ⟨3, 3⟩ "b", .leaf .text ⟨4, 6⟩ "\" \\"]]

/-- The lines for these nodes. -/
def quotedLines : List String :=
  ["Alternation 0..10", "   Text 0..2 \"a\\n\"", "   Text 2..9 \"\"", "      Optional 3..3",
    "      Text 4..6 \"\\\" \\\\\""]

theorem outline_quoted :
    quoted.outline 3 true = .ok (Text.ofLines quotedLines) ∧
    quoted.placed.map Prod.fst = [[], [0], [1], [1, 0], [1, 1]] ∧
    quoted.placed.map Prod.snd = quoted.descendants ∧
    Text.ofLines quotedLines = Text.ofLines
      (quoted.placed.map fun (place, other) ↦ lineOf 3 true place.length other) := by
  have houtline : quoted.outline 3 true = .ok (Text.ofLines quotedLines) := by decide +kernel
  obtain ⟨-, hwalk, -, -, hlines, -⟩ := outline_eq_ofLines houtline
  exact ⟨houtline, rfl, hwalk, hlines⟩

end Node

end CucumberExpression
