import CucumberExpression.Proofs.Node.Grammatical
import CucumberExpression.Proofs.Node.Outline
import Mathlib.Algebra.Group.Nat.Defs
import Mathlib.Order.Bounds.Defs

/-!
# How deep an outline may go

A line of an outline stands behind its level times the width of a level in blanks. There is no line
with 2^63 blanks or more, and the product itself must have a 64-bit form. The first limit is always
met first: where the blanks of a line fit, the product for the level below it has a 64-bit form
(`succ_mul_lt_offsetLimit`), and every line is written after the lines above it. So writing comes to
one fault only, exactly when the deepest line has too many blanks (`outline_eq_error_iff`).

The depth of a tree is how far its deepest node is from the root (`Node.isGreatest_depth`). The tree
of a source is at most five levels deep (`Node.depth_le_of_ofSource`).
-/

set_option autoImplicit false
set_option relaxedAutoImplicit false

namespace CucumberExpression

/-! ### Margins of single lines -/

namespace Text.Outline

variable {width level : Nat}

theorem margin_of_lt (h : level * width < lengthLimit) :
    margin width level = .ok (String.ofList (List.replicate (level * width) ' ')) := by
  have hoffset : level * width < offsetLimit := h.trans (by decide)
  rw [margin, if_neg (Nat.not_le_of_lt hoffset), if_neg (Nat.not_le_of_lt h)]

theorem margin_of_le (h : lengthLimit ≤ level * width) (hoffset : level * width < offsetLimit) :
    margin width level = .error .textTooLarge := by
  rw [margin, if_neg (Nat.not_le_of_lt hoffset), if_pos h]

theorem margin_eq_indentTooLarge_iff :
    margin width level = .error .indentTooLarge ↔ offsetLimit ≤ level * width := by
  unfold margin
  split_ifs with hoffset hlength <;> simp [hoffset]

/-- One level below a line that fits, the product of level and width still has a 64-bit form. -/
theorem succ_mul_lt_offsetLimit (hwidth : width < offsetLimit) (h : level * width < lengthLimit) :
    (level + 1) * width < offsetLimit := by
  have hlimit : offsetLimit = lengthLimit + lengthLimit := by decide
  rw [Nat.succ_mul]
  by_cases hlevel : level = 0
  · rwa [hlevel, Nat.zero_mul, Nat.zero_add]
  · have hle : width ≤ level * width := Nat.le_mul_of_pos_left width (Nat.pos_of_ne_zero hlevel)
    omega

/-- Above a level at which the product has no 64-bit form there is one at which the blanks are too
many and the product has one. -/
theorem exists_margin_eq_textTooLarge (hwidth : width < offsetLimit)
    (h : margin width level = .error .indentTooLarge) :
    ∃ above < level, margin width above = .error .textTooLarge := by
  rw [margin_eq_indentTooLarge_iff] at h
  induction level with
  | zero =>
    rw [Nat.zero_mul] at h
    exact absurd h (by decide)
  | succ level ih =>
    have hlength : lengthLimit ≤ level * width :=
      Nat.le_of_not_lt fun hfits ↦ Nat.not_le_of_lt (succ_mul_lt_offsetLimit hwidth hfits) h
    by_cases hoffset : level * width < offsetLimit
    · exact ⟨level, Nat.lt_succ_self level, margin_of_le hlength hoffset⟩
    · obtain ⟨above, habove, hmargin⟩ := ih (Nat.le_of_not_lt hoffset)
      exact ⟨above, Nat.lt_succ_of_lt habove, hmargin⟩

end Text.Outline

namespace Node

open Text.Outline

variable {node child other : Node} {nodes : List Node} {place : List Nat}

/-! ### Depth -/

/-- How many levels the deepest node of a tree stands below its root. -/
def depth (node : Node) : Nat := levelsAll node.children

theorem depth_lt_of_mem (h : child ∈ node.children) : child.depth < node.depth := by
  have hlevels : child.levels ≤ levelsAll node.children :=
    levelsAll_le_iff.mp (Nat.le_refl _) child h
  rwa [levels_eq] at hlevels

theorem exists_levels_eq (h : nodes ≠ []) : ∃ node ∈ nodes, node.levels = levelsAll nodes := by
  induction nodes with
  | nil => exact absurd rfl h
  | cons node nodes ih =>
    rw [levelsAll]
    by_cases hle : levelsAll nodes ≤ node.levels
    · exact ⟨node, List.mem_cons_self, (Nat.max_eq_left hle).symm⟩
    · have hnodes : nodes ≠ [] := by
        rintro rfl
        exact hle (Nat.zero_le _)
      obtain ⟨deepest, hmem, hlevels⟩ := ih hnodes
      refine ⟨deepest, .tail _ hmem, ?_⟩
      rw [hlevels, Nat.max_eq_right (Nat.le_of_not_le hle)]

/-- A tree with children is one level deeper than its deepest child. -/
theorem exists_depth_eq (h : node.children ≠ []) :
    ∃ child ∈ node.children, node.depth = child.depth + 1 := by
  obtain ⟨child, hchild, hlevels⟩ := exists_levels_eq h
  exact ⟨child, hchild, by rw [depth, ← hlevels, levels_eq, depth]⟩

theorem depth_of_children_eq_nil (h : node.children = []) : node.depth = 0 := by
  rw [depth, h, levelsAll]

theorem exists_at?_of_depth (node : Node) :
    ∃ place, (node.at? place).isSome = true ∧ place.length = node.depth := by
  induction node using forall_of_children with
  | h node ih =>
    by_cases hchildren : node.children = []
    · exact ⟨[], rfl, (depth_of_children_eq_nil hchildren).symm⟩
    · obtain ⟨child, hchild, hdepth⟩ := exists_depth_eq hchildren
      obtain ⟨place, hat, hlength⟩ := ih child hchild
      obtain ⟨index, hindex⟩ := List.mem_iff_getElem?.mp hchild
      refine ⟨index :: place, ?_, ?_⟩
      · rwa [at?, hindex]
      · rw [List.length_cons, hlength, hdepth]

theorem length_le_depth (h : (node.at? place).isSome = true) : place.length ≤ node.depth := by
  induction place generalizing node with
  | nil => exact Nat.zero_le _
  | cons index place ih =>
    rw [at?] at h
    cases hchild : node.children[index]? with
    | none =>
      rw [hchild] at h
      exact absurd h Bool.false_ne_true
    | some child =>
      rw [hchild] at h
      exact (ih h).trans_lt (depth_lt_of_mem (List.mem_of_getElem? hchild))

/-- The depth of a tree is the length of the longest way down in it. -/
theorem isGreatest_depth (node : Node) :
    IsGreatest {level | ∃ place, (node.at? place).isSome = true ∧ place.length = level}
      node.depth := by
  constructor
  · exact node.exists_at?_of_depth
  · rintro level ⟨place, hat, rfl⟩
    exact length_le_depth hat

/-! ### Places above a place -/

theorem at?_append (front back : List Nat) (node : Node) :
    node.at? (front ++ back) = (node.at? front).bind (at? back) := by
  induction front generalizing node with
  | nil => rfl
  | cons index front ih =>
    rw [List.cons_append, at?, at?, Option.bind_assoc]
    congr 1
    funext child
    exact ih child

/-- A place comes after the places above it. -/
theorem lt_append_cons (front : List Nat) (index : Nat) (back : List Nat) :
    front < front ++ index :: back := by
  induction front with
  | nil => exact List.nil_lt_cons index back
  | cons first front ih => exact List.cons_lt_cons_iff.mpr (.inr ⟨rfl, ih⟩)

/-- On the way down to a place there is a place of each lesser level. -/
theorem exists_placed_above (h : (place, other) ∈ node.placed) {level : Nat}
    (hlevel : level < place.length) :
    ∃ above holder, (above, holder) ∈ node.placed ∧ above < place ∧ above.length = level := by
  have hsplit : place.take level ++ place[level] :: place.drop (level + 1) = place := by
    rw [← List.drop_eq_getElem_cons hlevel, List.take_append_drop]
  have hat := mem_placed_iff.mp h
  rw [← hsplit, at?_append] at hat
  obtain ⟨holder, hholder, -⟩ := Option.bind_eq_some_iff.mp hat
  have hlength : (place.take level).length = level := List.length_take_of_le hlevel.le
  refine ⟨place.take level, holder, mem_placed_iff.mpr hholder, ?_, hlength⟩
  have hlt := lt_append_cons (place.take level) place[level] (place.drop (level + 1))
  rwa [hsplit] at hlt

/-! ### Adding a tree -/

/-- Whether the blanks of every line of a tree fit, if its own line stands at a level. -/
def Fits (width level : Nat) (node : Node) : Prop := (level + node.depth) * width < lengthLimit

theorem fits_iff {width level : Nat} : node.Fits width level ↔
    level * width < lengthLimit ∧ ∀ child ∈ node.children, child.Fits width (level + 1) := by
  have hwider {low high : Nat} (hle : low ≤ high) (hhigh : high * width < lengthLimit) :
      low * width < lengthLimit :=
    (Nat.mul_le_mul_right width hle).trans_lt hhigh
  constructor
  · intro h
    refine ⟨hwider (Nat.le_add_right level node.depth) h, fun child hchild ↦ hwider ?_ h⟩
    have hdepth := depth_lt_of_mem hchild
    omega
  · rintro ⟨hline, hchildren⟩
    by_cases hnil : node.children = []
    · rwa [Fits, depth_of_children_eq_nil hnil]
    · obtain ⟨child, hchild, hdepth⟩ := exists_depth_eq hnil
      have hfits := hchildren child hchild
      rwa [Fits, Nat.add_right_comm, Nat.add_assoc, ← hdepth] at hfits

theorem addTo_eq (showSpans : Bool) (node : Node) (outline : Text.Outline) :
    node.addTo showSpans outline = outline.line (node.heading showSpans) >>= fun opened ↦
      (addAllTo showSpans node.children opened.indent).map Text.Outline.dedent := by
  obtain ⟨kind, span, text, children⟩ := node
  rw [addTo]
  rfl

/-- A computation comes to a value if a condition holds, and else to the fault of a text that is too
long. -/
def LimitedBy {α : Type} (condition : Prop) (result : Except Fault α) : Prop :=
  (condition → ∃ value, result = .ok value) ∧ (¬ condition → result = .error .textTooLarge)

theorem LimitedBy.bind {α β : Type} {condition condition' : Prop} {first : Except Fault α}
    {next : α → Except Fault β} (hfirst : LimitedBy condition first)
    (hnext : condition → ∀ value, first = .ok value → LimitedBy condition' (next value)) :
    LimitedBy (condition ∧ condition') (first >>= next) := by
  by_cases h : condition
  · obtain ⟨value, hvalue⟩ := hfirst.1 h
    obtain ⟨hok, herror⟩ := hnext h value hvalue
    rw [hvalue]
    exact ⟨fun hboth ↦ hok hboth.2, fun hboth ↦ herror fun h' ↦ hboth ⟨h, h'⟩⟩
  · refine ⟨fun hboth ↦ absurd hboth.1 h, fun _ ↦ ?_⟩
    rw [hfirst.2 h]
    rfl

theorem LimitedBy.map {α β : Type} {condition : Prop} {result : Except Fault α}
    (h : LimitedBy condition result) (f : α → β) : LimitedBy condition (result.map f) := by
  constructor
  · intro hcondition
    obtain ⟨value, rfl⟩ := h.1 hcondition
    exact ⟨f value, rfl⟩
  · intro hcondition
    rw [h.2 hcondition]
    rfl

/-- Adding a tree is limited by its deepest line, wherever the outline stands that it is added to.
Assumes: the product at the level of the outline has a 64-bit form. -/
def IsLimited (showSpans : Bool) (node : Node) : Prop :=
  ∀ outline : Text.Outline, outline.width < offsetLimit →
    outline.level * outline.width < offsetLimit →
      LimitedBy (node.Fits outline.width outline.level) (node.addTo showSpans outline)

variable {showSpans : Bool} {outline : Text.Outline}

theorem limitedBy_line (hlevel : outline.level * outline.width < offsetLimit) (content : String) :
    LimitedBy (outline.level * outline.width < lengthLimit) (outline.line content) := by
  refine LimitedBy.map ⟨fun h ↦ ?_, fun h ↦ ?_⟩ _
  · exact ⟨_, margin_of_lt h⟩
  · exact margin_of_le (Nat.le_of_not_lt h) hlevel

theorem limitedBy_addAllTo (outline : Text.Outline)
    (hnodes : ∀ node ∈ nodes, node.IsLimited showSpans) (hwidth : outline.width < offsetLimit)
    (hlevel : outline.level * outline.width < offsetLimit) :
    LimitedBy (∀ node ∈ nodes, node.Fits outline.width outline.level)
      (addAllTo showSpans nodes outline) := by
  induction nodes generalizing outline with
  | nil =>
    rw [addAllTo]
    exact ⟨fun _ ↦ ⟨outline, rfl⟩, fun h ↦ absurd (List.forall_mem_nil _) h⟩
  | cons node nodes ih =>
    rw [addAllTo, List.forall_mem_cons]
    refine (hnodes node List.mem_cons_self outline hwidth hlevel).bind fun _ added hadded ↦ ?_
    obtain ⟨hsameWidth, hsameLevel⟩ :
        added.width = outline.width ∧ added.level = outline.level := by
      rw [node.adds showSpans outline added hadded]
      exact ⟨rfl, rfl⟩
    rw [← hsameWidth] at hwidth
    rw [← hsameWidth, ← hsameLevel] at hlevel ⊢
    exact ih added (fun other hother ↦ hnodes other (.tail _ hother)) hwidth hlevel

/-- The children of a node are added at a level whose product has a 64-bit form, because the line of
the node has been written before. -/
theorem isLimited (showSpans : Bool) (node : Node) : node.IsLimited showSpans := by
  induction node using forall_of_children with
  | h node ih =>
    intro outline hwidth hlevel
    rw [addTo_eq, fits_iff]
    refine (limitedBy_line hlevel _).bind fun hline opened hopened ↦ ?_
    obtain ⟨lines, rfl⟩ : ∃ lines, opened = withLines outline lines := ⟨_, line_eq_ok hopened⟩
    have hbelow : (withLines outline lines).indent.level * outline.width < offsetLimit :=
      succ_mul_lt_offsetLimit hwidth hline
    exact (limitedBy_addAllTo (withLines outline lines).indent ih hwidth hbelow).map _

/-! ### Whole outlines -/

theorem limitedBy_outline {width : Nat} (hwidth : width < offsetLimit) (showSpans : Bool)
    (node : Node) :
    LimitedBy (node.depth * width < lengthLimit) (node.outline width showSpans) := by
  have hlevel : (empty width).level * width < offsetLimit := by
    rw [show (empty width).level = 0 from rfl, Nat.zero_mul]
    decide
  have hlimited := (node.isLimited showSpans (empty width) hwidth hlevel).map Text.Outline.written
  rwa [Fits, show (empty width).level = 0 from rfl, Nat.zero_add] at hlimited

/-- The tree of a source is at most five levels deep. -/
theorem depth_le_of_ofSource {source : String} {root : Node} (h : ofSource source = .ok root) :
    root.depth ≤ 5 := by
  have hlevels := levels_le_rank (shaped_of_ofSource h)
  have hrank : root.kind.rank ≤ 6 := by cases root.kind <;> decide
  rw [levels_eq] at hlevels
  exact Nat.le_of_succ_le_succ (hlevels.trans hrank)

/-- Assumes: a width with a 64-bit form. The depth of a tree is the length of the longest way down
in it. Its outline comes to a fault exactly if the deepest line has 2^63 blanks or more, and the
fault is that of a text that is too long. The product of level and width never comes to one: before
a line at which it has no 64-bit form there is another, on a lesser level, at which the blanks are
too many already. So five times a width is enough for all trees of sources, and any width for a node
without children. -/
theorem outline_eq_error_iff {width : Nat} (hwidth : width < 2 ^ 64) (showSpans : Bool) :
    (∀ node : Node,
      IsGreatest {level | ∃ place, (node.at? place).isSome = true ∧ place.length = level}
        node.depth) ∧
    (∀ (node : Node) fault, node.outline width showSpans = .error fault ↔
      2 ^ 63 ≤ node.depth * width ∧ fault = .textTooLarge) ∧
    (∀ (node : Node) place other, (place, other) ∈ node.placed →
      margin width place.length = .error .indentTooLarge →
        ∃ above holder, (above, holder) ∈ node.placed ∧ above < place ∧
          above.length < place.length ∧ margin width above.length = .error .textTooLarge) ∧
    (∀ source root, ofSource source = .ok root → 5 * width < 2 ^ 63 →
      ∃ text, root.outline width showSpans = .ok text) ∧
    ∀ node : Node, node.children = [] → ∃ text, node.outline width showSpans = .ok text := by
  have hlimited (node : Node) : LimitedBy (node.depth * width < 2 ^ 63)
      (node.outline width showSpans) :=
    limitedBy_outline hwidth showSpans node
  refine ⟨isGreatest_depth, fun node fault ↦ ?_, fun node place other hplace hmargin ↦ ?_,
    fun source root hroot hfits ↦ ?_, fun node hchildren ↦ ?_⟩
  · constructor
    · intro hfault
      by_cases hfits : node.depth * width < 2 ^ 63
      · obtain ⟨text, htext⟩ := (hlimited node).1 hfits
        rw [htext] at hfault
        cases hfault
      · rw [(hlimited node).2 hfits] at hfault
        exact ⟨Nat.le_of_not_lt hfits, (Except.error.inj hfault).symm⟩
    · rintro ⟨hdeep, rfl⟩
      exact (hlimited node).2 (Nat.not_lt_of_le hdeep)
  · obtain ⟨level, hlevel, htooLarge⟩ := exists_margin_eq_textTooLarge hwidth hmargin
    obtain ⟨above, holder, habove, hlt, rfl⟩ := exists_placed_above hplace hlevel
    exact ⟨above, holder, habove, hlt, hlevel, htooLarge⟩
  · have hdepth := Nat.mul_le_mul_right width (depth_le_of_ofSource hroot)
    exact (hlimited root).1 (hdepth.trans_lt hfits)
  · refine (hlimited node).1 ?_
    rw [depth_of_children_eq_nil hchildren, Nat.zero_mul]
    decide

/-- Three levels below the root, of which the widest width leaves room for none. -/
def steep : Node :=
  .branch .optional ⟨0, 9⟩
    [.leaf .text ⟨0, 1⟩ "a",
      .branch .text ⟨1, 9⟩ [.branch .alternative ⟨2, 8⟩ [.leaf .parameter ⟨3, 4⟩ "b"]]]

theorem outline_steep :
    (steep.depth = 3 ∧ steep.outline (2 ^ 64 - 1) false = .error .textTooLarge) ∧
    (margin (2 ^ 64 - 1) 2 = .error .indentTooLarge ∧
      ∃ above holder, (above, holder) ∈ steep.placed ∧ above < [1, 0] ∧ above.length < 2 ∧
        margin (2 ^ 64 - 1) above.length = .error .textTooLarge) ∧
    (ofSource "(\x7ba\x7d/ )/\\/ )b\\ c/" = .ok layered ∧ 5 * ((2 ^ 63 - 1) / 5) < 2 ^ 63 ∧
      ∃ text, layered.outline ((2 ^ 63 - 1) / 5) true = .ok text) ∧
    ∃ text, (leaf .text ⟨0, 1⟩ "a").outline (2 ^ 64 - 1) true = .ok text := by
  have hwidest : 2 ^ 64 - 1 < 2 ^ 64 := by decide
  have hwide : (2 ^ 63 - 1) / 5 < 2 ^ 64 := by decide
  have hroot : ofSource "(\x7ba\x7d/ )/\\/ )b\\ c/" = .ok layered := by decide +kernel
  obtain ⟨-, hfault, habove, -, -⟩ := outline_eq_error_iff hwidest false
  obtain ⟨-, -, -, hsource, -⟩ := outline_eq_error_iff hwide true
  obtain ⟨-, -, -, -, hchildless⟩ := outline_eq_error_iff hwidest true
  refine ⟨⟨rfl, (hfault steep _).mpr ⟨by decide, rfl⟩⟩, ⟨by decide, ?_⟩,
    ⟨hroot, by decide, hsource _ layered hroot (by decide)⟩, hchildless _ rfl⟩
  exact habove steep [1, 0] (.branch .alternative ⟨2, 8⟩ [.leaf .parameter ⟨3, 4⟩ "b"])
    (mem_placed_iff.mpr rfl) (by decide)

end Node

end CucumberExpression
