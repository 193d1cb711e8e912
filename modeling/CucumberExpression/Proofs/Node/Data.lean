import CucumberExpression.Node.Rendering
import CucumberExpression.Proofs.Json.Layout
import CucumberExpression.Proofs.Node.Descendants

/-!
# Trees from data

Data tells the tree that it shows. The object for a node always has the kind and the ends of the
span, and a text or an array of children only when these are not empty. The two have keys of their
own, so that the members which are there tell those which are left out (`extraMembers_inj`): a leaf
without a text is the same node as a branch without children, and a node with a text and children,
which is neither, is told from both. Hence a node is told from its object (`toJson_inj`), and the
object from either form of it.
-/

set_option autoImplicit false
set_option relaxedAutoImplicit false

namespace CucumberExpression

theorem NodeKind.tag_inj {kind kind' : NodeKind} (h : kind.tag = kind'.tag) : kind = kind' := by
  cases kind <;> cases kind' <;> first | rfl | exact absurd h (by decide)

namespace Node

theorem toJsons_eq (nodes : List Node) : toJsons nodes = nodes.map toJson := by
  induction nodes with
  | nil => rw [toJsons, List.map_nil]
  | cons node nodes ih => rw [toJsons, ih, List.map_cons]

/-- The members that are left out when they are empty. -/
def extraMembers (text : String) (children : List Json) : List (String × Json) :=
  (if text.isEmpty then [] else [("token", .string text)])
    ++ (if children.isEmpty then [] else [("nodes", .array children)])

theorem toJson_eq (node : Node) :
    node.toJson = .object
      (("type", .string node.kind.tag) :: ("start", .number node.span.start) ::
        ("end", .number node.span.stop) :: extraMembers node.text (node.children.map toJson)) := by
  obtain ⟨kind, span, text, children⟩ := node
  rw [toJson, extraMembers, toJsons_eq, List.isEmpty_map]
  rfl

/-- The members that are there tell those that are left out. -/
theorem extraMembers_inj {text text' : String} {children children' : List Json}
    (h : extraMembers text children = extraMembers text' children') :
    text = text' ∧ children = children' := by
  unfold extraMembers at h
  simp only [String.isEmpty_iff, List.isEmpty_iff] at h
  -- the keys differ, so that members are left out on both sides or on neither
  split_ifs at h <;> simp_all

/-- Rows are told from the images of their elements when each element of the first is told from its
own. -/
theorem map_inj_of_forall {α β : Type} {f : α → β} {as as' : List α}
    (hf : ∀ a ∈ as, ∀ a', f a = f a' → a = a') (h : as.map f = as'.map f) : as = as' := by
  induction as generalizing as' with
  | nil => exact (List.map_eq_nil_iff.mp h.symm).symm
  | cons a as ih =>
    cases as' with
    | nil => cases h
    | cons a' as' =>
      obtain ⟨hhead, htail⟩ := List.cons.inj h
      rw [hf a List.mem_cons_self a' hhead, ih (fun b hb ↦ hf b (.tail _ hb)) htail]

/-- A node is told from the object for it. -/
theorem toJson_inj (node : Node) : ∀ other, node.toJson = other.toJson → node = other := by
  induction node using forall_of_children with
  | h node ih =>
    intro other h
    rw [toJson_eq, toJson_eq] at h
    obtain ⟨hkind, h⟩ := List.cons.inj (Json.object.inj h)
    obtain ⟨hstart, h⟩ := List.cons.inj h
    obtain ⟨hstop, h⟩ := List.cons.inj h
    have hspan : (⟨node.span.start, node.span.stop⟩ : Span) =
        ⟨other.span.start, other.span.stop⟩ := by
      rw [Json.number.inj (Prod.mk.inj hstart).2, Json.number.inj (Prod.mk.inj hstop).2]
    obtain ⟨htext, hchildren⟩ := extraMembers_inj h
    exact eq_of_parts (NodeKind.tag_inj (Json.string.inj (Prod.mk.inj hkind).2)) hspan htext
      (map_inj_of_forall ih hchildren)

/-- Data tells the tree that it shows. Each of its two forms is the form of one tree only, and
stands for the object for the tree and for no other value. The compact form is the signs of the
object, one after another; the form in which trees are shown, whatever the settings for outlines,
has the same signs with blanks around them, and so none inside a string. -/
theorem data_forms :
    Function.Injective (fun node : Node ↦ node.toJson.compact) ∧
    Function.Injective (fun node : Node ↦ node.toJson.pretty) ∧
    ∀ node : Node,
      (∀ width showSpans,
        node.render ⟨.data, width, showSpans⟩ = .ok node.toJson.pretty) ∧
      (∀ value, Json.Denotes node.toJson.compact value ↔ value = node.toJson) ∧
      (∀ value, Json.Denotes node.toJson.pretty value ↔ value = node.toJson) ∧
      node.toJson.compact.toList = node.toJson.signs.flatMap Json.Sign.spell ∧
      Json.Laid Json.isBlank node.toJson.signs node.toJson.pretty.toList := by
  refine ⟨fun a b h ↦ toJson_inj a b (Json.compact_inj h),
    fun a b h ↦ toJson_inj a b (Json.pretty_inj h), fun node ↦ ⟨fun _ _ ↦ rfl, ?_, ?_, ?_, ?_⟩⟩
  · exact Json.denotes_compact_iff node.toJson
  · exact Json.denotes_pretty_iff node.toJson
  · exact Json.toList_compact node.toJson
  · exact (Json.denotes_pretty_iff node.toJson node.toJson).mpr rfl

example : (branch .parameter ⟨0, 2⟩ []).toJson.compact =
    "\x7b\"type\":\"PARAMETER_NODE\",\"start\":0,\"end\":2\x7d" := by
  decide

end Node

end CucumberExpression
