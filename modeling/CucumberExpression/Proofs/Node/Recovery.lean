import CucumberExpression.Proofs.Node.Outline

/-!
# Trees from outlines

An outline tells the tree that it shows. It falls into its lines, since no line has a line feed
inside. Each line tells how many blanks it begins with, and with that the level of its node
(`level_eq_of_lineOf`), and behind them the kind, the span and the text of the node (`shown_inj`).
The levels tell the shape: the nodes below a node are those on deeper levels directly behind it
(`Recovered`).

Spans have to be shown, or a tree is only told up to them, and levels have to be set apart by a
blank at least. A text is shown for literal text only, so no other node may have one.
-/

set_option autoImplicit false
set_option relaxedAutoImplicit false

namespace CucumberExpression

namespace Node

/-! ### Lines -/

/-- Only literal text carries a text. -/
def IsTextOnly (node : Node) : Prop := node.kind ≠ .text → node.text = ""

variable {width level level' : Nat} {a b : Node}

theorem name_ne_blank (kind : NodeKind) : ∀ c ∈ kind.name.toList, (c != ' ') = true :=
  List.all_eq_true.mp (by cases kind <;> decide)

theorem head_name_ne_blank (kind : NodeKind) (back : List Char) :
    ∀ c ∈ (kind.name.toList ++ back).head?, (c == ' ') = false := by
  cases kind <;> simp [NodeKind.name]

theorem name_inj {kind kind' : NodeKind} (h : kind.name.toList = kind'.name.toList) :
    kind = kind' := by
  revert h
  cases kind <;> cases kind' <;> decide

/-- What a line shows of a text. -/
def shownText (node : Node) : List Char :=
  if node.kind = .text then ' ' :: (Text.quote node.text).toList else []

/-- The part of a line behind its blanks. -/
def shown (node : Node) : List Char :=
  node.kind.name.toList ++ ' ' :: ((toString node.span.start).toList ++
    '.' :: '.' :: ((toString node.span.stop).toList ++ node.shownText))

theorem toList_lineOf (width level : Nat) (node : Node) :
    (lineOf width true level node).toList =
      List.replicate (level * width) ' ' ++ node.shown := by
  have htext : (if node.kind = .text then " " ++ Text.quote node.text else "").toList =
      node.shownText := by
    rw [shownText]
    split <;> simp
  rw [lineOf, String.toList_append, htext, shown]
  simp only [if_true, String.toList_append, String.toList_ofList, List.append_assoc]
  rfl

/-- Blanks in front of a line tell its level. -/
theorem level_eq_of_lineOf (hwidth : 0 < width)
    (h : lineOf width true level a = lineOf width true level' b) :
    level = level' ∧ a.shown = b.shown := by
  have hchars := congrArg String.toList h
  rw [toList_lineOf, toList_lineOf] at hchars
  have hblank {count : Nat} : ∀ c ∈ List.replicate count ' ', (c == ' ') = true := by
    intro c hc
    rw [List.eq_of_mem_replicate hc]
    rfl
  obtain ⟨hfront, hback⟩ := Text.append_inj_of_forall (· == ' ') hblank hblank
    (head_name_ne_blank a.kind _) (head_name_ne_blank b.kind _) hchars
  have hlength := congrArg List.length hfront
  rw [List.length_replicate, List.length_replicate] at hlength
  exact ⟨Nat.eq_of_mul_eq_mul_right hwidth hlength, hback⟩

/-- What is shown of a node tells its kind, its span and its text. -/
theorem shown_inj (ha : a.IsTextOnly) (hb : b.IsTextOnly) (h : a.shown = b.shown) :
    a.kind = b.kind ∧ a.span = b.span ∧ a.text = b.text := by
  obtain ⟨hname, h⟩ := Text.append_inj_of_forall (· != ' ') (name_ne_blank a.kind)
    (name_ne_blank b.kind) (by simp) (by simp) h
  have hkind := name_inj hname
  obtain ⟨hstart, h⟩ := Text.toString_append_inj (by simp) (by simp) (List.cons.inj h).2
  have hbehind (node : Node) : ∀ c ∈ node.shownText.head?, c.isDigit = false := by
    rw [shownText]
    split <;> simp
  obtain ⟨hstop, h⟩ := Text.toString_append_inj (hbehind a) (hbehind b)
    (List.cons.inj (List.cons.inj h).2).2
  refine ⟨hkind, ?_, ?_⟩
  · show (⟨a.span.start, a.span.stop⟩ : Span) = ⟨b.span.start, b.span.stop⟩
    rw [hstart, hstop]
  · by_cases htext : a.kind = .text
    · rw [shownText, if_pos htext, shownText, if_pos (hkind ▸ htext)] at h
      have hquote : (Text.quote a.text).toList ++ [] = (Text.quote b.text).toList ++ [] := by
        rw [(List.cons.inj h).2]
      exact (Text.quote_append_inj hquote).1
    · rw [ha htext, hb (hkind ▸ htext)]

/-! ### Levels -/

/-- The first of the entries is on a level above the bound. -/
def StartsAbove (bound : Nat) (entries : List (Nat × Node)) : Prop :=
  ∀ entry ∈ entries.head?, entry.1 < bound

theorem startsAbove_rankedAll {rest : List (Nat × Node)} (h : StartsAbove level rest)
    (nodes : List Node) : StartsAbove (level + 1) (rankedAll level nodes ++ rest) := by
  intro entry hentry
  cases nodes with
  | nil => exact Nat.lt_succ_of_lt (h entry hentry)
  | cons node nodes =>
    rw [rankedAll, ranked_eq] at hentry
    obtain rfl := Option.some.inj hentry
    exact Nat.lt_succ_self level

/-- A tree is told from its lines, if what follows them starts with a line that is not below it. -/
def Recovered (width : Nat) (a : Node) : Prop :=
  ∀ b level rest rest', b.Everywhere IsTextOnly →
    StartsAbove (level + 1) rest → StartsAbove (level + 1) rest' →
    linesOf width true (a.ranked level ++ rest) = linesOf width true (b.ranked level ++ rest') →
    a = b ∧ linesOf width true rest = linesOf width true rest'

/-- A row of trees is told from its lines, up to a line above them. -/
theorem recoveredAll (hwidth : 0 < width) {as bs : List Node} {rest rest' : List (Nat × Node)}
    (has : ∀ a ∈ as, a.Recovered width) (hbs : ∀ b ∈ bs, b.Everywhere IsTextOnly)
    (hrest : StartsAbove level rest) (hrest' : StartsAbove level rest')
    (h : linesOf width true (rankedAll level as ++ rest) =
      linesOf width true (rankedAll level bs ++ rest')) :
    as = bs ∧ linesOf width true rest = linesOf width true rest' := by
  -- No line of the row is equal to the first line behind the other row, which is on a higher level.
  have hlonger {rest : List (Nat × Node)} {node : Node} {entries : List (Nat × Node)}
      (hrest : StartsAbove level rest)
      (h : linesOf width true rest = linesOf width true ((level, node) :: entries)) : False := by
    cases rest with
    | nil => cases h
    | cons entry rest =>
      have hlevel := (level_eq_of_lineOf hwidth (List.cons.inj h).1).1
      exact absurd (hrest entry rfl) (by omega)
  induction as generalizing bs with
  | nil =>
    cases bs with
    | nil => exact ⟨rfl, h⟩
    | cons b bs =>
      rw [rankedAll, rankedAll, ranked_eq] at h
      exact (hlonger hrest h).elim
  | cons a as ih =>
    cases bs with
    | nil =>
      rw [rankedAll, rankedAll, ranked_eq] at h
      exact (hlonger hrest' h.symm).elim
    | cons b bs =>
      rw [rankedAll, rankedAll, List.append_assoc, List.append_assoc] at h
      obtain ⟨rfl, hlines⟩ := has a List.mem_cons_self b level _ _ (hbs b List.mem_cons_self)
        (startsAbove_rankedAll hrest as) (startsAbove_rankedAll hrest' bs) h
      obtain ⟨rfl, hlast⟩ := ih (fun other hother ↦ has other (.tail _ hother))
        (fun other hother ↦ hbs other (.tail _ hother)) hlines
      exact ⟨rfl, hlast⟩

theorem recovered (hwidth : 0 < width) (a : Node) (ha : a.Everywhere IsTextOnly) :
    a.Recovered width := by
  induction a using forall_of_children with
  | h a ih =>
    intro b level rest rest' hb hrest hrest' h
    obtain ⟨hatext, hachildren⟩ := everywhere_iff.mp ha
    obtain ⟨hbtext, hbchildren⟩ := everywhere_iff.mp hb
    rw [ranked_eq, ranked_eq, List.cons_append, List.cons_append] at h
    obtain ⟨hline, hlines⟩ := List.cons.inj h
    obtain ⟨hkind, hspan, htext⟩ := shown_inj hatext hbtext (level_eq_of_lineOf hwidth hline).2
    obtain ⟨hchildren, hbehind⟩ := recoveredAll hwidth
      (fun child hchild ↦ ih child hchild (hachildren child hchild)) hbchildren hrest hrest' hlines
    exact ⟨eq_of_parts hkind hspan htext hchildren, hbehind⟩

/-- Assumes: two trees in which only literal text carries a text, and levels that are set apart by a
blank at least. An outline that shows the spans is the outline of one tree only. -/
theorem eq_of_outline_eq {text : String} (hwidth : 0 < width) (ha : a.Everywhere IsTextOnly)
    (hb : b.Everywhere IsTextOnly) (houtline : a.outline width true = .ok text)
    (houtline' : b.outline width true = .ok text) : a = b := by
  have htext := (outline_eq_ok houtline).symm.trans (outline_eq_ok houtline')
  have hinside (node : Node) : ∀ line ∈ linesOf width true (node.ranked 0), '\n' ∉ line.toList := by
    intro line hline
    obtain ⟨⟨level, other⟩, -, rfl⟩ := List.mem_map.mp hline
    exact lineFeed_not_mem_lineOf width true level other
  have hlines := Text.ofLines_inj (hinside a) (hinside b) htext
  rw [← List.append_nil (a.ranked 0), ← List.append_nil (b.ranked 0)] at hlines
  exact (recovered hwidth a ha b 0 [] [] hb nofun nofun hlines).1

/-- An empty parameter under a text that looks like another line. -/
def disguised : Node :=
  .branch .expression ⟨0, 12⟩
    [.leaf .text ⟨0, 9⟩ "\"\n Text 9..12", .branch .text ⟨9, 12⟩ [.leaf .parameter ⟨10, 12⟩ ""]]

/-- The same tree, with the empty parameter made without children in place of without a text. -/
def disguised' : Node :=
  .branch .expression ⟨0, 12⟩
    [.leaf .text ⟨0, 9⟩ "\"\n Text 9..12", .branch .text ⟨9, 12⟩ [.branch .parameter ⟨10, 12⟩ []]]

theorem disguised_of_outline :
    0 < 1 ∧ disguised.Everywhere IsTextOnly ∧ disguised'.Everywhere IsTextOnly ∧
      disguised.outline 1 true = .ok (Text.ofLines ["Expression 0..12",
        " Text 0..9 \"\\\"\\n Text 9..12\"", " Text 9..12 \"\"", "  Parameter 10..12"]) ∧
      disguised'.outline 1 true = disguised.outline 1 true ∧ disguised = disguised' := by
  have htext : disguised.Everywhere IsTextOnly := by
    have hlisted : ∀ other ∈ disguised.placed.map Prod.snd,
        other.kind ≠ .text → other.text = "" := by
      decide +kernel
    rwa [map_snd_placed] at hlisted
  have houtline : disguised.outline 1 true = .ok (Text.ofLines ["Expression 0..12",
      " Text 0..9 \"\\\"\\n Text 9..12\"", " Text 9..12 \"\"", "  Parameter 10..12"]) := by
    decide +kernel
  exact ⟨Nat.one_pos, htext, htext, houtline, rfl,
    eq_of_outline_eq Nat.one_pos htext htext houtline houtline⟩

end Node

end CucumberExpression
