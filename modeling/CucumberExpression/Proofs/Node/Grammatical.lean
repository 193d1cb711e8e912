import CucumberExpression.Proofs.Node.Shape
import CucumberExpression.Proofs.Token.Coverage

/-!
# Trees fit the grammar

Every tree that is read fits the grammar (`ofSource_grammatical`): its nodes are shaped, with no
more than six levels, and the characters with a meaning of their own are where the grammar wants
them. Literal text below the root or in an alternative has no bare separator and no bare opening
bracket in it. An alternation stands between bare blanks, and no bare blank stands in an
alternative. A bare separator is inside a bracket, or between two alternatives.

Each leaf is made of a token that may be text where the leaf is (`FitsBelow`), and the token over a
bare character has the kind of the character. So what a leaf does not cover is read off the kinds of
tokens that it cannot be made of.
-/

set_option autoImplicit false
set_option relaxedAutoImplicit false

namespace CucumberExpression

namespace Node

/-! ### Specification -/

/-- A node is literal text over blanks of the source that no escape stands before. -/
structure IsBlank (source : String) (node : Node) : Prop where
  kind : node.kind = .text
  nonempty : node.span.start < node.span.stop
  bare : ∀ offset, node.span.covers offset = true →
    ∃ c, .bare offset c ∈ marks 0 source.toList ∧ Text.isBlank c = true

/-- Two neighbours among the alternatives of an alternation meet at a separator at the offset. -/
def IsParted (offset : Nat) (alternation : Node) : Prop :=
  alternation.kind = .alternation ∧ ∃ front previous next back,
    alternation.children = front ++ previous :: next :: back ∧
      previous.span.stop = offset ∧ next.span.start = offset + 1

/-- What the grammar says about the tree of a source. -/
structure Grammatical (source : String) (root : Node) : Prop where
  kind : root.kind = .expression
  inner : ∀ child ∈ root.children, child.Everywhere fun node ↦ node.kind ≠ .expression
  shaped : root.Everywhere Shaped
  levels : root.levels ≤ 6
  /-- No text below the root or in an alternative covers a bare separator or opening bracket. -/
  plain : root.Everywhere fun parent ↦ parent.kind = .expression ∨ parent.kind = .alternative →
    ∀ child ∈ parent.children, child.kind = .text →
      ∀ offset c, .bare offset c ∈ marks 0 source.toList → child.span.covers offset = true →
        c ∉ ['/', '(', '\x7b']
  /-- No alternative holds a blank. -/
  solid : root.Everywhere fun parent ↦ parent.kind = .alternative →
    ∀ child ∈ parent.children, ¬ child.IsBlank source
  /-- An alternation stands between blanks, or at an end. -/
  bordered : ∀ front alternation back, root.children = front ++ alternation :: back →
    alternation.kind = .alternation →
      (∀ previous ∈ front.getLast?, previous.IsBlank source) ∧
        ∀ next ∈ back.head?, next.IsBlank source
  /-- A bare separator is inside a bracket, or parts two alternatives and is no text. -/
  separators : ∀ offset, .bare offset '/' ∈ marks 0 source.toList →
    (∃ bracket ∈ root.descendants, bracket.kind.isBracket = true ∧
      bracket.span.covers offset = true) ∨
    (∃ alternation ∈ root.children, alternation.IsParted offset) ∧
      ∀ leaf ∈ root.descendants, leaf.kind = .text → leaf.span.covers offset = false

/-! ### Levels -/

/-- In a shaped tree no expression is below another node. -/
theorem ne_expression_of_shaped {root child node : Node} (h : root.Everywhere Shaped)
    (hchild : child ∈ root.children) (hnode : node ∈ child.descendants) :
    node.kind ≠ .expression := by
  have hbelow {parent : Node} (hparent : parent ∈ root.descendants)
      (hnode : node ∈ parent.children) : node.kind ≠ .expression := by
    intro hkind
    have hmem := (h parent hparent).below node hnode
    rw [hkind] at hmem
    revert hmem
    cases parent.kind <;> decide
  rcases exists_parent hnode with rfl | ⟨parent, hparent, hnode⟩
  · exact hbelow root.self_mem_descendants hchild
  · exact hbelow (mem_descendants_iff.mpr (.inr ⟨child, hchild, hparent⟩)) hnode

theorem levels_le_rank {node : Node} (h : node.Everywhere Shaped) :
    node.levels ≤ node.kind.rank := by
  refine levels_le_of_rank (fun node ↦ node.kind.rank) fun parent hparent ↦ ⟨?_, ?_⟩
  · cases parent.kind <;> decide
  · intro child hchild
    exact NodeKind.rank_lt_of_mem_below ((h parent hparent).below child hchild)

/-! ### Leaves -/

variable {source : String} {tokens : List Token} {parent child : Node}

theorem Formed.plain (h : Formed tokens parent) (hscan : Token.scan source = .ok tokens)
    (hkind : parent.kind = .expression ∨ parent.kind = .alternative)
    (hchild : child ∈ parent.children) (htext : child.kind = .text) {offset : Nat} {c : Char}
    (hmark : .bare offset c ∈ marks 0 source.toList) (hcovers : child.span.covers offset = true) :
    c ∉ ['/', '(', '\x7b'] := by
  intro hc
  obtain ⟨token, htoken, rfl, hholds⟩ := (h.fits child hchild).leaf htext
  have hspecial : parent.kind.holds (.ofChar c) = false := by
    simp only [List.mem_cons, List.not_mem_nil, or_false] at hc
    rcases hkind with hkind | hkind <;> rcases hc with rfl | rfl | rfl <;> rw [hkind] <;> decide
  rw [Token.kind_of_covers_bare hscan hmark htoken hcovers, hspecial] at hholds
  exact absurd hholds (by decide)

theorem Formed.solid (h : Formed tokens parent) (hscan : Token.scan source = .ok tokens)
    (hkind : parent.kind = .alternative) (hchild : child ∈ parent.children) :
    ¬ child.IsBlank source := by
  intro hblank
  obtain ⟨token, htoken, rfl, hholds⟩ := (h.fits child hchild).leaf hblank.kind
  have hcovers : token.leaf.span.covers token.span.start = true :=
    Span.covers_iff.mpr ⟨Nat.le_refl _, hblank.nonempty⟩
  obtain ⟨c, hmark, hc⟩ := hblank.bare _ hcovers
  rw [Token.kind_of_covers_bare hscan hmark htoken hcovers, ofChar_of_isBlank hc, hkind] at hholds
  exact absurd hholds (by decide)

/-- The leaf of a token of blanks is blank. -/
theorem isBlank_leaf (hscan : Token.scan source = .ok tokens) {token : Token}
    (htoken : token ∈ tokens) (hkind : token.kind = .whiteSpace) : token.leaf.IsBlank source := by
  have hbounds : token.span.start < token.span.stop ∧ token.span.stop ≤ source.length := by
    obtain ⟨lexemes, hcanonical, rfl, hencode⟩ := Token.exists_canonical_of_scan hscan
    have htiles := (Lexeme.tiles_source hencode).bounds token.span (List.mem_map_of_mem htoken)
    exact ⟨hcanonical.start_lt_stop 0 token htoken, htiles.2.2⟩
  refine ⟨rfl, hbounds.1, fun offset hcovers ↦ ?_⟩
  have hoffset := (Span.covers_iff.mp hcovers).2.trans_le hbounds.2
  exact Token.exists_bare_of_covers hscan htoken hkind hoffset hcovers

end Node

namespace Grammar

open Token (InOrder)
open Node

variable {known tokens run : List Token} {items : List RunItem} {nodes : List Node} {stop : Nat}

/-! ### Neighbours of alternations -/

/-- Whether a node is the leaf of a blank. -/
def IsBlankLeaf (known : List Token) (node : Node) : Prop :=
  ∃ blank ∈ known, blank.kind = .whiteSpace ∧ blank.leaf = node

/-- Whether two neighbours are not an alternation and something other than a blank. -/
def Bordering (known : List Token) (a b : Node) : Prop :=
  (a.kind = .alternation → IsBlankLeaf known b) ∧ (b.kind = .alternation → IsBlankLeaf known a)

/-- A run makes one alternation, or none. -/
theorem IsRun.isChain_gather (h : IsRun run items) :
    (RunItem.gather stop items).IsChain (Bordering known) := by
  cases hany : items.any RunItem.isSeparator with
  | true =>
    obtain ⟨start, hgather⟩ := RunItem.exists_gather_of_any hany stop
    rw [hgather]
    exact List.isChain_singleton _
  | false =>
    have hnone : ∀ node ∈ RunItem.gather stop items, node.kind ≠ .alternation := by
      intro node hnode hkind
      rcases RunItem.content_mem_or_alternation hnode with hitem | ⟨hsome, -⟩
      · have hmem := h.kind_mem hitem
        rw [hkind] at hmem
        exact absurd hmem (by decide)
      · exact absurd (hany.symm.trans hsome) (by decide)
    refine (List.pairwise_of_forall_mem_list fun a ha b hb ↦ ?_).isChain
    exact ⟨fun hkind ↦ absurd hkind (hnone a ha), fun hkind ↦ absurd hkind (hnone b hb)⟩

/-- Beside an alternation there are blanks only. -/
theorem IsLine.isChain (h : IsLine stop tokens nodes) (htokens : tokens ⊆ known) :
    nodes.IsChain (Bordering known) := by
  induction h with
  | run hrun => exact hrun.isChain_gather
  | @blank run rest items blank nodes hrun hblank hrest ih =>
    have hleaf : IsBlankLeaf known blank.leaf := ⟨blank, htokens (by simp), hblank, rfl⟩
    have hother : blank.leaf.kind ≠ .alternation := nofun
    refine List.isChain_append.mpr ⟨hrun.isChain_gather, List.isChain_cons.mpr ⟨?_, ?_⟩, ?_⟩
    · exact fun next _ ↦ ⟨fun hkind ↦ absurd hkind hother, fun _ ↦ hleaf⟩
    · exact ih fun token htoken ↦ htokens (by simp [htoken])
    · intro previous _ next hnext
      obtain rfl : blank.leaf = next := Option.some.inj hnext
      exact ⟨fun _ ↦ hleaf, fun hkind ↦ absurd hkind hother⟩

/-! ### Separators -/

/-- A token that is not plain text is in a bracket, if it is part of a node. -/
theorem IsContent.isBracket_of_mem {group : List Token} {node : Node} (h : IsContent group node)
    (horder : InOrder group) {token : Token} (htoken : token ∈ group)
    (hplain : isPlain token.kind = false) :
    node.kind.isBracket = true ∧ node.span.contains token.span = true := by
  cases h with
  | @text other hother =>
    obtain rfl := List.mem_singleton.mp htoken
    exact absurd (hother.symm.trans hplain) (by decide)
  | parameter hparameter =>
    obtain @⟨opening, closing, inside, -, -, -⟩ := hparameter
    exact ⟨rfl, contains_of_mem horder htoken⟩
  | optional => exact ⟨rfl, contains_of_mem horder htoken⟩

/-- A separator among the tokens of a line is inside a bracket, or parts two alternatives. -/
theorem IsLine.exists_separator (h : IsLine stop tokens nodes) (horder : InOrder tokens)
    {token : Token} (htoken : token ∈ tokens) (hkind : token.kind = .alternation) {offset : Nat}
    (hspan : token.span = ⟨offset, offset + 1⟩) :
    (∃ top ∈ nodes, ∃ bracket ∈ top.descendants, bracket.kind.isBracket = true ∧
      bracket.span.covers offset = true) ∨ ∃ alternation ∈ nodes, alternation.IsParted offset := by
  obtain hblank | ⟨run, items, runStop, hmem, hwithin, hrun, hnodes⟩ := h.exists_run htoken
  · exact absurd (hkind.symm.trans hblank) (by decide)
  obtain hseparator | ⟨group, node, hgroupMem, hgroupInfix, hgroup, hnode⟩ := hrun.exists_item hmem
  · obtain ⟨part, hpart, hpartSpan⟩ := RunItem.separator_mem_iff.mp hseparator
    have hany := RunItem.any_isSeparator_iff.mpr (List.ne_nil_of_mem hpart)
    obtain ⟨start, hgather⟩ := RunItem.exists_gather_of_any hany runStop
    obtain ⟨front, previous, next, back, hsplit, hprevious, hnext⟩ :=
      RunItem.exists_neighbours runStop start (RunItem.groups items).1 hpart
    rw [hpartSpan, hspan] at hprevious hnext
    refine .inr ⟨_, hnodes (hgather ▸ List.mem_singleton_self _), rfl, ?_⟩
    exact ⟨front, previous, next, back, hsplit, hprevious, hnext⟩
  · have hplain : isPlain token.kind = false := by rw [hkind]; rfl
    obtain ⟨hbracket, hcontains⟩ :=
      hgroup.isBracket_of_mem ((horder.of_part hwithin).of_part hgroupInfix) hgroupMem hplain
    have hcovers : token.span.covers offset = true := by
      rw [hspan]
      exact Span.covers_iff.mpr ⟨Nat.le_refl offset, Nat.lt_succ_self offset⟩
    obtain ⟨top, htop, hdescendant⟩ := RunItem.exists_mem_gather hnode runStop
    exact .inl ⟨top, hnodes htop, node, hdescendant, hbracket,
      Span.covers_of_contains hcontains hcovers⟩

end Grammar

namespace Node

variable {source : String} {root : Node}

/-- No text that is not inside a bracket covers a bare separator. -/
theorem covers_eq_false {tokens : List Token} (h : root.Everywhere (Formed tokens))
    (hscan : Token.scan source = .ok tokens) (hroot : root.kind = .expression) {offset : Nat}
    (hmark : .bare offset '/' ∈ marks 0 source.toList)
    (houtside : ∀ bracket ∈ root.descendants, bracket.kind.isBracket = true →
      bracket.span.covers offset = false) {leaf : Node} (hleaf : leaf ∈ root.descendants)
    (htext : leaf.kind = .text) : leaf.span.covers offset = false := by
  rw [Bool.eq_false_iff]
  intro hcovers
  rcases exists_parent hleaf with rfl | ⟨parent, hparent, hchild⟩
  · exact absurd (htext.symm.trans hroot) (by decide)
  have hformed := h parent hparent
  have hfits := hformed.fits leaf hchild
  by_cases hbracket : parent.kind.isBracket = true
  · have houter := Span.covers_of_contains (hfits.within hbracket) hcovers
    exact absurd (houter.symm.trans (houtside parent hparent hbracket)) (by decide)
  · have hkind : parent.kind = .expression ∨ parent.kind = .alternative := by
      have hbelow := hfits.kind_mem
      rw [htext] at hbelow
      revert hbracket hbelow
      cases parent.kind <;> decide
    exact hformed.plain hscan hkind hchild htext hmark hcovers List.mem_cons_self

/-- Beside an alternation on a line there is a bare blank, or nothing. -/
theorem isBlank_of_isLine {tokens : List Token} {front back : List Node} {alternation : Node}
    {stop : Nat} (h : Grammar.IsLine stop tokens (front ++ alternation :: back))
    (hscan : Token.scan source = .ok tokens) (hkind : alternation.kind = .alternation) :
    (∀ previous ∈ front.getLast?, previous.IsBlank source) ∧
      ∀ next ∈ back.head?, next.IsBlank source := by
  have hchain := h.isChain (List.Subset.refl tokens)
  rw [List.isChain_append, List.isChain_cons] at hchain
  obtain ⟨-, ⟨hnext, -⟩, hprevious⟩ := hchain
  constructor
  · intro previous hmem
    obtain ⟨blank, hblank, hspace, rfl⟩ := (hprevious previous hmem alternation rfl).2 hkind
    exact isBlank_leaf hscan hblank hspace
  · intro next hmem
    obtain ⟨blank, hblank, hspace, rfl⟩ := (hnext next hmem).1 hkind
    exact isBlank_leaf hscan hblank hspace

/-- A bare separator of a line that no bracket covers parts two alternatives. -/
theorem exists_isParted_of_isLine {tokens : List Token} {nodes : List Node} {stop : Nat}
    (h : Grammar.IsLine stop tokens nodes) (hscan : Token.scan source = .ok tokens)
    (horder : Token.InOrder tokens) {offset : Nat}
    (hmark : .bare offset '/' ∈ marks 0 source.toList)
    (houtside : ∀ top ∈ nodes, ∀ bracket ∈ top.descendants, bracket.kind.isBracket = true →
      bracket.span.covers offset = false) :
    ∃ alternation ∈ nodes, alternation.IsParted offset := by
  have hsymbol : TokenKind.alternation.symbol? = some .alternation := rfl
  obtain ⟨token, htoken, hkind, hspan⟩ := Token.exists_token_of_symbol hscan hsymbol hmark
  rcases h.exists_separator horder htoken hkind hspan with
    ⟨top, htop, bracket, hmem, hbracket, hcovers⟩ | hparted
  · exact absurd (hcovers.symm.trans (houtside top htop bracket hmem hbracket)) (by decide)
  · exact hparted

/-- The tree of a source fits the grammar. -/
theorem ofSource_grammatical (h : ofSource source = .ok root) : root.Grammatical source := by
  obtain ⟨lexemes, nodes, hcanonical, hencode, hnodes, rfl⟩ := ofSource_eq_ok_iff.mp h
  have hscan : Token.scan source = .ok (Lexeme.place 0 lexemes) :=
    Token.scan_eq_ok_iff.mpr ⟨lexemes, hcanonical, rfl, hencode⟩
  have horder := Lexeme.inOrder_place 0 lexemes
  have hformed := hnodes.formed (hcanonical.text_ne_empty 0) (List.Subset.refl _) horder
    ⟨0, source.length⟩
  have hshaped : Everywhere Shaped (.branch .expression ⟨0, source.length⟩ nodes) :=
    fun node hnode ↦ (hformed node hnode).shaped
  refine ⟨rfl, ?_, hshaped, levels_le_rank hshaped, ?_, ?_, ?_, ?_⟩
  · exact fun child hchild node hnode ↦ ne_expression_of_shaped hshaped hchild hnode
  · intro parent hparent hkind child hchild htext offset c hmark hcovers
    exact (hformed parent hparent).plain hscan hkind hchild htext hmark hcovers
  · intro parent hparent hkind child hchild
    exact (hformed parent hparent).solid hscan hkind hchild
  · intro front alternation back hsplit hkind
    obtain rfl : nodes = front ++ alternation :: back := hsplit
    exact isBlank_of_isLine hnodes hscan hkind
  · intro offset hmark
    by_cases hcovered : ∃ bracket ∈ (branch .expression ⟨0, source.length⟩ nodes).descendants,
        bracket.kind.isBracket = true ∧ bracket.span.covers offset = true
    · exact .inl hcovered
    have houtside : ∀ bracket ∈ (branch .expression ⟨0, source.length⟩ nodes).descendants,
        bracket.kind.isBracket = true → bracket.span.covers offset = false :=
      fun bracket hmem hbracket ↦ Bool.eq_false_iff.mpr fun hcovers ↦
        hcovered ⟨bracket, hmem, hbracket, hcovers⟩
    refine .inr ⟨exists_isParted_of_isLine hnodes hscan horder hmark fun top htop bracket hmem ↦ ?_,
      fun leaf hleaf htext ↦ covers_eq_false hformed hscan rfl hmark houtside hleaf htext⟩
    exact houtside bracket (mem_descendants_iff.mpr (.inr ⟨top, htop, hmem⟩))

/-- Six levels, with separators in and between brackets, behind an escape, and at the end. -/
def layered : Node :=
  .branch .expression ⟨0, 17⟩
    [.branch .alternation ⟨0, 10⟩
        [.branch .alternative ⟨0, 7⟩
            [.branch .optional ⟨0, 7⟩
              [.branch .parameter ⟨1, 4⟩ [.leaf .text ⟨2, 3⟩ "a"], .leaf .text ⟨4, 5⟩ "/",
                .leaf .text ⟨5, 6⟩ " "]],
          .branch .alternative ⟨8, 10⟩ [.leaf .text ⟨8, 10⟩ "/"]],
      .leaf .text ⟨10, 11⟩ " ",
      .branch .alternation ⟨11, 17⟩
        [.branch .alternative ⟨11, 16⟩ [.leaf .text ⟨11, 12⟩ ")", .leaf .text ⟨12, 16⟩ "b c"],
          .branch .alternative ⟨17, 17⟩ []]]

theorem grammatical_layered :
    ofSource "(\x7ba\x7d/ )/\\/ )b\\ c/" = .ok layered ∧ layered.levels = 6 ∧
      layered.Grammatical "(\x7ba\x7d/ )/\\/ )b\\ c/" :=
  ⟨by decide +kernel, by decide, ofSource_grammatical (by decide +kernel)⟩

end Node

end CucumberExpression
