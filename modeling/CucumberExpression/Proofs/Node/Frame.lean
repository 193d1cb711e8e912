import CucumberExpression.Proofs.Node.Nesting
import CucumberExpression.Proofs.Node.Shape
import CucumberExpression.Proofs.Node.Translation

/-!
# Frames of trees

The kinds of the tokens decide which constructs they make. So tokens of the same kinds at other
offsets, with other texts, make the same constructs there (`IsLine.map`, `IsBroken.map`): they have
the same tree at other offsets, or the same error at another place.

What trees of tokens of the same kinds have in common is their frame: the tree with the position of
a token in place of each leaf (`Frame`). A frame is dressed with tokens, which gives each leaf the
span and the text of the token at its position, and moves all other spans. The frame of a tree is
found by reading the tokens with numbers in place of their texts (`Token.numbered`), since the text
of each leaf then names the token that it is made of (`dress_frame`).
-/

set_option autoImplicit false
set_option relaxedAutoImplicit false

namespace CucumberExpression

/-! ### Constructs elsewhere -/

namespace Grammar

variable (move : Nat → Nat) (rewrite : String → String)
variable {group tokens run : List Token} {node : Node} {nodes : List Node} {items : List RunItem}
  {error : SyntaxError} {stop : Nat}

theorem kind_ne_map {kind : TokenKind} (h : ∀ token ∈ tokens, token.kind ≠ kind) :
    ∀ token ∈ tokens.map (Token.map move rewrite), token.kind ≠ kind := by
  intro token htoken
  obtain ⟨other, hother, rfl⟩ := List.mem_map.mp htoken
  exact h other hother

theorem map_leaves (tokens : List Token) :
    (tokens.map Token.leaf).map (Node.map move rewrite) =
      (tokens.map (Token.map move rewrite)).map Token.leaf := by
  rw [List.map_map, List.map_map]
  exact List.map_congr_left fun token _ ↦ Node.map_leaf move rewrite token

theorem IsParameter.map (h : IsParameter group node) :
    IsParameter (group.map (Token.map move rewrite)) (node.map move rewrite) := by
  obtain @⟨opening, closing, inside, hopening, hinside, hclosing⟩ := h
  rw [Node.map_branch move rewrite .parameter (by decide), map_leaves, List.map_cons,
    List.map_append, List.map_singleton]
  exact .intro hopening (kind_ne_map move rewrite hinside) hclosing

theorem IsInside.map (h : IsInside tokens nodes) :
    IsInside (tokens.map (Token.map move rewrite)) (nodes.map (Node.map move rewrite)) := by
  induction h with
  | nil => exact .nil
  | text hopening hclosing hrest ih =>
    rw [List.map_cons, List.map_cons, Node.map_leaf]
    exact .text hopening hclosing ih
  | parameter hgroup hrest ih =>
    rw [List.map_append, List.map_cons]
    exact .parameter (hgroup.map move rewrite) ih

theorem IsContent.map (h : IsContent group node) :
    IsContent (group.map (Token.map move rewrite)) (node.map move rewrite) := by
  cases h with
  | text hplain =>
    rw [List.map_singleton, Node.map_leaf]
    exact .text hplain
  | parameter hgroup => exact .parameter (hgroup.map move rewrite)
  | optional hopening hinside hclosing =>
    rw [Node.map_branch move rewrite .optional (by decide), List.map_cons, List.map_append,
      List.map_singleton]
    exact .optional hopening (hinside.map move rewrite) hclosing

theorem IsRun.map (h : IsRun run items) :
    IsRun (run.map (Token.map move rewrite)) (items.map (RunItem.map move rewrite)) := by
  induction h with
  | nil => exact .nil
  | separator hkind hrest ih => exact .separator hkind ih
  | content hgroup hrest ih =>
    rw [List.map_append, List.map_cons]
    exact .content (hgroup.map move rewrite) ih

theorem IsLine.map (h : IsLine stop tokens nodes) :
    IsLine (move stop) (tokens.map (Token.map move rewrite))
      (nodes.map (Node.map move rewrite)) := by
  induction h with
  | run hrun =>
    rw [← RunItem.gather_map]
    exact .run (hrun.map move rewrite)
  | blank hrun hblank hrest ih =>
    rw [List.map_append, List.map_cons, List.map_append, List.map_cons, ← RunItem.gather_map,
      Node.map_leaf]
    exact .blank (hrun.map move rewrite) hblank ih

theorem IsOpenParameter.map (h : IsOpenParameter tokens error) :
    IsOpenParameter (tokens.map (Token.map move rewrite)) (error.map move) := by
  obtain ⟨hopening, hinside⟩ := h
  exact .intro hopening (kind_ne_map move rewrite hinside)

theorem IsOpen.map (h : IsOpen tokens error) :
    IsOpen (tokens.map (Token.map move rewrite)) (error.map move) := by
  cases h with
  | parameter hopen => exact .parameter (hopen.map move rewrite)
  | optional hopening hinside => exact .optional hopening (hinside.map move rewrite)
  | nested houter hinside hopen =>
    rw [List.map_cons, List.map_append]
    exact .nested houter (hinside.map move rewrite) (hopen.map move rewrite)

theorem IsBroken.map (h : IsBroken tokens error) :
    IsBroken (tokens.map (Token.map move rewrite)) (error.map move) := by
  induction h with
  | run hrun hopen =>
    rw [List.map_append]
    exact .run (hrun.map move rewrite) (hopen.map move rewrite)
  | blank hrun hblank hrest ih =>
    rw [List.map_append, List.map_cons]
    exact .blank (hrun.map move rewrite) hblank ih

end Grammar

namespace Token

/-- A line with tokens on it ends elsewhere, as its last token does. -/
theorem endOffset_map (move : Nat → Nat) (rewrite : String → String) {tokens : List Token}
    (hne : tokens ≠ []) :
    TokenLine.endOffset ⟨tokens.map (map move rewrite)⟩ = move (TokenLine.endOffset ⟨tokens⟩) := by
  simp only [TokenLine.endOffset, List.getLast?_map, List.getLast?_eq_some_getLast hne]
  rfl

variable {count : Nat} {tokens tokens' : List Token}

theorem InOrder.map (h : InOrder tokens) (count : Nat) (rewrite : String → String) :
    InOrder (tokens.map (map (count + ·) rewrite)) := by
  constructor
  · intro token htoken
    obtain ⟨other, hother, rfl⟩ := List.mem_map.mp htoken
    exact Nat.add_le_add_left (h.upright other hother) count
  · rw [List.isChain_map]
    exact h.apart.imp fun a b hab ↦ Nat.add_le_add_left hab count

/-- The other tokens are of the same kinds and so many characters further on, whatever their texts
are. -/
def IsMoved (count : Nat) (tokens tokens' : List Token) : Prop :=
  tokens'.map (fun token ↦ (token.kind, token.span)) =
    tokens.map fun token ↦ (token.kind, token.span.map (count + ·))

theorem IsMoved.refl (tokens : List Token) : IsMoved 0 tokens tokens := by
  refine List.map_congr_left fun token _ ↦ ?_
  rw [Span.map, Nat.zero_add, Nat.zero_add]

end Token

/-! ### Numbers in place of texts -/

namespace Token

/-- The number of a position, in strokes. There is a stroke for the first position. -/
def strokes (position : Nat) : String := String.ofList (List.replicate (position + 1) '|')

/-- The tokens with the number of its position for the text of each. -/
def numbered (tokens : List Token) : List Token :=
  tokens.zipIdx.map fun (token, position) ↦ ⟨token.kind, token.span, strokes position⟩

/-- The text of the token at the position that a number names. -/
def textAt (tokens : List Token) (number : String) : String :=
  (tokens[number.length - 1]?.map text).getD ""

theorem length_strokes (position : Nat) : (strokes position).length - 1 = position := by
  rw [strokes, String.length_ofList, List.length_replicate, Nat.add_sub_cancel]

variable {count : Nat} {tokens tokens' : List Token}

theorem getElem?_numbered (tokens : List Token) (position : Nat) :
    (numbered tokens)[position]? =
      tokens[position]?.map fun token ↦ ⟨token.kind, token.span, strokes position⟩ := by
  simp [numbered, List.getElem?_map, List.getElem?_zipIdx, Function.comp_def]

theorem text_ne_empty_of_mem_numbered {token : Token} (h : token ∈ numbered tokens) :
    token.text ≠ "" := by
  obtain ⟨⟨other, position⟩, -, rfl⟩ := List.mem_map.mp h
  intro hempty
  have hlength := congrArg String.length hempty
  simp [strokes] at hlength

/-- Whether tokens are in order depends on their spans only. -/
theorem InOrder.of_spans (h : InOrder tokens) (hspans : tokens'.map span = tokens.map span) :
    InOrder tokens' := by
  have hupright : ∀ bounds ∈ tokens'.map span, bounds.start ≤ bounds.stop := by
    rw [hspans]
    exact List.forall_mem_map.mpr h.upright
  have hapart : (tokens'.map span).IsChain fun a b ↦ a.stop ≤ b.start := by
    rw [hspans]
    exact (List.isChain_map span).mpr h.apart
  exact ⟨List.forall_mem_map.mp hupright, (List.isChain_map span).mp hapart⟩

theorem inOrder_numbered (h : InOrder tokens) : InOrder (numbered tokens) := by
  refine h.of_spans (List.ext_getElem? fun position ↦ ?_)
  rw [List.getElem?_map, getElem?_numbered, List.getElem?_map, Option.map_map]
  rfl

/-- The numbered tokens elsewhere, with texts put in place of their numbers, are the tokens that are
moved and have these texts. -/
theorem map_numbered (h : IsMoved count tokens tokens') :
    (numbered tokens).map (map (count + ·) (textAt tokens')) = tokens' := by
  refine List.ext_getElem? fun position ↦ ?_
  have hmoved := congrArg (·[position]?) h
  simp only [List.getElem?_map] at hmoved
  rw [List.getElem?_map, getElem?_numbered]
  cases htoken : tokens[position]? with
  | none =>
    rw [htoken] at hmoved
    exact (Option.map_eq_none_iff.mp hmoved).symm
  | some token =>
    rw [htoken] at hmoved
    obtain ⟨⟨kind, span, text⟩, htoken', hpair⟩ := Option.map_eq_some_iff.mp hmoved
    obtain ⟨rfl, rfl⟩ := Prod.mk.inj hpair
    have htext : textAt tokens' (strokes position) = text := by
      rw [textAt, length_strokes, htoken']
      rfl
    rw [htoken', Option.map_some, Option.map_some, map, htext]

end Token

/-! ### Frames -/

/-- A tree with the positions of tokens in place of its leaves. -/
inductive Frame where
  | leaf (position : Nat)
  | branch (kind : NodeKind) (span : Span) (inside : List Frame)

namespace Frame

mutual

/-- The tree of the frame so many characters further on, with a leaf of the token at each of its
positions. -/
def dress (count : Nat) (tokens : List Token) : Frame → Node
  | leaf position => (tokens[position]?.map Token.leaf).getD default
  | branch kind span inside => .branch kind (span.map (count + ·)) (dressAll count tokens inside)

/-- The trees of a row of frames. -/
def dressAll (count : Nat) (tokens : List Token) : List Frame → List Node
  | [] => []
  | frame :: frames => dress count tokens frame :: dressAll count tokens frames

end

theorem dressAll_eq (count : Nat) (tokens : List Token) (frames : List Frame) :
    dressAll count tokens frames = frames.map (dress count tokens) := by
  induction frames with
  | nil => rfl
  | cons frame frames ih => rw [dressAll, ih, List.map_cons]

end Frame

namespace Node

open Token (numbered textAt)

mutual

/-- The frame of a tree whose leaves have numbers for texts. -/
def frame : Node → Frame
  | ⟨kind, span, text, children⟩ =>
    if kind = .text then .leaf (text.length - 1) else .branch kind span (frames children)

/-- The frames of a row of trees. -/
def frames : List Node → List Frame
  | [] => []
  | node :: nodes => frame node :: frames nodes

end

theorem frames_eq (nodes : List Node) : frames nodes = nodes.map frame := by
  induction nodes with
  | nil => rfl
  | cons node nodes ih => rw [frames, ih, List.map_cons]

variable {count : Nat} {tokens tokens' : List Token}

/-- The leaf of a numbered token gets the span and the text of the token that is at its position
elsewhere. -/
theorem dress_frame_leaf (h : Token.IsMoved count tokens tokens') {token : Token}
    (htoken : token ∈ numbered tokens) :
    token.leaf.frame.dress count tokens' = token.leaf.map (count + ·) (textAt tokens') := by
  obtain ⟨position, hposition⟩ := List.mem_iff_getElem?.mp htoken
  have hmoved : tokens'[position]? = some (token.map (count + ·) (textAt tokens')) := by
    conv_lhs => rw [← Token.map_numbered h]
    rw [List.getElem?_map, hposition, Option.map_some]
  have hnumber : token.text.length - 1 = position := by
    rw [Token.getElem?_numbered] at hposition
    obtain ⟨other, -, rfl⟩ := Option.map_eq_some_iff.mp hposition
    exact Token.length_strokes position
  rw [map_leaf, Token.leaf, leaf, frame, if_pos rfl, Frame.dress, hnumber, hmoved]
  rfl

/-- Assumes: a tree whose leaves are made of numbered tokens. Its frame, dressed with the tokens
that are at the same positions elsewhere, is the tree elsewhere with their texts. -/
theorem dress_frame (h : Token.IsMoved count tokens tokens') (node : Node)
    (hformed : node.Everywhere (Formed (numbered tokens)))
    (hleaf : node.kind = .text → ∃ token ∈ numbered tokens, token.leaf = node) :
    node.frame.dress count tokens' = node.map (count + ·) (textAt tokens') := by
  induction node using forall_of_children with
  | h node ih =>
    by_cases hkind : node.kind = .text
    · obtain ⟨token, htoken, rfl⟩ := hleaf hkind
      exact dress_frame_leaf h htoken
    · obtain ⟨hnode, hchildren⟩ := everywhere_iff.mp hformed
      obtain ⟨kind, span, text, children⟩ := node
      have hrow : (children.map frame).map (Frame.dress count tokens') =
          children.map (Node.map (count + ·) (textAt tokens')) := by
        rw [List.map_map]
        refine List.map_congr_left fun child hchild ↦ ih child hchild (hchildren child hchild) ?_
        intro htext
        obtain ⟨token, htoken, hleaf, -⟩ := (hnode.fits child hchild).leaf htext
        exact ⟨token, htoken, hleaf⟩
      have htext : text = "" := by
        by_contra hne
        exact hkind (hnode.text.mp hne)
      rw [frame, if_neg hkind, Frame.dress, Frame.dressAll_eq, frames_eq, hrow, map, if_neg hkind,
        mapAll_eq, htext]
      rfl

/-! ### Trees and errors elsewhere -/

section Elsewhere

open Grammar
open Token (InOrder IsMoved)

variable {nodes : List Node} {error : SyntaxError} (count : Nat) (rewrite : String → String)

/-- The tokens of a line have the same tree so many characters further on. -/
theorem ofTokens_map_of_isLine (hne : tokens ≠ []) (horder : InOrder tokens)
    (h : IsLine (TokenLine.endOffset ⟨tokens⟩) tokens nodes) :
    ofTokens (tokens.map (Token.map (count + ·) rewrite)) =
      .ok (.branch .expression ⟨0, count + TokenLine.endOffset ⟨tokens⟩⟩
        (nodes.map (Node.map (count + ·) rewrite))) := by
  have hend := Token.endOffset_map (count + ·) rewrite hne
  have hline := h.map (count + ·) rewrite
  rw [← hend] at hline
  rw [ofTokens_of_isLine (horder.map count rewrite) hline, hend]

/-- Tokens that are refused are refused for the same cause so many characters further on. -/
theorem ofTokens_map_of_error (hne : tokens ≠ []) (horder : InOrder tokens)
    (h : ofTokens tokens = .error (.rejected error)) :
    ofTokens (tokens.map (Token.map (count + ·) rewrite)) =
      .error (.rejected (error.map (count + ·))) := by
  have horder' := horder.map count rewrite
  rcases exists_isLine (TokenLine.endOffset ⟨tokens⟩) tokens with
    ⟨line, nodes, rest, rfl, hline, hrest⟩ | ⟨other, hbroken⟩
  · cases rest with
    | nil =>
      rw [List.append_nil] at h horder hline
      rw [ofTokens_of_isLine horder hline] at h
      cases h
    | cons ending rest =>
      have hending : ending.kind = .endOfLine := hrest ending rfl
      have hend := Token.endOffset_map (count + ·) rewrite hne
      rw [ofTokens_of_endOfLine horder hending hline] at h
      rw [← Failure.rejected.inj (Except.error.inj h)]
      rw [List.map_append, List.map_cons] at horder' hend ⊢
      have hending' : (ending.map (count + ·) rewrite).kind = .endOfLine := hending
      rw [ofTokens_of_endOfLine horder' hending' (hline.map (count + ·) rewrite), hend]
      simp only [← List.map_cons, ← List.map_append, List.length_map, List.getElem?_map]
      cases (line ++ ending :: rest)[line.length + 1]? <;> rfl
  · rw [ofTokens_of_isBroken horder hbroken] at h
    rw [← Failure.rejected.inj (Except.error.inj h)]
    exact ofTokens_of_isBroken horder' (hbroken.map (count + ·) rewrite)

/-- Assumes: tokens in order, of whatever kinds, and at least one. Only their kinds and where they
are matter. Either there is a frame of which all tokens of the same kinds have the tree, so many
characters further on, with their own texts in its leaves; only the root starts where it did. Or all
of them are refused, with one kind of error, message and hints, at places as far apart. -/
theorem ofTokens_of_isMoved (hne : tokens ≠ []) (horder : InOrder tokens) :
    (∃ frames : List Frame,
      ofTokens tokens = .ok (.branch .expression ⟨0, TokenLine.endOffset ⟨tokens⟩⟩
        (frames.map (Frame.dress 0 tokens))) ∧
      ∀ count tokens', IsMoved count tokens tokens' →
        ofTokens tokens' = .ok (.branch .expression ⟨0, count + TokenLine.endOffset ⟨tokens⟩⟩
          (frames.map (Frame.dress count tokens')))) ∨
    ∃ error, ofTokens tokens = .error (.rejected error) ∧
      ∀ count tokens', IsMoved count tokens tokens' →
        ∃ error', ofTokens tokens' = .error (.rejected error') ∧ error'.kind = error.kind ∧
          error'.message = error.message ∧ error'.hints = error.hints ∧
          error'.span = error.span.map (count + ·) := by
  have hnumbered : InOrder (numbered tokens) := Token.inOrder_numbered horder
  have hne' : numbered tokens ≠ [] := by simpa [numbered] using hne
  have hend : TokenLine.endOffset ⟨tokens⟩ = TokenLine.endOffset ⟨numbered tokens⟩ := by
    have hzero := Token.endOffset_map (0 + ·) (textAt tokens) hne'
    rwa [Token.map_numbered (.refl tokens), Nat.zero_add] at hzero
  cases hread : ofTokens (numbered tokens) with
  | ok root =>
    obtain ⟨nodes, hline, -⟩ := exists_isLine_of_ofTokens hnumbered hread
    have hformed := hline.formed (fun _ ↦ Token.text_ne_empty_of_mem_numbered)
      (List.Subset.refl _) hnumbered default
    obtain ⟨hroot, hchildren⟩ := everywhere_iff.mp hformed
    have hdressed {count : Nat} {tokens' : List Token} (h : IsMoved count tokens tokens') :
        ofTokens tokens' = .ok (.branch .expression ⟨0, count + TokenLine.endOffset ⟨tokens⟩⟩
          ((nodes.map frame).map (Frame.dress count tokens'))) := by
      have hmap := ofTokens_map_of_isLine count (textAt tokens') hne' hnumbered hline
      rw [Token.map_numbered h, ← hend] at hmap
      rw [hmap, List.map_map]
      congr 2
      refine List.map_congr_left fun node hnode ↦ Eq.symm ?_
      refine dress_frame h node (hchildren node hnode) fun htext ↦ ?_
      obtain ⟨token, htoken, hleaf, -⟩ := (hroot.fits node hnode).leaf htext
      exact ⟨token, htoken, hleaf⟩
    have hhere := hdressed (.refl tokens)
    rw [Nat.zero_add] at hhere
    exact .inl ⟨nodes.map frame, hhere, fun count tokens' ↦ hdressed⟩
  | error failure =>
    cases failure with
    | rejected error =>
      have hmoved {count : Nat} {tokens' : List Token} (h : IsMoved count tokens tokens') :
          ofTokens tokens' = .error (.rejected (error.map (count + ·))) := by
        have hmap := ofTokens_map_of_error count (textAt tokens') hne' hnumbered hread
        rwa [Token.map_numbered h] at hmap
      have hhere := hmoved (.refl tokens)
      rw [SyntaxError.map, Span.map, Nat.zero_add, Nat.zero_add] at hhere
      exact .inr ⟨error, hhere, fun count tokens' h ↦ ⟨_, hmoved h, rfl, rfl, rfl, rfl⟩⟩
    | fault fault => exact absurd hread ((ofTokens_nested hnumbered).1 fault)

/-- A parameter, and an alternation with a start of the line for one of its leaves. -/
def framed : List Token :=
  [⟨.beginParameter, ⟨2, 3⟩, "\x7b"⟩, ⟨.alternation, ⟨3, 3⟩, "/"⟩, ⟨.endParameter, ⟨4, 5⟩, "\x7d"⟩,
    ⟨.whiteSpace, ⟨6, 8⟩, " "⟩, ⟨.startOfLine, ⟨8, 9⟩, "^"⟩, ⟨.alternation, ⟨11, 12⟩, "/"⟩]

/-- The same kinds three characters further on, with other texts. -/
def reframed : List Token :=
  [⟨.beginParameter, ⟨5, 6⟩, ""⟩, ⟨.alternation, ⟨6, 6⟩, "a"⟩, ⟨.endParameter, ⟨7, 8⟩, ""⟩,
    ⟨.whiteSpace, ⟨9, 11⟩, "b"⟩, ⟨.startOfLine, ⟨11, 12⟩, "c"⟩, ⟨.alternation, ⟨14, 15⟩, ""⟩]

theorem ofTokens_reframed :
    framed ≠ [] ∧ InOrder framed ∧ IsMoved 3 framed reframed ∧
      ∃ frames : List Frame,
        ofTokens framed = .ok (.branch .expression ⟨0, 12⟩ (frames.map (Frame.dress 0 framed))) ∧
        ofTokens reframed =
          .ok (.branch .expression ⟨0, 15⟩ (frames.map (Frame.dress 3 reframed))) ∧
        ofTokens reframed = .ok (.branch .expression ⟨0, 15⟩
          [.branch .parameter ⟨5, 8⟩ [.leaf .text ⟨6, 6⟩ "a"], .leaf .text ⟨9, 11⟩ "b",
            .branch .alternation ⟨11, 15⟩
              [.branch .alternative ⟨11, 14⟩ [.leaf .text ⟨11, 12⟩ "c"],
                .branch .alternative ⟨15, 15⟩ []]]) := by
  have hne : framed ≠ [] := List.cons_ne_nil _ _
  have horder : InOrder framed := by decide
  have hmoved : IsMoved 3 framed reframed := rfl
  refine ⟨hne, horder, hmoved, ?_⟩
  rcases ofTokens_of_isMoved hne horder with ⟨frames, hhere, hthere⟩ | ⟨error, herror, -⟩
  · exact ⟨frames, hhere, hthere 3 reframed hmoved, rfl⟩
  · cases herror

end Elsewhere

end Node

end CucumberExpression
