import CucumberExpression.Proofs.Node.OnePass

/-!
# Trees spelled out

A tree keeps no token for its brackets and separators, but their places follow from the spans of its
nodes: an opening bracket is the first character of its node, a closing bracket the last, and a
separator stands between two alternatives. `Node.spell` walks a tree in the order in which it is
written down and puts these marks back; what a leaf and a mark are spelled as is a parameter
(`Spelling`).

A tree that is read in one pass spells its tokens one after another (`spell_of_read`): each step of
the reader adds the token that it takes to the end of what its state spells (`spell_step`). This
needs that the spelling does not tell a mark from a leaf with the same text (`Spelling.Fits`),
because a bracket without partner is a leaf.
-/

set_option autoImplicit false
set_option relaxedAutoImplicit false

namespace CucumberExpression

open Grammar

/-- What leaves, and the marks between them, are spelled as. -/
structure Spelling (α : Type) where
  leaf : Span → String → List α
  mark : Symbol → Span → List α

/-- A token of a special character is one character long, and is spelled as a leaf as it is as a
mark. -/
def Spelling.Fits {α : Type} (spelling : Spelling α) (token : Token) : Prop :=
  ∀ symbol, token.kind.symbol? = some symbol →
    spelling.mark symbol token.span = spelling.leaf token.span token.text ∧
      token.span.stop = token.span.start + 1

namespace Spelling.Fits

variable {α : Type} {spelling : Spelling α} {token : Token} {symbol : Symbol}

theorem mark_opening (h : spelling.Fits token) (hsymbol : token.kind.symbol? = some symbol) :
    spelling.mark symbol ⟨token.span.start, token.span.start + 1⟩ =
      spelling.leaf token.span token.text := by
  obtain ⟨hmark, hstop⟩ := h symbol hsymbol
  rw [← hmark, ← hstop]

theorem mark_closing (h : spelling.Fits token) (hsymbol : token.kind.symbol? = some symbol) :
    spelling.mark symbol ⟨token.span.stop - 1, token.span.stop⟩ =
      spelling.leaf token.span token.text := by
  obtain ⟨hmark, hstop⟩ := h symbol hsymbol
  have hstart : token.span.stop - 1 = token.span.start := by omega
  rw [← hmark, hstart]

end Spelling.Fits

namespace Node

variable {α : Type}

/-! ### Spelling -/

mutual

/-- What a tree is spelled as. -/
def spell (spelling : Spelling α) : Node → List α
  | ⟨.text, span, text, _⟩ => spelling.leaf span text
  | ⟨.optional, span, _, children⟩ =>
    spelling.mark .beginOptional ⟨span.start, span.start + 1⟩ ++ spellAll spelling children ++
      spelling.mark .endOptional ⟨span.stop - 1, span.stop⟩
  | ⟨.parameter, span, _, children⟩ =>
    spelling.mark .beginParameter ⟨span.start, span.start + 1⟩ ++ spellAll spelling children ++
      spelling.mark .endParameter ⟨span.stop - 1, span.stop⟩
  | ⟨.alternation, _, _, children⟩ => spellParted spelling children
  | ⟨.expression, _, _, children⟩ => spellAll spelling children
  | ⟨.alternative, _, _, children⟩ => spellAll spelling children

/-- What a row of trees is spelled as. -/
def spellAll (spelling : Spelling α) : List Node → List α
  | [] => []
  | node :: nodes => spell spelling node ++ spellAll spelling nodes

/-- What a row of trees is spelled as that separators part. -/
def spellParted (spelling : Spelling α) : List Node → List α
  | [] => []
  | [node] => spell spelling node
  | node :: next :: nodes =>
    spell spelling node ++ spelling.mark .alternation ⟨node.span.stop, next.span.start⟩ ++
      spellParted spelling (next :: nodes)

end

theorem spell_leaf (spelling : Spelling α) (token : Token) :
    token.leaf.spell spelling = spelling.leaf token.span token.text := by
  rw [Token.leaf, leaf, spell]

theorem spellAll_append (spelling : Spelling α) (front back : List Node) :
    spellAll spelling (front ++ back) = spellAll spelling front ++ spellAll spelling back := by
  induction front with
  | nil => rfl
  | cons node front ih => rw [List.cons_append, spellAll, ih, spellAll, List.append_assoc]

theorem spellAll_singleton (spelling : Spelling α) (node : Node) :
    spellAll spelling [node] = node.spell spelling := by
  rw [spellAll, spellAll, List.append_nil]

theorem spell_optional (spelling : Spelling α) (start stop : Nat) (children : List Node) :
    spell spelling (.branch .optional ⟨start, stop⟩ children) =
      spelling.mark .beginOptional ⟨start, start + 1⟩ ++ spellAll spelling children ++
        spelling.mark .endOptional ⟨stop - 1, stop⟩ := by
  rw [branch, spell]

theorem spell_parameter (spelling : Spelling α) (start stop : Nat) (children : List Node) :
    spell spelling (.branch .parameter ⟨start, stop⟩ children) =
      spelling.mark .beginParameter ⟨start, start + 1⟩ ++ spellAll spelling children ++
        spelling.mark .endParameter ⟨stop - 1, stop⟩ := by
  rw [branch, spell]

end Node

/-! ### Runs -/

namespace Grammar.RunItem

variable {α : Type}

/-- What an item of a run is spelled as. -/
def spell (spelling : Spelling α) : RunItem → List α
  | separator span => spelling.mark .alternation span
  | content node => node.spell spelling

/-- The groups of a run spell its items. -/
theorem spell_groups (spelling : Spelling α) (items : List RunItem) :
    Node.spellAll spelling (groups items).1 ++ (groups items).2.flatMap (fun part ↦
      spelling.mark .alternation part.1 ++ Node.spellAll spelling part.2) =
        items.flatMap (spell spelling) := by
  induction items with
  | nil => rfl
  | cons item items ih =>
    cases item with
    | separator span =>
      rw [groups, List.flatMap_cons, List.flatMap_cons, ← ih, List.append_assoc]
      rfl
    | content node =>
      rw [groups, Node.spellAll, List.flatMap_cons, ← ih, List.append_assoc]
      rfl

/-- Between the alternatives of a partition stand its separators. -/
theorem spellParted_partition (spelling : Spelling α) (stop start : Nat) (nodes : List Node)
    (parts : List (Span × List Node)) :
    Node.spellParted spelling (partition stop start nodes parts) =
      Node.spellAll spelling nodes ++ parts.flatMap fun part ↦
        spelling.mark .alternation part.1 ++ Node.spellAll spelling part.2 := by
  induction parts generalizing start nodes with
  | nil =>
    rw [partition, Node.spellParted, Node.branch, Node.spell, List.flatMap_nil, List.append_nil]
  | cons part parts ih =>
    obtain ⟨parting, next⟩ := part
    obtain ⟨node, rest, hpartition, hstart⟩ := exists_partition_eq_cons stop parting.stop next parts
    have hrest := ih parting.stop next
    rw [hpartition] at hrest
    rw [partition, hpartition, Node.spellParted, hrest, hstart, Node.branch, Node.spell,
      List.flatMap_cons, List.append_assoc, List.append_assoc]

/-- What a run makes spells the items of the run. -/
theorem spellAll_gather (spelling : Spelling α) (stop : Nat) (items : List RunItem) :
    Node.spellAll spelling (gather stop items) = items.flatMap (spell spelling) := by
  rw [← spell_groups]
  cases hany : items.any isSeparator with
  | true =>
    obtain ⟨start, hgather⟩ := exists_gather_of_any hany stop
    rw [hgather, Node.spellAll_singleton, Node.branch, Node.spell,
      spellParted_partition]
  | false =>
    rw [gather_of_none hany, groups_snd_of_none hany, List.flatMap_nil, List.append_nil]

end Grammar.RunItem

namespace OnePass

variable {α : Type}

/-! ### Steps -/

/-- What the bracket that stands open is spelled as, with the nodes in it. -/
def Opened.spell (spelling : Spelling α) : Opened → List α
  | nothing => []
  | optional opening inside =>
    spelling.mark .beginOptional ⟨opening.span.start, opening.span.start + 1⟩ ++
      Node.spellAll spelling inside
  | parameter none opening inside =>
    spelling.mark .beginParameter ⟨opening.span.start, opening.span.start + 1⟩ ++
      Node.spellAll spelling inside
  | parameter (some (outer, front)) opening inside =>
    spelling.mark .beginOptional ⟨outer.span.start, outer.span.start + 1⟩ ++
      Node.spellAll spelling front ++
        (spelling.mark .beginParameter ⟨opening.span.start, opening.span.start + 1⟩ ++
          Node.spellAll spelling inside)

/-- What all that has been gathered is spelled as. -/
def State.spell (spelling : Spelling α) (state : State) : List α :=
  Node.spellAll spelling state.done ++ state.run.flatMap (RunItem.spell spelling) ++
    state.opened.spell spelling

/-- A node more adds what it is spelled as. -/
theorem spell_accept (spelling : Spelling α) (state : State) (node : Node) :
    (state.accept node).spell spelling = state.spell spelling ++ node.spell spelling := by
  obtain ⟨done, run, opened⟩ := state
  cases opened with
  | nothing =>
    simp only [State.accept, State.spell, Opened.spell, List.flatMap_append, List.flatMap_cons,
      List.flatMap_nil, RunItem.spell, List.append_nil, List.append_assoc]
  | optional opening inside =>
    simp only [State.accept, State.spell, Opened.spell, Node.spellAll_append,
      Node.spellAll_singleton, List.append_assoc]
  | parameter outer opening inside =>
    cases outer <;>
      simp only [State.accept, State.spell, Opened.spell, Node.spellAll_append,
        Node.spellAll_singleton, List.append_assoc]

/-- Each step adds what its token is spelled as. -/
theorem spell_step {spelling : Spelling α} {token : Token} (h : spelling.Fits token)
    (state : State) :
    (step state token).spell spelling =
      state.spell spelling ++ spelling.leaf token.span token.text := by
  have hleaf : (state.accept token.leaf).spell spelling =
      state.spell spelling ++ spelling.leaf token.span token.text := by
    rw [spell_accept, Node.spell_leaf]
  obtain ⟨done, run, opened⟩ := state
  cases opened with
  | nothing =>
    cases hkind : token.kind with
    | beginParameter | beginOptional =>
      have hmark := h.mark_opening (congrArg TokenKind.symbol? hkind)
      simp only [step, hkind, State.spell, Opened.spell, hmark, Node.spellAll, List.append_nil]
    | alternation =>
      have hmark := (h _ (congrArg TokenKind.symbol? hkind)).1
      simp only [step, hkind, State.spell, Opened.spell, List.flatMap_append, List.flatMap_cons,
        List.flatMap_nil, RunItem.spell, hmark, List.append_nil, List.append_assoc]
    | whiteSpace =>
      simp only [step, hkind, State.spell, Opened.spell, Node.spellAll_append,
        RunItem.spellAll_gather, Node.spellAll_singleton, Node.spell_leaf, List.flatMap_nil,
        List.append_nil]
    | _ =>
      simp only [step, hkind]
      exact hleaf
  | optional opening inside =>
    cases hkind : token.kind with
    | beginParameter =>
      have hmark := h.mark_opening (congrArg TokenKind.symbol? hkind)
      simp only [step, hkind, State.spell, Opened.spell, hmark, Node.spellAll, List.append_nil,
        List.append_assoc]
    | endOptional =>
      have hmark := h.mark_closing (congrArg TokenKind.symbol? hkind)
      simp only [step, hkind]
      rw [spell_accept, Node.spell_optional, hmark]
      simp only [State.spell, Opened.spell, List.append_nil, List.append_assoc]
    | _ =>
      simp only [step, hkind]
      exact hleaf
  | parameter outer opening inside =>
    by_cases hkind : token.kind = .endParameter
    · have hmark := h.mark_closing (congrArg TokenKind.symbol? hkind)
      simp only [step, hkind, if_true]
      rw [spell_accept, Node.spell_parameter, hmark]
      cases outer <;>
        simp only [State.spell, Opened.around, Opened.spell, List.append_nil, List.append_assoc]
    · simp only [step, hkind, if_false]
      exact hleaf

/-- A run of the reader adds what its tokens are spelled as. -/
theorem spell_foldl_step {spelling : Spelling α} {tokens : List Token}
    (h : ∀ token ∈ tokens, spelling.Fits token) (state : State) :
    (tokens.foldl step state).spell spelling =
      state.spell spelling ++ tokens.flatMap fun token ↦ spelling.leaf token.span token.text := by
  induction tokens generalizing state with
  | nil => rw [List.flatMap_nil, List.append_nil, List.foldl_nil]
  | cons token tokens ih =>
    rw [List.foldl_cons, ih fun other hother ↦ h other (List.mem_cons_of_mem _ hother),
      spell_step (h token List.mem_cons_self), List.append_assoc, List.flatMap_cons]

/-- The nodes of a line spell what the reader has gathered. -/
theorem spellAll_of_close (spelling : Spelling α) {state : State} {lineEnd : Nat}
    {nodes : List Node} (h : state.close lineEnd = .ok nodes) :
    Node.spellAll spelling nodes = state.spell spelling := by
  obtain ⟨done, run, opened⟩ := state
  cases opened with
  | nothing =>
    obtain rfl := Except.ok.inj h
    rw [Node.spellAll_append, RunItem.spellAll_gather]
    exact (List.append_nil _).symm
  | optional | parameter => simp [State.close, Opened.error?] at h

/-- A tree that is read in one pass spells its tokens. -/
theorem spell_of_read {spelling : Spelling α} {tokens : List Token} {node : Node}
    (hfits : ∀ token ∈ tokens, spelling.Fits token) (h : read tokens = .ok node) :
    node.spell spelling = tokens.flatMap fun token ↦ spelling.leaf token.span token.text := by
  cases hclose : (tokens.foldl step start).close (TokenLine.endOffset ⟨tokens⟩) with
  | error failure =>
    simp [read, hclose, Except.map] at h
  | ok nodes =>
    rw [read, hclose] at h
    obtain rfl := Except.ok.inj h
    show (Node.branch .expression ⟨0, _⟩ nodes).spell spelling = _
    rw [Node.branch, Node.spell, spellAll_of_close spelling hclose, spell_foldl_step hfits]
    rfl

end OnePass

end CucumberExpression
