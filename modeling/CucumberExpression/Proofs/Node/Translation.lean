import CucumberExpression.Proofs.Node.OnePass

/-!
# Reading elsewhere

The reader copies the bounds of spans and the texts of leaves, and looks at neither. So when the
offsets of all tokens are moved by one function, and their texts are rewritten by another, the
reader does the same as before, with the offsets of its nodes moved and the texts of its leaves
rewritten (`close_foldl_step_map`). Nothing is assumed of the two functions. The case of most use
moves everything by a fixed number of characters (`Token.shift`, `Node.shift`).
-/

set_option autoImplicit false
set_option relaxedAutoImplicit false

namespace CucumberExpression

/-! ### Moved spans and rewritten texts -/

variable (move : Nat → Nat) (rewrite : String → String)

/-- The span between the moved bounds. -/
def Span.map (span : Span) : Span := ⟨move span.start, move span.stop⟩

/-- The token with its span moved and its text rewritten. -/
def Token.map (token : Token) : Token := ⟨token.kind, token.span.map move, rewrite token.text⟩

/-- The error at a moved place. -/
def SyntaxError.map (error : SyntaxError) : SyntaxError := ⟨error.cause, error.span.map move⟩

/-- The failure at a moved place. A fault has no place. -/
def Failure.map : Failure → Failure
  | .rejected error => .rejected (error.map move)
  | .fault cause => .fault cause

namespace Node

mutual

/-- The tree with all spans moved and the texts of its leaves rewritten. -/
def map : Node → Node
  | ⟨kind, span, text, children⟩ =>
    ⟨kind, span.map move, if kind = .text then rewrite text else text, mapAll children⟩

/-- The row of trees with all spans moved and the texts of all leaves rewritten. -/
def mapAll : List Node → List Node
  | [] => []
  | node :: nodes => map node :: mapAll nodes

end

theorem mapAll_eq (nodes : List Node) :
    mapAll move rewrite nodes = nodes.map (map move rewrite) := by
  induction nodes with
  | nil => rfl
  | cons node nodes ih => rw [mapAll, ih, List.map_cons]

theorem map_leaf (token : Token) :
    token.leaf.map move rewrite = (token.map move rewrite).leaf := by
  rw [Token.leaf, leaf, map, if_pos rfl]
  rfl

theorem map_branch (kind : NodeKind) (hkind : kind ≠ .text) (start stop : Nat)
    (children : List Node) :
    map move rewrite (.branch kind ⟨start, stop⟩ children) =
      .branch kind ⟨move start, move stop⟩ (children.map (map move rewrite)) := by
  rw [branch, map, if_neg hkind, mapAll_eq]
  rfl

theorem span_map (node : Node) : (node.map move rewrite).span = node.span.map move := by
  obtain ⟨kind, span, text, children⟩ := node
  rw [map]

end Node

/-! ### Runs -/

namespace Grammar.RunItem

/-- The item with its spans moved and the texts of its leaves rewritten. -/
def map : RunItem → RunItem
  | separator span => separator (span.map move)
  | content node => content (node.map move rewrite)

theorem isSeparator_map (item : RunItem) :
    (item.map move rewrite).isSeparator = item.isSeparator := by
  cases item <;> rfl

theorem start_map (item : RunItem) : (item.map move rewrite).start = move item.start := by
  cases item with
  | separator span => rfl
  | content node => exact congrArg Span.start (node.span_map move rewrite)

/-- A separator moved, with the nodes behind it. -/
def mapPart (part : Span × List Node) : Span × List Node :=
  (part.1.map move, part.2.map (Node.map move rewrite))

theorem groups_map (items : List RunItem) :
    groups (items.map (map move rewrite)) = ((groups items).1.map (Node.map move rewrite),
      (groups items).2.map (mapPart move rewrite)) := by
  induction items with
  | nil => rfl
  | cons item items ih =>
    cases item with
    | separator span =>
      rw [List.map_cons, map, groups, ih, groups]
      rfl
    | content node =>
      rw [List.map_cons, map, groups, ih, groups]
      rfl

theorem partition_map (stop start : Nat) (nodes : List Node) (parts : List (Span × List Node)) :
    partition (move stop) (move start) (nodes.map (Node.map move rewrite))
        (parts.map (mapPart move rewrite)) =
      (partition stop start nodes parts).map (Node.map move rewrite) := by
  induction parts generalizing start nodes with
  | nil =>
    rw [List.map_nil, partition, partition, List.map_singleton, Node.map_branch]
    decide
  | cons part parts ih =>
    obtain ⟨parting, next⟩ := part
    rw [List.map_cons, partition, partition, List.map_cons, Node.map_branch, ← ih]
    · rfl
    · decide

theorem gather_map (stop : Nat) (items : List RunItem) :
    gather (move stop) (items.map (map move rewrite)) =
      (gather stop items).map (Node.map move rewrite) := by
  have hany : (items.map (map move rewrite)).any isSeparator = items.any isSeparator := by
    simp only [List.any_map, Function.comp_def, isSeparator_map]
  cases hitems : items.any isSeparator with
  | false => rw [gather_of_none (hany.trans hitems), gather_of_none hitems, groups_map]
  | true =>
    obtain ⟨start, hstart⟩ := exists_head_start items
    have hmoved : ∀ item ∈ (items.map (map move rewrite)).head?, item.start = move start := by
      intro item hitem
      rw [List.head?_map] at hitem
      obtain ⟨first, hfirst, rfl⟩ := Option.map_eq_some_iff.mp hitem
      rw [start_map, hstart first hfirst]
    rw [gather_of_any (hany.trans hitems) hmoved, gather_of_any hitems hstart, groups_map,
      partition_map, List.map_singleton, Node.map_branch]
    decide

end Grammar.RunItem

/-! ### The reader -/

namespace OnePass

open Grammar

/-- What stands open, moved and rewritten. -/
def Opened.map : Opened → Opened
  | nothing => nothing
  | optional opening inside =>
    optional (opening.map move rewrite) (inside.map (Node.map move rewrite))
  | parameter outer opening inside =>
    parameter
      (outer.map fun around ↦ (around.1.map move rewrite, around.2.map (Node.map move rewrite)))
      (opening.map move rewrite) (inside.map (Node.map move rewrite))

/-- All that has been gathered, moved and rewritten. -/
def State.map (state : State) : State :=
  ⟨state.done.map (Node.map move rewrite), state.run.map (RunItem.map move rewrite),
    state.opened.map move rewrite⟩

theorem accept_map (state : State) (node : Node) :
    (state.map move rewrite).accept (node.map move rewrite) =
      (state.accept node).map move rewrite := by
  obtain ⟨done, run, opened⟩ := state
  cases opened <;>
    simp only [State.map, Opened.map, State.accept, List.map_append, List.map_singleton,
      RunItem.map]

/-- Each step does the same elsewhere. -/
theorem step_map (state : State) (token : Token) :
    step (state.map move rewrite) (token.map move rewrite) =
      (step state token).map move rewrite := by
  have hkind : (token.map move rewrite).kind = token.kind := rfl
  have hleaf : (state.map move rewrite).accept (token.map move rewrite).leaf =
      (state.accept token.leaf).map move rewrite := by
    rw [← Node.map_leaf, accept_map]
  obtain ⟨done, run, opened⟩ := state
  cases opened with
  | nothing =>
    cases h : token.kind with
    | beginParameter | beginOptional =>
      simp only [State.map, Opened.map, step, hkind, h, List.map_nil, Option.map_none]
    | alternation =>
      simp only [State.map, Opened.map, step, hkind, h, List.map_append, List.map_singleton,
        RunItem.map]
      rfl
    | whiteSpace =>
      simp only [State.map, Opened.map, step, hkind, h, List.map_append, List.map_singleton,
        List.map_nil, Node.map_leaf, ← RunItem.gather_map]
      rfl
    | _ =>
      simp only [step, h]
      simp only [State.map, Opened.map, hkind, h]
      exact hleaf
  | optional opening inside =>
    cases h : token.kind with
    | beginParameter =>
      simp only [State.map, Opened.map, step, hkind, h, List.map_nil, Option.map_some]
    | endOptional =>
      simp only [step, h]
      rw [← accept_map, Node.map_branch]
      · simp only [State.map, Opened.map, hkind, h]
        rfl
      · decide
    | _ =>
      simp only [step, h]
      simp only [State.map, Opened.map, hkind, h]
      exact hleaf
  | parameter outer opening inside =>
    by_cases h : token.kind = .endParameter
    · simp only [step, h, if_true]
      rw [← accept_map, Node.map_branch]
      · cases outer <;> simp only [State.map, Opened.map, Opened.around, hkind, h, if_true] <;> rfl
      · decide
    · simp only [step, h, if_false]
      simp only [State.map, Opened.map, hkind, h, if_false]
      exact hleaf

theorem foldl_step_map (tokens : List Token) (state : State) :
    (tokens.map (Token.map move rewrite)).foldl step (state.map move rewrite) =
      (tokens.foldl step state).map move rewrite := by
  induction tokens generalizing state with
  | nil => rfl
  | cons token tokens ih => rw [List.map_cons, List.foldl_cons, step_map, ih, List.foldl_cons]

theorem error?_map (opened : Opened) :
    (opened.map move rewrite).error? = opened.error?.map (SyntaxError.map move) := by
  cases opened <;> rfl

theorem close_map (lineEnd : Nat) (state : State) :
    (state.map move rewrite).close (move lineEnd) =
      ((state.close lineEnd).map (List.map (Node.map move rewrite))).mapError
        (Failure.map move) := by
  obtain ⟨done, run, opened⟩ := state
  cases herror : opened.error? with
  | some error =>
    have hmoved : (opened.map move rewrite).error? = some (error.map move) := by
      rw [error?_map, herror]
      rfl
    simp only [State.map, State.close, hmoved, herror]
    rfl
  | none =>
    have hmoved : (opened.map move rewrite).error? = none := by
      rw [error?_map, herror]
      rfl
    simp only [State.map, State.close, hmoved, herror, RunItem.gather_map]
    simp only [Except.map, Except.mapError, List.map_append]

/-- The reader closes moved and rewritten tokens as it closes the tokens, with its nodes or its
error moved, and its leaves rewritten. -/
theorem close_foldl_step_map (tokens : List Token) (lineEnd : Nat) (state : State) :
    ((tokens.map (Token.map move rewrite)).foldl step (state.map move rewrite)).close
        (move lineEnd) =
      (((tokens.foldl step state).close lineEnd).map
        (List.map (Node.map move rewrite))).mapError (Failure.map move) := by
  rw [foldl_step_map, close_map]

end OnePass

/-! ### Shifts -/

/-- The token so many characters further on. -/
def Token.shift (count : Nat) (token : Token) : Token := token.map (count + ·) id

/-- The tree so many characters further on: the same kinds and texts, and every span moved. -/
def Node.shift (count : Nat) (node : Node) : Node := node.map (count + ·) id

/-- Lexemes that are laid out further on make the same tokens further on. -/
theorem Lexeme.place_add (count offset : Nat) (lexemes : List Lexeme) :
    place (count + offset) lexemes = (place offset lexemes).map (Token.shift count) := by
  induction lexemes generalizing offset with
  | nil => rfl
  | cons lexeme lexemes ih =>
    have htoken : lexeme.tokenAt (count + offset) = (lexeme.tokenAt offset).shift count := by
      simp only [tokenAt, Token.shift, Token.map, Span.map, Nat.add_assoc, id]
    rw [place_cons, place_cons, List.map_cons, htoken, Nat.add_assoc, ih]

/-- The reader closes a shifted line with the same result further on. -/
theorem OnePass.close_foldl_step_shift (count lineEnd : Nat) (tokens : List Token) :
    ((tokens.map (Token.shift count)).foldl step start).close (count + lineEnd) =
      (((tokens.foldl step start).close lineEnd).map (List.map (Node.shift count))).mapError
        (Failure.map (count + ·)) :=
  close_foldl_step_map (count + ·) id tokens lineEnd start

end CucumberExpression
