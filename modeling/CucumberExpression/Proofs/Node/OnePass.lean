import CucumberExpression.Proofs.Grammar.Derivation

/-!
# Reading in one pass

A reader that looks at every token once, from left to right, and never goes back. It keeps what is
done, the run of items since the last blank, and the bracket that stands open (`OnePass.State`);
`OnePass.step` is what one token changes. A brace swallows everything up to its partner, an optional
part everything up to its partner outside the parameters in it. A blank ends a run, which is then
one alternation if it has a separator, and else its items as they are (`RunItem.gather`). At the end
of the line a bracket that is still open is an error, the inner one before the one around it.

The reader follows the constructs of the grammar: over the tokens of a construct it gathers the node
that they make (`foldl_step_of_isRun`), and over a bracket without partner it comes to the error
that blames it (`error?_foldl_step_of_isOpen`).
-/

set_option autoImplicit false
set_option relaxedAutoImplicit false

namespace CucumberExpression

open Grammar

/-! ### Runs -/

namespace Grammar.RunItem

/-- The offset at which an item starts. -/
def start : RunItem → Nat
  | separator span => span.start
  | content node => node.span.start

/-- The nodes up to the first separator of a run, and each separator with the nodes that follow it
up to the next one. -/
def groups : List RunItem → List Node × List (Span × List Node)
  | [] => ([], [])
  | separator span :: items => ([], (span, (groups items).1) :: (groups items).2)
  | content node :: items => (node :: (groups items).1, (groups items).2)

/-- The alternatives that separators part between two offsets. -/
def partition (stop : Nat) : Nat → List Node → List (Span × List Node) → List Node
  | start, nodes, [] => [.branch .alternative ⟨start, stop⟩ nodes]
  | start, nodes, (parting, next) :: others =>
    .branch .alternative ⟨start, parting.start⟩ nodes :: partition stop parting.stop next others

/-- What a run makes that ends at `stop`: one alternation if it has a separator, else its nodes. -/
def gather (stop : Nat) : List RunItem → List Node
  | [] => []
  | item :: items =>
    if (item :: items).any isSeparator then
      let parts := groups (item :: items)
      [.branch .alternation ⟨item.start, stop⟩ (partition stop item.start parts.1 parts.2)]
    else (groups (item :: items)).1

theorem groups_append (nodes : List Node) (items : List RunItem) :
    groups (nodes.map content ++ items) = (nodes ++ (groups items).1, (groups items).2) := by
  induction nodes with
  | nil => rfl
  | cons node nodes ih => rw [List.map_cons, List.cons_append, groups, ih, List.cons_append]

theorem groups_snd_of_none {items : List RunItem} (h : items.any isSeparator = false) :
    (groups items).2 = [] := by
  induction items with
  | nil => rfl
  | cons item items ih =>
    cases item with
    | separator span => simp [isSeparator] at h
    | content node => exact ih (by simpa [isSeparator] using h)

/-- A run without separators is gathered as its nodes. -/
theorem gather_of_none {items : List RunItem} (h : items.any isSeparator = false) (stop : Nat) :
    gather stop items = (groups items).1 := by
  cases items with
  | nil => rfl
  | cons item items => exact if_neg (by simp [h])

theorem gather_nodes (stop : Nat) (nodes : List Node) :
    gather stop (nodes.map content) = nodes := by
  have hgroups := groups_append nodes []
  rw [groups, List.append_nil, List.append_nil] at hgroups
  rw [gather_of_none (by simp [isSeparator]), hgroups]

/-- A run with a separator is gathered as one alternation, which starts where the run does. -/
theorem gather_of_any {items : List RunItem} (h : items.any isSeparator = true) {start : Nat}
    (hstart : ∀ item ∈ items.head?, item.start = start) (stop : Nat) :
    gather stop items = [.branch .alternation ⟨start, stop⟩
      (partition stop start (groups items).1 (groups items).2)] := by
  cases items with
  | nil => exact absurd h (by decide)
  | cons item items =>
    obtain rfl := hstart item rfl
    exact if_pos h

theorem exists_head_start (items : List RunItem) :
    ∃ start, ∀ item ∈ items.head?, item.start = start := by
  cases items with
  | nil => exact ⟨0, by simp⟩
  | cons item items => exact ⟨item.start, by simp⟩

theorem exists_gather_of_any {items : List RunItem} (h : items.any isSeparator = true)
    (stop : Nat) : ∃ start, gather stop items = [.branch .alternation ⟨start, stop⟩
      (partition stop start (groups items).1 (groups items).2)] := by
  obtain ⟨start, hstart⟩ := exists_head_start items
  exact ⟨start, gather_of_any h hstart stop⟩

/-- The first alternative begins where the run does. -/
theorem exists_partition_eq_cons (stop start : Nat) (nodes : List Node)
    (parts : List (Span × List Node)) :
    ∃ first others, partition stop start nodes parts = first :: others ∧
      first.span.start = start := by
  cases parts with
  | nil => exact ⟨_, [], rfl, rfl⟩
  | cons part parts => exact ⟨_, _, rfl, rfl⟩

end Grammar.RunItem

namespace OnePass

/-! ### The reader -/

/-- The bracket that stands open, with its first token and the nodes in it so far. A parameter may
stand in an optional part, of which the same is known. -/
inductive Opened where
  | nothing
  | optional (opening : Token) (inside : List Node)
  | parameter (outer : Option (Token × List Node)) (opening : Token) (inside : List Node)

/-- What one pass over the tokens has gathered. -/
structure State where
  done : List Node
  run : List RunItem
  opened : Opened

/-- The state before the first token. -/
def start : State := ⟨[], [], .nothing⟩

/-- What stands open around a parameter. -/
def Opened.around : Option (Token × List Node) → Opened
  | none => nothing
  | some (opening, inside) => optional opening inside

/-- The state with one more node in what stands open. -/
def State.accept (state : State) (node : Node) : State :=
  match state.opened with
  | .nothing => { state with run := state.run ++ [.content node] }
  | .optional opening inside => { state with opened := .optional opening (inside ++ [node]) }
  | .parameter outer opening inside =>
    { state with opened := .parameter outer opening (inside ++ [node]) }

/-- What a token changes. -/
def step (state : State) (token : Token) : State :=
  match state.opened with
  | .nothing =>
    match token.kind with
    | .beginParameter => { state with opened := .parameter none token [] }
    | .beginOptional => { state with opened := .optional token [] }
    | .alternation => { state with run := state.run ++ [.separator token.span] }
    | .whiteSpace =>
      ⟨state.done ++ RunItem.gather token.span.start state.run ++ [token.leaf], [], .nothing⟩
    | _ => state.accept token.leaf
  | .optional opening inside =>
    match token.kind with
    | .beginParameter => { state with opened := .parameter (some (opening, inside)) token [] }
    | .endOptional =>
      State.accept { state with opened := .nothing }
        (.branch .optional ⟨opening.span.start, token.span.stop⟩ inside)
    | _ => state.accept token.leaf
  | .parameter outer opening inside =>
    if token.kind = .endParameter then
      State.accept { state with opened := .around outer }
        (.branch .parameter ⟨opening.span.start, token.span.stop⟩ inside)
    else state.accept token.leaf

/-- The error of a line that ends while a bracket stands open. -/
def Opened.error? : Opened → Option SyntaxError
  | nothing => none
  | optional opening _ => some (unclosedOptional opening)
  | parameter _ opening _ => some (unclosedParameter opening)

/-- The nodes of a line that ends at an offset. -/
def State.close (lineEnd : Nat) (state : State) : Except Failure (List Node) :=
  match state.opened.error? with
  | some error => .error (.rejected error)
  | none => .ok (state.done ++ RunItem.gather lineEnd state.run)

/-- The tree of an expression, read in one pass over its tokens. -/
def read (tokens : List Token) : Except Failure Node :=
  let lineEnd := TokenLine.endOffset ⟨tokens⟩
  ((tokens.foldl step start).close lineEnd).map fun children ↦
    .branch .expression ⟨0, lineEnd⟩ children

/-! ### Constructs in one pass -/

variable {done : List Node} {run : List RunItem}

theorem foldl_step_inside_parameter {inside : List Token}
    (hinside : ∀ token ∈ inside, token.kind ≠ .endParameter)
    (outer : Option (Token × List Node)) (opening : Token) (front : List Node) :
    inside.foldl step ⟨done, run, .parameter outer opening front⟩ =
      ⟨done, run, .parameter outer opening (front ++ inside.map Token.leaf)⟩ := by
  induction inside generalizing front with
  | nil => simp
  | cons token inside ih =>
    have hstep : step ⟨done, run, .parameter outer opening front⟩ token =
        ⟨done, run, .parameter outer opening (front ++ [token.leaf])⟩ :=
      if_neg (hinside token List.mem_cons_self)
    rw [List.foldl_cons, hstep, ih fun other hother ↦ hinside other (List.mem_cons_of_mem _ hother),
      List.append_assoc, List.singleton_append, List.map_cons]

/-- Over a parameter, its node is accepted by what stands open around it. -/
theorem foldl_step_of_isParameter {group : List Token} {node : Node} (h : IsParameter group node)
    (outer : Option (Token × List Node)) :
    group.foldl step ⟨done, run, .around outer⟩ = State.accept ⟨done, run, .around outer⟩ node := by
  obtain @⟨opening, closing, inside, hopening, hinside, hclosing⟩ := h
  have hopen : step ⟨done, run, .around outer⟩ opening =
      ⟨done, run, .parameter outer opening []⟩ := by
    cases outer <;> simp only [Opened.around, step, hopening]
  rw [List.foldl_cons, hopen, List.foldl_append, foldl_step_inside_parameter hinside,
    List.nil_append]
  exact if_pos hclosing

theorem foldl_step_of_isInside {inside : List Token} {nodes : List Node} (h : IsInside inside nodes)
    (outer : Token) (front : List Node) :
    inside.foldl step ⟨done, run, .optional outer front⟩ =
      ⟨done, run, .optional outer (front ++ nodes)⟩ := by
  induction h generalizing front with
  | nil => simp
  | @text token tokens nodes hopening hclosing hrest ih =>
    have hstep : step ⟨done, run, .optional outer front⟩ token =
        ⟨done, run, .optional outer (front ++ [token.leaf])⟩ := by
      revert hopening hclosing
      cases hkind : token.kind <;> simp [step, hkind, State.accept]
    rw [List.foldl_cons, hstep, ih, List.append_assoc, List.singleton_append]
  | @parameter group tokens node nodes hgroup hrest ih =>
    have hparameter : group.foldl step ⟨done, run, .optional outer front⟩ =
        ⟨done, run, .optional outer (front ++ [node])⟩ :=
      foldl_step_of_isParameter hgroup (some (outer, front))
    rw [List.foldl_append, hparameter, ih, List.append_assoc, List.singleton_append]

theorem foldl_step_of_isContent {group : List Token} {node : Node} (h : IsContent group node) :
    group.foldl step ⟨done, run, .nothing⟩ = ⟨done, run ++ [.content node], .nothing⟩ := by
  cases h with
  | @text token hplain =>
    revert hplain
    cases hkind : token.kind <;> simp [step, hkind, isPlain, State.accept]
  | parameter hgroup => exact foldl_step_of_isParameter hgroup none
  | @optional opening closing inside nodes hopening hinside hclosing =>
    have hopen : step ⟨done, run, .nothing⟩ opening = ⟨done, run, .optional opening []⟩ := by
      simp only [step, hopening]
    rw [List.foldl_cons, hopen, List.foldl_append, foldl_step_of_isInside hinside, List.nil_append]
    simp only [List.foldl_cons, List.foldl_nil, step, hclosing, State.accept]

/-- Over a run, the items of the run are gathered. -/
theorem foldl_step_of_isRun {tokens : List Token} {items : List RunItem} (h : IsRun tokens items) :
    tokens.foldl step ⟨done, run, .nothing⟩ = ⟨done, run ++ items, .nothing⟩ := by
  induction h generalizing run with
  | nil => simp
  | @separator token tokens items hkind hrest ih =>
    have hstep : step ⟨done, run, .nothing⟩ token =
        ⟨done, run ++ [.separator token.span], .nothing⟩ := by
      simp only [step, hkind]
    rw [List.foldl_cons, hstep, ih, List.append_assoc, List.singleton_append]
  | content hgroup hrest ih =>
    rw [List.foldl_append, foldl_step_of_isContent hgroup, ih, List.append_assoc,
      List.singleton_append]

/-- Over a bracket that stays open, the pass ends with that bracket open. -/
theorem error?_foldl_step_of_isOpen {tokens : List Token} {error : SyntaxError}
    (h : IsOpen tokens error) :
    (tokens.foldl step ⟨done, run, .nothing⟩).opened.error? = some error := by
  cases h with
  | parameter hopen =>
    obtain @⟨opening, inside, hopening, hinside⟩ := hopen
    have hstep : step ⟨done, run, .nothing⟩ opening = ⟨done, run, .parameter none opening []⟩ := by
      simp only [step, hopening]
    rw [List.foldl_cons, hstep, foldl_step_inside_parameter hinside]
    rfl
  | @optional opening inside nodes hopening hinside =>
    have hstep : step ⟨done, run, .nothing⟩ opening = ⟨done, run, .optional opening []⟩ := by
      simp only [step, hopening]
    rw [List.foldl_cons, hstep, foldl_step_of_isInside hinside]
    rfl
  | @nested outer front tokens nodes error houter hfront hopen =>
    obtain @⟨opening, inside, hopening, hinside⟩ := hopen
    have hstep : step ⟨done, run, .nothing⟩ outer = ⟨done, run, .optional outer []⟩ := by
      simp only [step, houter]
    have hstep' : step ⟨done, run, .optional outer ([] ++ nodes)⟩ opening =
        ⟨done, run, .parameter (some (outer, [] ++ nodes)) opening []⟩ := by
      simp only [step, hopening]
    rw [List.foldl_cons, hstep, List.foldl_append, foldl_step_of_isInside hfront, List.foldl_cons,
      hstep', foldl_step_inside_parameter hinside]
    rfl

end OnePass

end CucumberExpression
