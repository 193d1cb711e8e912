import CucumberExpression.Proofs.Grammar.Reading
import CucumberExpression.Proofs.Node.OnePass

/-!
# Runs and the attempt at an alternation

An alternation is tried wherever a word may begin: the attempt reads the run up to the next blank
and gives up when the run has no separator, and then the same tokens are read again, node by node,
with further attempts in between. This module shows that the attempts change nothing. What is read
of a run, in whatever way, is what `RunItem.gather` makes of its items (`readUntil_expression_run`).

An attempt in the middle of a run that has no separator gives up as well, whatever stands before it,
because what it reads is the rest of that run (`alternation_of_no_separator`).
-/

set_option autoImplicit false
set_option relaxedAutoImplicit false

namespace CucumberExpression

namespace Grammar

variable {α β : Type} {before : TokenKind}

/-! ### Items of a run -/

/-- What a run is made of, in the order in which the rules are tried. -/
def runRules : List (Rule RunItem) := separator :: content.map (Rule.map RunItem.content)

/-- The kinds before which a run ends. -/
def runStops : List TokenKind := [.whiteSpace, .endOfLine]

theorem firstOf_map (f : α → β) (rules : List (Rule α)) (tokens : List Token) :
    firstOf (rules.map (Rule.map f)) before tokens =
      (firstOf rules before tokens).map fun piece ↦ ⟨piece.count, f piece.value⟩ := by
  induction rules with
  | nil => rfl
  | cons rule rules ih =>
    rw [List.map_cons]
    cases hrule : rule before tokens with
    | error failure =>
      rw [firstOf_of_error hrule, firstOf_of_error (by rw [Rule.map, hrule]; rfl)]
      rfl
    | ok taken =>
      cases taken with
      | none => rw [firstOf_of_none hrule, firstOf_of_none (by rw [Rule.map, hrule]; rfl), ih]
      | some piece =>
        obtain ⟨count, value⟩ := piece
        have hmap : Rule.map f rule before tokens = .ok (some ⟨count, f value⟩) := by
          rw [Rule.map, hrule]
          rfl
        cases count with
        | zero =>
          rw [firstOf, firstOf, hrule, hmap]
          exact ih
        | succ count =>
          rw [firstOf_of_some (Nat.succ_pos count) hrule, firstOf_of_some (Nat.succ_pos count) hmap]
          rfl

theorem firstOf_runRules_separator {token : Token} (h : token.kind = .alternation)
    (tokens : List Token) :
    firstOf runRules before (token :: tokens) = .ok ⟨1, .separator token.span⟩ :=
  firstOf_of_some Nat.one_pos (if_pos h)

/-- Away from separators, an item of a run is a node. -/
theorem firstOf_runRules_of_ne {tokens : List Token}
    (h : ∀ token ∈ tokens.head?, token.kind ≠ .alternation) :
    firstOf runRules before tokens =
      (firstOf content before tokens).map fun piece ↦ ⟨piece.count, .content piece.value⟩ := by
  have hdecline : separator before tokens = .ok none := by
    cases tokens with
    | nil => rfl
    | cons token tokens => exact if_neg (h token rfl)
  rw [runRules, firstOf_of_none hdecline, firstOf_map]

/-- A run is read as its items. -/
theorem readUntil_run {run : List Token} {items : List RunItem} (h : IsRun run items)
    (horder : Token.InOrder run) (rest : List Token) :
    readUntil runRules runStops 0 before (run ++ rest) =
      ahead run items (readUntil runRules runStops 0 (kindAfter before run) rest) := by
  induction h generalizing before with
  | nil => exact (ahead_nil _).symm
  | @separator token tokens items hkind hrest ih =>
    have hfirst : firstOf runRules before ([token] ++ (tokens ++ rest)) = _ :=
      firstOf_runRules_separator hkind _
    have hstop : ∀ other ∈ [token].head?, other.kind ∉ runStops := by
      simp [hkind, runStops]
    have hgroup := readUntil_group (List.cons_ne_nil token []) hstop hfirst
    rw [ih horder.tail, ahead_ahead, ← kindAfter_append] at hgroup
    exact hgroup
  | @content group tokens node items hgroup hrest ih =>
    obtain ⟨token, others, rfl⟩ := List.exists_cons_of_ne_nil hgroup.ne_nil
    have hkind := hgroup.head_kind token rfl
    have hfirst : firstOf runRules before (token :: others ++ (tokens ++ rest)) =
        .ok ⟨(token :: others).length, .content node⟩ := by
      rw [firstOf_runRules_of_ne, firstOf_content hgroup horder.left]
      · rfl
      · rintro other ⟨⟩ hother
        exact hkind (by simp [hother])
    have hstop : ∀ other ∈ (token :: others).head?, other.kind ∉ runStops := by
      rintro other ⟨⟩ hother
      exact hkind (List.mem_cons_of_mem _ hother)
    have hread := readUntil_group (List.cons_ne_nil token others) hstop hfirst
    rw [ih horder.right, ahead_ahead, ← kindAfter_append] at hread
    rw [List.append_assoc]
    exact hread

/-- A bracket that stays open fails the run. -/
theorem readUntil_run_of_isOpen {tokens : List Token} {error : SyntaxError}
    (h : IsOpen tokens error) (horder : Token.InOrder tokens) :
    readUntil runRules runStops 0 before tokens = .error (.rejected error) := by
  obtain ⟨token, others, rfl, hkind⟩ := h.exists_cons
  refine readUntil_error (by rcases hkind with hkind | hkind <;> simp [hkind, runStops]) ?_
  rw [firstOf_runRules_of_ne, firstOf_content_of_isOpen h horder]
  · rfl
  · rintro other ⟨⟩ hother
    rcases hkind with hkind | hkind <;> simp [hkind] at hother

/-! ### Alternations -/

/-- Assumes: the items of tokens in order, all between the bounds of the alternation. The
alternatives are those that the separators part, and no span is reversed. -/
theorem alternatives_of_isRun {tokens : List Token} {items : List RunItem} (h : IsRun tokens items)
    (horder : Token.InOrder tokens) {start stop : Nat} (hle : start ≤ stop)
    (hstart : ∀ token ∈ tokens, start ≤ token.span.start)
    (hstop : ∀ token ∈ tokens, token.span.stop ≤ stop) (nodes : List Node) :
    alternatives stop start nodes items =
      .ok (RunItem.partition stop start (nodes ++ (RunItem.groups items).1)
        (RunItem.groups items).2) := by
  induction h generalizing start nodes with
  | nil =>
    rw [alternatives, Span.ofBounds_of_le hle, RunItem.groups, List.append_nil]
    rfl
  | @separator token tokens items hkind hrest ih =>
    have hfollowing := ih horder.tail (hstop token List.mem_cons_self) horder.stop_le_start
      (fun other hother ↦ hstop other (List.mem_cons_of_mem _ hother)) []
    rw [alternatives, Span.ofBounds_of_le (hstart token List.mem_cons_self), hfollowing,
      RunItem.groups, List.append_nil]
    rfl
  | @content group tokens node items hgroup hrest ih =>
    rw [alternatives, ih horder.right hle
      (fun token htoken ↦ hstart token (List.mem_append_right group htoken))
      (fun token htoken ↦ hstop token (List.mem_append_right group htoken)),
      RunItem.groups, List.append_assoc, List.singleton_append]

theorem IsRun.head_start {token : Token} {tokens : List Token} {items : List RunItem}
    (h : IsRun (token :: tokens) items) :
    ∃ item others, items = item :: others ∧ item.start = token.span.start := by
  generalize hall : token :: tokens = all at h
  cases h with
  | nil => exact absurd hall (List.cons_ne_nil token tokens)
  | separator =>
    obtain rfl := (List.cons.inj hall).1
    exact ⟨_, _, rfl, rfl⟩
  | @content group tokens' node items hgroup hrest =>
    obtain ⟨first, others, rfl⟩ := List.exists_cons_of_ne_nil hgroup.ne_nil
    obtain rfl : token = first := (List.cons.inj hall).1
    exact ⟨_, _, rfl, hgroup.head_start token rfl⟩

theorem IsRun.ne_nil_of_any {run : List Token} {items : List RunItem} (h : IsRun run items)
    (hany : items.any RunItem.isSeparator = true) : run ≠ [] := by
  rintro rfl
  rw [h.eq_nil] at hany
  exact absurd hany (by decide)

/-- The offset of the boundary behind a run: the start of the token that stands there, or the end of
the line. -/
def boundary (run rest : List Token) : Nat :=
  match rest with
  | [] => TokenLine.endOffset ⟨run⟩
  | token :: _ => token.span.start

theorem spanAt_natCast (tokens : List Token) (position : Nat) :
    TokenLine.spanAt ⟨tokens⟩ position =
      (tokens[position]?.map Token.span).getD (.point (TokenLine.endOffset ⟨tokens⟩)) := by
  have hnonneg : ¬ (position : Int) < 0 := by omega
  rw [TokenLine.spanAt, TokenLine.get?, if_neg hnonneg, Int.toNat_natCast]
  cases tokens[position]? with
  | none => exact if_neg hnonneg
  | some token => rfl

theorem start_spanAt_length (run rest : List Token) :
    (TokenLine.spanAt ⟨run ++ rest⟩ run.length).start = boundary run rest := by
  rw [spanAt_natCast]
  cases rest with
  | nil => simp [boundary, Span.point]
  | cons token rest => simp [boundary]

theorem stop_le_boundary {run rest : List Token} (h : Token.InOrder (run ++ rest)) :
    ∀ token ∈ run, token.span.stop ≤ boundary run rest := by
  cases rest with
  | nil => exact h.left.stop_le_endOffset
  | cons next rest => exact fun token htoken ↦ h.stop_le_start_of_append token htoken next (by simp)

/-- What an attempt makes of the items that it has read. -/
theorem alternation_of_read {tokens : List Token} {count : Nat} {items : List RunItem}
    (hbefore : before = .startOfLine ∨ before = .whiteSpace)
    (hread : readUntil runRules runStops 0 before tokens = .ok (count, items)) :
    alternation before tokens =
      if items.any RunItem.isSeparator then do
        let span ← (Span.ofBounds (TokenLine.spanAt ⟨tokens⟩ 0).start
          (TokenLine.spanAt ⟨tokens⟩ count).start).mapError .fault
        let children ← alternatives span.stop span.start [] items
        return some ⟨count, .branch .alternation span children⟩
      else .ok none := by
  show (if _ then readUntil runRules runStops 0 before tokens >>= _ else _) = _
  rw [if_pos hbefore, hread]
  rfl

/-- Assumes: a run up to a boundary. An attempt at the beginning of a word takes the whole run as
one alternation if it has a separator. -/
theorem alternation_of_separator {run rest : List Token} {items : List RunItem}
    (h : IsRun run items) (horder : Token.InOrder (run ++ rest))
    (hrest : ∀ token ∈ rest.head?, token.kind ∈ runStops)
    (hbefore : before = .startOfLine ∨ before = .whiteSpace)
    (hany : items.any RunItem.isSeparator = true) :
    ∃ node, RunItem.gather (boundary run rest) items = [node] ∧
      alternation before (run ++ rest) = .ok (some ⟨run.length, node⟩) := by
  have hread : readUntil runRules runStops 0 before (run ++ rest) = .ok (run.length, items) :=
    readUntil_up_to_stop (readUntil_run h horder.left rest) hrest
  obtain ⟨first, others, rfl⟩ := List.exists_cons_of_ne_nil (h.ne_nil_of_any hany)
  obtain ⟨item, items, rfl, hitem⟩ := h.head_start
  have hfirst : (TokenLine.spanAt ⟨first :: others ++ rest⟩ 0).start = item.start := hitem.symm
  have hstop := stop_le_boundary horder
  have hstart : ∀ token ∈ first :: others, item.start ≤ token.span.start := by
    intro token htoken
    rw [hitem]
    rcases List.mem_cons.mp htoken with rfl | htoken
    · exact Nat.le_refl _
    · exact (horder.left.upright first List.mem_cons_self).trans
        (horder.left.stop_le_start token htoken)
  have hle : item.start ≤ boundary (first :: others) rest :=
    (hitem ▸ horder.left.upright first List.mem_cons_self).trans (hstop first List.mem_cons_self)
  have halternatives := alternatives_of_isRun h horder.left hle hstart hstop []
  refine ⟨_, if_pos hany, ?_⟩
  rw [alternation_of_read hbefore hread, if_pos hany, hfirst, start_spanAt_length,
    Span.ofBounds_of_le hle]
  show (alternatives _ _ _ _ >>= _) = _
  rw [halternatives]
  rfl

/-- Assumes: a run without separators, up to a boundary. An attempt gives up, whatever stands before
the run. -/
theorem alternation_of_no_separator {run rest : List Token} {items : List RunItem}
    (h : IsRun run items) (horder : Token.InOrder run)
    (hrest : ∀ token ∈ rest.head?, token.kind ∈ runStops)
    (hnone : items.any RunItem.isSeparator = false) :
    alternation before (run ++ rest) = .ok none := by
  have hread : readUntil runRules runStops 0 before (run ++ rest) = .ok (run.length, items) :=
    readUntil_up_to_stop (readUntil_run h horder rest) hrest
  by_cases hbefore : before = .startOfLine ∨ before = .whiteSpace
  · rw [alternation_of_read hbefore hread, if_neg (by simp [hnone])]
  · exact if_neg hbefore

/-- An attempt fails where a bracket stays open in its run. -/
theorem alternation_of_isOpen {run rest : List Token} {items : List RunItem} {error : SyntaxError}
    (h : IsRun run items) (hopen : IsOpen rest error) (horder : Token.InOrder (run ++ rest))
    (hbefore : before = .startOfLine ∨ before = .whiteSpace) :
    alternation before (run ++ rest) = .error (.rejected error) := by
  have hread : readUntil runRules runStops 0 before (run ++ rest) = _ :=
    readUntil_run h horder.left rest
  rw [readUntil_run_of_isOpen hopen horder.right, ahead_error] at hread
  show (if _ then readUntil runRules runStops 0 before (run ++ rest) >>= _ else _) = _
  rw [if_pos hbefore, hread]
  rfl

/-! ### Expressions -/

/-- The kinds before which an expression ends. -/
def lineStops : List TokenKind := [.endOfLine]

theorem firstOf_expression_of_none {tokens : List Token}
    (h : alternation before tokens = .ok none) :
    firstOf expression before tokens = firstOf content before tokens :=
  firstOf_of_none h

/-- A blank is literal text, whatever stands before it. -/
theorem readUntil_expression_blank {blank : Token} (hblank : blank.kind = .whiteSpace)
    (rest : List Token) :
    readUntil expression lineStops 0 before (blank :: rest) =
      ahead [blank] [blank.leaf] (readUntil expression lineStops 0 .whiteSpace rest) := by
  have hdecline : alternation before ([] ++ blank :: rest) = .ok none :=
    alternation_of_no_separator .nil ⟨by simp, List.isChain_nil⟩ (by simp [hblank, runStops]) rfl
  have hfirst : firstOf expression before ([blank] ++ rest) = .ok ⟨1, blank.leaf⟩ :=
    (firstOf_expression_of_none hdecline).trans
      (firstOf_content_of_ne (by simp [hblank]) (by simp [hblank]) rest)
  have hstop : ∀ token ∈ [blank].head?, token.kind ∉ lineStops := by simp [hblank, lineStops]
  have hgroup := readUntil_group (List.cons_ne_nil blank []) hstop hfirst
  rw [kindAfter_cons, hblank] at hgroup
  exact hgroup

/-- A run without separators is read node by node, with an attempt before each node that gives up.
-/
theorem readUntil_expression_of_no_separator {run rest : List Token} {items : List RunItem}
    (h : IsRun run items) (horder : Token.InOrder run)
    (hrest : ∀ token ∈ rest.head?, token.kind ∈ runStops)
    (hnone : items.any RunItem.isSeparator = false) :
    readUntil expression lineStops 0 before (run ++ rest) =
      ahead run (RunItem.groups items).1
        (readUntil expression lineStops 0 (kindAfter before run) rest) := by
  induction h generalizing before with
  | nil => exact (ahead_nil _).symm
  | separator => simp [RunItem.isSeparator] at hnone
  | @content group tokens node items hgroup hrun ih =>
    have hdecline : alternation before (group ++ tokens ++ rest) = .ok none :=
      alternation_of_no_separator (.content hgroup hrun) horder hrest hnone
    rw [List.append_assoc] at hdecline ⊢
    have hfirst := (firstOf_expression_of_none hdecline).trans
      (firstOf_content hgroup horder.left (tokens ++ rest))
    have hstop : ∀ token ∈ group.head?, token.kind ∉ lineStops := by
      intro token htoken hkind
      refine hgroup.head_kind token htoken ?_
      rw [List.mem_singleton.mp hkind]
      decide
    have hread := readUntil_group hgroup.ne_nil hstop hfirst
    rw [ih horder.right (by simpa [RunItem.isSeparator] using hnone), ahead_ahead,
      ← kindAfter_append] at hread
    exact hread

/-- Assumes: a run from the beginning of a word up to a boundary. In whatever way it is read, its
nodes are what its items make. -/
theorem readUntil_expression_run {run rest : List Token} {items : List RunItem}
    (h : IsRun run items) (horder : Token.InOrder (run ++ rest))
    (hrest : ∀ token ∈ rest.head?, token.kind ∈ runStops)
    (hbefore : before = .startOfLine ∨ before = .whiteSpace) :
    readUntil expression lineStops 0 before (run ++ rest) =
      ahead run (RunItem.gather (boundary run rest) items)
        (readUntil expression lineStops 0 (kindAfter before run) rest) := by
  cases hany : items.any RunItem.isSeparator with
  | true =>
    obtain ⟨node, hnode, htake⟩ := alternation_of_separator h horder hrest hbefore hany
    have hne := h.ne_nil_of_any hany
    rw [hnode]
    have hstop : ∀ token ∈ run.head?, token.kind ∉ lineStops := fun token htoken hkind ↦
      h.head_kind token htoken (List.mem_cons_of_mem _ hkind)
    exact readUntil_group hne hstop (firstOf_of_some (List.length_pos_iff.mpr hne) htake)
  | false =>
    rw [RunItem.gather_of_none hany]
    exact readUntil_expression_of_no_separator h horder.left hrest hany

/-- A bracket that stays open in the run at the beginning of a word fails the expression. -/
theorem readUntil_expression_of_isOpen {run rest : List Token} {items : List RunItem}
    {error : SyntaxError} (h : IsRun run items) (hopen : IsOpen rest error)
    (horder : Token.InOrder (run ++ rest))
    (hbefore : before = .startOfLine ∨ before = .whiteSpace) :
    readUntil expression lineStops 0 before (run ++ rest) = .error (.rejected error) := by
  have herror := alternation_of_isOpen h hopen horder hbefore
  cases run with
  | nil =>
    obtain ⟨opening, others, rfl, hkind⟩ := hopen.exists_cons
    exact readUntil_error (by rcases hkind with hkind | hkind <;> simp [hkind, lineStops])
      (firstOf_of_error herror)
  | cons token run =>
    have hstop : token.kind ∉ lineStops := fun hkind ↦
      h.head_kind token rfl (List.mem_cons_of_mem _ hkind)
    exact readUntil_error hstop (firstOf_of_error herror)

end Grammar

end CucumberExpression
