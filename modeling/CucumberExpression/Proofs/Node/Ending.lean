import CucumberExpression.Proofs.Node.Runs

/-!
# Where an expression ends

Tokens that a caller hands over may be of any kind, those for the edges of the line included. A
token for the end of the line is literal text between brackets, as every other token is; outside of
all brackets it ends the expression, wherever it stands. So there are three outcomes. The tokens
make a line up to their end, and the expression has a tree. They make a line up to a token for the
end of the line, and what stands there is left over (`ofTokens_of_endOfLine`). Or a bracket stays
open before either, and is the error (`ofTokens_of_isBroken`). No outcome lies between these
(`exists_isLine`), which tells when an expression is refused for a reason that is no fault of its
author (`ofTokens_internal_error`).

A line may be ended at any offset: only the last run looks at where it ends (`IsLine.exists_stop`).
That is why the tokens before an end have a tree of their own, whose last alternation may be
shorter.
-/

set_option autoImplicit false
set_option relaxedAutoImplicit false

namespace CucumberExpression

namespace Grammar

open Token (InOrder)

variable {stop : Nat} {tokens line rest : List Token} {nodes : List Node} {error : SyntaxError}
  {before : TokenKind}

/-! ### Lines and what ends them -/

/-- Runs and blanks, up to a bracket that stays open, and the error that blames it. -/
inductive IsBroken : List Token → SyntaxError → Prop
  | run {run rest : List Token} {items : List RunItem} {error : SyntaxError}
      (hrun : IsRun run items) (hopen : IsOpen rest error) : IsBroken (run ++ rest) error
  | blank {run rest : List Token} {items : List RunItem} {blank : Token} {error : SyntaxError}
      (hrun : IsRun run items) (hblank : blank.kind = .whiteSpace) (hrest : IsBroken rest error) :
      IsBroken (run ++ blank :: rest) error

/-- A line is a line up to any other offset. -/
theorem IsLine.exists_stop (h : IsLine stop tokens nodes) (stop' : Nat) :
    ∃ nodes', IsLine stop' tokens nodes' := by
  induction h with
  | run hrun => exact ⟨_, .run hrun⟩
  | blank hrun hblank hrest ih =>
    obtain ⟨nodes', hnodes'⟩ := ih
    exact ⟨_, .blank hrun hblank hnodes'⟩

/-- Every row of tokens begins with a line, behind which stands nothing or a token for the end of
the line, or it is broken by a bracket that stays open. -/
theorem exists_isLine (stop : Nat) (tokens : List Token) :
    (∃ line nodes rest, tokens = line ++ rest ∧ IsLine stop line nodes ∧
      ∀ token ∈ rest.head?, token.kind = .endOfLine) ∨ ∃ error, IsBroken tokens error := by
  induction hlength : tokens.length using Nat.strong_induction_on generalizing tokens with
  | _ length ih =>
    obtain ⟨run, items, rest, rfl, hrun, hstop | ⟨error, hopen⟩⟩ := exists_isRun tokens
    · cases rest with
      | nil => exact .inl ⟨run, _, [], rfl, .run hrun, by simp⟩
      | cons next rest =>
        by_cases hend : next.kind = .endOfLine
        · exact .inl ⟨run, _, next :: rest, rfl, .run hrun, by simpa using hend⟩
        · have hblank : next.kind = .whiteSpace := by
            simpa [hend] using hstop next rfl
          have hshorter : rest.length < length := by
            simp at hlength
            omega
          rcases ih rest.length hshorter rest rfl with
            ⟨line, nodes, last, rfl, hline, hlast⟩ | ⟨error, hbroken⟩
          · exact .inl ⟨run ++ next :: line, _, last, by simp, .blank hrun hblank hline, hlast⟩
          · exact .inr ⟨error, .blank hrun hblank hbroken⟩
    · exact .inr ⟨error, .run hrun hopen⟩

/-- The causes that blame a bracket for staying open. -/
def unclosedBrackets : List ErrorCause :=
  [.unclosed .beginParameter .endParameter, .unclosed .beginOptional .endOptional]

theorem IsOpen.cause_mem (h : IsOpen tokens error) : error.cause ∈ unclosedBrackets := by
  cases h with
  | parameter hopen =>
    obtain ⟨⟩ := hopen
    exact List.mem_cons_self
  | optional => exact List.mem_cons_of_mem _ List.mem_cons_self
  | nested houter hinside hopen =>
    obtain ⟨⟩ := hopen
    exact List.mem_cons_self

theorem IsBroken.cause_mem (h : IsBroken tokens error) : error.cause ∈ unclosedBrackets := by
  induction h with
  | run hrun hopen => exact hopen.cause_mem
  | blank hrun hblank hrest ih => exact ih

/-! ### Reading up to the end -/

/-- The boundary behind a line is that behind its last run. -/
theorem boundary_append_cons (front : List Token) (token : Token) {back : List Token}
    (hback : back ≠ []) (rest : List Token) :
    boundary (front ++ token :: back) rest = boundary back rest := by
  cases rest with
  | nil => exact TokenLine.endOffset_append_cons front token hback
  | cons next rest => rfl

/-- Assumes: a line from the beginning of a word on, up to the end of the tokens or a token for the
end of the line. What is read are the nodes of the line up to that boundary. -/
theorem readUntil_expression_of_isLine (h : IsLine stop line nodes)
    (horder : InOrder (line ++ rest)) (hrest : ∀ token ∈ rest.head?, token.kind = .endOfLine)
    (hbefore : before = .startOfLine ∨ before = .whiteSpace)
    (hstop : line ≠ [] → stop = boundary line rest) :
    readUntil expression lineStops 0 before (line ++ rest) = .ok (line.length, nodes) := by
  have hlineStop : ∀ token ∈ rest.head?, token.kind ∈ lineStops := by
    intro token htoken
    rw [hrest token htoken]
    decide
  induction h generalizing before with
  | @run run items hrun =>
    have hrunStop : ∀ token ∈ rest.head?, token.kind ∈ runStops := by
      intro token htoken
      rw [hrest token htoken]
      decide
    have hgather : RunItem.gather (boundary run rest) items = RunItem.gather stop items := by
      cases run with
      | nil => rw [hrun.eq_nil]; rfl
      | cons first run => rw [hstop (List.cons_ne_nil first run)]
    rw [readUntil_expression_run hrun horder hrunStop hbefore, readUntil_stop hlineStop, ahead_ok,
      hgather, Nat.add_zero, List.append_nil]
  | @blank run following items blank nodes hrun hblank hline ih =>
    rw [List.append_assoc, List.cons_append] at horder ⊢
    have hrunStop : ∀ token ∈ (blank :: (following ++ rest)).head?, token.kind ∈ runStops := by
      intro token htoken
      rw [← Option.some.inj htoken, hblank]
      decide
    have hlast : following ≠ [] → stop = boundary following rest := fun hne ↦
      (hstop (by simp)).trans (boundary_append_cons run blank hne rest)
    have hcount : (run ++ blank :: following).length =
        (run ++ [blank]).length + following.length := by
      simp only [List.length_append, List.length_cons, List.length_nil]
      omega
    rw [readUntil_expression_run hrun horder hrunStop hbefore, readUntil_expression_blank hblank,
      ahead_ahead, ih horder.right.tail (.inr rfl) hlast, ahead_ok, hcount, List.append_assoc]
    rfl

/-- A bracket that stays open fails the expression, however many words stand before it. -/
theorem readUntil_expression_of_isBroken (h : IsBroken tokens error) (horder : InOrder tokens)
    (hbefore : before = .startOfLine ∨ before = .whiteSpace) :
    readUntil expression lineStops 0 before tokens = .error (.rejected error) := by
  induction h generalizing before with
  | run hrun hopen => exact readUntil_expression_of_isOpen hrun hopen horder hbefore
  | @blank run rest items blank error hrun hblank hrest ih =>
    have hrunStop : ∀ token ∈ (blank :: rest).head?, token.kind ∈ runStops := by
      intro token htoken
      rw [← Option.some.inj htoken, hblank]
      decide
    rw [readUntil_expression_run hrun horder hrunStop hbefore, readUntil_expression_blank hblank,
      ih horder.right.tail (.inr rfl), ahead_error, ahead_error]

end Grammar

namespace Node

open Grammar
open Token (InOrder)

variable {tokens line rest : List Token} {nodes : List Node} {error : SyntaxError}

/-! ### The three outcomes -/

/-- Tokens that make a line have a tree. -/
theorem ofTokens_of_isLine (horder : InOrder tokens)
    (h : IsLine (TokenLine.endOffset ⟨tokens⟩) tokens nodes) :
    ofTokens tokens = .ok (.branch .expression ⟨0, TokenLine.endOffset ⟨tokens⟩⟩ nodes) := by
  have horder' : InOrder (tokens ++ []) := by rwa [List.append_nil]
  have hread := readUntil_expression_of_isLine h horder' (by simp) (.inl rfl) (fun _ ↦ rfl)
  rw [List.append_nil] at hread
  exact @ofTokens_of_readUntil tokens (.ok nodes) hread

/-- Behind a line, a token for the end of the line leaves over what stands from there on. The error
counts the tokens of the line and both edges, and has its place behind the end. -/
theorem ofTokens_of_endOfLine {ending : Token} (horder : InOrder (line ++ ending :: rest))
    (hending : ending.kind = .endOfLine) {stop : Nat} (h : IsLine stop line nodes) :
    ofTokens (line ++ ending :: rest) = .error (.rejected
      ⟨.unconsumed (line.length + 2) ((line ++ ending :: rest).length + 2),
        ((line ++ ending :: rest)[line.length + 1]?.map Token.span).getD
          (.point (TokenLine.endOffset ⟨line ++ ending :: rest⟩))⟩) := by
  obtain ⟨nodes', hline⟩ := h.exists_stop (boundary line (ending :: rest))
  have hread := readUntil_expression_of_isLine hline horder (by simpa using hending) (.inl rfl)
    (fun _ ↦ rfl)
  have hshort : line.length ≠ (line ++ ending :: rest).length := by
    rw [List.length_append, List.length_cons]
    omega
  rw [ofTokens]
  show readUntil expression lineStops 0 .startOfLine (line ++ ending :: rest) >>= _ = _
  rw [hread, ← spanAt_natCast]
  exact if_neg hshort

theorem ofTokens_of_isBroken (horder : InOrder tokens) (h : IsBroken tokens error) :
    ofTokens tokens = .error (.rejected error) :=
  @ofTokens_of_readUntil tokens (.error (.rejected error))
    (readUntil_expression_of_isBroken h horder (.inl rfl))

/-- Tokens in order that have a tree make a line. -/
theorem exists_isLine_of_ofTokens (horder : InOrder tokens) {root : Node}
    (h : ofTokens tokens = .ok root) :
    ∃ nodes, IsLine (TokenLine.endOffset ⟨tokens⟩) tokens nodes ∧
      root = .branch .expression ⟨0, TokenLine.endOffset ⟨tokens⟩⟩ nodes := by
  rcases exists_isLine (TokenLine.endOffset ⟨tokens⟩) tokens with
    ⟨line, nodes, rest, rfl, hline, hrest⟩ | ⟨error, hbroken⟩
  · cases rest with
    | nil =>
      rw [List.append_nil] at h horder hline ⊢
      rw [ofTokens_of_isLine horder hline] at h
      exact ⟨nodes, hline, (Except.ok.inj h).symm⟩
    | cons ending rest =>
      rw [ofTokens_of_endOfLine horder (hrest ending rfl) hline] at h
      exact absurd h nofun
  · rw [ofTokens_of_isBroken horder hbroken] at h
    exact absurd h nofun

/-! ### Internal errors -/

/-- The expression ends at a token: it stands for the end of the line, and the tokens before it have
a tree. -/
def EndsAt (tokens : List Token) (i : Nat) : Prop :=
  (∃ token, tokens[i]? = some token ∧ token.kind = .endOfLine) ∧
    ∃ root, ofTokens (tokens.take i) = .ok root

/-- Where an expression ends before its tokens do, the rest of them is left over. -/
theorem ofTokens_of_endsAt (horder : InOrder tokens) {i : Nat} (h : EndsAt tokens i) :
    ofTokens tokens = .error (.rejected ⟨.unconsumed (i + 2) (tokens.length + 2),
      (tokens[i + 1]?.map Token.span).getD (.point (TokenLine.endOffset ⟨tokens⟩))⟩) := by
  obtain ⟨⟨ending, hget, hending⟩, root, hroot⟩ := h
  obtain ⟨hi, hget⟩ := List.getElem?_eq_some_iff.mp hget
  have hsplit : tokens = tokens.take i ++ ending :: tokens.drop (i + 1) := by
    rw [← hget, ← List.drop_eq_getElem_cons hi, List.take_append_drop]
  have hlength : (tokens.take i).length = i := List.length_take_of_le (Nat.le_of_lt hi)
  have horder' := horder
  rw [hsplit] at horder'
  obtain ⟨nodes, hline, -⟩ := exists_isLine_of_ofTokens horder'.left hroot
  have hleft := ofTokens_of_endOfLine horder' hending hline
  rwa [← hsplit, hlength] at hleft

/-- Tokens in order have a tree, or a bracket that stays open, or a token at which the expression
ends. -/
theorem ofTokens_outcome (horder : InOrder tokens) :
    (∃ root, ofTokens tokens = .ok root) ∨
      (∃ error, ofTokens tokens = .error (.rejected error) ∧ error.cause ∈ unclosedBrackets) ∨
      ∃ i, EndsAt tokens i := by
  rcases exists_isLine (TokenLine.endOffset ⟨tokens⟩) tokens with
    ⟨line, nodes, rest, rfl, hline, hrest⟩ | ⟨error, hbroken⟩
  · cases rest with
    | nil =>
      rw [List.append_nil] at horder hline ⊢
      exact .inl ⟨_, ofTokens_of_isLine horder hline⟩
    | cons ending rest =>
      obtain ⟨nodes', hline'⟩ := hline.exists_stop (TokenLine.endOffset ⟨line⟩)
      refine .inr (.inr ⟨line.length, ⟨ending, ?_, hrest ending rfl⟩, ?_⟩)
      · rw [List.getElem?_append_right (Nat.le_refl _), Nat.sub_self, List.getElem?_cons_zero]
      · rw [List.take_left]
        exact ⟨_, ofTokens_of_isLine horder.left hline'⟩
  · exact .inr (.inl ⟨error, ofTokens_of_isBroken horder hbroken, hbroken.cause_mem⟩)

theorem kind_of_cause_mem (h : error.cause ∈ unclosedBrackets) : error.kind = .unclosed := by
  simp only [unclosedBrackets, List.mem_cons, List.not_mem_nil, or_false] at h
  rw [SyntaxError.kind]
  rcases h with h | h <;> rw [h] <;> rfl

/-- The error of tokens in order blames a bracket that stays open, or counts the tokens up to a
token at which the expression ends. -/
theorem cause_mem_or_endsAt (horder : InOrder tokens)
    (h : ofTokens tokens = .error (.rejected error)) :
    error.cause ∈ unclosedBrackets ∨ error.kind = .unconsumed ∧ ∃ i, EndsAt tokens i := by
  rcases ofTokens_outcome horder with ⟨root, hroot⟩ | ⟨error', herror, hcause⟩ | ⟨i, hi⟩
  · rw [hroot] at h
    exact absurd h nofun
  · rw [herror] at h
    obtain rfl := Failure.rejected.inj (Except.error.inj h)
    exact .inl hcause
  · rw [ofTokens_of_endsAt horder hi] at h
    obtain rfl := Failure.rejected.inj (Except.error.inj h)
    exact .inr ⟨rfl, i, hi⟩

/-- An expression ends at one of its tokens at most. -/
theorem EndsAt.unique (horder : InOrder tokens) {i j : Nat} (hi : EndsAt tokens i)
    (hj : EndsAt tokens j) : j = i := by
  have hsame := (ofTokens_of_endsAt horder hj).symm.trans (ofTokens_of_endsAt horder hi)
  injection hsame with hfailure
  injection hfailure with herror
  injection herror with hcause
  injection hcause with hcount
  exact Nat.add_right_cancel hcount

/-- When tokens in order are refused. That no rule takes a token never happens, and a bracket that
stays open is a brace or a parenthesis. Tokens are left over exactly if the expression ends at one
of them, which is then the only one; the error counts the tokens up to it and both edges, and has
the place of the next token, or of the end of the line. In every other case there is a tree or a
bracket that stays open, so without a token for the end of the line no error is internal. -/
theorem ofTokens_internal_error (horder : InOrder tokens) :
    (∀ error, ofTokens tokens = .error (.rejected error) → error.kind ≠ .noEligibleRule ∧
      (error.kind = .unclosed → error.cause = .unclosed .beginParameter .endParameter ∨
        error.cause = .unclosed .beginOptional .endOptional)) ∧
    ((∃ error, ofTokens tokens = .error (.rejected error) ∧ error.kind = .unconsumed) ↔
      ∃ i, EndsAt tokens i) ∧
    (∀ i, EndsAt tokens i → (∀ j, EndsAt tokens j → j = i) ∧
      ∃ error, ofTokens tokens = .error (.rejected error) ∧ error.kind = .unconsumed ∧
        error.message = "Could not parse the whole expression: consumed " ++ toString (i + 2) ++
          " of " ++ toString (tokens.length + 2) ++ " tokens" ∧
        error.span = (tokens[i + 1]?.map Token.span).getD
          (.point (TokenLine.endOffset ⟨tokens⟩))) ∧
    ((∀ i, ¬ EndsAt tokens i) → (∃ root, ofTokens tokens = .ok root) ∨
      ∃ error, ofTokens tokens = .error (.rejected error) ∧ error.kind = .unclosed) ∧
    ((∀ token ∈ tokens, token.kind ≠ .endOfLine) →
      ∀ error, ofTokens tokens = .error (.rejected error) → error.kind.isInternal = false) := by
  refine ⟨fun error herror ↦ ?_, ⟨fun ⟨error, herror, hkind⟩ ↦ ?_, fun ⟨i, hi⟩ ↦ ?_⟩,
    fun i hi ↦ ⟨fun j hj ↦ hi.unique horder hj, ?_⟩, fun hnowhere ↦ ?_, fun hline error herror ↦ ?_⟩
  · rcases cause_mem_or_endsAt horder herror with hcause | ⟨hkind, -⟩
    · rw [kind_of_cause_mem hcause]
      exact ⟨by decide, fun _ ↦ by simpa [unclosedBrackets] using hcause⟩
    · rw [hkind]
      exact ⟨nofun, nofun⟩
  · rcases cause_mem_or_endsAt horder herror with hcause | ⟨-, hends⟩
    · rw [kind_of_cause_mem hcause] at hkind
      exact absurd hkind nofun
    · exact hends
  · exact ⟨_, ofTokens_of_endsAt horder hi, rfl⟩
  · exact ⟨_, ofTokens_of_endsAt horder hi, rfl, rfl, rfl⟩
  · rcases ofTokens_outcome horder with hroot | ⟨error, herror, hcause⟩ | ⟨i, hi⟩
    · exact .inl hroot
    · exact .inr ⟨error, herror, kind_of_cause_mem hcause⟩
    · exact absurd hi (hnowhere i)
  · rcases cause_mem_or_endsAt horder herror with hcause | ⟨-, i, ⟨ending, hget, hending⟩, -⟩
    · rw [kind_of_cause_mem hcause]
      rfl
    · exact absurd hending (hline ending (List.mem_of_getElem? hget))

/-- An end of the line in a parameter, which is text there, and one behind a word. -/
def ended : List Token :=
  [⟨.beginParameter, ⟨0, 1⟩, "\x7b"⟩, ⟨.endOfLine, ⟨2, 2⟩, ""⟩, ⟨.endParameter, ⟨2, 3⟩, "\x7d"⟩,
    ⟨.alternation, ⟨3, 4⟩, "/"⟩, ⟨.endOfLine, ⟨6, 7⟩, "$"⟩, ⟨.beginOptional, ⟨7, 9⟩, "("⟩]

theorem ofTokens_ended :
    Token.InOrder ended ∧ EndsAt ended 4 ∧ (∀ i, EndsAt ended i → i = 4) ∧
      ∃ error, ofTokens ended = .error (.rejected error) ∧ error.kind = .unconsumed ∧
        error.message =
          "Could not parse the whole expression: consumed 6 of 8 tokens" ∧ error.span = ⟨7, 9⟩ := by
  have horder : Token.InOrder ended := by decide
  have hends : EndsAt ended 4 := ⟨⟨_, rfl, rfl⟩, _, rfl⟩
  obtain ⟨hunique, herror⟩ := (ofTokens_internal_error horder).2.2.1 4 hends
  exact ⟨horder, hends, hunique, herror⟩

end Node

end CucumberExpression
