import CucumberExpression.Proofs.Node.OnePassReading
import CucumberExpression.Proofs.Token.Mark

/-!
# Which expressions are refused

An expression is refused for an escape or for a bracket. The escapes come first, wherever they stand
(`escapeError?`). When they are in order, an automaton with four states decides, which looks at the
bare characters of the source one by one (`Gate.step`): the expression is accepted when the
automaton ends outside of all brackets, and else the bracket that it entered last is to blame
(`ofSource_verdict`).

The automaton runs over characters, and the one-pass reader over joined tokens. Both keep the same
gate: a joined token is text or blank and changes nothing (`foldl_stepToken_fuse`), and the token of
a bracket has the span of its character (`foldl_stepToken_filterMap`).
-/

set_option autoImplicit false
set_option relaxedAutoImplicit false

namespace CucumberExpression

/-! ### The automaton -/

/-- The brackets that stand open, with the place of each. -/
inductive Gate (α : Type) where
  | top
  | parameter (opening : α)
  | optional (opening : α)
  | parameterInOptional (outer opening : α)
  deriving Repr, DecidableEq

namespace Gate

variable {α β : Type}

/-- What a bare character changes. -/
def step (gate : Gate α) (place : α) (c : Char) : Gate α :=
  match gate with
  | top => if c = '{' then parameter place else if c = '(' then optional place else top
  | parameter opening => if c = '}' then top else parameter opening
  | optional opening =>
    if c = '{' then parameterInOptional opening place
    else if c = ')' then top
    else optional opening
  | parameterInOptional outer opening =>
    if c = '}' then optional outer else parameterInOptional outer opening

/-- What a mark changes: an escape and the character after it change nothing. -/
def stepMark (gate : Gate Nat) : Mark → Gate Nat
  | .bare offset c => gate.step offset c
  | _ => gate

/-- The brackets that stand open at the end of a source, each with its offset. -/
def ofSource (source : String) : Gate Nat :=
  (marks 0 source.toList).foldl stepMark top

/-- The gate with other places. -/
def map (f : α → β) : Gate α → Gate β
  | top => top
  | parameter opening => parameter (f opening)
  | optional opening => optional (f opening)
  | parameterInOptional outer opening => parameterInOptional (f outer) (f opening)

theorem map_step (f : α → β) (gate : Gate α) (place : α) (c : Char) :
    (gate.step place c).map f = (gate.map f).step (f place) c := by
  cases gate <;> simp only [step, map] <;> split_ifs <;> rfl

/-- A character that is no bracket changes nothing. -/
theorem step_of_ne {c : Char} (h : c ∉ ['{', '}', '(', ')']) (gate : Gate α) (place : α) :
    gate.step place c = gate := by
  simp only [List.mem_cons, List.not_mem_nil, or_false, not_or] at h
  obtain ⟨hbegin, hend, hbegin', hend'⟩ := h
  cases gate <;> simp [step, hbegin, hend, hbegin', hend']

/-! ### The automaton over tokens -/

/-- What a token changes. -/
def stepToken (gate : Gate Span) (token : Token) : Gate Span :=
  match token.kind.symbol? with
  | some symbol => gate.step token.span symbol.char
  | none => gate

theorem stepToken_of_isRun {token : Token} (h : token.kind.isRun = true) (gate : Gate Span) :
    gate.stepToken token = gate := by
  have hnone : token.kind.symbol? = none := by
    revert h
    cases token.kind <;> decide
  rw [stepToken, hnone]

/-- A bracket is no blank, and is special. -/
theorem isBlank_and_ofChar?_of_bracket {c : Char} (h : c ∈ ['{', '}', '(', ')']) :
    Text.isBlank c = false ∧ Symbol.ofChar? c ≠ none := by
  simp only [List.mem_cons, List.not_mem_nil, or_false] at h
  rcases h with rfl | rfl | rfl | rfl <;> decide

/-- The token of a bare character changes what the character changes. -/
theorem stepToken_ofChar (gate : Gate Span) (span : Span) (c : Char) (text : String) :
    gate.stepToken ⟨.ofChar c, span, text⟩ = gate.step span c := by
  by_cases hblank : Text.isBlank c = true
  · have hne : c ∉ ['{', '}', '(', ')'] := by
      intro hmem
      rw [(isBlank_and_ofChar?_of_bracket hmem).1] at hblank
      exact absurd hblank (by decide)
    rw [step_of_ne hne, ofChar_of_isBlank hblank]
    rfl
  cases hsymbol : Symbol.ofChar? c with
  | none =>
    have hne : c ∉ ['{', '}', '(', ')'] :=
      fun hmem ↦ (isBlank_and_ofChar?_of_bracket hmem).2 hsymbol
    have hkind : TokenKind.ofChar c = .text := by simp [TokenKind.ofChar, hblank, hsymbol]
    rw [step_of_ne hne, hkind]
    rfl
  | some symbol =>
    obtain rfl := Symbol.char_of_ofChar? hsymbol
    cases symbol with
    | escape => exact (step_of_ne (by decide) gate span).symm
    | _ => rfl

theorem foldl_stepToken_attach (gate : Gate Span) (token : Token) (tokens : List Token) :
    (Token.attach token tokens).foldl stepToken gate =
      tokens.foldl stepToken (gate.stepToken token) := by
  cases tokens with
  | nil => rfl
  | cons next rest =>
    by_cases hjoins : token.kind = next.kind ∧ token.kind.isRun = true
    · have hjoined : token.join? next =
          some ⟨token.kind, token.span.merge next.span, token.text ++ next.text⟩ := if_pos hjoins
      have hboth := @stepToken_of_isRun
        ⟨token.kind, token.span.merge next.span, token.text ++ next.text⟩ hjoins.2 gate
      have hnext : next.kind.isRun = true := hjoins.1 ▸ hjoins.2
      rw [Token.attach, hjoined, List.foldl_cons, hboth, stepToken_of_isRun hjoins.2,
        List.foldl_cons, stepToken_of_isRun hnext]
    · have hapart : token.join? next = none := if_neg hjoins
      rw [Token.attach, hapart, List.foldl_cons]

/-- Joining neighbours changes nothing. -/
theorem foldl_stepToken_fuse (gate : Gate Span) (tokens : List Token) :
    (Token.fuse tokens).foldl stepToken gate = tokens.foldl stepToken gate := by
  induction tokens generalizing gate with
  | nil => rfl
  | cons token tokens ih =>
    show (Token.attach token (Token.fuse tokens)).foldl stepToken gate = _
    rw [foldl_stepToken_attach, ih, List.foldl_cons]

/-- Over the tokens of single characters the automaton runs as over the characters. -/
theorem foldl_stepToken_filterMap (gate : Gate Nat) (marks : List Mark) :
    (marks.filterMap Mark.token?).foldl stepToken (gate.map fun offset ↦ ⟨offset, offset + 1⟩) =
      (marks.foldl stepMark gate).map fun offset ↦ ⟨offset, offset + 1⟩ := by
  induction marks generalizing gate with
  | nil => rfl
  | cons mark marks ih =>
    rw [List.foldl_cons, ← ih]
    cases mark with
    | bare offset c =>
      rw [stepMark, map_step, List.filterMap_cons]
      simp only [Mark.token?, List.foldl_cons, stepToken_ofChar]
    | pair offset c => rfl
    | lone offset => rfl

/-! ### The automaton and the one-pass reader -/

/-- The error of a source that ends in a bracket. -/
def error? : Gate Span → Option SyntaxError
  | top => none
  | parameter opening | parameterInOptional _ opening =>
    some ⟨.unclosed .beginParameter .endParameter, opening⟩
  | optional opening => some ⟨.unclosed .beginOptional .endOptional, opening⟩

end Gate

namespace OnePass

/-- The brackets that stand open, without what has been read in them. -/
def Opened.gate : Opened → Gate Span
  | nothing => .top
  | optional opening _ => .optional opening.span
  | parameter none opening _ => .parameter opening.span
  | parameter (some (outer, _)) opening _ => .parameterInOptional outer.span opening.span

theorem Opened.error?_gate (opened : Opened) : opened.gate.error? = opened.error? := by
  cases opened with
  | parameter outer opening inside => cases outer <;> rfl
  | _ => rfl

/-- A node more opens and closes nothing. -/
theorem gate_accept (state : State) (node : Node) :
    (state.accept node).opened.gate = state.opened.gate := by
  obtain ⟨done, run, opened⟩ := state
  cases opened with
  | parameter outer opening inside => cases outer <;> rfl
  | _ => rfl

/-- The reader opens and closes brackets as the automaton does. -/
theorem gate_step (state : State) (token : Token) :
    (step state token).opened.gate = state.opened.gate.stepToken token := by
  obtain ⟨done, run, opened⟩ := state
  cases opened with
  | nothing =>
    cases hkind : token.kind <;> simp only [step, hkind, gate_accept] <;>
      simp [Opened.gate, Gate.stepToken, hkind, TokenKind.symbol?, Gate.step, Symbol.char]
  | optional opening inside =>
    cases hkind : token.kind <;> simp only [step, hkind, gate_accept] <;>
      simp [Opened.gate, Gate.stepToken, hkind, TokenKind.symbol?, Gate.step, Symbol.char]
  | parameter outer opening inside =>
    by_cases hkind : token.kind = .endParameter
    · simp only [step, hkind, if_true, gate_accept]
      cases outer <;>
        simp [Opened.gate, Opened.around, Gate.stepToken, hkind, TokenKind.symbol?, Gate.step,
          Symbol.char]
    · simp only [step, hkind, if_false, gate_accept]
      revert hkind
      cases outer <;> cases hkind' : token.kind <;>
        simp [Opened.gate, Gate.stepToken, hkind', TokenKind.symbol?, Gate.step, Symbol.char]

theorem gate_foldl_step (state : State) (tokens : List Token) :
    (tokens.foldl step state).opened.gate = tokens.foldl Gate.stepToken state.opened.gate := by
  induction tokens generalizing state with
  | nil => rfl
  | cons token tokens ih => rw [List.foldl_cons, ih, gate_step, List.foldl_cons]

/-- The reader gives a tree unless a bracket stands open at the end, which is then the error. -/
theorem read_of_gate {tokens : List Token} {gate : Gate Span}
    (h : tokens.foldl Gate.stepToken .top = gate) :
    match gate.error? with
    | some error => read tokens = .error (.rejected error)
    | none => ∃ node, read tokens = .ok node := by
  have hopened : (tokens.foldl step start).opened.error? = gate.error? := by
    rw [← Opened.error?_gate, gate_foldl_step, ← h]
    rfl
  cases herror : gate.error? with
  | none =>
    rw [herror] at hopened
    rw [read, State.close, hopened]
    exact ⟨_, rfl⟩
  | some error =>
    rw [herror] at hopened
    rw [read, State.close, hopened]
    rfl

end OnePass

namespace Node

/-! ### The verdict -/

/-- The result is an error of the given kind, which blames the one character at an offset with the
given message and hints. -/
def FailsAt (result : Except Failure Node) (kind : ErrorKind) (offset : Nat) (message : String)
    (hints : List String) : Prop :=
  ∃ error : SyntaxError, result = .error (.rejected error) ∧ error.kind = kind ∧
    error.span = ⟨offset, offset + 1⟩ ∧ error.message = message ∧ error.hints = hints

theorem ofSource_of_escapeError? {source : String} {error : SyntaxError}
    (h : escapeError? source.length (marks 0 source.toList) = some error) :
    ofSource source = .error (.rejected error) := by
  rw [ofSource, Token.scan_eq, h]
  rfl

/-- When no escape is to blame, the automaton decides. -/
theorem ofSource_of_gate {source : String}
    (h : escapeError? source.length (marks 0 source.toList) = none) :
    match ((Gate.ofSource source).map fun offset ↦ ⟨offset, offset + 1⟩).error? with
    | some error => ofSource source = .error (.rejected error)
    | none => ∃ node, ofSource source = .ok node := by
  have hscan := Token.scan_eq source
  rw [h] at hscan
  rw [ofSource_of_scan hscan]
  refine OnePass.read_of_gate ?_
  rw [Gate.foldl_stepToken_fuse]
  exact Gate.foldl_stepToken_filterMap .top _

/-- Without a tree, a source has an error, which is that of its escapes or that of its brackets. -/
theorem exists_error_of_ofSource {source : String} {failure : Failure}
    (h : ofSource source = .error failure) : ∃ error, failure = .rejected error ∧
      (escapeError? source.length (marks 0 source.toList) = some error ∨
        ((Gate.ofSource source).map fun offset ↦ ⟨offset, offset + 1⟩).error? = some error) := by
  cases hescape : escapeError? source.length (marks 0 source.toList) with
  | some error =>
    exact ⟨error, Except.error.inj (h.symm.trans (ofSource_of_escapeError? hescape)), .inl rfl⟩
  | none =>
    have hgate := ofSource_of_gate hescape
    cases herror : ((Gate.ofSource source).map fun offset ↦ ⟨offset, offset + 1⟩).error? with
    | none =>
      rw [herror] at hgate
      obtain ⟨node, hnode⟩ := hgate
      cases h.symm.trans hnode
    | some error =>
      rw [herror] at hgate
      exact ⟨error, Except.error.inj (h.symm.trans hgate), .inr rfl⟩

/-- The verdict on an expression. The first pair of an escape and a character that is neither blank
nor special is blamed at that character, whatever else is wrong; without such a pair, an escape at
the end is. Otherwise the expression has a tree if the automaton ends outside of all brackets, and
only then: else the bracket that it entered last is blamed. -/
theorem ofSource_verdict (source : String) :
    match (marks 0 source.toList).findSome? Mark.badEscape? with
    | some position =>
      FailsAt (ofSource source) .badEscape position
        "Only the characters '\x7b', '\x7d', '(', ')', '\\', '/' and whitespace can be escaped"
        ["If you did mean to use an '\\' you can use '\\\\' to escape it"]
    | none =>
      if (marks 0 source.toList).any Mark.isLone then
        FailsAt (ofSource source) .escapedEnd (source.length - 1)
          "The end of line can not be escaped" ["You can use '\\\\' to escape the '\\'"]
      else
        match Gate.ofSource source with
        | .top => ∃ node, ofSource source = .ok node
        | .parameter opening | .parameterInOptional _ opening =>
          FailsAt (ofSource source) .unclosed opening
            "The '\x7b' does not have a matching '\x7d'"
            ["If you did not intend to use \x7b\x7d you can use '\\\x7b' to escape the \x7b"]
        | .optional opening =>
          FailsAt (ofSource source) .unclosed opening "The '(' does not have a matching ')'"
            ["If you did not intend to use () you can use '\\(' to escape the ("] := by
  cases hbad : (marks 0 source.toList).findSome? Mark.badEscape? with
  | some position =>
    have herror : escapeError? source.length (marks 0 source.toList) =
        some ⟨.badEscape, ⟨position, position + 1⟩⟩ := by rw [escapeError?, hbad]
    exact ⟨_, ofSource_of_escapeError? herror, rfl, rfl, rfl, rfl⟩
  | none =>
    by_cases hlone : (marks 0 source.toList).any Mark.isLone = true
    · have herror : escapeError? source.length (marks 0 source.toList) =
          some ⟨.escapedEnd, ⟨source.length - 1, source.length⟩⟩ := by
        rw [escapeError?, hbad]
        exact if_pos hlone
      have hne : source.toList ≠ [] := by
        intro hnil
        rw [hnil] at hlone
        exact absurd hlone (by decide)
      have hpositive : source.length - 1 + 1 = source.length := by
        rw [← String.length_toList]
        exact Nat.sub_add_cancel (List.length_pos_iff.mpr hne)
      simp only [hlone, if_true]
      exact ⟨_, ofSource_of_escapeError? herror, rfl, by rw [hpositive], rfl, rfl⟩
    · have hgood : escapeError? source.length (marks 0 source.toList) = none := by
        rw [escapeError?, hbad]
        exact if_neg hlone
      have hgate := ofSource_of_gate hgood
      simp only [hlone]
      cases hend : Gate.ofSource source with
      | top =>
        rw [hend] at hgate
        exact hgate
      | parameter opening | parameterInOptional outer opening | optional opening =>
        rw [hend] at hgate
        exact ⟨_, hgate, rfl, rfl, rfl, rfl⟩

/-- A brace that stays open in an optional part, behind an escaped one and a stray parenthesis. -/
example : Gate.ofSource ")\\\x7b(a/\x7b)" = .parameterInOptional 3 6 := by
  decide +kernel

end Node

end CucumberExpression
