import CucumberExpression.Proofs.Grammar.Line
import CucumberExpression.Proofs.Token.Scanning

/-!
# Reading in one pass is reading by the grammar

The grammar reads by ordered choice: it tries an alternation, may throw the attempt away and read
the same tokens again. The one-pass reader looks at every token once. Both give the same tree or the
same error for all tokens in order (`ofTokens_eq_read`), in particular for the tokens of every
expression (`ofSource_of_scan`).

The induction goes from blank to blank (`readUntil_eq_close`). Up to the next blank the tokens are a
run, which both readers turn into what `RunItem.gather` makes of it, or they lead to a bracket that
stays open, for which both give the same error.
-/

set_option autoImplicit false
set_option relaxedAutoImplicit false

namespace CucumberExpression

namespace Node

open Grammar OnePass

/-- What stands in front of a result may be added before or after. -/
theorem map_ahead (group : List Token) (values done : List Node)
    (result : Except Failure (Nat × List Node)) :
    (ahead group values result).map (fun taken ↦ (taken.1, done ++ taken.2)) =
      (result.map fun taken ↦ (taken.1, (done ++ values) ++ taken.2)).map fun taken ↦
        (group.length + taken.1, taken.2) := by
  cases result <;> simp [Except.map]

/-- Assumes: tokens in order, none of which stands for the end of the line, from the beginning of a
word on. Their nodes are those with which the one-pass reader closes the line, put behind what it
has done before. -/
theorem readUntil_eq_close {tokens : List Token} (horder : Token.InOrder tokens)
    (hline : ∀ token ∈ tokens, token.kind ≠ .endOfLine) {before : TokenKind}
    (hbefore : before = .startOfLine ∨ before = .whiteSpace) (done : List Node) {lineEnd : Nat}
    (hend : tokens ≠ [] → lineEnd = TokenLine.endOffset ⟨tokens⟩) :
    (readUntil expression lineStops 0 before tokens).map
        (fun taken ↦ (taken.1, done ++ taken.2)) =
      ((tokens.foldl step ⟨done, [], .nothing⟩).close lineEnd).map
        fun nodes ↦ (tokens.length, nodes) := by
  induction hlength : tokens.length using Nat.strong_induction_on
    generalizing tokens before done with
  | _ length ih =>
    obtain ⟨run, items, rest, rfl, hrun, hstop | ⟨error, hopen⟩⟩ := exists_isRun tokens
    · rw [readUntil_expression_run hrun horder hstop hbefore, List.foldl_append,
        foldl_step_of_isRun hrun, List.nil_append]
      cases rest with
      | nil =>
        have hgather : RunItem.gather (boundary run []) items = RunItem.gather lineEnd items := by
          cases run with
          | nil => rw [hrun.eq_nil]; rfl
          | cons first run => rw [hend (by simp), List.append_nil]; rfl
        rw [readUntil_stop (by simp), ahead_ok, hgather, List.append_nil]
        rw [List.append_nil] at hlength
        exact congrArg (fun count ↦ Except.ok (count, done ++ RunItem.gather lineEnd items)) hlength
      | cons blank rest =>
        have hblank : blank.kind = .whiteSpace := by
          have hnotEnd := hline blank (by simp)
          simpa [runStops, hnotEnd] using hstop blank rfl
        have hstep : step ⟨done, items, .nothing⟩ blank =
            ⟨done ++ (RunItem.gather (boundary run (blank :: rest)) items ++ [blank.leaf]), [],
              .nothing⟩ := by
          simp only [step, hblank, boundary, List.append_assoc]
        have hshorter : rest.length < length := by simp at hlength; omega
        have hlast : rest ≠ [] → lineEnd = TokenLine.endOffset ⟨rest⟩ := fun hne ↦
          (hend (by simp)).trans (TokenLine.endOffset_append_cons run blank hne)
        rw [readUntil_expression_blank hblank, ahead_ahead, map_ahead, List.foldl_cons, hstep,
          ih rest.length hshorter horder.right.tail
            (fun token htoken ↦ hline token (by simp [htoken])) (.inr rfl) _ hlast rfl]
        have hcount : (run ++ [blank]).length + rest.length = length := by
          simp only [List.length_append, List.length_cons, List.length_nil] at hlength ⊢
          omega
        rw [← hcount]
        generalize State.close lineEnd _ = closed
        cases closed <;> rfl
    · rw [readUntil_expression_of_isOpen hrun hopen horder hbefore, List.foldl_append,
        foldl_step_of_isRun hrun, State.close, error?_foldl_step_of_isOpen hopen]
      rfl

/-- When every token is read, the nodes are those of the tree. -/
theorem ofTokens_of_readUntil {tokens : List Token} {result : Except Failure (List Node)}
    (h : readUntil expression lineStops 0 .startOfLine tokens =
      result.map fun nodes ↦ (tokens.length, nodes)) :
    ofTokens tokens =
      result.map (.branch .expression ⟨0, TokenLine.endOffset ⟨tokens⟩⟩) := by
  rw [ofTokens]
  show readUntil expression lineStops 0 .startOfLine tokens >>= _ = _
  rw [h]
  cases result with
  | error failure => rfl
  | ok nodes =>
    have hspan : TokenLine.spanAt ⟨tokens⟩ tokens.length =
        .point (TokenLine.endOffset ⟨tokens⟩) := by
      rw [spanAt_natCast, List.getElem?_eq_none (Nat.le_refl _)]
      rfl
    refine (if_pos rfl).trans ?_
    rw [hspan]
    rfl

/-- Assumes: tokens in order, none of which stands for the end of the line. The grammar reads them
as the one-pass reader does. -/
theorem ofTokens_of_ne_endOfLine {tokens : List Token} (horder : Token.InOrder tokens)
    (hline : ∀ token ∈ tokens, token.kind ≠ .endOfLine) : ofTokens tokens = read tokens := by
  have hread := readUntil_eq_close horder hline (.inl rfl) [] (fun _ ↦ rfl)
  have hnothing (result : Except Failure (Nat × List Node)) :
      result.map (fun taken ↦ (taken.1, [] ++ taken.2)) = result := by cases result <;> rfl
  rw [hnothing] at hread
  exact ofTokens_of_readUntil hread

/-- The grammar reads every row of tokens between the edges of a line as the one-pass reader does:
no attempt at an alternation changes the tree or the error. -/
theorem ofTokens_eq_read {tokens : List Token}
    (hinner : ∀ token ∈ tokens, token.kind.isEdge = false) (horder : Token.InOrder tokens) :
    ofTokens tokens = read tokens := by
  refine ofTokens_of_ne_endOfLine horder fun token htoken hkind ↦ ?_
  have hedge := hinner token htoken
  rw [hkind] at hedge
  exact absurd hedge (by decide)

/-- Tokens with gaps between them, as a caller may hand them over: two words, the second with an
empty alternative and with a stray parenthesis in a parameter. -/
def scattered : List Token :=
  [⟨.text, ⟨1, 2⟩, "x"⟩, ⟨.whiteSpace, ⟨4, 5⟩, " "⟩, ⟨.beginOptional, ⟨5, 6⟩, "("⟩,
    ⟨.beginParameter, ⟨6, 7⟩, "\x7b"⟩, ⟨.endOptional, ⟨8, 9⟩, ")"⟩,
    ⟨.endParameter, ⟨9, 10⟩, "\x7d"⟩, ⟨.text, ⟨10, 12⟩, "yy"⟩, ⟨.endOptional, ⟨12, 13⟩, ")"⟩,
    ⟨.alternation, ⟨15, 16⟩, "/"⟩]

theorem ofTokens_scattered :
    (∀ token ∈ scattered, token.kind.isEdge = false) ∧ Token.InOrder scattered ∧
      ofTokens scattered = read scattered ∧
      read scattered = .ok (.branch .expression ⟨0, 16⟩
        [.leaf .text ⟨1, 2⟩ "x", .leaf .text ⟨4, 5⟩ " ", .branch .alternation ⟨5, 16⟩
          [.branch .alternative ⟨5, 15⟩ [.branch .optional ⟨5, 13⟩
            [.branch .parameter ⟨6, 10⟩ [.leaf .text ⟨8, 9⟩ ")"], .leaf .text ⟨10, 12⟩ "yy"]],
          .branch .alternative ⟨16, 16⟩ []]]) :=
  ⟨by decide, by decide, ofTokens_eq_read (by decide) (by decide), rfl⟩

/-- The tree of a source is what the one-pass reader makes of its tokens. -/
theorem ofSource_of_scan {source : String} {tokens : List Token}
    (h : Token.scan source = .ok tokens) : ofSource source = read tokens := by
  obtain ⟨lexemes, hcanonical, rfl, -⟩ := Token.exists_canonical_of_scan h
  have hsource : ofSource source = ofTokens (Lexeme.place 0 lexemes) := by
    rw [ofSource, h]
    rfl
  rw [hsource]
  exact ofTokens_of_ne_endOfLine (Lexeme.inOrder_place 0 lexemes) (hcanonical.ne_endOfLine 0)

/-- A source with a tree is written by a canonical row of lexemes, whose tokens the one-pass reader
turns into the tree. -/
theorem exists_read_of_ofSource {source : String} {node : Node} (h : ofSource source = .ok node) :
    ∃ lexemes : List Lexeme, Lexeme.Canonical lexemes ∧
      Lexeme.encodeAll lexemes = source.toList ∧ read (Lexeme.place 0 lexemes) = .ok node := by
  cases hscan : Token.scan source with
  | error error => simp [ofSource, hscan, Except.mapError, bind, Except.bind] at h
  | ok tokens =>
    obtain ⟨lexemes, hcanonical, rfl, hencode⟩ := Token.exists_canonical_of_scan hscan
    exact ⟨lexemes, hcanonical, hencode, (ofSource_of_scan hscan).symm.trans h⟩

end Node

end CucumberExpression
