import CucumberExpression.Proofs.Node.OnePassReading
import CucumberExpression.Proofs.Span.Tiling

/-!
# Expressions as runs and blanks

The tokens of an expression are runs with blanks between them. Each run makes what `RunItem.gather`
makes of its items, and each blank is a leaf (`Grammar.IsLine`). This is all that reading does: a
source has a tree exactly if the tokens of a canonical row that it is written by make a line, and
the nodes of the line are the children of the root (`Node.ofSource_eq_ok_iff`). Facts about trees
are proved along a line from here on, without a look at how it is read.

The tokens of a source tile it, and each node spans the tokens that make it, so the children of the
root tile the source as well (`Grammar.IsLine.tiles`).
-/

set_option autoImplicit false
set_option relaxedAutoImplicit false

namespace CucumberExpression

namespace Grammar

open OnePass

/-! ### Lines -/

/-- The tokens of a line that ends at `stop`, and its nodes: a run, or a run up to a blank, the
blank, and what follows it. -/
inductive IsLine (stop : Nat) : List Token → List Node → Prop
  | run {run : List Token} {items : List RunItem} (hrun : IsRun run items) :
      IsLine stop run (RunItem.gather stop items)
  | blank {run rest : List Token} {items : List RunItem} {blank : Token} {nodes : List Node}
      (hrun : IsRun run items) (hblank : blank.kind = .whiteSpace)
      (hrest : IsLine stop rest nodes) :
      IsLine stop (run ++ blank :: rest)
        (RunItem.gather blank.span.start items ++ blank.leaf :: nodes)

variable {stop : Nat} {tokens : List Token} {nodes : List Node}

theorem step_blank {blank : Token} (h : blank.kind = .whiteSpace) (done : List Node)
    (items : List RunItem) :
    step ⟨done, items, .nothing⟩ blank =
      ⟨done ++ (RunItem.gather blank.span.start items ++ [blank.leaf]), [], .nothing⟩ := by
  simp only [step, h, List.append_assoc]

/-- The one-pass reader closes a line with its nodes. -/
theorem IsLine.close_foldl_step (h : IsLine stop tokens nodes) (done : List Node) :
    (tokens.foldl step ⟨done, [], .nothing⟩).close stop = .ok (done ++ nodes) := by
  induction h generalizing done with
  | run hrun =>
    rw [foldl_step_of_isRun hrun, List.nil_append]
    rfl
  | blank hrun hblank hrest ih =>
    rw [List.foldl_append, foldl_step_of_isRun hrun, List.nil_append, List.foldl_cons,
      step_blank hblank, ih]
    simp only [List.append_assoc, List.singleton_append]

/-- Tokens that the one-pass reader closes make a line. Assumes: none of them stands for the end of
the line. -/
theorem exists_isLine_of_close (hline : ∀ token ∈ tokens, token.kind ≠ .endOfLine)
    {done result : List Node}
    (h : (tokens.foldl step ⟨done, [], .nothing⟩).close stop = .ok result) :
    ∃ nodes, IsLine stop tokens nodes ∧ result = done ++ nodes := by
  induction hlength : tokens.length using Nat.strong_induction_on generalizing tokens done with
  | _ length ih =>
    obtain ⟨run, items, rest, rfl, hrun, hstop | ⟨error, hopen⟩⟩ := exists_isRun tokens
    · rw [List.foldl_append, foldl_step_of_isRun hrun, List.nil_append] at h
      cases rest with
      | nil =>
        rw [List.append_nil]
        exact ⟨_, .run hrun, (Except.ok.inj h).symm⟩
      | cons blank rest =>
        have hblank : blank.kind = .whiteSpace := by
          have hnotEnd := hline blank (by simp)
          simpa [hnotEnd] using hstop blank rfl
        have hshorter : rest.length < length := by
          simp at hlength
          omega
        rw [List.foldl_cons, step_blank hblank] at h
        obtain ⟨nodes, hnodes, rfl⟩ := ih rest.length hshorter
          (fun token htoken ↦ hline token (by simp [htoken])) h rfl
        exact ⟨_, .blank hrun hblank hnodes, by simp⟩
    · rw [List.foldl_append, foldl_step_of_isRun hrun, State.close,
        error?_foldl_step_of_isOpen hopen] at h
      exact absurd h (by simp)

/-- The one-pass reader gives a tree exactly for the tokens of a line. Assumes: none of the tokens
stands for the end of the line. -/
theorem read_eq_ok_iff (hline : ∀ token ∈ tokens, token.kind ≠ .endOfLine) {root : Node} :
    OnePass.read tokens = .ok root ↔ ∃ nodes, IsLine (TokenLine.endOffset ⟨tokens⟩) tokens nodes ∧
      root = .branch .expression ⟨0, TokenLine.endOffset ⟨tokens⟩⟩ nodes := by
  rw [OnePass.read]
  constructor
  · intro h
    cases hclose : (tokens.foldl step start).close (TokenLine.endOffset ⟨tokens⟩) with
    | error failure => simp [hclose, Except.map] at h
    | ok result =>
      rw [hclose] at h
      obtain ⟨nodes, hnodes, hresult⟩ := exists_isLine_of_close hline hclose
      refine ⟨nodes, hnodes, ?_⟩
      rw [← Except.ok.inj h, hresult, List.nil_append]
  · rintro ⟨nodes, hnodes, rfl⟩
    have hclose : (tokens.foldl step start).close (TokenLine.endOffset ⟨tokens⟩) = .ok nodes :=
      hnodes.close_foldl_step []
    rw [hclose]
    rfl

/-! ### Spans along a line -/

variable {start : Nat}

open CucumberExpression.Span (Tiles)

/-- A node of a word spans its tokens. -/
theorem IsContent.span_eq {group : List Token} {node : Node} (h : IsContent group node)
    (htiles : Tiles start stop (group.map Token.span)) : node.span = ⟨start, stop⟩ := by
  have hbracket {opening closing : Token} {inside : List Token}
      (htiles : Tiles start stop ((opening :: (inside ++ [closing])).map Token.span)) :
      (⟨opening.span.start, closing.span.stop⟩ : Span) = ⟨start, stop⟩ := by
    rw [List.map_cons, List.map_append] at htiles
    obtain ⟨hstart, -, hrest⟩ := htiles
    obtain ⟨middle, -, hclosing⟩ := hrest.exists_middle
    obtain ⟨-, -, hstop⟩ := hclosing
    have hstop : closing.span.stop = stop := hstop
    rw [hstart, hstop]
  cases h with
  | @text token hplain =>
    obtain ⟨hstart, -, hstop⟩ := htiles
    have hstop : token.span.stop = stop := hstop
    rw [← hstart, ← hstop]
    rfl
  | parameter hgroup =>
    obtain ⟨⟩ := hgroup
    exact hbracket htiles
  | optional => exact hbracket htiles

/-- The nodes of a run without separators tile what its tokens tile. -/
theorem IsRun.tiles_groups {run : List Token} {items : List RunItem} (h : IsRun run items)
    (hnone : items.any RunItem.isSeparator = false)
    (htiles : Tiles start stop (run.map Token.span)) :
    Tiles start stop ((RunItem.groups items).1.map Node.span) := by
  induction h generalizing start with
  | nil => exact htiles
  | separator => simp [RunItem.isSeparator] at hnone
  | @content group tokens node items hgroup hrest ih =>
    rw [List.map_append] at htiles
    obtain ⟨middle, hfront, hback⟩ := htiles.exists_middle
    have hspan := hgroup.span_eq hfront
    have hothers := ih (by simpa [RunItem.isSeparator] using hnone) hback
    refine ⟨by rw [hspan], ?_, ?_⟩
    · rw [hspan]
      exact hfront.le
    · rw [hspan]
      exact hothers

/-- What a run makes tiles what its tokens tile. -/
theorem IsRun.tiles_gather {run : List Token} {items : List RunItem} (h : IsRun run items)
    (htiles : Tiles start stop (run.map Token.span)) :
    Tiles start stop ((RunItem.gather stop items).map Node.span) := by
  cases hany : items.any RunItem.isSeparator with
  | false =>
    rw [RunItem.gather_of_none hany]
    exact h.tiles_groups hany htiles
  | true =>
    obtain ⟨first, others, rfl⟩ := List.exists_cons_of_ne_nil (h.ne_nil_of_any hany)
    obtain ⟨item, items, rfl, hitem⟩ := h.head_start
    have hle := htiles.le
    obtain ⟨hstart, -, -⟩ := htiles
    have hfirst : item.start = start := hitem.trans hstart
    rw [RunItem.gather_of_any hany (by simpa using hfirst)]
    exact Tiles.singleton hle

/-- The nodes of a line tile what its tokens tile. -/
theorem IsLine.tiles (h : IsLine stop tokens nodes)
    (htiles : Tiles start stop (tokens.map Token.span)) :
    Tiles start stop (nodes.map Node.span) := by
  induction h generalizing start with
  | run hrun => exact hrun.tiles_gather htiles
  | @blank run rest items blank nodes hrun hblank hrest ih =>
    rw [List.map_append, List.map_cons] at htiles ⊢
    obtain ⟨middle, hfront, hmiddle, hupright, hback⟩ := htiles.exists_middle
    subst hmiddle
    exact (hrun.tiles_gather hfront).append ⟨rfl, hupright, ih hback⟩

end Grammar

open CucumberExpression.Span (Tiles)

/-- Lexemes that are laid out tile what they are written in. -/
theorem Lexeme.tiles_place (offset : Nat) (lexemes : List Lexeme) :
    Tiles offset (offset + (encodeAll lexemes).length) ((place offset lexemes).map Token.span) := by
  induction lexemes generalizing offset with
  | nil => exact Nat.add_zero offset
  | cons lexeme lexemes ih =>
    rw [encodeAll_cons, List.length_append, ← Nat.add_assoc]
    exact ⟨rfl, Nat.le_add_right _ _, ih (offset + lexeme.encode.length)⟩

/-- The tokens of a source tile it. -/
theorem Lexeme.tiles_source {source : String} {lexemes : List Lexeme}
    (h : encodeAll lexemes = source.toList) :
    Tiles 0 source.length ((place 0 lexemes).map Token.span) := by
  have htiles := tiles_place 0 lexemes
  rwa [h, Nat.zero_add, String.length_toList] at htiles

/-- A source has a tree exactly if it is written by a canonical row of lexemes whose tokens make a
line; the nodes of the line are then the children of the root. -/
theorem Node.ofSource_eq_ok_iff {source : String} {root : Node} :
    ofSource source = .ok root ↔ ∃ lexemes nodes, Lexeme.Canonical lexemes ∧
      Lexeme.encodeAll lexemes = source.toList ∧
        Grammar.IsLine source.length (Lexeme.place 0 lexemes) nodes ∧
          root = .branch .expression ⟨0, source.length⟩ nodes := by
  have hlength {lexemes : List Lexeme} (hencode : Lexeme.encodeAll lexemes = source.toList) :
      TokenLine.endOffset ⟨Lexeme.place 0 lexemes⟩ = source.length := by
    rw [Lexeme.endOffset_place, hencode, String.length_toList]
  constructor
  · intro h
    obtain ⟨lexemes, hcanonical, hencode, hread⟩ := exists_read_of_ofSource h
    obtain ⟨nodes, hnodes, hroot⟩ :=
      (Grammar.read_eq_ok_iff (hcanonical.ne_endOfLine 0)).mp hread
    rw [hlength hencode] at hnodes hroot
    exact ⟨lexemes, nodes, hcanonical, hencode, hnodes, hroot⟩
  · rintro ⟨lexemes, nodes, hcanonical, hencode, hnodes, hroot⟩
    rw [← hlength hencode] at hnodes hroot
    rw [ofSource_of_scan (Token.scan_eq_ok_iff.mpr ⟨lexemes, hcanonical, rfl, hencode⟩)]
    exact (Grammar.read_eq_ok_iff (hcanonical.ne_endOfLine 0)).mpr ⟨nodes, hnodes, hroot⟩

end CucumberExpression
