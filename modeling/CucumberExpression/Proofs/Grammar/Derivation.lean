import CucumberExpression.Node.Grammar
import CucumberExpression.Proofs.Token.Order

/-!
# Which tokens make which nodes

The constructs of the grammar as relations between the tokens of a construct and the node that they
make. A parameter ends with the first closing brace, an optional part with the first closing
parenthesis outside the parameters in it, and a run of items ends before a blank or the end of the
line. A bracket may stay open: then the tokens after it make no node, and the innermost bracket that
stays open is the one to blame.

The relations say nothing about rules, choices or repetition. That every row of tokens begins with a
run, and what stands after it, is `exists_isRun`.
-/

set_option autoImplicit false
set_option relaxedAutoImplicit false

namespace CucumberExpression

/-- A token as literal text. -/
def Token.leaf (token : Token) : Node := .leaf .text token.span token.text

namespace Grammar

/-! ### Constructs -/

/-- A brace, tokens other than its partner, and its partner make a parameter. -/
inductive IsParameter : List Token → Node → Prop
  | intro {opening closing : Token} {inside : List Token}
      (hopening : opening.kind = .beginParameter)
      (hinside : ∀ token ∈ inside, token.kind ≠ .endParameter)
      (hclosing : closing.kind = .endParameter) :
      IsParameter (opening :: (inside ++ [closing]))
        (.branch .parameter ⟨opening.span.start, closing.span.stop⟩ (inside.map Token.leaf))

/-- The inside of an optional part: parameters, and tokens that neither open one nor end the
optional part. -/
inductive IsInside : List Token → List Node → Prop
  | nil : IsInside [] []
  | text {token : Token} {tokens : List Token} {nodes : List Node}
      (hopening : token.kind ≠ .beginParameter) (hclosing : token.kind ≠ .endOptional)
      (hrest : IsInside tokens nodes) : IsInside (token :: tokens) (token.leaf :: nodes)
  | parameter {group tokens : List Token} {node : Node} {nodes : List Node}
      (hgroup : IsParameter group node) (hrest : IsInside tokens nodes) :
      IsInside (group ++ tokens) (node :: nodes)

/-- Whether a token of this kind is literal text inside a word. -/
def isPlain : TokenKind → Bool
  | .beginParameter | .beginOptional | .alternation | .whiteSpace | .endOfLine => false
  | _ => true

/-- The tokens that make one node of a word: a parameter, an optional part or literal text. -/
inductive IsContent : List Token → Node → Prop
  | text {token : Token} (hplain : isPlain token.kind = true) : IsContent [token] token.leaf
  | parameter {group : List Token} {node : Node} (hgroup : IsParameter group node) :
      IsContent group node
  | optional {opening closing : Token} {inside : List Token} {nodes : List Node}
      (hopening : opening.kind = .beginOptional) (hinside : IsInside inside nodes)
      (hclosing : closing.kind = .endOptional) :
      IsContent (opening :: (inside ++ [closing]))
        (.branch .optional ⟨opening.span.start, closing.span.stop⟩ nodes)

/-- A run of items: separators, and what words are made of. -/
inductive IsRun : List Token → List RunItem → Prop
  | nil : IsRun [] []
  | separator {token : Token} {tokens : List Token} {items : List RunItem}
      (hkind : token.kind = .alternation) (hrest : IsRun tokens items) :
      IsRun (token :: tokens) (.separator token.span :: items)
  | content {group tokens : List Token} {node : Node} {items : List RunItem}
      (hgroup : IsContent group node) (hrest : IsRun tokens items) :
      IsRun (group ++ tokens) (.content node :: items)

/-- The error for a parameter that is not closed. -/
def unclosedParameter (opening : Token) : SyntaxError :=
  ⟨.unclosed .beginParameter .endParameter, opening.span⟩

/-- The error for an optional part that is not closed. -/
def unclosedOptional (opening : Token) : SyntaxError :=
  ⟨.unclosed .beginOptional .endOptional, opening.span⟩

/-- A brace without its partner. -/
inductive IsOpenParameter : List Token → SyntaxError → Prop
  | intro {opening : Token} {inside : List Token} (hopening : opening.kind = .beginParameter)
      (hinside : ∀ token ∈ inside, token.kind ≠ .endParameter) :
      IsOpenParameter (opening :: inside) (unclosedParameter opening)

/-- A bracket without its partner, and the error that blames the innermost such bracket. -/
inductive IsOpen : List Token → SyntaxError → Prop
  | parameter {tokens : List Token} {error : SyntaxError} (h : IsOpenParameter tokens error) :
      IsOpen tokens error
  | optional {opening : Token} {inside : List Token} {nodes : List Node}
      (hopening : opening.kind = .beginOptional) (hinside : IsInside inside nodes) :
      IsOpen (opening :: inside) (unclosedOptional opening)
  | nested {outer : Token} {inside tokens : List Token} {nodes : List Node} {error : SyntaxError}
      (houter : outer.kind = .beginOptional) (hinside : IsInside inside nodes)
      (h : IsOpenParameter tokens error) : IsOpen (outer :: (inside ++ tokens)) error

/-! ### Every row of tokens is laid out in constructs -/

/-- Splits a row at its first token of a kind. -/
theorem exists_split_kind (kind : TokenKind) (tokens : List Token) :
    (∀ token ∈ tokens, token.kind ≠ kind) ∨ ∃ front token back, tokens = front ++ token :: back ∧
      (∀ other ∈ front, other.kind ≠ kind) ∧ token.kind = kind := by
  cases hfind : tokens.find? (·.kind == kind) with
  | none => exact .inl (by simpa using hfind)
  | some token =>
    obtain ⟨hkind, front, back, hsplit, hfront⟩ := List.find?_eq_some_iff_append.mp hfind
    exact .inr ⟨front, token, back, hsplit, by simpa using hfront, by simpa using hkind⟩

/-- A brace is closed, or stays open up to the end. -/
theorem exists_isParameter {opening : Token} (hopening : opening.kind = .beginParameter)
    (tokens : List Token) :
    (∃ group node rest, opening :: tokens = group ++ rest ∧ IsParameter group node) ∨
      IsOpenParameter (opening :: tokens) (unclosedParameter opening) := by
  rcases exists_split_kind .endParameter tokens with
    hnone | ⟨inside, closing, rest, rfl, hinside, hclosing⟩
  · exact .inr (.intro hopening hnone)
  · exact .inl ⟨_, _, rest, by simp, .intro hopening hinside hclosing⟩

/-- What stands after the inside of an optional part: nothing, its closing parenthesis, or a brace
that stays open. -/
theorem exists_isInside (tokens : List Token) :
    ∃ inside nodes rest, tokens = inside ++ rest ∧ IsInside inside nodes ∧
      ((∀ token ∈ rest.head?, token.kind = .endOptional) ∨
        ∃ error, IsOpenParameter rest error) := by
  induction hlength : tokens.length using Nat.strong_induction_on generalizing tokens with
  | _ length ih =>
    cases tokens with
    | nil => exact ⟨[], [], [], rfl, .nil, .inl (by simp)⟩
    | cons token tokens =>
      by_cases hclosing : token.kind = .endOptional
      · exact ⟨[], [], token :: tokens, rfl, .nil, .inl (by simpa using hclosing)⟩
      by_cases hopening : token.kind = .beginParameter
      · rcases exists_isParameter hopening tokens with ⟨group, node, rest, hsplit, hgroup⟩ | hopen
        · have hshorter : rest.length < length := by
            obtain ⟨⟩ := hgroup
            have := congrArg List.length hsplit
            simp at this hlength
            omega
          obtain ⟨inside, nodes, last, rfl, hinside, hlast⟩ := ih _ hshorter rest rfl
          exact ⟨group ++ inside, node :: nodes, last, by simp [hsplit], .parameter hgroup hinside,
            hlast⟩
        · exact ⟨[], [], token :: tokens, rfl, .nil, .inr ⟨_, hopen⟩⟩
      · obtain ⟨inside, nodes, last, rfl, hinside, hlast⟩ :=
          ih tokens.length (by simp at hlength; omega) tokens rfl
        exact ⟨token :: inside, token.leaf :: nodes, last, rfl, .text hopening hclosing hinside,
          hlast⟩

/-- A token that neither ends a run nor parts two alternatives begins a node, or opens a bracket
that stays open. -/
theorem exists_isContent {token : Token} (tokens : List Token)
    (hkind : token.kind ∉ [.alternation, .whiteSpace, .endOfLine]) :
    (∃ group node rest, token :: tokens = group ++ rest ∧ IsContent group node) ∨
      ∃ error, IsOpen (token :: tokens) error := by
  by_cases hparameter : token.kind = .beginParameter
  · rcases exists_isParameter hparameter tokens with ⟨group, node, rest, hsplit, hgroup⟩ | hopen
    · exact .inl ⟨group, node, rest, hsplit, .parameter hgroup⟩
    · exact .inr ⟨_, .parameter hopen⟩
  by_cases hoptional : token.kind = .beginOptional
  · obtain ⟨inside, nodes, rest, rfl, hinside, hrest | ⟨error, hopen⟩⟩ := exists_isInside tokens
    · cases rest with
      | nil =>
        rw [List.append_nil]
        exact .inr ⟨_, .optional hoptional hinside⟩
      | cons closing rest =>
        exact .inl ⟨_, _, rest, by simp, .optional hoptional hinside (hrest closing rfl)⟩
    · exact .inr ⟨error, .nested hoptional hinside hopen⟩
  · have hplain : isPlain token.kind = true := by
      revert hparameter hoptional hkind
      cases token.kind <;> decide
    exact .inl ⟨[token], token.leaf, tokens, rfl, .text hplain⟩

theorem IsContent.ne_nil {group : List Token} {node : Node} (h : IsContent group node) :
    group ≠ [] := by
  cases h with
  | text => exact List.cons_ne_nil _ _
  | parameter hgroup =>
    obtain ⟨⟩ := hgroup
    exact List.cons_ne_nil _ _
  | optional => exact List.cons_ne_nil _ _

theorem IsParameter.head_kind {group : List Token} {node : Node} (h : IsParameter group node) :
    ∀ token ∈ group.head?, token.kind = .beginParameter := by
  obtain @⟨opening, closing, inside, hopening, hinside, hclosing⟩ := h
  simpa using hopening

theorem IsContent.head_kind {group : List Token} {node : Node} (h : IsContent group node) :
    ∀ token ∈ group.head?, token.kind ∉ [TokenKind.alternation, .whiteSpace, .endOfLine] := by
  cases h with
  | @text token hplain =>
    intro other hother
    obtain rfl : token = other := Option.some.inj hother
    revert hplain
    cases token.kind <;> decide
  | parameter hgroup =>
    intro token htoken
    rw [hgroup.head_kind token htoken]
    decide
  | @optional opening closing inside nodes hopening hinside hclosing =>
    intro token htoken
    obtain rfl : opening = token := Option.some.inj htoken
    rw [hopening]
    decide

/-- A node starts where the first of its tokens does. -/
theorem IsContent.head_start {group : List Token} {node : Node} (h : IsContent group node) :
    ∀ token ∈ group.head?, node.span.start = token.span.start := by
  cases h with
  | text hplain => exact fun token htoken ↦ by rw [← Option.some.inj htoken]; rfl
  | parameter hgroup =>
    obtain ⟨⟩ := hgroup
    exact fun token htoken ↦ by rw [← Option.some.inj htoken]; rfl
  | optional => exact fun token htoken ↦ by rw [← Option.some.inj htoken]; rfl

theorem IsRun.head_kind {run : List Token} {items : List RunItem} (h : IsRun run items) :
    ∀ token ∈ run.head?, token.kind ∉ [TokenKind.whiteSpace, .endOfLine] := by
  cases h with
  | nil => simp
  | @separator token tokens items hkind hrest =>
    intro other hother
    obtain rfl : token = other := Option.some.inj hother
    rw [hkind]
    decide
  | @content group tokens node items hgroup hrest =>
    obtain ⟨first, others, rfl⟩ := List.exists_cons_of_ne_nil hgroup.ne_nil
    exact fun token htoken hkind ↦ hgroup.head_kind token htoken (List.mem_cons_of_mem _ hkind)

theorem IsRun.eq_nil {items : List RunItem} (h : IsRun [] items) : items = [] := by
  generalize hnil : [] = tokens at h
  cases h with
  | nil => rfl
  | separator => exact absurd hnil.symm (List.cons_ne_nil _ _)
  | content hgroup => exact absurd (List.append_eq_nil_iff.mp hnil.symm).1 hgroup.ne_nil

theorem IsRun.append {front back : List Token} {items items' : List RunItem}
    (hfront : IsRun front items) (hback : IsRun back items') :
    IsRun (front ++ back) (items ++ items') := by
  induction hfront with
  | nil => exact hback
  | separator hkind hrest ih => exact .separator hkind ih
  | content hgroup hrest ih =>
    rw [List.append_assoc]
    exact .content hgroup ih

theorem IsOpen.exists_cons {tokens : List Token} {error : SyntaxError} (h : IsOpen tokens error) :
    ∃ opening others, tokens = opening :: others ∧
      (opening.kind = .beginParameter ∨ opening.kind = .beginOptional) := by
  cases h with
  | parameter hopen =>
    obtain @⟨opening, inside, hopening, hinside⟩ := hopen
    exact ⟨opening, inside, rfl, .inl hopening⟩
  | optional hopening => exact ⟨_, _, rfl, .inr hopening⟩
  | nested houter => exact ⟨_, _, rfl, .inr houter⟩

/-- Every row of tokens begins with a run. What stands after it is nothing, a blank, a token for the
end of the line, or a bracket that stays open. -/
theorem exists_isRun (tokens : List Token) :
    ∃ run items rest, tokens = run ++ rest ∧ IsRun run items ∧
      ((∀ token ∈ rest.head?, token.kind ∈ [TokenKind.whiteSpace, .endOfLine]) ∨
        ∃ error, IsOpen rest error) := by
  induction hlength : tokens.length using Nat.strong_induction_on generalizing tokens with
  | _ length ih =>
    cases tokens with
    | nil => exact ⟨[], [], [], rfl, .nil, .inl (by simp)⟩
    | cons token tokens =>
      by_cases hend : token.kind ∈ [TokenKind.whiteSpace, .endOfLine]
      · exact ⟨[], [], token :: tokens, rfl, .nil, .inl (by simpa using hend)⟩
      by_cases hseparator : token.kind = .alternation
      · obtain ⟨run, items, rest, rfl, hrun, hrest⟩ :=
          ih tokens.length (by simp at hlength; omega) tokens rfl
        exact ⟨token :: run, _, rest, rfl, .separator hseparator hrun, hrest⟩
      · have hkind : token.kind ∉ [TokenKind.alternation, .whiteSpace, .endOfLine] := by
          simpa [hseparator] using hend
        rcases exists_isContent tokens hkind with ⟨group, node, back, hsplit, hgroup⟩ | hopen
        · have hshorter : back.length < length := by
            have hpositive := List.length_pos_iff.mpr hgroup.ne_nil
            have hsum := congrArg List.length hsplit
            rw [List.length_append, hlength] at hsum
            omega
          obtain ⟨run, items, rest, rfl, hrun, hrest⟩ := ih _ hshorter back rfl
          exact ⟨group ++ run, _, rest, by rw [hsplit, List.append_assoc], .content hgroup hrun,
            hrest⟩
        · exact ⟨[], [], token :: tokens, rfl, .nil, .inr hopen⟩

end Grammar

end CucumberExpression
