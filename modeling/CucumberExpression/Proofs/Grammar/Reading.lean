import CucumberExpression.Proofs.Grammar.Derivation

/-!
# What the rules read

Each rule and each choice against the constructs of the grammar: a bracket rule takes the tokens of
its construct and no more, and refuses a bracket that stays open with the error that the constructs
name. The row of pieces that a choice makes is cut into groups (`readUntil_group`), so what is read
of the inside of a bracket follows group by group (`readUntil_inside`), and so does what one node of
a word takes (`firstOf_content`). A construct takes its span from two of its tokens, so all of this
is for tokens in order.
-/

set_option autoImplicit false
set_option relaxedAutoImplicit false

namespace CucumberExpression

namespace Grammar

variable {α : Type}

/-! ### Choices -/

theorem firstOf_of_none {rule : Rule α} {rules : List (Rule α)} {before : TokenKind}
    {tokens : List Token} (h : rule before tokens = .ok none) :
    firstOf (rule :: rules) before tokens = firstOf rules before tokens := by
  rw [firstOf, h]
  rfl

theorem firstOf_of_some {rule : Rule α} {rules : List (Rule α)} {before : TokenKind}
    {tokens : List Token} {count : Nat} {value : α} (hcount : 0 < count)
    (h : rule before tokens = .ok (some ⟨count, value⟩)) :
    firstOf (rule :: rules) before tokens = .ok ⟨count, value⟩ := by
  obtain ⟨count, rfl⟩ := Nat.exists_eq_add_of_lt hcount
  rw [firstOf, h]
  simp only [Nat.zero_add]
  rfl

theorem firstOf_of_error {rule : Rule α} {rules : List (Rule α)} {before : TokenKind}
    {tokens : List Token} {failure : Failure} (h : rule before tokens = .error failure) :
    firstOf (rule :: rules) before tokens = .error failure := by
  rw [firstOf, h]
  rfl

/-! ### Rows of pieces -/

/-- The kind before the tokens that stand behind a group. -/
def kindAfter (before : TokenKind) (group : List Token) : TokenKind :=
  (group.getLast?.map Token.kind).getD before

theorem kindAfter_cons (before : TokenKind) (token : Token) (group : List Token) :
    kindAfter before (token :: group) = kindAfter token.kind group := by
  cases hlast : group.getLast? <;> simp [kindAfter, List.getLast?_cons, hlast]

theorem kindAfter_append (before : TokenKind) (front back : List Token) :
    kindAfter before (front ++ back) = kindAfter (kindAfter before front) back := by
  cases hlast : back.getLast? <;> simp [kindAfter, List.getLast?_append, hlast]

/-- What is read when a group that makes the given values stands in front of what is read. -/
def ahead (group : List Token) (values : List α) (result : Except Failure (Nat × List α)) :
    Except Failure (Nat × List α) :=
  result.map fun taken ↦ (group.length + taken.1, values ++ taken.2)

@[simp] theorem ahead_error (group : List Token) (values : List α) (failure : Failure) :
    ahead group values (.error failure) = .error failure := rfl

@[simp] theorem ahead_ok (group : List Token) (values : List α) (taken : Nat × List α) :
    ahead group values (.ok taken) = .ok (group.length + taken.1, values ++ taken.2) := rfl

@[simp] theorem ahead_nil (result : Except Failure (Nat × List α)) :
    ahead [] [] result = result := by
  cases result <;> simp

theorem ahead_ahead (group group' : List Token) (values values' : List α)
    (result : Except Failure (Nat × List α)) :
    ahead group values (ahead group' values' result) =
      ahead (group ++ group') (values ++ values') result := by
  cases result <;> simp [Nat.add_assoc]

variable {rules : List (Rule α)} {stops : List TokenKind} {before : TokenKind}

/-- The tokens that the last piece has taken are passed over. -/
theorem readUntil_skip (front rest : List Token) :
    readUntil rules stops front.length before (front ++ rest) =
      readUntil rules stops 0 (kindAfter before front) rest := by
  induction front generalizing before with
  | nil => rfl
  | cons token front ih =>
    rw [kindAfter_cons, List.cons_append, List.length_cons, readUntil]
    exact ih

/-- Nothing is read at the end, or where a token of a stopping kind stands. -/
theorem readUntil_stop {tokens : List Token} (h : ∀ token ∈ tokens.head?, token.kind ∈ stops) :
    readUntil rules stops 0 before tokens = .ok (0, []) := by
  cases tokens with
  | nil => rfl
  | cons token tokens => exact if_pos (h token rfl)

/-- Assumes: a group that the choice takes as one piece, and that does not begin with a token of a
stopping kind. What is read is this piece and what is read behind the group. -/
theorem readUntil_group {group rest : List Token} {value : α} (hne : group ≠ [])
    (hstop : ∀ token ∈ group.head?, token.kind ∉ stops)
    (h : firstOf rules before (group ++ rest) = .ok ⟨group.length, value⟩) :
    readUntil rules stops 0 before (group ++ rest) =
      ahead group [value] (readUntil rules stops 0 (kindAfter before group) rest) := by
  obtain ⟨token, group, rfl⟩ := List.exists_cons_of_ne_nil hne
  rw [List.cons_append] at h ⊢
  have hskip : readUntil rules stops group.length token.kind (group ++ rest) = _ :=
    readUntil_skip group rest
  rw [readUntil, if_neg (hstop token rfl), h, kindAfter_cons, ← hskip]
  rfl

/-- Assumes: groups that make the given values, and behind them the end or a token of a stopping
kind. The groups are all that is read. -/
theorem readUntil_up_to_stop {group rest : List Token} {values : List α}
    (hread : readUntil rules stops 0 before (group ++ rest) =
      ahead group values (readUntil rules stops 0 (kindAfter before group) rest))
    (hrest : ∀ token ∈ rest.head?, token.kind ∈ stops) :
    readUntil rules stops 0 before (group ++ rest) = .ok (group.length, values) := by
  rw [hread, readUntil_stop hrest, ahead_ok, Nat.add_zero, List.append_nil]

/-- A choice that fails fails the row. -/
theorem readUntil_error {token : Token} {tokens : List Token} {failure : Failure}
    (hstop : token.kind ∉ stops) (h : firstOf rules before (token :: tokens) = .error failure) :
    readUntil rules stops 0 before (token :: tokens) = .error failure := by
  rw [readUntil, if_neg hstop, h]
  rfl

/-! ### Brackets -/

section Bracket

variable {bracket : Bracket} {inside : List (Rule Node)} {opening : Token} {tokens : List Token}

theorem Bracket.rule_of_ne (h : opening.kind ≠ bracket.opening) :
    bracket.rule inside before (opening :: tokens) = .ok none :=
  if_neg h

/-- A failure inside a bracket is a failure of the bracket. -/
theorem Bracket.rule_of_error {failure : Failure} (hopening : opening.kind = bracket.opening)
    (h : readUntil inside [bracket.closing] 0 opening.kind tokens = .error failure) :
    bracket.rule inside before (opening :: tokens) = .error failure := by
  rw [Bracket.rule, if_pos hopening, h]
  rfl

/-- A bracket whose inside reaches to the end of the tokens stays open. -/
theorem Bracket.rule_of_open {nodes : List Node} (hopening : opening.kind = bracket.opening)
    (h : readUntil inside [bracket.closing] 0 opening.kind tokens = .ok (tokens.length, nodes)) :
    bracket.rule inside before (opening :: tokens) =
      .error (.rejected ⟨.unclosed bracket.opening bracket.closing, opening.span⟩) := by
  rw [Bracket.rule, if_pos hopening, h]
  simp only [bind, Except.bind, List.drop_length]

/-- A bracket whose inside stops before a token takes that token as its end. -/
theorem Bracket.rule_of_closed {body rest : List Token} {closing : Token} {nodes : List Node}
    (hopening : opening.kind = bracket.opening)
    (h : readUntil inside [bracket.closing] 0 opening.kind (body ++ closing :: rest) =
      .ok (body.length, nodes))
    (hle : opening.span.start ≤ closing.span.stop) :
    bracket.rule inside before (opening :: (body ++ closing :: rest)) =
      .ok (some ⟨body.length + 2,
        .branch bracket.kind ⟨opening.span.start, closing.span.stop⟩ nodes⟩) := by
  rw [Bracket.rule, if_pos hopening, h]
  simp only [bind, Except.bind, List.drop_left, Span.ofBounds_of_le hle]
  rfl

end Bracket

/-! ### Parameters -/

theorem firstOf_text (token : Token) (tokens : List Token) :
    firstOf [text] before (token :: tokens) = .ok ⟨1, token.leaf⟩ := rfl

/-- Tokens other than the stopping one are read as literal text. -/
theorem readUntil_text {kind : TokenKind} {inside : List Token}
    (hinside : ∀ token ∈ inside, token.kind ≠ kind) (rest : List Token) :
    readUntil [text] [kind] 0 before (inside ++ rest) =
      ahead inside (inside.map Token.leaf)
        (readUntil [text] [kind] 0 (kindAfter before inside) rest) := by
  induction inside generalizing before with
  | nil => exact (ahead_nil _).symm
  | cons token inside ih =>
    have htoken : token.kind ≠ kind := hinside token List.mem_cons_self
    have hothers : ∀ other ∈ inside, other.kind ≠ kind := fun other hother ↦
      hinside other (List.mem_cons_of_mem _ hother)
    have hfirst : firstOf [text] before ([token] ++ (inside ++ rest)) = _ := firstOf_text token _
    have hstop : ∀ other ∈ [token].head?, other.kind ∉ [kind] := by simpa using htoken
    have hgroup := readUntil_group (List.cons_ne_nil token []) hstop hfirst
    rw [ih hothers, ahead_ahead, ← kindAfter_append] at hgroup
    exact hgroup

theorem parameter_of_isParameter {group : List Token} {node : Node} (h : IsParameter group node)
    (horder : Token.InOrder group) (rest : List Token) :
    parameter before (group ++ rest) = .ok (some ⟨group.length, node⟩) := by
  obtain @⟨opening, closing, inside, hopening, hinside, hclosing⟩ := h
  have hread : readUntil [text] [.endParameter] 0 opening.kind (inside ++ closing :: rest) =
      .ok (inside.length, inside.map Token.leaf) :=
    readUntil_up_to_stop (readUntil_text hinside _) (by simpa using hclosing)
  have hlength : (opening :: (inside ++ [closing])).length = inside.length + 2 := by simp
  rw [List.cons_append, List.append_assoc, List.singleton_append, hlength]
  exact Bracket.rule_of_closed hopening hread (horder.start_le_stop closing (by simp))

theorem parameter_of_isOpenParameter {tokens : List Token} {error : SyntaxError}
    (h : IsOpenParameter tokens error) : parameter before tokens = .error (.rejected error) := by
  obtain @⟨opening, inside, hopening, hinside⟩ := h
  have hread : readUntil [text] [.endParameter] 0 opening.kind (inside ++ []) =
      .ok (inside.length, inside.map Token.leaf) :=
    readUntil_up_to_stop (readUntil_text hinside []) (by simp)
  rw [List.append_nil] at hread
  exact Bracket.rule_of_open hopening hread

/-! ### Optional parts -/

/-- The inside of an optional part is read as its nodes. -/
theorem readUntil_inside {inside : List Token} {nodes : List Node} (h : IsInside inside nodes)
    (horder : Token.InOrder inside) (rest : List Token) :
    readUntil [parameter, text] [.endOptional] 0 before (inside ++ rest) =
      ahead inside nodes
        (readUntil [parameter, text] [.endOptional] 0 (kindAfter before inside) rest) := by
  induction h generalizing before with
  | nil => exact (ahead_nil _).symm
  | @text token tokens nodes hopening hclosing hrest ih =>
    have hfirst : firstOf [parameter, text] before ([token] ++ (tokens ++ rest)) = _ :=
      (firstOf_of_none (Bracket.rule_of_ne hopening)).trans (firstOf_text token _)
    have hstop : ∀ other ∈ [token].head?, other.kind ∉ [TokenKind.endOptional] := by
      simpa using hclosing
    have hgroup := readUntil_group (List.cons_ne_nil token []) hstop hfirst
    rw [ih horder.tail, ahead_ahead, ← kindAfter_append] at hgroup
    exact hgroup
  | @parameter group tokens node nodes hparameter hrest ih =>
    have hne : group ≠ [] := (IsContent.parameter hparameter).ne_nil
    have hfirst : firstOf [parameter, text] before (group ++ (tokens ++ rest)) = _ :=
      firstOf_of_some (List.length_pos_iff.mpr hne)
        (parameter_of_isParameter hparameter horder.left _)
    have hstop : ∀ token ∈ group.head?, token.kind ∉ [TokenKind.endOptional] := by
      intro token htoken
      rw [hparameter.head_kind token htoken]
      decide
    have hgroup := readUntil_group hne hstop hfirst
    rw [ih horder.right, ahead_ahead, ← kindAfter_append] at hgroup
    rw [List.append_assoc]
    exact hgroup

/-- A brace that stays open fails the inside of an optional part. -/
theorem readUntil_inside_of_isOpenParameter {tokens : List Token} {error : SyntaxError}
    (h : IsOpenParameter tokens error) :
    readUntil [parameter, text] [.endOptional] 0 before tokens = .error (.rejected error) := by
  have herror : parameter before tokens = .error (.rejected error) :=
    parameter_of_isOpenParameter h
  obtain @⟨opening, inside, hopening, hinside⟩ := h
  exact readUntil_error (by simp [hopening]) (firstOf_of_error herror)

theorem optional_of_isInside {opening closing : Token} {inside : List Token} {nodes : List Node}
    (hopening : opening.kind = .beginOptional) (hinside : IsInside inside nodes)
    (hclosing : closing.kind = .endOptional)
    (horder : Token.InOrder (opening :: (inside ++ [closing]))) (rest : List Token) :
    optional before (opening :: (inside ++ closing :: rest)) =
      .ok (some ⟨inside.length + 2,
        .branch .optional ⟨opening.span.start, closing.span.stop⟩ nodes⟩) := by
  have hread : readUntil [parameter, text] [.endOptional] 0 opening.kind
      (inside ++ closing :: rest) = .ok (inside.length, nodes) :=
    readUntil_up_to_stop (readUntil_inside hinside horder.tail.left _) (by simpa using hclosing)
  exact Bracket.rule_of_closed hopening hread (horder.start_le_stop closing (by simp))

/-! ### Contents of words -/

/-- What a word is made of, in the order in which the rules are tried. -/
def content : List (Rule Node) := [optional, parameter, text]

/-- A token that opens no bracket is taken as literal text. -/
theorem firstOf_content_of_ne {token : Token} (hoptional : token.kind ≠ .beginOptional)
    (hparameter : token.kind ≠ .beginParameter) (tokens : List Token) :
    firstOf content before (token :: tokens) = .ok ⟨1, token.leaf⟩ :=
  calc firstOf content before (token :: tokens)
      = firstOf [parameter, text] before (token :: tokens) :=
        firstOf_of_none (Bracket.rule_of_ne hoptional)
    _ = firstOf [text] before (token :: tokens) := firstOf_of_none (Bracket.rule_of_ne hparameter)
    _ = .ok ⟨1, token.leaf⟩ := firstOf_text token tokens

/-- The tokens of one node of a word are taken as that node. -/
theorem firstOf_content {group : List Token} {node : Node} (h : IsContent group node)
    (horder : Token.InOrder group) (rest : List Token) :
    firstOf content before (group ++ rest) = .ok ⟨group.length, node⟩ := by
  cases h with
  | @text token hplain =>
    have hoptional : token.kind ≠ .beginOptional := by rintro h; simp [h, isPlain] at hplain
    have hparameter : token.kind ≠ .beginParameter := by rintro h; simp [h, isPlain] at hplain
    exact firstOf_content_of_ne hoptional hparameter rest
  | parameter hgroup =>
    have htake : parameter before (group ++ rest) = .ok (some ⟨group.length, node⟩) :=
      parameter_of_isParameter hgroup horder rest
    have hpositive := List.length_pos_iff.mpr (IsContent.parameter hgroup).ne_nil
    obtain @⟨opening, closing, inside, hopening, hinside, hclosing⟩ := hgroup
    have hoptional : opening.kind ≠ .beginOptional := by rw [hopening]; decide
    exact (firstOf_of_none (Bracket.rule_of_ne hoptional)).trans (firstOf_of_some hpositive htake)
  | @optional opening closing inside nodes hopening hinside hclosing =>
    have hlength : (opening :: (inside ++ [closing])).length = inside.length + 2 := by simp
    rw [List.cons_append, List.append_assoc, List.singleton_append, hlength]
    exact firstOf_of_some (Nat.succ_pos _)
      (optional_of_isInside hopening hinside hclosing horder rest)

/-- A bracket that stays open fails the choice. -/
theorem firstOf_content_of_isOpen {tokens : List Token} {error : SyntaxError}
    (h : IsOpen tokens error) (horder : Token.InOrder tokens) :
    firstOf content before tokens = .error (.rejected error) := by
  cases h with
  | parameter hopen =>
    have herror : parameter before tokens = .error (.rejected error) :=
      parameter_of_isOpenParameter hopen
    obtain @⟨opening, inside, hopening, hinside⟩ := hopen
    have hoptional : opening.kind ≠ .beginOptional := by rw [hopening]; decide
    exact (firstOf_of_none (Bracket.rule_of_ne hoptional)).trans (firstOf_of_error herror)
  | @optional opening inside nodes hopening hinside =>
    have hread : readUntil [parameter, text] [.endOptional] 0 opening.kind (inside ++ []) =
        .ok (inside.length, nodes) :=
      readUntil_up_to_stop (readUntil_inside hinside horder.tail []) (by simp)
    rw [List.append_nil] at hread
    exact firstOf_of_error (Bracket.rule_of_open hopening hread)
  | @nested outer inside tokens nodes error houter hinside hopen =>
    have hread : readUntil [parameter, text] [.endOptional] 0 outer.kind (inside ++ tokens) = _ :=
      readUntil_inside hinside horder.tail.left tokens
    rw [readUntil_inside_of_isOpenParameter hopen, ahead_error] at hread
    exact firstOf_of_error (Bracket.rule_of_error houter hread)

end Grammar

end CucumberExpression
