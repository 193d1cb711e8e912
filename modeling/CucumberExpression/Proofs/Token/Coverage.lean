import CucumberExpression.Proofs.Span.Tiling
import CucumberExpression.Proofs.Token.Mark
import CucumberExpression.Proofs.Token.Order

/-!
# Characters under tokens

The marks of a source tile it, and so do its tokens. Each token that is read is joined from tokens
of single marks, all of one kind, so the token over a character has the kind that the mark of the
character gives (`kind_of_covers`). With the marks it can be told of every stretch of a source
whether its characters are bare or escaped: a token of blanks covers bare blanks only
(`exists_bare_of_covers`), and no token but a separator covers a bare separator.
-/

set_option autoImplicit false
set_option relaxedAutoImplicit false

namespace CucumberExpression

open CucumberExpression.Span (Tiles)

/-! ### Marks -/

namespace Mark

/-- The characters of a mark. -/
def span : Mark → Span
  | bare offset _ => ⟨offset, offset + 1⟩
  | pair offset _ => ⟨offset, offset + 2⟩
  | lone offset => ⟨offset, offset + 1⟩

theorem span_token {mark : Mark} {token : Token} (h : mark.token? = some token) :
    token.span = mark.span := by
  cases mark with
  | lone => simp [token?] at h
  | bare | pair =>
    obtain rfl := Option.some.inj h
    rfl

/-- Only a bare blank makes a token of blanks. -/
theorem exists_bare_of_whiteSpace {mark : Mark} {token : Token} (h : mark.token? = some token)
    (hkind : token.kind = .whiteSpace) :
    ∃ offset c, mark = .bare offset c ∧ Text.isBlank c = true := by
  cases mark with
  | lone => simp [token?] at h
  | pair =>
    obtain rfl := Option.some.inj h
    simp at hkind
  | bare offset c =>
    obtain rfl := Option.some.inj h
    refine ⟨offset, c, rfl, ?_⟩
    by_contra hblank
    replace hkind : TokenKind.ofChar c = .whiteSpace := hkind
    rw [TokenKind.ofChar, if_neg hblank] at hkind
    cases hsymbol : Symbol.ofChar? c with
    | none => simp [hsymbol] at hkind
    | some symbol => cases symbol <;> simp [hsymbol, TokenKind.ofSymbol?] at hkind

end Mark

/-- The marks of a source tile it. -/
theorem tiles_marks (offset : Nat) (chars : List Char) :
    Tiles offset (offset + chars.length) ((marks offset chars).map Mark.span) := by
  induction offset, chars using marks.induct with
  | case1 offset => exact rfl
  | case2 offset =>
    rw [marks_lone]
    exact ⟨rfl, Nat.le_succ offset, rfl⟩
  | case3 offset escaped rest ih =>
    have hstop : offset + (Symbol.escape.char :: escaped :: rest).length =
        offset + 2 + rest.length := by
      simp only [List.length_cons]
      omega
    rw [marks_pair, hstop]
    exact ⟨rfl, Nat.le_add_right offset 2, ih⟩
  | case4 offset c rest hc ih =>
    have hstop : offset + (c :: rest).length = offset + 1 + rest.length := by
      rw [List.length_cons]
      omega
    rw [marks_bare hc, hstop]
    exact ⟨rfl, Nat.le_succ offset, ih⟩

/-! ### Tokens -/

namespace Token

/-- Every token is part of a joined one of its kind. -/
theorem exists_mem_fuse {token : Token} {tokens : List Token} (h : token ∈ tokens) :
    ∃ joined ∈ fuse tokens, joined.kind = token.kind ∧
      joined.span.start ≤ token.span.start ∧ token.span.stop ≤ joined.span.stop := by
  have hself {tokens : List Token} (h : token ∈ tokens) : ∃ joined ∈ tokens,
      joined.kind = token.kind ∧
        joined.span.start ≤ token.span.start ∧ token.span.stop ≤ joined.span.stop :=
    ⟨token, h, rfl, Nat.le_refl _, Nat.le_refl _⟩
  induction tokens with
  | nil => simp at h
  | cons first tokens ih =>
    show ∃ joined ∈ first.attach (fuse tokens), _
    cases hfuse : fuse tokens with
    | nil =>
      rcases List.mem_cons.mp h with rfl | h
      · exact hself List.mem_cons_self
      · obtain ⟨joined, hjoined, -⟩ := ih h
        rw [hfuse] at hjoined
        simp at hjoined
    | cons next rest =>
      rw [attach]
      by_cases hjoins : first.kind = next.kind ∧ first.kind.isRun = true
      · have hjoined : first.join? next =
            some ⟨first.kind, first.span.merge next.span, first.text ++ next.text⟩ := if_pos hjoins
        simp only [hjoined]
        rcases List.mem_cons.mp h with rfl | h
        · exact ⟨_, List.mem_cons_self, rfl, Nat.min_le_left _ _, Nat.le_max_left _ _⟩
        · obtain ⟨joined, hmem, hkind, hstart, hstop⟩ := ih h
          rw [hfuse] at hmem
          rcases List.mem_cons.mp hmem with rfl | hmem
          · exact ⟨_, List.mem_cons_self, hjoins.1.trans hkind,
              Nat.le_trans (Nat.min_le_right _ _) hstart, Nat.le_trans hstop (Nat.le_max_right _ _)⟩
          · exact ⟨joined, List.mem_cons_of_mem _ hmem, hkind, hstart, hstop⟩
      · have hapart : first.join? next = none := if_neg hjoins
        simp only [hapart]
        rcases List.mem_cons.mp h with rfl | h
        · exact hself List.mem_cons_self
        · obtain ⟨joined, hmem, hjoined⟩ := ih h
          rw [hfuse] at hmem
          exact ⟨joined, List.mem_cons_of_mem _ hmem, hjoined⟩

/-- Two tokens of a row in order that cover one character are the same. -/
theorem InOrder.eq_of_covers {tokens : List Token} (h : InOrder tokens) {a b : Token}
    (ha : a ∈ tokens) (hb : b ∈ tokens) {offset : Nat} (hcovers : a.span.covers offset = true)
    (hcovers' : b.span.covers offset = true) : a = b := by
  rw [Span.covers_iff] at hcovers hcovers'
  induction tokens with
  | nil => simp at ha
  | cons token tokens ih =>
    rcases List.mem_cons.mp ha with rfl | hrest <;> rcases List.mem_cons.mp hb with rfl | hrest'
    · rfl
    · have hapart := h.stop_le_start b hrest'
      omega
    · have hapart := h.stop_le_start a hrest
      omega
    · exact ih h.tail hrest hrest'

variable {source : String} {tokens : List Token}

/-- Every mark of a source that is read lies under a token of the kind that the mark gives. -/
theorem exists_token_of_mark (hscan : scan source = .ok tokens) {mark : Mark}
    (hmark : mark ∈ marks 0 source.toList) :
    ∃ single, mark.token? = some single ∧ ∃ token ∈ tokens, token.kind = single.kind ∧
      token.span.start ≤ mark.span.start ∧ mark.span.stop ≤ token.span.stop := by
  have hescape := exists_scan_iff.mp ⟨tokens, hscan⟩
  rw [scan_eq, hescape] at hscan
  obtain rfl := Except.ok.inj hscan
  have hlone : mark.isLone = false := by
    have hnone := List.any_eq_false.mp (escapeError?_eq_none_iff.mp hescape).2 mark hmark
    simpa using hnone
  obtain ⟨single, hsingle⟩ : ∃ single, mark.token? = some single := by
    cases mark with
    | lone => simp [Mark.isLone] at hlone
    | bare | pair => exact ⟨_, rfl⟩
  have hmem : single ∈ (marks 0 source.toList).filterMap Mark.token? :=
    List.mem_filterMap.mpr ⟨mark, hmark, hsingle⟩
  obtain ⟨token, htoken, hkind, hstart, hstop⟩ := exists_mem_fuse hmem
  rw [Mark.span_token hsingle] at hstart hstop
  exact ⟨single, hsingle, token, htoken, hkind, hstart, hstop⟩

/-- A special character that no escape stands before is a token. -/
theorem exists_token_of_symbol (hscan : scan source = .ok tokens) {kind : TokenKind}
    {symbol : Symbol} (hsymbol : kind.symbol? = some symbol) {offset : Nat}
    (hmark : .bare offset symbol.char ∈ marks 0 source.toList) :
    ∃ token ∈ tokens, token.kind = kind ∧ token.span = ⟨offset, offset + 1⟩ := by
  obtain ⟨single, hsingle, token, htoken, hkind, hstart, hstop⟩ := exists_token_of_mark hscan hmark
  obtain rfl := Option.some.inj hsingle
  have hkind : token.kind = kind := hkind.trans (ofChar_symbol hsymbol)
  refine ⟨token, htoken, hkind, ?_⟩
  have hstart : token.span.start ≤ offset := hstart
  have hstop : offset + 1 ≤ token.span.stop := hstop
  -- The token is one character long, so it is no more than the mark.
  obtain ⟨lexemes, hcanonical, rfl, -⟩ := exists_canonical_of_scan hscan
  obtain ⟨lexeme, hlexeme, position, rfl⟩ := Lexeme.exists_tokenAt_of_mem_place htoken
  have hone : lexeme.encode.length = 1 := by
    have hown : lexeme.kind.symbol? = some symbol := (congrArg _ hkind).trans hsymbol
    rw [((hcanonical.valid lexeme hlexeme).text_of_symbol hown).2, List.length_singleton]
  simp only [Lexeme.tokenAt, hone] at hstart hstop ⊢
  obtain rfl : position = offset := by omega
  rfl

/-- The token over a character has the kind that the mark of the character gives. -/
theorem kind_of_covers (hscan : scan source = .ok tokens) {mark : Mark}
    (hmark : mark ∈ marks 0 source.toList) {token : Token} (htoken : token ∈ tokens) {offset : Nat}
    (hcovers : mark.span.covers offset = true) (hcovers' : token.span.covers offset = true) :
    ∃ single, mark.token? = some single ∧ token.kind = single.kind := by
  obtain ⟨single, hsingle, other, hother, hkind, hstart, hstop⟩ := exists_token_of_mark hscan hmark
  have horder : InOrder tokens := by
    obtain ⟨lexemes, -, rfl, -⟩ := exists_canonical_of_scan hscan
    exact Lexeme.inOrder_place 0 lexemes
  have hinside : other.span.covers offset = true := by
    rw [Span.covers_iff] at hcovers ⊢
    omega
  obtain rfl := horder.eq_of_covers hother htoken hinside hcovers'
  exact ⟨single, hsingle, hkind⟩

/-- The token over a bare character has the kind of the character. -/
theorem kind_of_covers_bare (hscan : scan source = .ok tokens) {offset : Nat} {c : Char}
    (hmark : .bare offset c ∈ marks 0 source.toList) {token : Token} (htoken : token ∈ tokens)
    (hcovers : token.span.covers offset = true) : token.kind = .ofChar c := by
  have hown : (Mark.bare offset c).span.covers offset = true :=
    Span.covers_iff.mpr ⟨Nat.le_refl offset, Nat.lt_succ_self offset⟩
  obtain ⟨single, hsingle, hkind⟩ := kind_of_covers hscan hmark htoken hown hcovers
  obtain rfl := Option.some.inj hsingle
  exact hkind

/-- A token of blanks covers bare blanks only. -/
theorem exists_bare_of_covers (hscan : scan source = .ok tokens) {token : Token}
    (htoken : token ∈ tokens) (hkind : token.kind = .whiteSpace) {offset : Nat}
    (hoffset : offset < source.length) (hcovers : token.span.covers offset = true) :
    ∃ c, .bare offset c ∈ marks 0 source.toList ∧ Text.isBlank c = true := by
  have htiles := tiles_marks 0 source.toList
  rw [Nat.zero_add, String.length_toList] at htiles
  have hcount := htiles.countP_covers (Nat.zero_le offset) hoffset
  have hpositive := Nat.lt_of_lt_of_eq Nat.one_pos hcount.symm
  obtain ⟨span, hspan, hmarkCovers⟩ := List.countP_pos_iff.mp hpositive
  obtain ⟨mark, hmark, rfl⟩ := List.mem_map.mp hspan
  obtain ⟨single, hsingle, hsame⟩ := kind_of_covers hscan hmark htoken hmarkCovers hcovers
  obtain ⟨start, c, rfl, hblank⟩ := Mark.exists_bare_of_whiteSpace hsingle (hsame ▸ hkind)
  have hstart : start = offset := by
    have hbounds : start ≤ offset ∧ offset < start + 1 := Span.covers_iff.mp hmarkCovers
    omega
  exact ⟨c, hstart ▸ hmark, hblank⟩

end Token

end CucumberExpression
