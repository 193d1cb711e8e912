import CucumberExpression.Proofs.Node.OnePassReading
import CucumberExpression.Proofs.Token.Fusion

/-!
# Other letters

Three things may be told of a character: it is blank, it is one of the special characters, or it is
neither. Nothing else is ever asked. So when the characters of a source are exchanged for others of
the same class, the special characters for themselves, the source is read as before
(`ofSource_map`): with the same nodes at the same places, over texts with the characters exchanged,
or with the very same error. The sizes of the characters in bytes may change.

The tokens of single characters are exchanged one by one (`singles_map`), joining them reads no text
(`scan_map`), and neither does the reader of the tokens.
-/

set_option autoImplicit false
set_option relaxedAutoImplicit false

namespace CucumberExpression

/-- A map on characters that keeps what a character is to the reader. -/
structure KeepsClass (f : Char → Char) : Prop where
  symbol : ∀ symbol : Symbol, f symbol.char = symbol.char
  blank : ∀ c, Text.isBlank c = true → Text.isBlank (f c) = true
  other : ∀ c, canEscape c = false → canEscape (f c) = false

/-- A character is blank, special or neither. -/
theorem isBlank_or_symbol_or_not_canEscape (c : Char) :
    Text.isBlank c = true ∨ (∃ symbol : Symbol, symbol.char = c) ∨ canEscape c = false := by
  by_cases hblank : Text.isBlank c = true
  · exact .inl hblank
  · cases hsymbol : Symbol.ofChar? c with
    | some symbol => exact .inr (.inl ⟨symbol, Symbol.char_of_ofChar? hsymbol⟩)
    | none => exact .inr (.inr (by simp [canEscape, hblank, hsymbol]))

namespace KeepsClass

variable {f : Char → Char} (hf : KeepsClass f)

include hf

theorem canEscape_eq (c : Char) : canEscape (f c) = canEscape c := by
  rcases isBlank_or_symbol_or_not_canEscape c with hblank | ⟨symbol, rfl⟩ | hother
  · simp [canEscape, hblank, hf.blank c hblank]
  · rw [hf.symbol symbol]
  · rw [hother, hf.other c hother]

theorem ofChar_eq (c : Char) : TokenKind.ofChar (f c) = TokenKind.ofChar c := by
  rcases isBlank_or_symbol_or_not_canEscape c with hblank | ⟨symbol, rfl⟩ | hother
  · rw [ofChar_of_isBlank hblank, ofChar_of_isBlank (hf.blank c hblank)]
  · rw [hf.symbol symbol]
  · rw [ofChar_of_not_canEscape hother, ofChar_of_not_canEscape (hf.other c hother)]

theorem ne_escape {c : Char} (hc : c ≠ Symbol.escape.char) : f c ≠ Symbol.escape.char := by
  intro heq
  rcases isBlank_or_symbol_or_not_canEscape c with hblank | ⟨symbol, rfl⟩ | hother
  · exact ne_escape_of_isBlank (hf.blank c hblank) heq
  · exact hc ((hf.symbol symbol).symm.trans heq)
  · have hescape := hf.other c hother
    rw [heq, canEscape_escape] at hescape
    cases hescape

end KeepsClass

namespace Token

variable {f : Char → Char}

/-- The token with the characters of its text exchanged. -/
def reletter (f : Char → Char) (token : Token) : Token := token.map id (String.map f)

theorem reletter_mk (kind : TokenKind) (span : Span) (c : Char) :
    reletter f ⟨kind, span, c.toString⟩ = ⟨kind, span, (f c).toString⟩ := by
  have htext : String.map f c.toString = (f c).toString := by
    rw [← String.toList_inj, String.toList_map, Char.toString, Char.toString]
    simp
  rw [reletter, map, htext]
  rfl

/-- The tokens of single characters are exchanged one by one. -/
theorem singles_map (hf : KeepsClass f) (offset : Nat) (chars : List Char) :
    singles offset (chars.map f) = (singles offset chars).map (List.map (reletter f)) := by
  have hescape : f Symbol.escape.char = Symbol.escape.char := hf.symbol .escape
  have hcons (token : Token) (result : Except SyntaxError (List Token)) :
      (result.map (List.map (reletter f))).map (reletter f token :: ·) =
        (result.map (token :: ·)).map (List.map (reletter f)) := by
    cases result <;> rfl
  induction offset, chars using singles.induct with
  | case1 offset => rfl
  | case2 offset =>
    rw [List.map_singleton, hescape]
    rfl
  | case3 offset c rest hc ih =>
    have hc' : canEscape (f c) = true := (hf.canEscape_eq c).trans hc
    rw [List.map_cons, List.map_cons, hescape, Lexeme.singles_escaped hc', ih,
      Lexeme.singles_escaped hc, ← hcons, reletter_mk]
  | case4 offset c rest hc =>
    have hc' : ¬ canEscape (f c) = true := by rwa [hf.canEscape_eq]
    rw [List.map_cons, List.map_cons, hescape, singles, if_pos rfl, if_neg hc', singles, if_pos rfl,
      if_neg hc]
    rfl
  | case5 offset c rest hc ih =>
    rw [List.map_cons, Lexeme.singles_bare (hf.ne_escape hc), ih, Lexeme.singles_bare hc, ← hcons,
      reletter_mk, hf.ofChar_eq]

/-- The tokens of a source with its characters exchanged are its tokens with the characters of their
texts exchanged. -/
theorem scan_map (hf : KeepsClass f) (source : String) :
    scan (source.map f) = (scan source).map (List.map (reletter f)) := by
  have hpieces (front back : String) :
      String.map f (front ++ back) = String.map f front ++ String.map f back := by
    rw [← String.toList_inj]
    simp
  rw [scan, String.toList_map, singles_map hf, scan]
  cases singles 0 source.toList with
  | error error => rfl
  | ok tokens => exact congrArg Except.ok (fuse_map monotone_id hpieces tokens)

end Token

namespace Node

open OnePass

variable {f : Char → Char}

/-- The tree with the characters in the texts of its leaves exchanged: the kinds and the spans are
the same. -/
def reletter (f : Char → Char) (node : Node) : Node := node.map id (String.map f)

/-- What stays in its place keeps its failure. -/
theorem map_id_failure (failure : Failure) : failure.map id = failure := by
  cases failure <;> rfl

/-- Exchanged tokens are read as the tokens are, with the characters exchanged in the tree. -/
theorem read_map_reletter (tokens : List Token) :
    read (tokens.map (Token.reletter f)) = (read tokens).map (reletter f) := by
  have hend : TokenLine.endOffset ⟨tokens.map (Token.reletter f)⟩ =
      TokenLine.endOffset ⟨tokens⟩ := by
    simp only [TokenLine.endOffset, List.getLast?_map, Option.map_map]
    rfl
  have hclose : ((tokens.map (Token.reletter f)).foldl step start).close
      (TokenLine.endOffset ⟨tokens⟩) =
        (((tokens.foldl step start).close (TokenLine.endOffset ⟨tokens⟩)).map
          (List.map (reletter f))).mapError (Failure.map id) :=
    close_foldl_step_map id (String.map f) tokens (TokenLine.endOffset ⟨tokens⟩) start
  rw [OnePass.read, OnePass.read, hend, hclose]
  cases (tokens.foldl step start).close (TokenLine.endOffset ⟨tokens⟩) with
  | error failure => exact congrArg Except.error (map_id_failure failure)
  | ok nodes =>
    have hroot := map_branch id (String.map f) .expression (by decide) 0
      (TokenLine.endOffset ⟨tokens⟩) nodes
    exact congrArg Except.ok hroot.symm

/-- Assumes: a map that keeps the special characters, blanks as blanks, and all others as characters
that are neither. Only classes of characters matter to the reader: with its characters exchanged, a
source has a tree exactly if it had one before, which is the same tree over exchanged characters;
and where it has none, its error is the same. -/
theorem ofSource_map (hf : KeepsClass f) (source : String) :
    ofSource (source.map f) = (ofSource source).map (reletter f) := by
  have hscan' := Token.scan_map hf source
  cases hscan : Token.scan source with
  | error error =>
    rw [hscan] at hscan'
    rw [ofSource, hscan', ofSource, hscan]
    rfl
  | ok tokens =>
    rw [hscan] at hscan'
    rw [ofSource_of_scan hscan', ofSource_of_scan hscan, read_map_reletter]

/-- A letter and a blank exchanged for others that take more bytes. -/
def widened (c : Char) : Char := if c = 'a' then 'ü' else if c = ' ' then '\u3000' else c

theorem keepsClass_widened : KeepsClass widened where
  symbol symbol := by cases symbol <;> decide
  blank c h := by
    unfold widened
    split_ifs with ha
    · rw [ha] at h
      exact absurd h (by decide)
    · decide
    · exact h
  other c h := by
    unfold widened
    split_ifs with ha hblank
    · decide
    · rw [hblank] at h
      exact absurd h (by decide)
    · exact h

/-- Two alternatives, the first with an escaped blank, in front of a blank that parts two words. -/
def lettered : Node :=
  .branch .expression ⟨0, 9⟩
    [.branch .alternation ⟨0, 7⟩
        [.branch .alternative ⟨0, 3⟩ [.leaf .text ⟨0, 3⟩ "a "],
          .branch .alternative ⟨4, 7⟩ [.branch .optional ⟨4, 7⟩ [.leaf .text ⟨5, 6⟩ "a"]]],
      .leaf .text ⟨7, 8⟩ " ", .leaf .text ⟨8, 9⟩ "b"]

theorem ofSource_map_widened :
    KeepsClass widened ∧ ("a\\ /(a) b").map widened = "ü\\\u3000/(ü)\u3000b" ∧
      ofSource "a\\ /(a) b" = .ok lettered ∧
      ofSource (("a\\ /(a) b").map widened) = .ok (.branch .expression ⟨0, 9⟩
        [.branch .alternation ⟨0, 7⟩
            [.branch .alternative ⟨0, 3⟩ [.leaf .text ⟨0, 3⟩ "ü\u3000"],
              .branch .alternative ⟨4, 7⟩ [.branch .optional ⟨4, 7⟩ [.leaf .text ⟨5, 6⟩ "ü"]]],
          .leaf .text ⟨7, 8⟩ "\u3000", .leaf .text ⟨8, 9⟩ "b"]) ∧
      ofSource "a (\\a" = .error (.rejected ⟨.badEscape, ⟨4, 5⟩⟩) ∧
      ofSource (("a (\\a").map widened) = .error (.rejected ⟨.badEscape, ⟨4, 5⟩⟩) := by
  have hread : ofSource "a\\ /(a) b" = .ok lettered := by decide +kernel
  have hfailure : ofSource "a (\\a" = .error (.rejected ⟨.badEscape, ⟨4, 5⟩⟩) := by decide +kernel
  refine ⟨keepsClass_widened, by decide +kernel, hread, ?_, hfailure, ?_⟩
  · rw [ofSource_map keepsClass_widened, hread]
    decide +kernel
  · rw [ofSource_map keepsClass_widened, hfailure]
    rfl

end Node

end CucumberExpression
