import CucumberExpression.Proofs.Node.Runs
import CucumberExpression.Proofs.Node.Spelling

/-!
# Trees keep their tokens and their sources

A tree is walked in the order in which it is written, and every leaf, bracket and separator that is
met is put down with its place (`Node.emitted`). For the tree of a source this gives back the tokens
of the source, each once and in order, and nothing else (`Node.ofSource_emitted`). The tokens tile
the source, so each of its characters belongs to one leaf, bracket or separator; and so do the
children of the root.

The tree can also be written down again without a look at the source, and what is written is the
source, character for character (`Node.written_of_ofSource`); so two sources with the same tree are
the same. A leaf holds its text without escapes, but its span tells whether there were any: a text
as long as its span is written as it is, and any other text has an escape before every character
that can have one.
-/

set_option autoImplicit false
set_option relaxedAutoImplicit false

namespace CucumberExpression

/-! ### Tokens of trees -/

/-- Leaves and marks as they are, with their places. -/
def Spelling.placed : Spelling (Span × String) where
  leaf span text := [(span, text)]
  mark symbol span := [(span, symbol.char.toString)]

/-- The leaves, brackets and separators of a tree, with their places. -/
def Node.emitted (node : Node) : List (Span × String) := node.spell .placed

/-- The place and the text of a token. -/
def Token.placed (token : Token) : Span × String := (token.span, token.text)

theorem Spelling.placed_fits {lexeme : Lexeme} (h : lexeme.Valid) (offset : Nat) :
    Spelling.placed.Fits (lexeme.tokenAt offset) := by
  intro symbol hsymbol
  obtain ⟨htext, hencode⟩ := h.text_of_symbol hsymbol
  constructor
  · have hmark : symbol.char.toString = String.ofList lexeme.text := by rw [htext]; rfl
    show [((lexeme.tokenAt offset).span, symbol.char.toString)] = _
    rw [hmark]
    rfl
  · show offset + lexeme.encode.length = offset + 1
    rw [hencode, List.length_singleton]

namespace Node

variable {source : String} {root : Node}

/-- The tree of a source emits the tokens of the source, in order. -/
theorem emitted_of_scan {tokens : List Token} (h : ofSource source = .ok root)
    (hscan : Token.scan source = .ok tokens) : root.emitted = tokens.map Token.placed := by
  have hread : OnePass.read tokens = .ok root := (ofSource_of_scan hscan).symm.trans h
  obtain ⟨lexemes, hcanonical, rfl, -⟩ := Token.exists_canonical_of_scan hscan
  have hfits : ∀ token ∈ Lexeme.place 0 lexemes, Spelling.placed.Fits token :=
    hcanonical.forall_place (fun _ hvalid offset ↦ Spelling.placed_fits hvalid offset) 0
  rw [emitted, OnePass.spell_of_read hfits hread, List.map_eq_flatMap]
  rfl

/-- The tree of a source emits exactly the tokens of the source, in order. Every character of the
source belongs to one of these and to no other, the root spans the source, and the children of the
root tile it. -/
theorem ofSource_emitted (h : ofSource source = .ok root) :
    (Token.scan source).map (List.map Token.placed) = .ok root.emitted ∧
      (∀ offset < source.length, root.emitted.countP (fun part ↦ part.1.covers offset) = 1) ∧
        root.span = ⟨0, source.length⟩ ∧
          Span.Tiles 0 source.length (root.children.map Node.span) := by
  obtain ⟨lexemes, nodes, hcanonical, hencode, hnodes, rfl⟩ := ofSource_eq_ok_iff.mp h
  have hscan : Token.scan source = .ok (Lexeme.place 0 lexemes) :=
    Token.scan_eq_ok_iff.mpr ⟨lexemes, hcanonical, rfl, hencode⟩
  have htiles := Lexeme.tiles_source hencode
  have hemitted := emitted_of_scan h hscan
  refine ⟨?_, fun offset hoffset ↦ ?_, rfl, hnodes.tiles htiles⟩
  · rw [hscan, hemitted]
    rfl
  · have hcount := htiles.countP_covers (Nat.zero_le offset) hoffset
    rw [List.countP_map] at hcount
    rw [hemitted, List.countP_map]
    exact hcount

/-- A parameter in an optional part, an escaped separator, and an empty alternative. -/
def nested : Node :=
  .branch .expression ⟨0, 11⟩
    [.leaf .text ⟨0, 1⟩ "a",
      .branch .optional ⟨1, 7⟩
        [.leaf .text ⟨2, 3⟩ "b", .branch .parameter ⟨3, 6⟩ [.leaf .text ⟨4, 5⟩ " "]],
      .leaf .text ⟨7, 8⟩ " ",
      .branch .alternation ⟨8, 11⟩
        [.branch .alternative ⟨8, 10⟩ [.leaf .text ⟨8, 10⟩ "/"], .branch .alternative ⟨11, 11⟩ []]]

theorem emitted_nested :
    ofSource "a(b\x7b \x7d) \\//" = .ok nested ∧
      nested.emitted = [(⟨0, 1⟩, "a"), (⟨1, 2⟩, "("), (⟨2, 3⟩, "b"), (⟨3, 4⟩, "\x7b"),
        (⟨4, 5⟩, " "), (⟨5, 6⟩, "\x7d"), (⟨6, 7⟩, ")"), (⟨7, 8⟩, " "), (⟨8, 10⟩, "/"),
        (⟨10, 11⟩, "/")] ∧
      (Token.scan "a(b\x7b \x7d) \\//").map (List.map Token.placed) = .ok nested.emitted ∧
      (∀ offset < 11, nested.emitted.countP (fun part ↦ part.1.covers offset) = 1) ∧
        nested.span = ⟨0, 11⟩ ∧ Span.Tiles 0 11 (nested.children.map Node.span) :=
  ⟨by decide +kernel, by decide +kernel, ofSource_emitted (by decide +kernel)⟩

end Node

/-! ### Sources of trees -/

open Lexeme

/-- How leaves and marks are written. -/
def Spelling.written : Spelling Char where
  leaf span text := if span.length = text.length then text.toList else escapedText text.toList
  mark symbol _ := [symbol.char]

/-- The written form of a tree. -/
def Node.written (node : Node) : String := String.ofList (node.spell .written)

/-- The span of a lexeme tells whether its text has been escaped. -/
theorem Spelling.written_leaf_tokenAt (lexeme : Lexeme) (offset : Nat) :
    Spelling.written.leaf (lexeme.tokenAt offset).span (lexeme.tokenAt offset).text =
      lexeme.encode := by
  have hspan : (lexeme.tokenAt offset).span.length = lexeme.encode.length :=
    Nat.add_sub_cancel_left offset lexeme.encode.length
  have htext : (lexeme.tokenAt offset).text.toList = lexeme.text := String.toList_ofList
  have hlength : (lexeme.tokenAt offset).text.length = lexeme.text.length := by
    rw [← String.length_toList, htext]
  show (if _ then _ else _) = _
  rw [hspan, hlength, htext]
  by_cases hkind : lexeme.kind = .text
  · have hencode : lexeme.encode = escapedText lexeme.text := if_pos hkind
    rw [hencode]
    split_ifs with hsame
    · exact (escapedText_eq_self_of_length hsame).symm
    · rfl
  · have hencode : lexeme.encode = lexeme.text := if_neg hkind
    rw [hencode, if_pos rfl]

theorem Spelling.written_fits {lexeme : Lexeme} (h : lexeme.Valid) (offset : Nat) :
    Spelling.written.Fits (lexeme.tokenAt offset) := by
  intro symbol hsymbol
  obtain ⟨-, hencode⟩ := h.text_of_symbol hsymbol
  rw [Spelling.written_leaf_tokenAt]
  refine ⟨hencode.symm, ?_⟩
  show offset + lexeme.encode.length = offset + 1
  rw [hencode, List.length_singleton]

theorem flatMap_written_place (offset : Nat) (lexemes : List Lexeme) :
    (place offset lexemes).flatMap (fun token ↦ Spelling.written.leaf token.span token.text) =
      encodeAll lexemes := by
  induction lexemes generalizing offset with
  | nil => rfl
  | cons lexeme lexemes ih =>
    rw [place_cons, List.flatMap_cons, ih, Spelling.written_leaf_tokenAt, encodeAll_cons]

namespace Node

/-- The tree of a source is written as the source. -/
theorem written_eq {source : String} {node : Node} (h : ofSource source = .ok node) :
    node.written = source := by
  obtain ⟨lexemes, hcanonical, hencode, hread⟩ := exists_read_of_ofSource h
  have hfits : ∀ token ∈ place 0 lexemes, Spelling.written.Fits token :=
    hcanonical.forall_place (fun _ hvalid offset ↦ Spelling.written_fits hvalid offset) 0
  rw [written, OnePass.spell_of_read hfits hread, flatMap_written_place, hencode,
    String.ofList_toList]

/-- The tree of a source is written as the source, so no other source has the same tree. -/
theorem written_of_ofSource {source : String} {node : Node} (h : ofSource source = .ok node) :
    node.written = source ∧ ∀ other, ofSource other = .ok node → other = source :=
  ⟨written_eq h, fun _ hother ↦ (written_eq hother).symm.trans (written_eq h)⟩

/-- Two alternatives, of which the second begins with an escaped separator. -/
def slashes : Node :=
  .branch .expression ⟨0, 7⟩ [.branch .alternation ⟨0, 7⟩
    [.branch .alternative ⟨0, 1⟩ [.leaf .text ⟨0, 1⟩ "a"],
      .branch .alternative ⟨2, 7⟩
        [.leaf .text ⟨2, 4⟩ "/", .branch .optional ⟨4, 7⟩ [.leaf .text ⟨5, 6⟩ "b"]]]]

theorem written_slashes :
    ofSource "a/\\/(b)" = .ok slashes ∧ slashes.written = "a/\\/(b)" ∧
      ∀ other, ofSource other = .ok slashes → other = "a/\\/(b)" :=
  ⟨by decide +kernel, written_of_ofSource (by decide +kernel)⟩

end Node

end CucumberExpression
