import CucumberExpression.CommandLine.Program
import CucumberExpression.Proofs.Text.LineStarts
import CucumberExpression.Proofs.Text.Quoted
import CucumberExpression.Proofs.Token.Encoding

/-!
# Listings tell their expressions

The tokens of an expression are listed one on a line, in columns of a kind, a span and a text. A
column is as wide as what stands in it, or wider, and what stands in the first two has no blank
inside, so it ends before the first blank (`padRight_append_inj`). The text is quoted, and ends the
line. Hence a row tells the token (`row_inj`), and a listing its tokens, since no row has a line
feed inside. The tokens in turn tell which characters of the expression were escaped.
-/

set_option autoImplicit false
set_option relaxedAutoImplicit false

namespace CucumberExpression

theorem TokenKind.name_inj {kind kind' : TokenKind} (h : kind.name = kind'.name) :
    kind = kind' := by
  revert h
  cases kind <;> cases kind' <;> decide

theorem TokenKind.name_plain (kind : TokenKind) :
    ' ' ∉ kind.name.toList ∧ '\n' ∉ kind.name.toList := by
  cases kind <;> decide

theorem Span.toList_render (span : Span) : span.render.toList =
    (toString span.start).toList ++ '.' :: '.' :: (toString span.stop).toList := by
  simp only [Span.render, String.toList_append, List.append_assoc]
  rfl

/-- A written span is made of digits and dots. -/
theorem Span.not_mem_render {c : Char} (hdigit : c.isDigit = false) (hdot : c ≠ '.') (span : Span) :
    c ∉ span.render.toList := by
  have hnumber (number : Nat) : c ∉ (toString number).toList := by
    intro hmem
    rw [Text.isDigit_of_mem_toString c hmem] at hdigit
    cases hdigit
  rw [toList_render, List.mem_append, List.mem_cons, List.mem_cons]
  rintro (hstart | hmark | hmark | hstop)
  · exact hnumber span.start hstart
  · exact hdot hmark
  · exact hdot hmark
  · exact hnumber span.stop hstop

theorem Span.render_inj {span span' : Span} (h : span.render = span'.render) : span = span' := by
  have hchars := congrArg String.toList h
  rw [toList_render, toList_render] at hchars
  obtain ⟨hstart, hrest⟩ := Text.toString_append_inj (by simp) (by simp) hchars
  have hstop := (List.cons.inj (List.cons.inj hrest).2).2
  rw [← List.append_nil (toString span.stop).toList,
    ← List.append_nil (toString span'.stop).toList] at hstop
  obtain ⟨hstop, -⟩ := Text.toString_append_inj (by simp) (by simp) hstop
  obtain ⟨start, stop⟩ := span
  obtain rfl : start = span'.start := hstart
  obtain rfl : stop = span'.stop := hstop
  rfl

namespace CommandLine

/-! ### Columns -/

variable {back back' : List Char}

theorem toList_padRight (width : Nat) (s : String) :
    (padRight width s).toList = s.toList ++ List.replicate (width - s.length) ' ' := by
  rw [padRight, String.toList_append, String.toList_ofList]

/-- What stands in a column without a blank inside is told from the column, if a blank follows. -/
theorem padRight_append_inj {width : Nat} {s t : String} (hs : ' ' ∉ s.toList)
    (ht : ' ' ∉ t.toList)
    (h : (padRight width s).toList ++ ' ' :: back = (padRight width t).toList ++ ' ' :: back') :
    s = t ∧ back = back' := by
  have hblank (count : Nat) (back : List Char) :
      ∀ c ∈ (List.replicate count ' ' ++ ' ' :: back).head?, c = ' ' := by
    cases count <;> simp [List.replicate_succ]
  rw [toList_padRight, toList_padRight, List.append_assoc, List.append_assoc] at h
  obtain ⟨htext, hrest⟩ :=
    Text.append_inj_of_not_mem hs ht (hblank _ back) (hblank _ back') h
  obtain rfl := String.toList_inj.mp htext
  exact ⟨rfl, (List.cons.inj (List.append_cancel_left hrest)).2⟩

theorem lineFeed_not_mem_padRight {s : String} (h : '\n' ∉ s.toList) (width : Nat) :
    '\n' ∉ (padRight width s).toList := by
  simp [toList_padRight, h]

/-! ### Rows -/

/-- The row for a token, without its line feed. -/
def row (token : Token) : String :=
  padRight 15 token.kind.name ++ " " ++ padRight 8 token.span.render ++ " " ++ Text.quote token.text

theorem toList_row (token : Token) : (row token).toList = (padRight 15 token.kind.name).toList ++
    ' ' :: ((padRight 8 token.span.render).toList ++ ' ' :: (Text.quote token.text).toList) := by
  simp only [row, String.toList_append, List.append_assoc]
  rfl

/-- A row tells its token. -/
theorem row_inj {a b : Token} (h : row a = row b) : a = b := by
  have hchars := congrArg String.toList h
  rw [toList_row, toList_row] at hchars
  obtain ⟨hname, hchars⟩ :=
    padRight_append_inj a.kind.name_plain.1 b.kind.name_plain.1 hchars
  obtain ⟨hrender, hquote⟩ :=
    padRight_append_inj (a.span.not_mem_render (by decide) (by decide))
      (b.span.not_mem_render (by decide) (by decide)) hchars
  rw [← List.append_nil (Text.quote a.text).toList, ← List.append_nil (Text.quote b.text).toList]
    at hquote
  obtain ⟨kind, span, text⟩ := a
  obtain ⟨kind', span', text'⟩ := b
  obtain rfl : kind = kind' := TokenKind.name_inj hname
  obtain rfl : span = span' := Span.render_inj hrender
  obtain rfl : text = text' := (Text.quote_append_inj hquote).1
  rfl

/-- A row is the whole of a line. -/
theorem isWhole_row (token : Token) : Text.Line.IsWhole ⟨(row token).toList, .lineFeed⟩ where
  unbroken := by
    have hname := lineFeed_not_mem_padRight token.kind.name_plain.2 15
    have hrender := lineFeed_not_mem_padRight (token.span.not_mem_render (by decide) (by decide)) 8
    have hquote := Text.lineFeed_not_mem_quote token.text
    simp [toList_row, hname, hrender, hquote]
  written := by simp
  closed := fun _ ↦ by
    -- The last character is the quote behind the text.
    have hlast : (Text.quote token.text).toList.getLast? = some '"' := by
      rw [Text.quote, Text.toList_quoteHiding, ← List.cons_append, List.getLast?_concat]
    rw [toList_row]
    simp [List.getLast?_append, List.getLast?_cons, hlast]

/-! ### Listings -/

/-- The tokens of the source can be listed, as the given output. -/
def Lists (source output : String) : Prop :=
  ∃ outcome, listTokens source = .ok outcome ∧ outcome.error = none ∧ outcome.output = output

/-- A command that fails has an error. -/
theorem error_ne_none_of_failWith {expression : String} {error : SyntaxError} {outcome : Outcome}
    (h : failWith expression error = .ok outcome) : outcome.error ≠ none := by
  rw [failWith] at h
  cases hreport : error.report argumentName expression with
  | error fault =>
    rw [hreport] at h
    cases h
  | ok report =>
    rw [hreport] at h
    obtain rfl := Except.ok.inj h
    exact Option.some_ne_none _

/-- The sources that can be listed are those that can be read, and each token makes a row. -/
theorem lists_iff {source output : String} : Lists source output ↔
    ∃ tokens, Token.scan source = .ok tokens ∧ output = Text.ofLines (tokens.map row) := by
  have hjoin (tokens : List Token) :
      String.join (tokens.map tokenLine) = Text.ofLines (tokens.map row) := by
    rw [Text.ofLines, List.map_map]
    rfl
  rw [Lists, listTokens]
  cases Token.scan source with
  | error error =>
    refine iff_of_false ?_ (by simp)
    rintro ⟨outcome, houtcome, hnone, -⟩
    exact error_ne_none_of_failWith houtcome hnone
  | ok tokens =>
    constructor
    · rintro ⟨outcome, houtcome, -, rfl⟩
      obtain rfl := Except.ok.inj houtcome
      exact ⟨tokens, rfl, hjoin tokens⟩
    · rintro ⟨others, hothers, rfl⟩
      obtain rfl := Except.ok.inj hothers
      exact ⟨_, rfl, rfl, hjoin tokens⟩

/-- A text has the rows of some tokens as its lines exactly if it is made of these rows. -/
theorem lines_eq_map_row_iff {output : String} {tokens : List Token} :
    (Text.lines output.toList = tokens.map fun token ↦ ⟨(row token).toList, .lineFeed⟩) ↔
      output = Text.ofLines (tokens.map row) := by
  have hwritten : Text.unlines (tokens.map fun token ↦ ⟨(row token).toList, .lineFeed⟩) =
      (Text.ofLines (tokens.map row)).toList := by
    rw [Text.toList_ofLines, Text.unlines, List.flatMap_map, List.flatMap_map]
    rfl
  constructor
  · intro hlines
    rw [← String.toList_inj, ← hwritten, ← hlines, Text.unlines_lines]
  · rintro rfl
    rw [← hwritten, ← List.append_nil (Text.unlines _), Text.lines_unlines_append, Text.lines,
      List.append_nil]
    intro line hline
    obtain ⟨token, -, rfl⟩ := List.mem_map.mp hline
    exact ⟨isWhole_row token, by simp⟩

/-- The lines of a listing are the rows for the tokens. -/
theorem lists_iff_lines {source output : String} : Lists source output ↔
    ∃ tokens, Token.scan source = .ok tokens ∧
      Text.lines output.toList = tokens.map fun token ↦ ⟨(row token).toList, .lineFeed⟩ := by
  rw [lists_iff]
  exact exists_congr fun tokens ↦ and_congr_right' lines_eq_map_row_iff.symm

/-- A source is told from the listing of its tokens. What can be listed are the sources that can be
read, and the listing has exactly one line for each token, whatever stands in the text of the token,
and however wide the columns get. -/
theorem listing_determines_source :
    (∀ source source' output, Lists source output → Lists source' output → source = source') ∧
    ∀ source output, Lists source output ↔ ∃ tokens, Token.scan source = .ok tokens ∧
      Text.lines output.toList = tokens.map fun token ↦ ⟨(row token).toList, .lineFeed⟩ := by
  refine ⟨fun source source' output h h' ↦ ?_, fun source output ↦ lists_iff_lines⟩
  obtain ⟨tokens, hscan, hlines⟩ := lists_iff_lines.mp h
  obtain ⟨tokens', hscan', hlines'⟩ := lists_iff_lines.mp h'
  have hline : Function.Injective fun token ↦
      (⟨(row token).toList, .lineFeed⟩ : Text.Line) :=
    fun a b hab ↦ row_inj (String.toList_inj.mp (Text.Line.mk.inj hab).1)
  obtain rfl := List.map_injective_iff.mpr hline (hlines.symm.trans hlines')
  exact Token.scan_inj hscan hscan'

/-- No other source has this listing, in which three tokens are a quote with two escaped characters,
a line feed and a bracket. -/
theorem listing_determines_source_escapes :
    ∃ output, output = "Text            0..5     \"\\\"( \"\n" ++
        "WhiteSpace      5..6     \"\\n\"\n" ++ "BeginParameter  6..7     \"\x7b\"\n" ∧
      Lists "\"\\(\\ \n\x7b" output ∧
        ∀ source, Lists source output → source = "\"\\(\\ \n\x7b" := by
  refine ⟨_, rfl, ?_⟩
  have htokens : Token.scan "\"\\(\\ \n\x7b" = .ok [⟨.text, ⟨0, 5⟩, "\"( "⟩,
      ⟨.whiteSpace, ⟨5, 6⟩, "\n"⟩, ⟨.beginParameter, ⟨6, 7⟩, "\x7b"⟩] := by
    decide +kernel
  obtain ⟨hunique, hlists⟩ := listing_determines_source
  refine ⟨?listed, fun source h ↦ hunique _ _ _ h ?listed⟩
  exact (hlists _ _).mpr ⟨_, htokens, by decide +kernel⟩

end CommandLine

end CucumberExpression
