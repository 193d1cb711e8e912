import CucumberExpression.SyntaxError
import CucumberExpression.Text.Columns

/-!
# Reports

A report tells a user of an error: its code, what it says, where it is, the lines around that place
with the place marked, and what may be done about it.

```
CODE

  × MESSAGE
   ╭─[NAME:LINE:COLUMN]
 1 │ a line of the source
   ·   ─┬──
   ·    ╰── LABEL
   ╰────
  help: HINT
```

The place is a label on a stretch of bytes. An error at an empty span marks the character that
stands there, so that there is something to see; at the end of the source there is none, and the
label has no length. The label's line is shown with one line before and one after it. When lines are
counted, a carriage return ends a line also where no line feed follows; when they are shown, it does
not. A last line that ends in such a lone carriage return is shown under the number of the line
before it.
-/

set_option autoImplicit false
set_option relaxedAutoImplicit false

namespace CucumberExpression

/-! ### Labels -/

/-- A marked stretch of bytes, and the words that stand at it. -/
structure Label where
  offset : Nat
  length : Nat
  text : String
  deriving Repr, DecidableEq

namespace SyntaxError

/-- The span that is marked: that of the error, or one character where that is empty. -/
def markedSpan (error : SyntaxError) : Except Fault Span :=
  if error.span.isEmpty then
    if error.span.start + 1 < offsetLimit then
      .ok ⟨error.span.start, error.span.start + 1⟩
    else .error .offsetTooLarge
  else .ok error.span

/-- The label of an error in its source. -/
def label (error : SyntaxError) (source : String) : Except Fault Label :=
  error.markedSpan.map fun span ↦
    let (start, stop) := span.byteRange source
    ⟨start, stop - start, error.kind.label⟩

end SyntaxError

namespace Report

/-! ### Counting lines -/

/-- A line break, from its first byte to the first byte of the next line. -/
structure LineBreak where
  start : Nat
  stop : Nat
  deriving Repr, DecidableEq

/-- The line breaks of a text that begins at the given offset. -/
def lineBreaks : Nat → List Char → List LineBreak
  | _, [] => []
  | offset, '\r' :: '\n' :: rest => ⟨offset, offset + 2⟩ :: lineBreaks (offset + 2) rest
  | offset, c :: rest =>
    if c = '\r' ∨ c = '\n' then ⟨offset, offset + 1⟩ :: lineBreaks (offset + 1) rest
    else lineBreaks (offset + c.utf8Size) rest

/-- The line breaks that are over when an offset is reached. -/
def breaksBefore (breaks : List LineBreak) (offset : Nat) : List LineBreak :=
  breaks.filter fun lineBreak ↦ lineBreak.stop ≤ offset

/-- The line breaks that begin after an offset. -/
def breaksAfter (breaks : List LineBreak) (offset : Nat) : List LineBreak :=
  breaks.filter fun lineBreak ↦ offset < lineBreak.start

/-- A line, and a column in it, both counted from zero. -/
structure Place where
  line : Nat
  column : Nat
  deriving Repr, DecidableEq

/-- A text in which no line ends has no line breaks. -/
theorem lineBreaks_eq_nil {cs : List Char} (h : ∀ c ∈ cs, c ≠ '\r' ∧ c ≠ '\n') (offset : Nat) :
    lineBreaks offset cs = [] := by
  fun_induction lineBreaks offset cs with
  | case1 => rfl
  | case2 => exact absurd rfl (h '\r' List.mem_cons_self).1
  | case3 offset c rest _ hbreak => exact absurd hbreak (not_or.mpr (h c List.mem_cons_self))
  | case4 offset c rest _ hbreak ih => exact ih fun other hother ↦ h other (.tail _ hother)

/-- The place of an offset. The column counts the bytes before it on its line that belong to no
line break. -/
def placeOf (breaks : List LineBreak) (offset : Nat) : Place :=
  let before := breaksBefore breaks offset
  let lineStart := (before.getLast?.map LineBreak.stop).getD 0
  let inBreak := breaks.any fun lineBreak ↦ lineBreak.start < offset && offset < lineBreak.stop
  ⟨before.length, offset - lineStart - (if inBreak then 1 else 0)⟩

/-- In a text of one line the column of an offset is the offset. -/
theorem placeOf_of_line {cs : List Char} (h : ∀ c ∈ cs, c ≠ '\r' ∧ c ≠ '\n') (offset : Nat) :
    placeOf (lineBreaks 0 cs) offset = ⟨0, offset⟩ := by
  rw [lineBreaks_eq_nil h]
  rfl

/-! ### Choosing and numbering the lines to show -/

/-- A line as it is shown: its number, the offset of its first byte, and the line itself. -/
structure ShownLine where
  number : Nat
  start : Nat
  line : Text.Line
  deriving Repr, DecidableEq

/-- The offset of the first byte after the line and its end. -/
def ShownLine.stop (shown : ShownLine) : Nat := shown.start + shown.line.byteLength

/-- The lines with their numbers and places. The first one has the number after `number` and
begins at `start`. -/
def numberLines : Nat → Nat → List Text.Line → List ShownLine
  | _, _, [] => []
  | number, start, line :: rest =>
    let repeated := line.ending = .missing ∧ line.text.getLast? = some '\r'
    ⟨if repeated then number else number + 1, start, line⟩
      :: numberLines (number + 1) (start + line.byteLength) rest

/-- The first byte of the line before that of the offset. -/
def excerptStart (breaks : List LineBreak) (offset : Nat) : Nat :=
  match (breaksBefore breaks offset).reverse with
  | _ :: previous :: _ => previous.stop
  | _ => 0

/-- The end of the line after that of the offset, in a text of the given length. -/
def excerptStop (breaks : List LineBreak) (total offset : Nat) : Nat :=
  match breaksAfter breaks offset with
  | _ :: next :: _ => next.stop
  | _ => total

/-- The lines that are shown for a label. -/
def excerpt (source : List Char) (label : Label) : List ShownLine :=
  let breaks := lineBreaks 0 source
  let start := excerptStart breaks label.offset
  let stop := excerptStop breaks (Text.byteLength source) (label.offset + label.length - 1)
  let shown := (Text.cutBytes? start stop source).getD []
  numberLines ((breaksBefore breaks label.offset).length - 1) start (Text.lines shown)

end Report

/-! ### Drawing a report -/

namespace Report

/-- So many copies of a character. -/
def repeated (count : Nat) (c : Char) : String :=
  String.ofList (List.replicate count c)

/-- The number with blanks in front, to the given width. -/
def padNumber (width number : Nat) : String :=
  let digits := toString number
  repeated (width - digits.length) ' ' ++ digits

/-- The columns of a shown line before an offset. An offset beyond the text of the line, in its
end, is one column further than the text. -/
def columnAt (shown : ShownLine) (offset : Nat) : Nat :=
  let text := shown.line.text
  let reach := offset - shown.start
  let size := Text.byteLength text
  Text.columns ((Text.takeBytes? (min reach size) text).getD [])
    + (if size < reach then 1 else 0)

/-- The two lines that mark a label below its line: a rule under the marked columns, at least one
of them, and the words of the label, tied to the middle of the rule. -/
def marking (gutter : String) (shown : ShownLine) (label : Label) : List String :=
  let start := columnAt shown label.offset
  let stop := max (columnAt shown (label.offset + label.length)) (start + 1)
  let middle := (start + stop) / 2
  [gutter ++ repeated start ' ' ++ repeated (middle - start) '─' ++ "┬"
      ++ repeated (stop - middle - 1) '─',
    gutter ++ repeated middle ' ' ++ "╰── " ++ label.text]

/-- Whether a label begins on a line. -/
def beginsOn (label : Label) (shown : ShownLine) : Bool :=
  shown.start ≤ label.offset && label.offset < shown.stop

/-- A line of the source, with the marking of the label where that begins on it. -/
def sourceLines (width : Nat) (label : Label) (shown : ShownLine) : List String :=
  (" " ++ padNumber width shown.number ++ " │ "
      ++ String.ofList (Text.expandTabs shown.line.text))
    :: (if beginsOn label shown then marking (" " ++ repeated width ' ' ++ " · ") shown label
      else [])

/-- The lines of a text without the spaces at their ends, the first line behind one margin and the
others behind another. -/
def hanging (first others text : String) : List String :=
  let lines := (text.toList.splitOn '\n').map String.ofList
  match lines.map (Text.dropEndWhile (· == ' ')) with
  | [] => []
  | line :: rest => (first ++ line) :: rest.map (others ++ ·)

/-- A text of one line that does not end in a space stands behind the first margin as it is. -/
theorem hanging_of_line {text : String} (hline : '\n' ∉ text.toList)
    (hlast : ∀ c ∈ text.toList.getLast?, c ≠ ' ') (first others : String) :
    hanging first others text = [first ++ text] := by
  have hkept : Text.dropEndWhile (· == ' ') text = text :=
    Text.dropEndWhile_eq_iff.mpr ⟨⟨[], (List.append_nil _).symm, nofun⟩, by simpa using hlast⟩
  simp only [hanging, List.splitOn_eq_singleton hline, List.map_cons, List.map_nil,
    String.ofList_toList, hkept]

/-- How wide the numbers of the shown lines are. -/
def numberWidth (shown : List ShownLine) : Nat :=
  (shown.getLast?.map fun last ↦ (toString last.number).length).getD 1

/-- The name of a source with a place in it, lines and columns counted from one. -/
def locator (name : String) (place : Place) : String :=
  name ++ ":" ++ toString (place.line + 1) ++ ":" ++ toString (place.column + 1)

/-- The lines of a report below its name: the shown lines, the end of their frame, and the hints. -/
def body (error : SyntaxError) (label : Label) (shown : List ShownLine) : List String :=
  shown.flatMap (sourceLines (numberWidth shown) label)
    ++ [repeated (numberWidth shown + 2) ' ' ++ "╰────"]
    ++ (error.help?.map (hanging "  help: " "        ")).getD []

/-- The report of an error at a label, line by line. -/
def lines (name source : String) (error : SyntaxError) (label : Label) : List String :=
  let shown := excerpt source.toList label
  let place := placeOf (lineBreaks 0 source.toList) label.offset
  [error.kind.code, ""]
    ++ hanging "  × " "  │ " error.message
    ++ (repeated (numberWidth shown + 2) ' ' ++ "╭─[" ++ locator name place ++ "]")
      :: body error label shown

end Report

/-- The report of an error in a source that goes by the given name. -/
def SyntaxError.report (error : SyntaxError) (name source : String) : Except Fault String :=
  (error.label source).map fun label ↦
    String.join ((Report.lines name source error label).map (· ++ "\n"))

namespace SyntaxError

variable {error : SyntaxError} {source : String}

/-- A report opens with the code of the error and with what it says. Then comes the name with the
place of the label, and no other line depends on the name. -/
theorem exists_report_eq {label : Label} (h : error.label source = .ok label) :
    ∃ margin body, ∀ name, error.report name source = .ok (String.join (List.map (· ++ "\n")
      ([error.kind.code, ""] ++ Report.hanging "  × " "  │ " error.message ++
        (margin ++ "╭─[" ++ Report.locator name
          (Report.placeOf (Report.lineBreaks 0 source.toList) label.offset) ++ "]") :: body))) := by
  let shown := Report.excerpt source.toList label
  refine ⟨Report.repeated (Report.numberWidth shown + 2) ' ', Report.body error label shown,
    fun name ↦ ?_⟩
  rw [report, h]
  rfl

/-- Assumes: a source of one line, and a message of one line that does not end in a space. The
message stands in the report as it is, and the place is on the first line. -/
theorem exists_report_eq_of_line {label : Label} (h : error.label source = .ok label)
    (hsource : ∀ c ∈ source.toList, c ≠ '\r' ∧ c ≠ '\n') (hmessage : '\n' ∉ error.message.toList)
    (hlast : ∀ c ∈ error.message.toList.getLast?, c ≠ ' ') :
    ∃ margin body, ∀ name, error.report name source = .ok (String.join (List.map (· ++ "\n")
      ([error.kind.code, "", "  × " ++ error.message,
        margin ++ "╭─[" ++ Report.locator name ⟨0, label.offset⟩ ++ "]"] ++ body))) := by
  obtain ⟨margin, body, hreport⟩ := exists_report_eq h
  rw [Report.hanging_of_line hmessage hlast, Report.placeOf_of_line hsource] at hreport
  exact ⟨margin, body, hreport⟩

/-- The report of an error under one name is not its report under another. -/
theorem name_eq_of_report_eq {name name' text : String} (h : error.report name source = .ok text)
    (h' : error.report name' source = .ok text) : name = name' := by
  cases hlabel : error.label source with
  | error fault =>
    rw [report, hlabel] at h
    cases h
  | ok label =>
    obtain ⟨margin, body, hreport⟩ := exists_report_eq hlabel
    have htext := Except.ok.inj
      ((hreport name).symm.trans (h.trans (h'.symm.trans (hreport name'))))
    rw [← String.toList_inj] at htext ⊢
    simp only [List.map_append, List.map_cons, String.join_append, String.join_cons,
      Report.locator, String.toList_append, List.append_assoc,
      List.append_cancel_left_eq] at htext
    exact List.append_cancel_right htext

end SyntaxError

end CucumberExpression
