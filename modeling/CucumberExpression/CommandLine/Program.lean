import CucumberExpression.CommandLine.Arguments
import CucumberExpression.CommandLine.Directory
import CucumberExpression.Report

/-!
# The program

The program as a function from its arguments, and the files it can read, to what it writes and the
exit code it ends with.

A command writes to the two output streams, and succeeds or fails with an error. Expressions that
are given as arguments go by a common name in reports, those from a file by the file and the number
of their line. A file is given as a function from paths to texts, so that a command is a value and
does no reading of its own.
-/

set_option autoImplicit false
set_option relaxedAutoImplicit false

namespace CucumberExpression

namespace CommandLine

/-- How a command gets at the text of a file. -/
abbrev Reader := String → Except ReadError String

/-- Why a command failed. -/
inductive CommandError where
  /-- The one expression of the command is wrong; its report. -/
  | rejected (report : String)
  | unreadable (path : String) (reason : ReadError)
  | nothingToCheck
  | someRejected (count total : Nat)
  deriving Repr, DecidableEq

/-- The wording of an error. A report loses the blanks at its end. -/
def CommandError.message : CommandError → String
  | rejected report => Text.trimEnd report
  | unreadable path reason => "Error reading " ++ path ++ ": " ++ reason.message
  | nothingToCheck => "Error: no expressions to check"
  | someRejected count total =>
    toString count ++ " of " ++ toString total ++ " expressions failed to parse"

/-- What a command has written, and how it ended. -/
structure Outcome where
  output : String := ""
  errorOutput : String := ""
  error : Option CommandError := none
  deriving Repr, DecidableEq

/-- The exit code that a command asks for. -/
def Outcome.exitCode (outcome : Outcome) : Nat := if outcome.error.isSome then 1 else 0

/-- The name under which an argument is reported. -/
def argumentName : String := "<expression>"

/-- The command fails with the report of an error in an argument. -/
def failWith (expression : String) (error : SyntaxError) : Except Fault Outcome :=
  (error.report argumentName expression).map fun report ↦
    { error := some (.rejected report) }

/-! ### Showing a tree -/

/-- Shows the tree of an expression. Data is followed by a line end, an outline has its own. -/
def showTree (expression : String) (layout : Layout) : Except Fault Outcome :=
  match Node.renderSource layout expression with
  | .ok text => .ok { output := if layout.form = .data then text ++ "\n" else text }
  | .error (.rejected error) => failWith expression error
  | .error (.fault fault) => .error fault

/-! ### Listing tokens -/

/-- The text with blanks behind it, to the given number of characters. -/
def padRight (width : Nat) (text : String) : String :=
  text ++ String.ofList (List.replicate (width - text.length) ' ')

/-- The line for a token: kind, span and text in columns. -/
def tokenLine (token : Token) : String :=
  padRight 15 token.kind.name ++ " " ++ padRight 8 token.span.render ++ " "
    ++ Text.quote token.text ++ "\n"

/-- Lists the tokens of an expression. -/
def listTokens (expression : String) : Except Fault Outcome :=
  match Token.scan expression with
  | .ok tokens => .ok { output := String.join (tokens.map tokenLine) }
  | .error error => failWith expression error

/-! ### Checking expressions -/

/-- An expression to check, and the name under which it is reported. -/
structure Subject where
  name : String
  expression : String
  deriving Repr, DecidableEq

/-- The subjects in the text of a file: one for each line that is not blank. The lines count from
one, and blank lines count. -/
def fileSubjects (path contents : String) : List Subject :=
  (Text.lines contents.toList).zipIdx.filterMap fun (line, index) ↦
    if line.text.all Text.isBlank then none
    else some ⟨path ++ ":" ++ toString (index + 1), String.ofList line.text⟩

/-- What is to be checked: the arguments, and after them the subjects in the file. -/
def gatherSubjects (read : Reader) (expressions : List String) (file : Option String) :
    Except CommandError (List Subject) :=
  let arguments := expressions.map fun expression ↦ ⟨argumentName, expression⟩
  match file with
  | none => .ok arguments
  | some path =>
    match read path with
    | .ok contents => .ok (arguments ++ fileSubjects path contents)
    | .error reason => .error (.unreadable path reason)

/-- The report on a subject, if it has no tree. -/
def Subject.report? (subject : Subject) : Except Fault (Option String) :=
  match Node.ofSource subject.expression with
  | .ok _ => .ok none
  | .error (.rejected error) => (error.report subject.name subject.expression).map some
  | .error (.fault fault) => .error fault

/-- Reports every subject that has no tree. A file that cannot be read is noticed before anything
is checked. -/
def checkAll (read : Reader) (expressions : List String) (file : Option String) :
    Except Fault Outcome :=
  match gatherSubjects read expressions file with
  | .error error => .ok { error := some error }
  | .ok [] => .ok { error := some .nothingToCheck }
  | .ok subjects => do
    let verdicts ← subjects.mapM Subject.report?
    let reports := verdicts.filterMap id
    if reports.isEmpty then
      return { output := toString subjects.length ++ " expressions ok\n" }
    else
      return {
        errorOutput := String.join (reports.map fun report ↦ Text.trimEnd report ++ "\n")
        error := some (.someRejected reports.length subjects.length) }

/-! ### All commands -/

/-- Carries out a command. -/
def Command.execute (read : Reader) : Command → Except Fault Outcome
  | parse expression layout => showTree expression layout
  | lex expression => listTokens expression
  | check expressions file => checkAll read expressions file

end CommandLine

/-! ### Running the program -/

namespace CommandLine

/-- What a run of the program leaves behind. -/
structure RunResult where
  exitCode : Nat
  output : String
  errorOutput : String
  deriving Repr, DecidableEq

/-- The line that names the program and its version. -/
def versionLine : String := "cukex 0.1.0\n"

/-- What the program can be asked for. -/
def helpText : String :=
  "Parse and inspect Cucumber Expressions\n\n"
    ++ "Usage: cukex <COMMAND>\n\n"
    ++ "Commands:\n"
    ++ "  parse  Print the syntax tree of an expression\n"
    ++ "  lex    Print the tokens of an expression\n"
    ++ "  check  Report expressions that fail to parse\n"
    ++ "  help   Print this message or the help of the given subcommand(s)\n\n"
    ++ "Options:\n"
    ++ "  -h, --help     Print help\n"
    ++ "  -V, --version  Print version\n"

/-- What is said of a command line that is not understood. -/
def UsageStop.complaint : UsageStop → String
  | help | version | missingCommand => ""
  | unknownCommand => "unrecognized subcommand"
  | unknownArgument => "unexpected argument"
  | missingOperand => "the following required arguments were not provided: <EXPRESSION>"
  | repeatedOption => "an option cannot be used multiple times"
  | invalidValue | invalidNumber => "invalid value for an option"
  | valueNotWanted => "unexpected value for an option"

/-- The run of the program that ends before any command. -/
def UsageStop.run (stop : UsageStop) : RunResult :=
  match stop with
  | help => ⟨stop.exitCode, helpText, ""⟩
  | version => ⟨stop.exitCode, versionLine, ""⟩
  | missingCommand => ⟨stop.exitCode, "", helpText⟩
  | _ => ⟨stop.exitCode, "", "error: " ++ stop.complaint ++ "\n"⟩

/-- The run of the program that carries out a command: the message of its error goes to the error
stream, on a line of its own, after what the command has written there. -/
def Outcome.run (outcome : Outcome) : RunResult :=
  let closing := match outcome.error with
    | none => ""
    | some error => if error.message.isEmpty then "" else error.message ++ "\n"
  ⟨outcome.exitCode, outcome.output, outcome.errorOutput ++ closing⟩

/-- Runs the program. -/
def run (read : Reader) (arguments : List String) : Except Fault RunResult :=
  match Command.ofArguments arguments with
  | .error stop => .ok stop.run
  | .ok command => (command.execute read).map Outcome.run

end CommandLine

end CucumberExpression
