import CucumberExpression.Node.Rendering

/-!
# The arguments of the program

The first word names a command, the words after it are options and operands of that command. An
option is written `--name value` or `--name=value`, a flag `--name`; after a word `--` every word
is an operand, and a lone `-` always is. Words are read from left to right. The value of an option
is looked at when the next option or operand has been recognised, so an unknown word is noticed
before a bad value in front of it, and any other word after it.
-/

set_option autoImplicit false
set_option relaxedAutoImplicit false

namespace CucumberExpression

namespace CommandLine

/-! ### Why a command line is not carried out -/

/-- What the program does in place of a command. -/
inductive UsageStop where
  /-- The user asked for help. -/
  | help
  /-- The user asked for the version. -/
  | version
  /-- No command is given; help is shown as for an error. -/
  | missingCommand
  | unknownCommand
  | unknownArgument
  | missingOperand
  | repeatedOption
  | invalidValue
  | valueNotWanted
  /-- The value of an option is not a number of the right form. -/
  | invalidNumber
  deriving Repr, DecidableEq

namespace UsageStop

/-- Whether the user got what was asked for. -/
def isAnswer : UsageStop → Bool
  | help | version => true
  | _ => false

/-- The exit code of the program: zero for an answer, two for a misuse. -/
def exitCode (stop : UsageStop) : Nat := if stop.isAnswer then 0 else 2

end UsageStop

/-! ### Words -/

/-- What a word looks like. -/
inductive Word where
  /-- Two dashes: only operands follow. -/
  | separator
  /-- A long name after two dashes, with what stands behind an equals sign. -/
  | long (name : String) (attached : Option String)
  /-- One dash, and a letter. -/
  | short (letter : Char)
  | plain (text : String)
  deriving Repr, DecidableEq

/-- What a word looks like where options are possible. -/
def Word.ofString (word : String) : Word :=
  match word.toList with
  | ['-', '-'] => .separator
  | '-' :: '-' :: rest =>
    let name := String.ofList (rest.takeWhile (· != '='))
    match rest.dropWhile (· != '=') with
    | [] => .long name none
    | _ :: value => .long name (some (String.ofList value))
  | '-' :: letter :: _ => .short letter
  | _ => .plain word

/-! ### Options and operands of a command -/

/-- What an option does to the settings. -/
inductive OptionRule (σ : Type) where
  | flag (set : σ → Except UsageStop σ)
  | valued (set : String → σ → Except UsageStop σ)

/-- What a command accepts. The settings decide whether there is room for one more operand. -/
structure Rules (σ : Type) where
  option? : String → Option (OptionRule σ)
  hasRoom : σ → Bool
  addOperand : String → σ → σ

/-- The option of a name. Every command can be asked for help. -/
def Rules.find? {σ : Type} (rules : Rules σ) (name : String) : Option (OptionRule σ) :=
  if name = "help" then some (.flag fun _ ↦ .error .help) else rules.option? name

/-- An option that has been named, and the value that has followed it so far. -/
structure Pending (σ : Type) where
  set : String → σ → Except UsageStop σ
  value : Option String

/-- The settings after the option that is pending, if one is. It needs a value by now. -/
def settle {σ : Type} : Option (Pending σ) → σ → Except UsageStop σ
  | none, settings => .ok settings
  | some ⟨_, none⟩, _ => .error .invalidValue
  | some ⟨set, some value⟩, settings => set value settings

/-- The settings after all words. `literal` says that options are no longer possible. -/
def Rules.read {σ : Type} (rules : Rules σ) :
    (literal : Bool) → Option (Pending σ) → σ → List String → Except UsageStop σ
  | _, pending, settings, [] => settle pending settings
  | literal, pending, settings, word :: words =>
    match if literal then .plain word else Word.ofString word with
    | .separator => rules.read true pending settings words
    | .long name attached =>
      match rules.find? name, attached with
      | none, _ => .error .unknownArgument
      | some (.flag _), some _ => .error .valueNotWanted
      | some (.flag set), none => do
        let settings ← settle pending settings
        let settings ← set settings
        rules.read literal none settings words
      | some (.valued set), none => do
        let settings ← settle pending settings
        rules.read literal (some ⟨set, none⟩) settings words
      | some (.valued set), some value => do
        let settings ← settle pending settings
        let settings ← set value settings
        rules.read literal none settings words
    | .short letter =>
      if letter = 'h' then do
        let _ ← settle pending settings
        .error .help
      else .error .unknownArgument
    | .plain text =>
      match literal, pending with
      | false, some ⟨set, none⟩ => rules.read literal (some ⟨set, some text⟩) settings words
      | _, _ =>
        if rules.hasRoom settings then do
          let settings ← settle pending settings
          rules.read literal none (rules.addOperand text settings) words
        else .error .unknownArgument

/-! ### Values -/

/-- The number that a text of decimal digits writes, with or without a plus sign in front, if it
is below the limit of all offsets. -/
def readNumber? (text : String) : Option Nat :=
  let digits := match text.toList with
    | '+' :: rest => rest
    | all => all
  if digits.isEmpty || !digits.all Char.isDigit then none
  else
    let value := Nat.ofDigitChars 10 digits 0
    if value < offsetLimit then some value else none

/-- The form of trees that a word names. -/
def readForm? (text : String) : Option TreeForm :=
  if text = "tree" then some .outline else if text = "json" then some .data else none

/-! ### Commands -/

/-- What the program is asked to do. -/
inductive Command where
  /-- Show the tree of an expression. -/
  | parse (expression : String) (layout : Layout)
  /-- List the tokens of an expression. -/
  | lex (expression : String)
  /-- Report the expressions that have no tree, those of a file among them. -/
  | check (expressions : List String) (file : Option String)
  deriving Repr, DecidableEq

/-- What has been given to `parse`. -/
structure ParseSettings where
  expression : Option String := none
  form : Option TreeForm := none
  noSpans : Bool := false
  indentWidth : Option Nat := none

/-- The options of `parse`, and its one operand. -/
def parseRules : Rules ParseSettings where
  option? := fun name ↦
    if name = "format" then
      some (.valued fun value settings ↦
        if settings.form.isSome then .error .repeatedOption
        else match readForm? value with
          | some form => .ok { settings with form := some form }
          | none => .error .invalidValue)
    else if name = "no-spans" then
      some (.flag fun settings ↦
        if settings.noSpans then .error .repeatedOption
        else .ok { settings with noSpans := true })
    else if name = "indent" then
      some (.valued fun value settings ↦
        if settings.indentWidth.isSome then .error .repeatedOption
        else match readNumber? value with
          | some width => .ok { settings with indentWidth := some width }
          | none => .error .invalidNumber)
    else none
  hasRoom := fun settings ↦ settings.expression.isNone
  addOperand := fun text settings ↦ { settings with expression := some text }

/-- The command `parse` with the given settings; without them trees are outlines with spans, two
blanks to a level. -/
def ParseSettings.command (settings : ParseSettings) : Except UsageStop Command :=
  match settings.expression with
  | none => .error .missingOperand
  | some expression =>
    .ok <| .parse expression
      ⟨settings.form.getD .outline, settings.indentWidth.getD 2, !settings.noSpans⟩

/-- The one operand of `lex`. -/
def lexRules : Rules (Option String) where
  option? := fun _ ↦ none
  hasRoom := Option.isNone
  addOperand := fun text _ ↦ some text

/-- What has been given to `check`. -/
structure CheckSettings where
  expressions : List String := []
  file : Option String := none

/-- The option of `check`, and any number of operands. -/
def checkRules : Rules CheckSettings where
  option? := fun name ↦
    if name = "file" then
      some (.valued fun value settings ↦
        if settings.file.isSome then .error .repeatedOption
        else if value.isEmpty then .error .invalidValue
        else .ok { settings with file := some value })
    else none
  hasRoom := fun _ ↦ true
  addOperand := fun text settings ↦
    { settings with expressions := settings.expressions ++ [text] }

/-- The words that may stand for a command. -/
def commandNames : List String := ["parse", "lex", "check", "help"]

/-- The command that a command name and the words after it make. -/
def Command.ofNamed (name : String) (words : List String) : Except UsageStop Command :=
  if name = "parse" then do
    let settings ← parseRules.read false none {} words
    settings.command
  else if name = "lex" then do
    match ← lexRules.read false none none words with
    | some expression => return .lex expression
    | none => .error .missingOperand
  else if name = "check" then do
    let settings ← checkRules.read false none {} words
    return .check settings.expressions settings.file
  else if name = "help" then
    match words with
    | [] => .error .help
    | [topic] => .error (if topic ∈ commandNames then .help else .unknownCommand)
    | _ => .error .unknownCommand
  else .error .unknownCommand

/-- The command that the arguments of the program make. In front of the command name only the
options for help and version are known. -/
def Command.ofArguments : List String → Except UsageStop Command
  | [] => .error .missingCommand
  | word :: words =>
    match Word.ofString word with
    | .separator =>
      match words with
      | [] => .error .missingCommand
      | name :: _ => .error (if name ∈ commandNames then .unknownArgument else .unknownCommand)
    | .long name attached =>
      if name = "help" ∨ name = "version" then
        if attached.isSome then .error .valueNotWanted
        else .error (if name = "help" then .help else .version)
      else .error .unknownArgument
    | .short letter =>
      .error (if letter = 'h' then .help else if letter = 'V' then .version else .unknownArgument)
    | .plain name => Command.ofNamed name words

end CommandLine

end CucumberExpression
