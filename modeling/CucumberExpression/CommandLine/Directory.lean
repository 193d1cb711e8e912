/-!
# The working directory

Files are read from a working directory of named entries, each of which is a file or a directory
without entries. A path leads from entry to entry; what lies outside the working directory is
taken to be directories without files. Reading ends with the text of a file or with the reason why
there is none.
-/

set_option autoImplicit false
set_option relaxedAutoImplicit false

namespace CucumberExpression

namespace CommandLine

/-- Why a file could not be read. -/
inductive ReadError where
  | notFound
  | notADirectory
  | isADirectory
  | nameTooLong
  /-- The path holds the character zero. -/
  | zeroInPath
  /-- The bytes of the file are not UTF-8. -/
  | notText
  /-- Any other reason, in the words of the system. -/
  | other (message : String)
  deriving Repr, DecidableEq

/-- The wording of a reason. -/
def ReadError.message : ReadError → String
  | notFound => "No such file or directory (os error 2)"
  | notADirectory => "Not a directory (os error 20)"
  | isADirectory => "Is a directory (os error 21)"
  | nameTooLong => "File name too long (os error 36)"
  | zeroInPath => "file name contained an unexpected NUL byte"
  | notText => "stream did not contain valid UTF-8"
  | other message => message

/-- What may stand under a name. -/
inductive Entry where
  | file (content : ByteArray)
  | directory

/-- The entries of the working directory. -/
structure Directory where
  entries : List (String × Entry)

namespace Directory

/-- The longest name of an entry, in bytes. -/
def nameLimit : Nat := 255

/-- The longest path, in bytes. -/
def pathLimit : Nat := 4095

/-- Where a path has led to. -/
inductive Location where
  | outside
  | here
  | inside
  | file (content : ByteArray)

/-- The place that one more name leads to. -/
def step (directory : Directory) (location : Location) (name : String) :
    Except ReadError Location :=
  match location with
  | .file _ => .error .notADirectory
  | .outside =>
    if name = "" ∨ name = "." ∨ name = ".." then .ok .outside
    else .error (if nameLimit < name.utf8ByteSize then .nameTooLong else .notFound)
  | .inside =>
    if name = "" ∨ name = "." then .ok .inside
    else if name = ".." then .ok .here
    else .error (if nameLimit < name.utf8ByteSize then .nameTooLong else .notFound)
  | .here =>
    if name = "" ∨ name = "." then .ok .here
    else if name = ".." then .ok .outside
    else if nameLimit < name.utf8ByteSize then .error .nameTooLong
    else
      match directory.entries.lookup name with
      | some (.file content) => .ok (.file content)
      | some .directory => .ok .inside
      | none => .error .notFound

/-- The text that bytes stand for. -/
def textOf (content : ByteArray) : Except ReadError String :=
  match String.fromUTF8? content with
  | some text => .ok text
  | none => .error .notText

/-- The text of the file that a path leads to. -/
def read (directory : Directory) (path : String) : Except ReadError String := do
  if path.toList.contains '\x00' then .error .zeroInPath
  else if path.isEmpty then .error .notFound
  else if pathLimit < path.utf8ByteSize then .error .nameTooLong
  else
    let start : Location := if path.toList.head? = some '/' then .outside else .here
    match ← (path.splitOn "/").foldlM directory.step start with
    | .file content => textOf content
    | _ => .error .isADirectory

end Directory

end CommandLine

end CucumberExpression
