import CucumberExpression.CommandLine.Program

/-!
# The executable

Reads the file that a command needs, runs the program on it, and writes the result. A fault ends
the run with the exit code 101.
-/

set_option autoImplicit false
set_option relaxedAutoImplicit false

namespace CucumberExpression

namespace CommandLine

/-- The number of an error of the system, which may be given with its sign reversed. -/
def errorNumber (code : UInt32) : Nat :=
  if code.toNat < 1 <<< 31 then code.toNat else (1 <<< 32) - code.toNat

/-- The reason that an error number stands for. -/
def ReadError.ofNumber (number : Nat) (details : String) : ReadError :=
  match number with
  | 2 => .notFound
  | 20 => .notADirectory
  | 21 => .isADirectory
  | 36 => .nameTooLong
  | _ => .other (details ++ " (os error " ++ toString number ++ ")")

/-- The reason that an error of the system gives for a file that could not be read. -/
def ReadError.ofError : IO.Error → ReadError
  | .noFileOrDirectory _ code details | .inappropriateType _ code details
  | .invalidArgument _ code details | .permissionDenied _ code details =>
    .ofNumber (errorNumber code) details
  | error => .other (toString error)

/-- The text of a file. -/
def readFile (path : String) : IO (Except ReadError String) := do
  try
    return Directory.textOf (← IO.FS.readBinFile path)
  catch error =>
    return .error (.ofError error)

/-- The file that the arguments ask for. -/
def neededFile? (arguments : List String) : Option String :=
  match Command.ofArguments arguments with
  | .ok (.check _ file) => file
  | _ => none

end CommandLine

end CucumberExpression

open CucumberExpression CommandLine in
/-- Runs the program on its arguments. -/
def main (arguments : List String) : IO UInt32 := do
  let contents ← match neededFile? arguments with
    | some path => readFile path
    | none => pure (.error .notFound)
  match run (fun _ ↦ contents) arguments with
  | .ok result =>
    (← IO.getStdout).putStr result.output
    (← IO.getStderr).putStr result.errorOutput
    return result.exitCode.toUInt32
  | .error fault =>
    (← IO.getStderr).putStrLn fault.message
    return 101
