import PersistenceLayer.CommandLine

/-!
# The program

Runs the command line on the files of the machine. Everything that is decided
is decided in `CommandLine`; here its storage is made of real files.
-/

namespace PersistenceLayer.Machine

/-- The obstruction that a system error of some number tells of, if it is one that a tree knows. -/
def obstruction? (number : UInt32) : Option Obstruction :=
  match number with
  | 2 => some .notFound
  | 5 => some .refused
  | 17 => some .exists
  | 20 => some .notDirectory
  | 21 => some .isDirectory
  | 36 => some .nameTooLong
  | _ => none

/-- A system error in the words of the command line. Its number may come with either sign. -/
def systemReason (code : UInt32) (details : String) : String :=
  let number := min code (0 - code)
  match obstruction? number with
  | some obstruction => obstruction.message
  | none => details ++ " (os error " ++ toString number ++ ")"

/-- The reason that an error gives. -/
def reason : IO.Error → String
  | .alreadyExists _ code details | .invalidArgument _ code details
  | .permissionDenied _ code details | .resourceExhausted _ code details
  | .inappropriateType _ code details | .noSuchThing _ code details
  | .interrupted _ code details | .noFileOrDirectory _ code details
  | .otherError code details | .resourceBusy code details | .resourceVanished code details
  | .unsupportedOperation code details | .hardwareFault code details
  | .unsatisfiedConstraints code details | .illegalOperation code details
  | .protocolError code details | .timeExpired code details => systemReason code details
  | .unexpectedEof => "unexpected end of file"
  | .userError message => message

/-- Runs an action and keeps the reason why it fails. -/
def attempt {α : Type} (action : IO α) : IO (Except String α) := do
  try
    return .ok (← action)
  catch error =>
    return .error (reason error)

/-- The text in a file. -/
def readText (path : Path) : IO (Except String String) := do
  match ← attempt (IO.FS.readBinFile path.text) with
  | .error reason => return .error reason
  | .ok bytes =>
    match String.fromUTF8? bytes with
    | some text => return .ok text
    | none => return .error "stream did not contain valid UTF-8"

/-- The largest number in the name of a temporary file. -/
def nameRange : Nat := 0xFFFFFFFFFFFF

/-- How often a name for a temporary file is chosen before that is given up. -/
def nameAttempts : Nat := 1000

/-- Creates an empty file under a name that was free in a directory, in so many attempts. -/
def createFresh (directory : Path) : Nat → IO (Except String Path)
  | 0 => return .error "no free name for a temporary file"
  | attempts + 1 => do
    let path := directory.join ⟨".tmp" ++ toString (← IO.rand 0 nameRange)⟩
    try
      let _ ← IO.FS.Handle.mk path.text .writeNew
      return .ok path
    catch
      | .alreadyExists _ _ _ => createFresh directory attempts
      | error => return .error (reason error)

/-- The files of the machine as a storage. -/
def storage : Storage IO Path where
  makeDirectories path := attempt (IO.FS.createDirAll path.text)
  createTemporary directory := createFresh directory nameAttempts
  fillTemporary temporary contents := attempt (IO.FS.writeFile temporary.text contents)
  publish temporary path := attempt (IO.FS.rename temporary.text path.text)
  discard temporary := do
    let _ ← attempt (IO.FS.removeFile temporary.text)
  withdraw path := do
    let _ ← attempt (IO.FS.removeFile path.text)

/-- The variables of the environment that a configuration is read from. -/
def environment : IO (List (String × String)) := do
  let settings ← Config.keys.mapM fun key => do
    return (← IO.getEnv key).map fun value => (key, value)
  return settings.filterMap id

end PersistenceLayer.Machine

open PersistenceLayer in
/-- Runs the command line, prints what it reports and ends with its exit code. -/
def main (arguments : List String) : IO UInt32 := do
  let settings ← Machine.environment
  let outcome ←
    CommandLine.run Machine.storage Machine.readText (fun key => settings.lookup key) arguments
  IO.print outcome.output
  IO.eprint outcome.errors
  return outcome.exitCode
