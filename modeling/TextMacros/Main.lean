import TextMacros.CommandLine.Files

/-!
# TextMacros.Main

The program `macrosub`: gathers what a run depends on, runs it, and writes what it answers.

The environment is read from the entry that the system keeps for the process.  Of the files, those
are looked at that the run may look at.
-/

namespace TextMacros.Main

open CommandLine

/-- A text as a string. -/
def write (t : Text) : String := String.ofList t

/-- The environment, given its definitions in bytes, with a NUL between two.  A definition that is
not UTF-8 is left out. -/
def environmentOf (bytes : ByteArray) : Dictionary Text :=
  let decode (piece : Text) : Option Text :=
    (String.fromUTF8? ⟨(piece.map fun c => c.toNat.toUInt8).toArray⟩).map Text.ofString
  .ofList ((Text.pieces '\x00' (bytes.toList.map fun b => Char.ofNat b.toNat)).filterMap
    fun piece => (decode piece).bind (Text.splitAt '='))

/-- The environment of the process. -/
def readEnvironment : IO (Dictionary Text) := do
  return environmentOf (← IO.FS.readBinFile "/proc/self/environ")

/-- What stands at an absolute path, if anything does. -/
def look (path : FilePath) : IO (Option Node) := do
  let found := (← IO.currentDir) / write path.toText
  if ← found.isDir then return some .directory
  unless ← found.pathExists do return none
  try
    return some (.file (← IO.FS.readBinFile found) true)
  catch _ =>
    return some (.file .empty false)

/-- A disk with what stands on the way to some paths. -/
def readDisk (workingDirectory : List Text) (paths : List FilePath) : IO Disk := do
  let mut disk := Disk.empty workingDirectory
  for (path, place) in paths.flatMap way do
    match ← look path with
    | some node => disk := disk.put place node
    | none => pure ()
  return disk

/-- The standard input, if it is asked for. -/
def readInput (asked : Bool) : IO Text := do
  unless asked do return []
  let bytes ← IO.FS.readBinFile "/dev/stdin"
  match String.fromUTF8? bytes with
  | some s => return .ofString s
  | none => throw (.userError "the standard input is not UTF-8")

/-- What is said when a run breaks off. -/
def crashLines : Crash → List Text
  | .settings faults =>
    faults.map fun (field, problem) => field.name ++ .ofString ": " ++ problem.message
  | .nulCharacter => [nulCharacterMessage]
  | .macroFile failure => [failure.message]
  | .markup fault => [fault.message]
  | .completion fault => [fault.message]

end TextMacros.Main

open TextMacros TextMacros.CommandLine TextMacros.Main in
/-- Runs the program. -/
def main (arguments : List String) : IO UInt32 := do
  let arguments := arguments.map Text.ofString
  let process ← readEnvironment
  let workingDirectory := (FilePath.ofText (.ofString (← IO.currentDir).toString)).names
  let configuration := userConfiguration process
  let disk ← readDisk workingDirectory (pathsOf process configuration workingDirectory arguments)
  let input ← readInput (readsInput process workingDirectory arguments)
  let (done, workspace) := run arguments input process configuration disk
  for message in workspace.journal.messages do IO.eprintln (write message)
  match done with
  | .ok outcome =>
    IO.print (write outcome.output)
    IO.eprint (write outcome.errors)
    return outcome.status.code.toUInt32
  | .error crash =>
    for line in crashLines crash do IO.eprintln (write line)
    return 1
