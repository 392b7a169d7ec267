import TextMacros.CommandLine.Program

/-!
# TextMacros.CommandLine.Files

What a run of the program depends on outside its command line: where the user's configuration
lies, which files it may look at, and whether it reads the standard input.

The program is given the configuration directory.  The rule by which it is found belongs to the
system, and is applied once, when the program starts.

A run looks at no more than the macro file that is named on its command line, or else the one that
is set and the user's.  So a disk that holds these paths, with what stands on the way to them,
serves a run as well as all files would.  Main statement: `length_way`, by which the way to a path
has one step for each of its names.
-/

namespace TextMacros.CommandLine

/-! ## the configuration directory -/

/-- The user's configuration directory for the program: in the directory that the environment sets
for configurations, or else in the one that the home directory has for them.  Without a home
directory its `~` stays as it is written. -/
def userConfiguration (process : Dictionary Text) : FilePath :=
  let home := match process.get? (.ofString "HOME") with
    | some home => FilePath.trimHome home
    | none => ['~']
  let directory :=
    (process.get? (.ofString "XDG_CONFIG_HOME")).getD (home ++ .ofString "/.config")
  .below ⟨.relative, [.ofString "macrosub"]⟩ (.ofText directory)

/-! ## the way to a path -/

/-- The place that names lead to, each `..` going up. -/
def placeOfNames (names : List Text) : List Text :=
  names.foldl (fun place name => if name = ['.', '.'] then place.dropLast else place ++ [name]) []

/-- The steps of the way to an absolute path: the path up to each name, and the place it leads
to. -/
def way (path : FilePath) : List (FilePath × List Text) :=
  (List.range path.names.length).map fun n =>
    (⟨path.root, path.names.take (n + 1)⟩, placeOfNames (path.names.take (n + 1)))

@[simp] theorem length_way (path : FilePath) : (way path).length = path.names.length := by
  simp [way]

/-! ## what a run depends on -/

/-- What a command line asks for, if no file is in its way and no shell asks. -/
def requestOn (process : Dictionary Text) (workingDirectory : List Text)
    (arguments : List Text) : Option (Settings × Request) :=
  match Settings.read [] process, Completion.asked? process,
      Request.read (.empty workingDirectory) arguments with
  | .ok settings, none, .ok request => some (settings, request)
  | _, _, _ => none

/-- The macro files that the sources of a request may name. -/
def candidates (configuration : FilePath) (settings : Settings) (sources : Sources) :
    List FilePath :=
  match sources.file? with
  | some path => [path]
  | none => settings.macroFile?.toList ++ [userFile configuration]

/-- The absolute paths that a run may look at: its macro files, with a leading `~` as it stands
and as the home directory. -/
def pathsOf (process : Dictionary Text) (configuration : FilePath) (workingDirectory : List Text)
    (arguments : List Text) : List FilePath :=
  match requestOn process workingDirectory arguments with
  | some (settings, .resolve sources _) =>
    let home := (process.get? (.ofString "HOME")).getD []
    (candidates configuration settings sources).flatMap fun path =>
      (path :: (path.expandHome home).toList).map (·.absolute workingDirectory)
  | _ => []

/-- Whether a run reads the standard input. -/
def readsInput (process : Dictionary Text) (workingDirectory : List Text)
    (arguments : List Text) : Bool :=
  match requestOn process workingDirectory arguments with
  | some (_, request) => request.readsInput
  | none => false

end TextMacros.CommandLine
