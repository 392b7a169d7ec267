import TextMacros.Dictionary
import TextMacros.Disk
import TextMacros.Json.Reader

/-!
# TextMacros.MacroFile

Macro files: JSON objects whose members are names and their values.

A file is loaded in steps that each may fail: it is found, is readable, is not too large, is
UTF-8, is JSON, is an object, and holds nothing but strings.  Of a name that is written more than
once the last value counts, also where it is no string.

Names and values are kept as code points; what a text can name of them are the `texts`.
-/

namespace TextMacros.MacroFile

/-! ## what can go wrong -/

/-- Why a macro file is refused. -/
inductive Refusal where
  /-- No file stands there. -/
  | notFound
  /-- The file may not be read. -/
  | notReadable
  /-- The file has more bytes than allowed. -/
  | tooLarge (bytes : Nat)
  /-- The bytes are not UTF-8. -/
  | notUtf8
  /-- The text is not JSON; what is wrong, the text, and what is left of it where that shows. -/
  | malformed (problem : Json.Problem) (whole rest : Text)
  /-- The value is no object. -/
  | notObject
  /-- The value of a name is no string. -/
  | notString (name : Text)
  deriving DecidableEq, Repr

/-- Why a macro file was not loaded. -/
inductive Failure where
  /-- The file is refused. -/
  | refused (path : FilePath) (reason : Refusal)
  /-- A number in the file has more digits than are read. -/
  | integerTooLong (digits : Nat)
  /-- The path is too long to look up. -/
  | pathTooLong (path : FilePath)
  /-- The path asks for a home directory that is not known. -/
  | homeUnknown
  deriving DecidableEq, Repr

/-- What is said of a file that is refused. -/
def Refusal.message (path : Text) : Refusal → Text
  | notFound => .ofString "Macro file not found: " ++ path
  | notReadable => .ofString "Macro file not readable: " ++ path
  | tooLarge bytes =>
    .ofString "Macro file too large: " ++ path ++ .ofString " (" ++ .ofNat bytes ++
      .ofString " bytes)"
  | notUtf8 => .ofString "Macro file is not valid UTF-8: " ++ path
  | malformed problem whole rest =>
    .ofString "Error decoding JSON in macro file " ++ path ++ .ofString ": " ++
      problem.report whole rest
  | notObject => .ofString "Macro file " ++ path ++ .ofString " must hold a JSON object"
  | notString name =>
    .ofString "Macro " ++ name ++ .ofString " in " ++ path ++ .ofString " is not a string"

/-- What is said when a file was not loaded. -/
def Failure.message : Failure → Text
  | refused path reason => reason.message path.toText
  | integerTooLong digits => (Text.NumeralFault.tooLong digits).message
  | pathTooLong path => pathTooLongMessage path.toText.quoted
  | homeUnknown => .ofString "Could not determine home directory."

/-! ## the contents -/

/-- What a macro file holds: names and their values, in order. -/
abbrev Contents := Dictionary CodeText CodeText

/-- The contents as far as texts name them, with the values shown as texts. -/
def Contents.texts (contents : Contents) : Dictionary Text where
  entries := contents.entries.filterMap fun p => p.1.text?.map (·, p.2.shown)
  nodup := by
    have hnames := contents.nodup
    rw [List.Nodup, List.pairwise_map] at hnames ⊢
    rw [List.pairwise_filterMap]
    refine hnames.imp fun {p q} hpq p' hp q' hq heq => hpq ?_
    obtain ⟨m, hm, rfl⟩ := Option.map_eq_some_iff.1 hp
    obtain ⟨n, hn, rfl⟩ := Option.map_eq_some_iff.1 hq
    obtain rfl : m = n := heq
    rw [CodeText.text?_eq_some_iff] at hm hn
    rw [hm, hn]

/-- A text with its line ends all written as a line feed: a carriage return becomes one, unless a
line feed follows it and stands for both. -/
def unifyLineEnds (t : Text) : Text :=
  (t.zip (t.tail.map some ++ [none])).filterMap fun p =>
    if p.1 = '\r' then (if p.2 = some '\n' then none else some '\n') else some p.1

/-- The text that bytes hold in UTF-8, with its line ends unified. -/
def decode? (bytes : ByteArray) : Option Text :=
  (String.fromUTF8? bytes).map fun s => unifyLineEnds s.toList

/-- The values that an object gives its names; refused at the first name whose value is no
string. -/
def values (members : List (CodeText × Json CodeText)) : Except CodeText Contents :=
  let last := Dictionary.ofList members
  match last.entries.find? fun p => p.2.text?.isNone with
  | some (name, _) => .error name
  | none => .ok (last.filterMap Json.text?)

/-- What a file at a path holds, given its bytes. -/
def parse (path : FilePath) (bytes : ByteArray) : Except Failure Contents :=
  match decode? bytes with
  | none => .error (.refused path .notUtf8)
  | some whole =>
    match Json.read whole with
    | .error (.malformed problem rest) => .error (.refused path (.malformed problem whole rest))
    | .error (.integerTooLong digits) => .error (.integerTooLong digits)
    | .ok (.object members) =>
      match values members with
      | .ok found => .ok found
      | .error name => .error (.refused path (.notString name.shown))
    | .ok _ => .error (.refused path .notObject)

/-! ## loading -/

/-- The greatest number of bytes that a file may have, unless something else is said. -/
def defaultMaxBytes : Int := 1024 * 1024

/-- Loads the file at an absolute path. -/
def loadAt (disk : Disk) (maxBytes : Int) (path : FilePath) : Except Failure Contents :=
  match disk.find path.toText with
  | .error .nameTooLong => .error (.pathTooLong path)
  | .error _ | .ok .directory => .error (.refused path .notFound)
  | .ok (.file bytes readable) =>
    if !readable then .error (.refused path .notReadable)
    else if bytes.size > maxBytes then .error (.refused path (.tooLarge bytes.size))
    else parse path bytes

/-- The absolute path that a path means: a leading `~` is the home directory, and a relative path
starts in the working directory. -/
def resolvePath (disk : Disk) (home : Text) (path : FilePath) : Option FilePath :=
  (path.expandHome home).map (·.absolute disk.workingDirectory)

/-- Loads the file that a path means: its absolute path and its contents. -/
def load (disk : Disk) (home : Text) (maxBytes : Int) (path : FilePath) :
    Except Failure (FilePath × Contents) :=
  match resolvePath disk home path with
  | none => .error .homeUnknown
  | some path => (loadAt disk maxBytes path).map (path, ·)

/-- What is reported of a load: that it succeeded, or why the file is refused. -/
def reports : Except Failure (FilePath × Contents) → List Text
  | .ok (path, found) =>
    [.ofString "Loaded " ++ .ofNat found.entries.length ++ .ofString " macros from " ++
      path.toText]
  | .error (.refused path reason) => [reason.message path.toText]
  | .error _ => []

end TextMacros.MacroFile
