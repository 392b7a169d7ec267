import TextMacros.Disk
import TextMacros.Json.Basic
import TextMacros.Dictionary
import TextMacros.NamePattern
import TextMacros.Text.Numeral

/-!
# TextMacros.Settings

The settings of the program, and the values they may be given.

A setting is given by an argument or, failing that, by an environment variable; it is read from a
JSON value, an environment variable counting as a string.  All settings are read, and all that
cannot be read are reported, in the order of the fields.  Main statement:
`readIntegerText_of_readPlainInteger`, by which an integer in its plain form is read as it stands.
-/

namespace TextMacros

/-! ## the settings -/

/-- The fields of the settings. -/
inductive Field where
  /-- Whether the journal is quiet. -/
  | quiet
  /-- The number of steps that an expansion may take. -/
  | bound
  /-- The written form of the pattern for names. -/
  | namePattern
  /-- The macro file to load unless another is given. -/
  | macroFile
  deriving DecidableEq, Repr

/-- The name of a field. -/
def Field.name : Field → Text
  | quiet => .ofString "beQuiet"
  | bound => .ofString "max_recursion"
  | namePattern => .ofString "macro_name_pattern"
  | macroFile => .ofString "macro_file"

/-- The number of steps allowed, unless something else is set. -/
def defaultBound : Nat := 100

/-- The settings. -/
structure Settings where
  /-- Whether the journal is quiet. -/
  quiet : Bool
  /-- The number of steps that an expansion may take. -/
  bound : Nat
  /-- The pattern for names, as it is written. -/
  namePatternWritten : Text
  /-- The pattern for names. -/
  namePattern : Pattern
  /-- The macro file to load unless another is given. -/
  macroFile? : Option FilePath

/-- The settings when nothing is set. -/
def Settings.default : Settings := ⟨false, defaultBound, defaultNameWritten, defaultName, none⟩

/-! ## faults -/

/-- Why a value cannot be read. -/
inductive Field.Problem where
  /-- A string or number that is no truth value. -/
  | noTruthValue
  /-- A value of a type that holds no truth values. -/
  | wrongTypeForTruth
  /-- A string that is no integer. -/
  | noInteger
  /-- A string with more digits than are read. -/
  | integerTooLong
  /-- A number with a fraction. -/
  | fractional
  /-- A value of a type that holds no integers. -/
  | wrongTypeForInteger
  /-- An integer below zero. -/
  | negative
  /-- A value that is no string. -/
  | noString
  /-- A string that is no pattern. -/
  | badPattern (written : Text) (fault : Pattern.Fault)
  /-- A value that is no path. -/
  | noPath
  deriving DecidableEq, Repr

/-- The text of a problem. -/
def Field.Problem.message : Field.Problem → Text
  | noTruthValue => .ofString "Input should be a valid boolean, unable to interpret input"
  | wrongTypeForTruth => .ofString "Input should be a valid boolean"
  | noInteger =>
    .ofString "Input should be a valid integer, unable to parse string as an integer"
  | integerTooLong =>
    .ofString "Unable to parse input string as an integer, exceeded maximum size"
  | fractional =>
    .ofString "Input should be a valid integer, got a number with a fractional part"
  | wrongTypeForInteger => .ofString "Input should be a valid integer"
  | negative => .ofString "Input should be greater than or equal to 0"
  | noString => .ofString "Input should be a valid string"
  | badPattern written fault =>
    .ofString "Value error, Invalid macro name pattern '" ++ written ++ .ofString "': " ++
      fault.message
  | noPath => .ofString "Input is not a valid path for <class 'pathlib.Path'>"

/-! ## reading values -/

/-- The words that mean yes. -/
def yesWords : List Text := ["1", "t", "true", "y", "yes", "on"].map .ofString

/-- The words that mean no. -/
def noWords : List Text := ["0", "f", "false", "n", "no", "off"].map .ofString

/-- The integer that a number is, if it has no fraction. -/
def integral? (mantissa exponent : Int) : Option Int :=
  if 0 ≤ exponent then some (mantissa * Int.pow 10 exponent.toNat)
  else
    let unit := Int.pow 10 (-exponent).toNat
    if mantissa % unit = 0 then some (mantissa / unit) else none

/-- Whether an integer fits into a machine word. -/
def fitsWord (n : Int) : Bool := -0x8000000000000000 ≤ n && n < 0x8000000000000000

/-- The truth value of a number, which is one or zero. -/
def truthOfNumber (n : Int) : Except Field.Problem Bool :=
  if n = 1 then .ok true
  else if n = 0 then .ok false
  else if fitsWord n then .error .noTruthValue
  else .error .wrongTypeForTruth

/-- Reads a truth value.  Words are taken in any case, but with nothing around them. -/
def readTruth : Json → Except Field.Problem Bool
  | .bool value => .ok value
  | .text t =>
    let word := t.map Char.toLower
    if yesWords.contains word then .ok true
    else if noWords.contains word then .ok false
    else .error .noTruthValue
  | .int n => truthOfNumber n
  | .real mantissa exponent =>
    match integral? mantissa exponent with
    | some n => truthOfNumber n
    | none => .error .wrongTypeForTruth
  | .notFinite | .null | .list _ | .object _ => .error .wrongTypeForTruth

/-- Reads an integer in its plain form: a minus sign or none, and digits that do not start with a
zero unless it is the only one.  What starts with more characters of these than are read is too
long, whatever follows. -/
def readPlainInteger (t : Text) : Except Field.Problem Int :=
  let (sign, unsigned) : Int × Text := match t with
    | '-' :: rest => (-1, rest)
    | _ => (1, t)
  let digits := unsigned.takeWhile Char.isDigit
  let rest := unsigned.dropWhile Char.isDigit
  if digits.isEmpty then .error .noInteger
  else if digits.head? = some '0' then
    if digits.length = 1 && rest.isEmpty then .ok 0 else .error .noInteger
  else if Text.maxDigits < t.length - rest.length then .error .integerTooLong
  else if rest.isEmpty then .ok (sign * Text.ofAsciiDigits digits)
  else .error .noInteger

/-- What counts of an unsigned integer behind zeros and underscores, given the last of them. -/
def behindZeros (last : Char) : Text → Option Text
  | [] => some [last]
  | c :: cs =>
    if c = '0' || c = '_' then behindZeros c cs
    else if c.isDigit || c = '-' then some (c :: cs)
    else if c = '.' then some (last :: c :: cs)
    else none

/-- An unsigned integer without the zeros and underscores that it starts with. -/
def withoutLeadingZeros : Text → Option Text
  | [] => none
  | c :: cs =>
    if c = '0' then behindZeros c cs
    else if c.isDigit then some (c :: cs)
    else none

/-- A number without a fraction that is all zeros. -/
def withoutZeroFraction (t : Text) : Text :=
  match Text.splitAt '.' t with
  | some (whole, zeros) => if !zeros.isEmpty && zeros.all (· == '0') then whole else t
  | none => t

/-- A number without its underscores, if each stands alone between two characters. -/
def withoutUnderscores (t : Text) : Text :=
  if (Text.pieces '_' t).all (!·.isEmpty) then t.filter (· != '_') else t

/-- The plain form of an integer that is written with white space around it, a plus sign, zeros in
front, underscores between its digits, or a fraction that is zero. -/
def plainForm? (t : Text) : Option Text :=
  let (minus, unsigned) : Text × Text := match t.trimClass Text.isWhiteSpace with
    | '-' :: rest => (['-'], rest)
    | '+' :: rest => ([], rest)
    | t => ([], t)
  (withoutLeadingZeros unsigned).map fun digits =>
    minus ++ withoutUnderscores (withoutZeroFraction digits)

/-- Reads an integer from a text. -/
def readIntegerText (t : Text) : Except Field.Problem Int :=
  match readPlainInteger t with
  | .ok n => .ok n
  | .error .integerTooLong => .error .integerTooLong
  | .error _ =>
    match (plainForm? t).map readPlainInteger with
    | some (.ok n) => .ok n
    | _ => .error .noInteger

theorem readIntegerText_of_readPlainInteger {t : Text} {n : Int}
    (h : readPlainInteger t = .ok n) : readIntegerText t = .ok n := by
  simp [readIntegerText, h]

/-- Reads an integer. -/
def readInteger : Json → Except Field.Problem Int
  | .bool value => .ok (if value then 1 else 0)
  | .int n => .ok n
  | .real mantissa exponent =>
    match integral? mantissa exponent with
    | some n => .ok n
    | none => .error .fractional
  | .text t => readIntegerText t
  | .notFinite => .error .fractional
  | .null | .list _ | .object _ => .error .wrongTypeForInteger

/-- Reads a bound: an integer that is not negative. -/
def readBound (value : Json) : Except Field.Problem Nat := do
  let n ← readInteger value
  if n < 0 then .error .negative else .ok n.toNat

/-- Reads a pattern for names. -/
def readNamePattern : Json → Except Field.Problem (Text × Pattern)
  | .text written =>
    match Pattern.read written with
    | .ok pattern => .ok (written, pattern)
    | .error fault => .error (.badPattern written fault)
  | _ => .error .noString

/-- Reads a path that may be missing. -/
def readPath : Json → Except Field.Problem (Option FilePath)
  | .null => .ok none
  | .text t => .ok (some (.ofText t))
  | _ => .error .noPath

/-! ## reading the settings -/

/-- What the name of the environment variable for a field starts with. -/
def variableStart : Text := .ofString "macrosub_"

/-- The value of the environment variable for a field.  Its name is taken in any case; of several
the last counts.  (No character outside ASCII has a lower case that occurs in the names.) -/
def variableValue? (environment : Dictionary Text) (field : Field) : Option Text :=
  let name := (variableStart ++ field.name).map Char.toLower
  (environment.entries.reverse.find? fun p => p.1.map Char.toLower == name).map (·.2)

/-- The value of the argument for a field.  Its name is taken in any case; the one in the case of
the field comes first, and of others the last counts. -/
def argumentValue? (arguments : List (Text × Json)) (field : Field) : Option Json :=
  let name := field.name.map Char.toLower
  (arguments.lookup field.name).or
    ((arguments.reverse.find? fun p => p.1.map Char.toLower == name).map (·.2))

/-- The value given for a field: by argument, or else by environment variable. -/
def given? (arguments : List (Text × Json)) (environment : Dictionary Text) (field : Field) :
    Option Json :=
  (argumentValue? arguments field).or ((variableValue? environment field).map .text)

/-- A field with what is wrong with its value. -/
abbrev FieldFault := Field × Field.Problem

/-- The fault of a reading, if it has one. -/
def faultOf (field : Field) : Except Field.Problem α → List FieldFault
  | .ok _ => []
  | .error problem => [(field, problem)]

/-- Reads the settings from arguments and environment variables.  Other arguments and variables
are ignored. -/
def Settings.read (arguments : List (Text × Json)) (environment : Dictionary Text) :
    Except (List FieldFault) Settings :=
  let reading {α : Type} (field : Field) (unset : α) (reader : Json → Except Field.Problem α) :
      Except Field.Problem α :=
    match given? arguments environment field with
    | none => .ok unset
    | some value => reader value
  let quiet := reading .quiet Settings.default.quiet readTruth
  let bound := reading .bound Settings.default.bound readBound
  let pattern := reading .namePattern (defaultNameWritten, defaultName) readNamePattern
  let file := reading .macroFile none readPath
  match quiet, bound, pattern, file with
  | .ok quiet, .ok bound, .ok (written, pattern), .ok file =>
    .ok ⟨quiet, bound, written, pattern, file⟩
  | quiet, bound, pattern, file =>
    .error (faultOf .quiet quiet ++ faultOf .bound bound ++ faultOf .namePattern pattern ++
      faultOf .macroFile file)

/-! ## the user's macro file -/

/-- The name of the user's macro file. -/
def userFileName : Text := .ofString "macros.json"

/-- The user's macro file, given the user's configuration directory. -/
def userFile (configuration : FilePath) : FilePath :=
  .below ⟨.relative, [userFileName]⟩ configuration

/-- The macro file to load when none is given: the one that is set, whether it exists or not, or
else the user's, if it exists. -/
def Settings.macroFileToLoad (settings : Settings) (configuration : FilePath) (disk : Disk) :
    Except Disk.Fault (Option FilePath) :=
  match settings.macroFile? with
  | some path => .ok (some path)
  | none =>
    let path := userFile configuration
    (disk.isFile path).map fun found => if found then some path else none

end TextMacros
