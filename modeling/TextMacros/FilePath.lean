import TextMacros.Text.Basic

/-!
# TextMacros.FilePath

Paths of files, as they are written in messages.

A path is a root and the names on the way from it.  Reading one drops empty names and the name
`.`; the name `..` stays, since what it means depends on the files.  Exactly two leading slashes
are a root of their own.  Main statements:

* `FilePath.isAbsolute_absolute`: a path made absolute starts at a root;
* `FilePath.absolute_of_isAbsolute`: a path that starts at a root is left as it is.
-/

namespace TextMacros

/-- Where a path starts. -/
inductive FilePath.Root where
  /-- In the working directory. -/
  | relative
  /-- At the root. -/
  | slash
  /-- At the root that two slashes name. -/
  | doubleSlash
  deriving DecidableEq, Repr

/-- A path of a file. -/
structure FilePath where
  /-- Where it starts. -/
  root : FilePath.Root
  /-- The names on the way. -/
  names : List Text
  deriving DecidableEq, Repr

namespace FilePath

/-- The root that so many leading slashes name. -/
def Root.ofSlashes (n : Nat) : Root :=
  if n = 0 then relative else if n = 2 then doubleSlash else slash

/-- How a root is written. -/
def Root.written : Root → Text
  | relative => []
  | slash => ['/']
  | doubleSlash => ['/', '/']

/-- Whether a name adds to a path. -/
def isStep (name : Text) : Bool := name != [] && name != ['.']

/-- Reads a path. -/
def ofText (t : Text) : FilePath where
  root := .ofSlashes (t.takeWhile (· == '/')).length
  names := (Text.pieces '/' t).filter isStep

/-- A path as it is written; the path with no name is `.`. -/
def toText (p : FilePath) : Text :=
  if p.root = .relative && p.names.isEmpty then ['.']
  else p.root.written ++ Text.joined ['/'] p.names

/-- Whether a path starts at a root. -/
def isAbsolute (p : FilePath) : Bool := p.root != .relative

/-- A path below another; a path that starts at a root stays as it is. -/
def below (p : FilePath) (base : FilePath) : FilePath :=
  if p.isAbsolute then p else ⟨base.root, base.names ++ p.names⟩

/-- A path from the root, given the names that lead to the working directory. -/
def absolute (p : FilePath) (workingDirectory : List Text) : FilePath :=
  p.below ⟨.slash, workingDirectory⟩

theorem absolute_of_isAbsolute {p : FilePath} (h : p.isAbsolute) (names : List Text) :
    p.absolute names = p := by
  simp [absolute, below, h]

theorem isAbsolute_absolute (p : FilePath) (names : List Text) :
    (p.absolute names).isAbsolute := by
  by_cases h : p.root = .relative <;> simp [absolute, below, isAbsolute, h]

/-! ## the home directory -/

/-- The home directory without trailing slashes, unless it is the root. -/
def trimHome (home : Text) : Text := (home.reverse.dropWhile (· == '/')).reverse

/-- A path with a leading `~` replaced by the home directory.  A leading name that only starts
with `~` asks for another user's home, of which none is known; nor is a home directory known
that itself starts with `~`. -/
def expandHome (p : FilePath) (home : Text) : Option FilePath :=
  match p.root, p.names with
  | .relative, ['~'] :: names =>
    let base := if (trimHome home).isEmpty then ['/'] else trimHome home
    if base.head? == some '~' then none else some (below ⟨.relative, names⟩ (ofText base))
  | .relative, ('~' :: _) :: _ => none
  | _, _ => some p

end FilePath

end TextMacros
