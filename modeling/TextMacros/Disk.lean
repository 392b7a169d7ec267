import TextMacros.FilePath

/-!
# TextMacros.Disk

The files that a program sees, as a value.

A disk holds what stands at which place, a place being the list of names from the root.  A look-up
walks along a written path: each name but the last has to be a directory, `..` goes up, and a
slash at the end asks for a directory.  Main statements:

* `Disk.nodeAt?_put`: what was put at a place is found there;
* `Disk.find_nil`: the empty path names nothing.
-/

namespace TextMacros

/-- What may stand at a place. -/
inductive Node where
  /-- A directory. -/
  | directory
  /-- A file with its bytes, and whether it may be read. -/
  | file (bytes : ByteArray) (readable : Bool)

/-- Whether something is a directory. -/
def Node.isDirectory : Node → Bool
  | directory => true
  | file _ _ => false

/-- What stands where, and the working directory. -/
structure Disk where
  /-- The places with what stands there, the latest first. -/
  places : List (List Text × Node)
  /-- The names that lead to the working directory. -/
  workingDirectory : List Text

/-- Why a path leads nowhere. -/
inductive Disk.Fault where
  /-- Nothing stands there, or a file stands on the way. -/
  | missing
  /-- A name, or the path, is longer than names can be. -/
  | nameTooLong
  /-- The path holds the character that no path can hold. -/
  | nulCharacter
  deriving DecidableEq, Repr

namespace Disk

/-! ## places -/

/-- What stands at a place.  The root is a directory. -/
def nodeAt? (disk : Disk) (place : List Text) : Option Node :=
  if place.isEmpty then some .directory else disk.places.lookup place

/-- The disk with something put at a place. -/
def put (disk : Disk) (place : List Text) (node : Node) : Disk :=
  { disk with places := (place, node) :: disk.places.filter (·.1 != place) }

theorem nodeAt?_put {place : List Text} (h : place ≠ []) (disk : Disk) (node : Node) :
    (disk.put place node).nodeAt? place = some node := by
  simp [nodeAt?, put, h]

/-- The disk with the directories on the way to a place put where nothing stands. -/
def putParents (disk : Disk) (place : List Text) : Disk :=
  (List.range place.length).foldl (fun disk n =>
    if (disk.nodeAt? (place.take n)).isSome then disk else disk.put (place.take n) .directory) disk

/-- The place of a path, with every name taken as it stands. -/
def placeOf (disk : Disk) (path : FilePath) : List Text :=
  (path.absolute disk.workingDirectory).names

/-- The disk with something put at the place of a path, and the directories on the way to it. -/
def store (disk : Disk) (path : FilePath) (node : Node) : Disk :=
  (disk.putParents (disk.placeOf path)).put (disk.placeOf path) node

/-- The disk without what stands at the place of a path. -/
def remove (disk : Disk) (path : FilePath) : Disk :=
  { disk with places := disk.places.filter (·.1 != disk.placeOf path) }

/-- A disk with nothing but the working directory and the directories on the way to it. -/
def empty (workingDirectory : List Text) : Disk :=
  (Disk.mk [] workingDirectory).store ⟨.relative, []⟩ .directory

/-! ## looking up -/

/-- The number of bytes that a text takes up. -/
def byteLength : Text → Nat
  | [] => 0
  | c :: cs => c.utf8Size + byteLength cs

/-- The greatest number of bytes in a name. -/
def maxNameBytes : Nat := 255

/-- The number of bytes from which on a path is too long. -/
def maxPathBytes : Nat := 4096

/-- Goes on from a place by one name. -/
def step (disk : Disk) (place : List Text) (name : Text) : Except Fault (List Text) :=
  match disk.nodeAt? place with
  | some .directory =>
    if !FilePath.isStep name then .ok place
    else if name = ['.', '.'] then .ok place.dropLast
    else if byteLength name > maxNameBytes then .error .nameTooLong
    else if (disk.nodeAt? (place ++ [name])).isSome then .ok (place ++ [name])
    else .error .missing
  | _ => .error .missing

/-- What stands where a written path leads to. -/
def find (disk : Disk) (path : Text) : Except Fault Node :=
  if path.contains '\x00' then .error .nulCharacter
  else if path.isEmpty then .error .missing
  else if byteLength path ≥ maxPathBytes then .error .nameTooLong
  else do
    let start := if path.head? == some '/' then [] else disk.workingDirectory
    let place ← (Text.pieces '/' path).foldlM disk.step start
    match disk.nodeAt? place with
    | some node => .ok node
    | none => .error .missing

@[simp] theorem find_nil (disk : Disk) : disk.find [] = .error .missing := rfl

/-- Whether a file stands where a path leads to.  A path that leads nowhere is answered too, but
for one that is too long. -/
def isFile (disk : Disk) (path : FilePath) : Except Fault Bool :=
  match disk.find path.toText with
  | .ok node => .ok !node.isDirectory
  | .error .nameTooLong => .error .nameTooLong
  | .error _ => .ok false

end Disk

/-- What the system says of a path that is too long. -/
def pathTooLongMessage (quotedPath : Text) : Text :=
  .ofString "[Errno 36] File name too long: " ++ quotedPath

end TextMacros
