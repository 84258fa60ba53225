import ModuleDocs.Files.Path
import ModuleDocs.Files.Tree
import ModuleDocs.Text.Encoding

/-! # Reading and writing files

    A path is walked name by name from the root or from the working
    directory: every name but the last has to lead to a directory, and two
    dots lead to the directory above.  What fails, fails because of what
    stands in the tree, or because of the path: a name takes at most 255
    bytes and a whole path at most 4095, and no null character is allowed. -/

namespace ModuleDocs

/-- Why a file operation fails. -/
inductive FileCause where
  | notFound
  | notADirectory
  | isADirectory
  | exists
  | nameTooLong
  | invalid
  | notEmpty
  | nullCharacter
deriving DecidableEq, Repr

/-- A failed file operation and the path it was about, as it is shown. -/
structure FileError where
  cause : FileCause
  path : Text
deriving DecidableEq, Repr

namespace FileCause

/-- The number of a cause that comes from the file system. -/
def number? : FileCause → Option Nat
  | notFound => some 2
  | notADirectory => some 20
  | isADirectory => some 21
  | .exists => some 17
  | nameTooLong => some 36
  | invalid => some 22
  | notEmpty => some 39
  | nullCharacter => none

/-- The wording of a cause. -/
def message : FileCause → Text
  | notFound => "No such file or directory"
  | notADirectory => "Not a directory"
  | isADirectory => "Is a directory"
  | .exists => "File exists"
  | nameTooLong => "File name too long"
  | invalid => "Invalid argument"
  | notEmpty => "Directory not empty"
  | nullCharacter => "embedded null byte"

end FileCause

/-- The wording of an error. -/
def FileError.message (e : FileError) : Text :=
  match e.cause.number? with
  | some n =>
    "[Errno " ++ Text.ofNat n ++ "] " ++ e.cause.message ++ ": " ++ Text.quoted e.path
  | none => e.cause.message

/-- Why a text file is not read or written. -/
inductive TextFileError where
  | file (e : FileError)
  | decode (e : DecodeError)
deriving DecidableEq, Repr

/-- The wording of an error. -/
def TextFileError.message : TextFileError → Text
  | file e => e.message
  | decode e => e.message

namespace Tree

/-- How many bytes a text takes. -/
def byteCount (t : Text) : Nat := (Text.utf8 t).length

/-- Whether a path takes more bytes than a path may. -/
def isTooLong (p : Path) : Bool := 4095 < byteCount p.toText

/-- The location that names lead to from a location. -/
def walk (t : Tree) (l : Location) : List Text → Except FileCause Location
  | [] => .ok l
  | name :: names =>
    match t.node? l with
    | none => .error .notFound
    | some (.file _) => .error .notADirectory
    | some .directory =>
      if 255 < byteCount name then .error .nameTooLong else walk t (Path.step l name) names

/-- The location of a path; whether anything stands there is left open. -/
def locate (t : Tree) (cwd : Location) (p : Path) : Except FileCause Location :=
  if p.hasNull then .error .nullCharacter
  else if isTooLong p then .error .nameTooLong
  else t.walk (if p.isAbsolute then [] else cwd) p.names

/-- What a path leads to, if anything.  Only a name that is too long keeps from looking. -/
def look (t : Tree) (cwd : Location) (p : Path) : Except FileError (Option Node) :=
  match t.locate cwd p with
  | .ok l => .ok (t.node? l)
  | .error .nameTooLong => .error ⟨.nameTooLong, p.toText⟩
  | .error _ => .ok none

/-- Whether a path leads to a directory. -/
def hasDirectory (t : Tree) (cwd : Location) (p : Path) : Except FileError Bool :=
  (t.look cwd p).map (· = some .directory)

/-- What follows one step of a walk. -/
theorem walk_cons {t : Tree} {l m : Location} {name : Text} {names : List Text}
    (h : t.walk l (name :: names) = .ok m) :
    t.node? l = some .directory ∧ t.walk (Path.step l name) names = .ok m := by
  rw [walk] at h
  split at h
  · cases h
  · cases h
  · next hd =>
      split at h
      · cases h
      · exact ⟨hd, h⟩

/-- The bytes of the file that a path leads to. -/
def read (t : Tree) (cwd : Location) (p : Path) : Except FileError (List UInt8) :=
  match t.locate cwd p with
  | .error cause => .error ⟨cause, p.toText⟩
  | .ok l =>
    match t.node? l with
    | none => .error ⟨.notFound, p.toText⟩
    | some .directory => .error ⟨.isADirectory, p.toText⟩
    | some (.file bytes) => .ok bytes

/-- The text of the file that a path leads to. -/
def readText (t : Tree) (cwd : Location) (e : Encoding) (p : Path) : Except TextFileError Text := do
  let bytes ← (t.read cwd p).mapError .file
  (Text.ofFile e bytes).mapError .decode

/-- The tree with the file that a path leads to written anew. -/
def write (t : Tree) (cwd : Location) (p : Path) (bytes : List UInt8) : Except FileError Tree :=
  match t.locate cwd p with
  | .error cause => .error ⟨cause, p.toText⟩
  | .ok l =>
    if h : t.HasRoom l then .ok (t.put l (.file bytes) h)
    else .error ⟨if t.isDirectory l then .isADirectory else .notFound, p.toText⟩

/-- Writing changes the file at the location of the path and nothing else. -/
theorem node?_of_write {t written : Tree} {cwd l : Location} {p : Path} {bytes : List UInt8}
    (hl : t.locate cwd p = .ok l) (h : t.write cwd p bytes = .ok written) (k : Location) :
    written.node? k = if k = l then some (.file bytes) else t.node? k := by
  rw [write, hl] at h
  simp only at h
  split at h
  · cases h
    simp
  · cases h

/-- The tree with a text written in UTF-8. -/
def writeText (t : Tree) (cwd : Location) (p : Path) (text : Text) : Except FileError Tree :=
  t.write cwd p (Text.utf8 text)

/-- The tree with a new directory. -/
def makeDirectory (t : Tree) (cwd : Location) (p : Path) : Except FileError Tree :=
  match t.locate cwd p with
  | .error cause => .error ⟨cause, p.toText⟩
  | .ok l =>
    if (t.node? l).isSome then .error ⟨.exists, p.toText⟩
    else if h : t.HasRoom l then .ok (t.put l .directory h)
    else .error ⟨.notFound, p.toText⟩

/-- The tree with a directory whose parents are there; it may be there already. -/
def ensureLast (t : Tree) (cwd : Location) (p : Path) : Except FileError Tree :=
  match t.makeDirectory cwd p with
  | .ok t => .ok t
  | .error e =>
    match t.hasDirectory cwd p with
    | .ok true => .ok t
    | _ => .error e

/-- Makes the directories that names lead through, one after the other, from `done` on; the tree
also when one of them cannot be made. -/
def ensureFrom (t : Tree) (cwd : Location) (done : Path) : List Text → Except FileError Unit × Tree
  | [] => (.ok (), t)
  | name :: names =>
    match t.ensureLast cwd (done.child name) with
    | .ok t => ensureFrom t cwd (done.child name) names
    | .error e => (.error e, t)

/-- Makes a directory and its parents; what is there already stays.  What was made before an error
stays as well. -/
def ensureDirectory (t : Tree) (cwd : Location) (p : Path) : Except FileError Unit × Tree :=
  match t.ensureLast cwd p with
  | .ok t => (.ok (), t)
  | .error ⟨.notFound, _⟩ => t.ensureFrom cwd ⟨p.root, []⟩ p.names
  | .error e => (.error e, t)

/-! ## Taking away

    A directory is emptied first and then taken away itself, by the path as it
    was given.  That fails when the path ends in dots, or when it leads through
    something that has just been taken away. -/

/-- The tree without the file that a path leads to. -/
def removeFile (t : Tree) (cwd : Location) (p : Path) : Except FileError Tree :=
  match t.locate cwd p with
  | .error cause => .error ⟨cause, p.toText⟩
  | .ok l =>
    match t.node? l with
    | none => .error ⟨.notFound, p.toText⟩
    | some .directory => .error ⟨.isADirectory, p.toText⟩
    | some (.file _) => if h : l ≠ [] then .ok (t.remove l h) else .ok t

/-- The tree without anything below a location. -/
def clear (t : Tree) (l : Location) : Tree :=
  (t.namesIn l).foldl (fun t name => t.remove (l ++ [name]) (by simp)) t

/-- The tree without the empty directory at a location, which was given by `given`. -/
def removeEmptied (t : Tree) (cwd l : Location) (given : Text) : Except FileCause Tree := do
  let pieces := (Text.pieces '/' given).filter (· ≠ [])
  let above := Path.mk (Path.ofText given).root (pieces.dropLast.filter (· ≠ ['.']))
  let parent ← t.locate cwd above
  if above.names ≠ [] ∧ t.isDirectory parent = false then throw .notFound
  match pieces.getLast? with
  | none => throw .invalid
  | some ['.'] => throw .invalid
  | some ['.', '.'] => throw .notEmpty
  | some _ => if h : l ≠ [] then pure (t.remove l h) else throw .invalid

/-- The tree without the directory at a location, which was given by `given`.  What was below it is
gone also when the directory itself stays. -/
def removeDirectory (t : Tree) (cwd l : Location) (given : Text) : Except FileError Unit × Tree :=
  let cleared := t.clear l
  match cleared.removeEmptied cwd l given with
  | .ok removed => (.ok (), removed)
  | .error cause => (.error ⟨cause, given⟩, cleared)

/-- The tree without the file or the directory that `given` leads to. -/
def discard (t : Tree) (cwd : Location) (given : Text) : Except FileError Unit × Tree :=
  let p := Path.ofText given
  match t.hasDirectory cwd p, t.locate cwd p with
  | .error e, _ => (.error e, t)
  | .ok true, .ok l =>
    if given = [] then (.error ⟨.notFound, given⟩, t) else t.removeDirectory cwd l given
  | .ok _, _ =>
    match t.removeFile cwd p with
    | .ok removed => (.ok (), removed)
    | .error e => (.error e, t)

end Tree

end ModuleDocs
