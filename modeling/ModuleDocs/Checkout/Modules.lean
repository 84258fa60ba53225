import ModuleDocs.Text.Glob
import ModuleDocs.Workspace

/-! # Modules in a checkout

    A module is a directory that directly holds files of the wanted names.
    Its source tells callers where to take it from: the repository, the way
    to the module and a tag.

    Directories are given as text; messages show them as they were given. -/

namespace ModuleDocs

/-- How modules are found and named. -/
structure CheckoutOptions where
  /-- Patterns for the files of a module. -/
  filePatterns : List Text := []
  /-- Names of directories that are not searched. -/
  excludeDirs : List Text := []
  repository : Option Text := none
  defaultTag : Text := "v0.0.0"
  encoding : Text := "utf-8"
deriving DecidableEq, Repr

/-- A checkout: its options, and its latest tag once that is known. -/
structure Checkout where
  options : CheckoutOptions
  tag : Option Text := none
deriving DecidableEq, Repr

/-- Why the files of a module are not read. -/
inductive ModuleError where
  | notFound (directory : Text)
  | file (e : TextFileError)
deriving DecidableEq, Repr

/-- The wording of an error. -/
def ModuleError.message : ModuleError → Text
  | notFound directory => "Module directory not found: " ++ directory
  | file e => e.message

namespace CheckoutOptions

/-- The patterns for the files of a module. -/
def patterns (o : CheckoutOptions) : List Text :=
  if o.filePatterns = [] then ["*.tf"] else o.filePatterns

/-- The names of directories that are not searched. -/
def excluded (o : CheckoutOptions) : List Text :=
  if o.excludeDirs = [] then [".git", "node_modules", ".terraform", "vendor", "__pycache__"]
  else o.excludeDirs

/-- Whether a file of this name belongs to a module. -/
def accepts (o : CheckoutOptions) (name : Text) : Bool :=
  o.patterns.any fun pattern => Text.matchesGlob pattern name

/-- The error about a path that is too long. -/
def tooLong (p : Path) : FileError := ⟨.nameTooLong, p.toText⟩

/-- Whether an entry of the directory `p`, which stands at `l`, is a file of the module.  Every
entry that is looked at needs a path that is not too long. -/
def isModuleFile (o : CheckoutOptions) (t : Tree) (l : Location) (p : Path) (name : Text) :
    Except FileError Bool :=
  if Tree.isTooLong (p.child name) then .error (tooLong (p.child name))
  else .ok (!t.isDirectory (l ++ [name]) && o.accepts name)

/-- The location of a directory, if there is one. -/
def directoryAt? (w : Workspace) (p : Path) : Except FileError (Option Location) :=
  match w.tree.locate w.cwd p with
  | .ok l => .ok (if w.tree.isDirectory l then some l else none)
  | .error .nameTooLong => .error (tooLong p)
  | .error _ => .ok none

/-- Whether a directory is a module. -/
def detect (o : CheckoutOptions) (w : Workspace) (directory : Text) : Except FileError Bool := do
  let p := Path.ofText directory
  match ← directoryAt? w p with
  | some l => (w.tree.namesIn l).anyM (o.isModuleFile w.tree l p)
  | none => pure false

/-- The text of the file of a module. -/
def readFile (o : CheckoutOptions) (w : Workspace) (p : Path) : Except TextFileError Text :=
  match Encoding.ofName o.encoding with
  | .ok e => w.readText e p
  | .error e => .error (.decode e)

/-- The files of a module with their texts, in the order of their names. -/
def readFiles (o : CheckoutOptions) (w : Workspace) (directory : Text) :
    Except ModuleError (List (Text × Text)) := do
  let p := Path.ofText directory
  match ← (directoryAt? w p).mapError (.file ∘ .file) with
  | some l =>
    (Text.sort (w.tree.namesIn l)).filterMapM fun name => do
      if ← (o.isModuleFile w.tree l p name).mapError (.file ∘ .file) then
        let text ← (o.readFile w (p.child name)).mapError .file
        pure (some (name, text))
      else pure none
  | none => throw (.notFound directory)

/-- Whether the names on the way to a directory keep it from being searched. -/
def isExcluded (o : CheckoutOptions) (names : List Text) : Bool :=
  names.any fun name => o.excluded.contains name

/-- The directories of the modules below a location, by the names from there on. -/
def moduleNames (o : CheckoutOptions) (t : Tree) (l : Location) : List (List Text) :=
  ((t.filesBelow l).filterMap fun (names, _) =>
    if o.accepts (names.getLast?.getD []) && !o.isExcluded names.dropLast then some names.dropLast
    else none).eraseDups

/-- Whether a search comes to one path before another.  It looks at everything in a directory before
it goes down into the directories there.  File systems list a directory in an order of their own;
here that is the order of names. -/
def comesBefore (p q : Path) : Bool :=
  let above (r : Path) := r.names.dropLast
  if above p = above q then Path.le p q else Path.namesLe (above p) (above q)

/-- The first path that is too long to which a search of what stands below a location comes. -/
def tooLongBelow? (t : Tree) (l : Location) (p : Path) : Option Path :=
  let paths := t.entries.filterMap fun (k, _) =>
    if Tree.isAtOrBelow l k && k ≠ l then some (p.below (k.drop l.length)) else none
  ((paths.filter Tree.isTooLong).mergeSort comesBefore).head?

/-- The module directories at or below a directory, in the order of their names. -/
def moduleDirectories (o : CheckoutOptions) (w : Workspace) (base : Text) :
    Logged (Except FileError (List Path)) :=
  let p := Path.ofText base
  match directoryAt? w p with
  | .ok (some l) =>
    match tooLongBelow? w.tree l p with
    | some below => pure (.error (tooLong below))
    | none => pure (.ok (((o.moduleNames w.tree l).map p.below).mergeSort Path.le))
  | .ok none => .warn (.ok []) ("Base directory not found: " ++ base)
  | .error e => pure (.error e)

/-- The repository: the one that was chosen, or the one that the address of the origin names. -/
def repositoryName (o : CheckoutOptions) (w : Workspace) : Text :=
  match o.repository with
  | some (c :: name) => c :: name
  | _ => (((w.git.answer? .originUrl).bind Repository.named?)).getD Repository.unknown

end CheckoutOptions

namespace Checkout

/-- The way to a module from the top of the checkout, or the path as given when the module is not in
the checkout. -/
def modulePath (w : Workspace) (directory : Text) : Except FileError Text := do
  let p := Path.ofText directory
  let place ← w.resolve p
  let inside := do
    let top ← w.topLevel? directory
    let above ← (w.resolve (.ofText top)).toOption
    Path.relative? above place
  match inside with
  | some names => pure (Path.mk [] names).toText
  | none => pure p.toText

/-- The name of a module: that of its directory. -/
def moduleName (w : Workspace) (directory : Text) : Except FileError Text :=
  (w.resolve (.ofText directory)).map fun place => (place.getLast?).getD []

/-- The latest tag of the checkout; it is asked for once. -/
def latestTag (c : Checkout) (w : Workspace) : Text :=
  c.tag.getD ((w.git.answer? .latestTag).getD c.options.defaultTag)

/-- The checkout with its latest tag known. -/
def withTag (c : Checkout) (w : Workspace) : Checkout := { c with tag := some (c.latestTag w) }

/-- The source from which callers take a module. -/
def moduleSource (c : Checkout) (w : Workspace) (directory : Text) : Except FileError Text :=
  (modulePath w directory).map fun path =>
    "git::https://github.com/" ++ c.options.repositoryName w ++ ".git//" ++ path ++ "?ref=" ++
      c.latestTag w

/-- The name, source and version of a module. -/
def moduleMeta (c : Checkout) (w : Workspace) (directory : Text) : Except FileError ModuleMeta := do
  let name ← moduleName w directory
  let source ← c.moduleSource w directory
  pure { name, source, version := c.latestTag w }

end Checkout

end ModuleDocs
