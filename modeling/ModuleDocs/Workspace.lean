import ModuleDocs.Checkout.Git
import ModuleDocs.Describe.Describer
import ModuleDocs.Files.Access

/-! # Workspaces

    What a run finds around it: files, a working directory, version control
    and a chat service. -/

namespace ModuleDocs

/-- The surroundings of a run. -/
structure Workspace where
  tree : Tree
  /-- Where relative paths begin. -/
  cwd : Location
  git : Git
  chat : ChatClient

namespace Workspace

/-- The location that a path names, two dots taken away; it need not be there. -/
def resolve (w : Workspace) (p : Path) : Except FileError Location :=
  if p.hasNull then .error ⟨.nullCharacter, p.toText⟩ else .ok (p.resolve w.cwd)

/-- What a path leads to, if anything. -/
def look (w : Workspace) (p : Path) : Except FileError (Option Node) := w.tree.look w.cwd p

/-- Whether a path leads to a directory. -/
def hasDirectory (w : Workspace) (p : Path) : Except FileError Bool := w.tree.hasDirectory w.cwd p

/-- The text of the file that a path leads to. -/
def readText (w : Workspace) (e : Encoding) (p : Path) : Except TextFileError Text :=
  w.tree.readText w.cwd e p

/-- The workspace with a text file written. -/
def writeText (w : Workspace) (p : Path) (text : Text) : Except FileError Workspace :=
  (w.tree.writeText w.cwd p text).map fun tree => { w with tree := tree }

/-- The top of the checkout that holds a directory, when version control knows it. -/
def topLevel? (w : Workspace) (directory : Text) : Option Text :=
  match w.hasDirectory (.ofText directory) with
  | .ok true => if directory = [] then none else w.git.answer? (.topLevel directory)
  | _ => none

end Workspace

end ModuleDocs
