import ModuleDocs.Generate.Batch
import ModuleDocs.Readme.Table

/-! # The table in the root README

    The README above the base directory may hold a marked section for the
    table of modules.  Only the modules whose README could be made get a row. -/

namespace ModuleDocs.Generate

/-- The kind of module shown in the table. -/
def moduleType : Text := "Terraform/OpenTofu"

/-- The row of a generation that succeeded, its link seen from the root. -/
def row? (w : Workspace) (root : Location) (g : Generation) : Option TableRow :=
  match g.outcome with
  | .ok text =>
    some
      { name := g.directory.name
        link := (Path.mk [] (Path.between root (g.directory.resolve w.cwd))).toText
        type := moduleType
        description := Readme.descriptionOf text }
  | .error _ => none

/-- The directory above the base directory. -/
def rootOf (w : Workspace) (base : Text) : Except FileError Location :=
  (w.resolve (.ofText base)).map List.dropLast

/-- The warning about a README without a place for the table. -/
def noPlace (readme : Path) : Text :=
  "Module markers not found in " ++ readme.toText ++
    "; add " ++ Markers.modules.opening ++ " and " ++ Markers.modules.closing ++
    " to enable the module table"

/-- Puts the table into the README of the directory `root`; whether there was a place for it, and
the workspace after it. -/
def updateTable (w : Workspace) (dryRun : Bool) (root : Location) (generations : List Generation) :
    Logged (Except TextFileError (Bool × Workspace)) :=
  let readme := (Path.absolute root).child readmeName
  let table := TableRow.table (generations.filterMap (row? w root))
  match existing? w readme with
  | .error e => pure (.error e)
  | .ok none => pure (.ok (false, w))
  | .ok (some text) =>
    match Markers.modules.replace? text table with
    | none => .warn (.ok (false, w)) (noPlace readme)
    | some updated =>
      if dryRun then pure (.ok (true, w))
      else
        pure (((w.writeText readme updated).mapError .file).map fun written => (true, written))

/-- Puts the table into the README above the base directory. -/
def updateRoot (w : Workspace) (dryRun : Bool) (base : Text) (generations : List Generation) :
    Logged (Except TextFileError (Bool × Workspace)) :=
  match rootOf w base with
  | .error e => pure (.error (.file e))
  | .ok root => updateTable w dryRun root generations

end ModuleDocs.Generate
