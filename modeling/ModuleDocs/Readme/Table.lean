import ModuleDocs.Text.Blank

/-! # The table of modules -/

namespace ModuleDocs

/-- One row of the table of modules. -/
structure TableRow where
  name : Text
  link : Text
  type : Text
  description : Text
deriving DecidableEq, Repr

namespace TableRow

/-- The line of a row: the linked name, the type and the description. -/
def line (r : TableRow) : Text :=
  "| [" ++ r.name ++ "](./" ++ r.link ++ ") | " ++ r.type ++ " | " ++ r.description ++ " |"

/-- The two lines above the rows. -/
def head : List Text := ["| Module | Type | Description |", "|--------|------|-------------|"]

/-- The table of the given rows. -/
def table (rows : List TableRow) : Text := Text.join ['\n'] (head ++ rows.map line)

end TableRow

end ModuleDocs
