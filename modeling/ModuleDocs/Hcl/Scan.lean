import ModuleDocs.Hcl.Fields
import ModuleDocs.Hcl.Header

/-! # Scanning a text for declarations -/

namespace ModuleDocs.Hcl

/-- The declaration of one header. -/
def declarationAt (m : BraceMode) (text keyword : Text) (h : Header) : Logged Declaration := do
  let block ← Block.extract m text h.brace
  if !Block.isBalanced m block then
    Logged.warn () (keyword ++ " '" ++ h.name ++ "' is truncated; fields may be incomplete")
  let fields ← fieldsOf m block
  pure { fields with kind := keyword, name := h.name, rawBlock := block }

/-- The declarations of one keyword, in the order of the text. -/
def scan (m : BraceMode) (text keyword : Text) : Logged (List Declaration) :=
  (Header.find text keyword).mapM (declarationAt m text keyword)

/-- The variables of a text. -/
def scanVariables (m : BraceMode) (text : Text) : Logged (List Declaration) :=
  scan m text "variable"

/-- The outputs of a text. -/
def scanOutputs (m : BraceMode) (text : Text) : Logged (List Declaration) :=
  scan m text "output"

end ModuleDocs.Hcl
