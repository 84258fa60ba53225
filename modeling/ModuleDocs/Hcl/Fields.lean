import ModuleDocs.Hcl.Block
import ModuleDocs.Hcl.Declaration
import ModuleDocs.Hcl.Expression
import ModuleDocs.Hcl.Literal

/-! # Fields of a declaration block

    Each field is looked for on its own in the text of the block, and the
    first place where it can be read counts.  A field that is nowhere found
    keeps its default, so every text has fields. -/

namespace ModuleDocs.Hcl

open Text

/-- The text after an equals sign that white space may precede. -/
def afterEquals? (t : Text) : Option Text := dropPrefix? ['='] (trimStart t)

/-- The text after `name =` at the start of the text. -/
def afterAssigned? (name t : Text) : Option Text := (dropPrefix? name t).bind afterEquals?

/-- The text after an equals sign that is not doubled, blanks skipped. -/
def afterSingleEquals? (t : Text) : Option Text :=
  match t with
  | '=' :: '=' :: _ => none
  | '=' :: t => some (skipBlanks t)
  | _ => none

/-- The value of the first `name = <literal>`, empty when there is none. -/
def literalField (name block : Text) : Text :=
  (findAtWordStart? (fun t => (afterAssigned? name t).bind fun r => literal? (trimStart r))
    false block).getD []

/-- The first match of `read` after the blanks that begin a line or follow an opening brace. -/
def findAtItemStart? {α : Type} (read : Text → Option α) (lineStart : Bool) : Text → Option α
  | [] => none
  | c :: t =>
    match if lineStart then read (skipBlanks (c :: t)) else none with
    | some a => some a
    | none =>
      match if c = '\x7b' then read (skipBlanks t) else none with
      | some a => some a
      | none => findAtItemStart? read (c = '\n') t

/-- What follows `type =`, when that is here. -/
def afterType? (t : Text) : Option Text :=
  (dropPrefix? "type" t).bind fun r => afterSingleEquals? (skipBlanks r)

/-- What follows `default =`, when that is here. -/
def afterDefault? (t : Text) : Option Text :=
  (dropPrefix? "default" t).bind fun r => afterSingleEquals? (trimStart r)

/-- The type expression; empty when none is written. -/
def typeField (block : Text) : Text :=
  ((findAtItemStart? afterType? true block).map expressionOf).getD []

/-- The default expression. -/
def defaultField (block : Text) : Option Text :=
  (findAtWordStart? afterDefault? false block).map expressionOf

/-- Whether `sensitive = true` is written. -/
def sensitiveField (block : Text) : Bool :=
  (findAtItemStart?
    (fun t => do
      let t ← dropPrefix? "sensitive" t
      let t ← dropPrefix? ['='] (skipBlanks t)
      let t ← dropPrefix? "true" (skipBlanks t)
      if atWordEnd t then some () else none)
    true block).isSome

/-- The text before the first `name =` at a word start. -/
def beforeAssigned? (name : Text) (inWord : Bool) : Text → Option Text
  | [] => none
  | c :: t =>
    if !inWord && (afterAssigned? name (c :: t)).isSome then some []
    else (beforeAssigned? name (isWord c) t).map (c :: ·)

/-- The text without the brace that ends it, if one does. -/
def dropClosingBrace (t : Text) : Text :=
  match t.reverse with
  | '\x7d' :: r => trimEnd r.reverse
  | _ => t

/-- The condition of a validation block: what stands between `condition =` and `error_message =`,
or up to the closing brace. -/
def conditionField (block : Text) : Text :=
  match findAtWordStart? (fun t => (afterAssigned? "condition" t).map trimStart) false block with
  | none => []
  | some t =>
    match beforeAssigned? "error_message" false t with
    | some condition => trim condition
    | none => dropClosingBrace (trim t)

/-- The first validation block of a declaration block. -/
def validationField (m : BraceMode) (block : Text) : Logged (Option Validation) :=
  let fromBrace :=
    findAtWordStart?
      (fun t => (dropPrefix? "validation" t).bind fun r =>
        match trimStart r with
        | '\x7b' :: r => some ('\x7b' :: r)
        | _ => none)
      false block
  match fromBrace with
  | none => pure none
  | some rest => do
    let inner ← Block.extract m block (block.length - rest.length)
    pure (some ⟨conditionField inner, literalField "error_message" inner, inner⟩)

/-- The fields of a declaration block. -/
def fieldsOf (m : BraceMode) (block : Text) : Logged Fields := do
  let validation ← validationField m block
  let type := typeField block
  pure
    { description := literalField "description" block
      type := if type = [] then "string" else type
      default := defaultField block
      sensitive := sensitiveField block
      validation := validation }

end ModuleDocs.Hcl
