import ModuleDocs.Readme.Markers
import ModuleDocs.Usage.Description
import ModuleDocs.Usage.Example

/-! # The README of a module

    A README is a sequence of sections with an empty line between them.  The
    section of generated reference documentation is carried over from the
    README that is there already. -/

namespace ModuleDocs.Readme

open Text

/-- A fenced block of module code. -/
def codeBlock (code : Text) : Text := "```hcl\n" ++ code ++ "\n```"

/-- The heading of the description section. -/
def descriptionHeading : Text := "## Description"

/-- The section that shows how to refer to an output. -/
def outputSection (moduleName output : Text) : Text :=
  "## Using Outputs\n\n" ++
    codeBlock ("# Reference outputs in other resources\n" ++
      "resource \"example_resource\" \"this\" \x7b\n" ++
      "  example_attribute = module." ++ moduleName ++ ['.'] ++ output ++ "\n\x7d")

/-- The section of one usage group. -/
def usageSection (b : UsageBlock) : Text :=
  "### Usage with " ++ b.label.getD [] ++ "\n\n" ++ codeBlock b.text

/-- The sections of a README, in order. -/
def sections (s : UsageStyle) (c : ModuleContext) (d : Description) (u : UsageExamples)
    (existing : Text) : List Text :=
  let basic := if u.basic.text = [] then s.moduleBlock c.info [] else u.basic.text
  let features := join ['\n'] (d.features.map ("- ".toList ++ ·))
  [ "# Module: " ++ c.info.name,
    descriptionHeading ++ "\n\n" ++ d.summary,
    "## Features\n\n" ++ features,
    "## Basic Usage\n\n" ++ codeBlock basic ] ++
  u.conditional.map usageSection ++
  [ outputSection c.info.name (c.outputNames.headD "id"),
    Markers.tfDocs.extract existing ]

/-- The README of a module, given the text of the README that is there already. -/
def assemble (s : UsageStyle) (c : ModuleContext) (d : Description) (u : UsageExamples)
    (existing : Option Text) : Text :=
  join "\n\n" (sections s c d u (existing.getD [])) ++ ['\n']

/-- The first line of a description section that begins here: the heading, blanks, an empty line,
and a line that is neither empty nor a heading. -/
def descriptionAt? (t : Text) : Option Text :=
  (dropPrefix? descriptionHeading t).bind fun t =>
    match skipBlanks t with
    | '\n' :: '\n' :: c :: t => if c = '\n' ∨ c = '#' then none else some (firstLine (c :: t))
    | _ => none

/-- The first line of the first description section that has one. -/
def descriptionIn? : Text → Option Text
  | [] => none
  | c :: t =>
    match descriptionAt? (c :: t) with
    | some line => some line
    | none => descriptionIn? t

/-- The description that a README gives, trimmed; empty when it gives none. -/
def descriptionOf (readme : Text) : Text := trim ((descriptionIn? readme).getD [])

end ModuleDocs.Readme
