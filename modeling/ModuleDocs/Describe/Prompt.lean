import ModuleDocs.Json.Printer
import ModuleDocs.Usage.Example

/-! # Prompts

    What the chat service is asked: a summary of the sorted variables, the
    form of the answer, and the files of the module. -/

namespace ModuleDocs.Prompt

open Text

/-- The standing instruction. -/
def system : Text :=
  "You are a technical documentation generator for Terraform modules. " ++
    "You MUST respond with ONLY valid JSON, no markdown, no code blocks, no explanations. " ++
    "Your response must be parseable as a single JSON object."

/-- A list of texts as a JSON value. -/
def texts (ts : List Text) : Json := .arr (ts.map .str)

/-- The name, condition and description of each declaration. -/
def conditions (ds : List Declaration) : Json :=
  .arr (ds.map fun d =>
    .obj
      [ ("name", .str d.name),
        ("condition", .str d.condition),
        ("description", .str d.description) ])

/-- The summary of a module: names by category, with conditions where there are any. -/
def payload (c : ModuleContext) : List (Text × Json) :=
  [ ("module", .str c.info.name),
    ("required", texts (namesOf c.classified.required)),
    ("triggers", conditions c.classified.trigger),
    ("conditional", conditions c.classified.conditional),
    ("optional", texts (namesOf c.classified.optional)),
    ("outputs", texts c.outputNames) ]

/-- An answer of the wanted form. -/
def answerForm : Json :=
  .obj
    [ ("description", .str "One sentence describing what this module does"),
      ("features", texts ["Creates ...", "Configures ...", "Supports ..."]),
      ("conditionalUsage", .arr
        [ .obj
            [ ("name", .str "S3 Backup"),
              ("triggerVar", .str "backup_provider"),
              ("value", .str "s3"),
              ("condition", .str "backup_provider = \"s3\""),
              ("variables", texts ["backup_s3_bucket", "backup_s3_prefix"]) ] ]) ]

/-- A file of the module under its name. -/
def fileSection (file : Text × Text) : Text := "### " ++ file.1 ++ "\n```hcl\n" ++ file.2 ++ "\n```"

/-- The question about a module. -/
def user (c : ModuleContext) : Text :=
  let k := c.classified
  join ['\n']
    [ "Analyze this Terraform module and return a JSON object.",
      "",
      "VARIABLE ANALYSIS:",
      "- Required variables (no default, no validation): " ++
        Json.compact (texts (namesOf k.required)),
      "- Trigger variables (no default + validation such as contains([...], var.X)): " ++
        Json.indented 0 (conditions k.trigger),
      "- Conditional variables (default + validation referencing a trigger): " ++
        Json.indented 0 (conditions k.conditional),
      "- Outputs: " ++ Json.compact (texts c.outputNames),
      "",
      "TRIGGERS AND CONDITIONAL VARIABLES:",
      "- A trigger variable has no default and a validation like: " ++
        "contains([\"value1\", \"value2\"], var.trigger_name)",
      "- A conditional variable references the trigger in its validation, e.g.: " ++
        "var.trigger_name != \"value1\" || var.conditional_var != null",
      "- This means: when trigger_name = \"value1\", conditional_var becomes required",
      "",
      "TASK:",
      "1. Describe the module in one sentence and list its features",
      "2. Read the possible values of each trigger variable from its contains() validation",
      "3. For each trigger value, list the conditional variables that become required",
      "4. Only emit usage groups for trigger values with at least one conditional variable",
      "",
      "Return this exact JSON structure:",
      Json.indented 0 answerForm,
      "",
      "Rules:",
      "- description: one clear sentence, no period at the end",
      "- features: 3-7 strings, each starting with a verb (Creates, Configures, Supports, ...)",
      "- conditionalUsage: empty array when there are no trigger variables",
      "",
      "Terraform files:",
      join "\n\n" (c.files.map fileSection),
      "",
      "Respond with ONLY the JSON object:" ]

end ModuleDocs.Prompt
