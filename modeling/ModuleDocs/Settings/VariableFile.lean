import ModuleDocs.Text.Word

/-! # Variable files

    A variable file has one assignment a line: a name, an equals sign and a
    value, with an optional `export` before the name and an optional comment
    after the value.  Values may be quoted; within double quotes the usual
    escapes hold, within single quotes only those of the quote and the
    backslash.  A line that cannot be read is passed over.  In the end
    references to other variables are replaced. -/

namespace ModuleDocs.VariableFile

open Text

/-- White space within a line. -/
def isInlineSpace (c : Char) : Bool := isSpace c && c ≠ '\n' && c ≠ '\r'

/-- The text after white space within its line. -/
def skipInline (t : Text) : Text := t.dropWhile isInlineSpace

/-- Whether a line ends here. -/
def isLineEnd (c : Char) : Bool := c = '\n' || c = '\r'

/-- The text after the end of the line, which has to be here but for white space. -/
def endOfLine? (t : Text) : Option Text :=
  match skipInline t with
  | [] => some []
  | '\r' :: '\n' :: t => some t
  | c :: t => if isLineEnd c then some t else none

/-- The text after the comment, if there is one, and the end of the line. -/
def endOfBinding? (t : Text) : Option Text :=
  match skipInline t with
  | '#' :: r => endOfLine? (r.dropWhile fun c => !isLineEnd c)
  | _ => endOfLine? t

/-- The next line, whatever is left of this one. -/
def nextLine (t : Text) : Text :=
  match t.dropWhile fun c => !isLineEnd c with
  | [] => []
  | _ :: t => t

/-- Reads a quoted value after its opening quote: its body, escapes kept, and the text after it.
What follows a backslash never closes the value. -/
def quotedValue? (quote : Char) : Text → Option (Text × Text)
  | [] => none
  | ['\\'] => none
  | '\\' :: c :: t => (quotedValue? quote t).map fun (body, rest) => ('\\' :: c :: body, rest)
  | c :: t =>
    if c = quote then some ([], t)
    else (quotedValue? quote t).map fun (body, rest) => (c :: body, rest)

/-- The character that a letter stands for after a backslash within double quotes. -/
def doubleEscape? : Char → Option Char
  | '\\' => some '\\'
  | '\'' => some '\''
  | '"' => some '"'
  | 'a' => some '\x07'
  | 'b' => some '\x08'
  | 'f' => some '\x0c'
  | 'n' => some '\n'
  | 'r' => some '\r'
  | 't' => some '\t'
  | 'v' => some '\x0b'
  | _ => none

/-- The character that a letter stands for after a backslash within single quotes. -/
def singleEscape? : Char → Option Char
  | '\\' => some '\\'
  | '\'' => some '\''
  | _ => none

/-- Replaces the escapes that `escape` knows. -/
def unescape (escape : Char → Option Char) : Text → Text
  | [] => []
  | ['\\'] => ['\\']
  | '\\' :: c :: t =>
    match escape c with
    | some d => d :: unescape escape t
    | none => '\\' :: unescape escape (c :: t)
  | c :: t => c :: unescape escape t

/-- The text before the first comment mark that follows white space, that white space left out. -/
def beforeComment : Text → Text
  | [] => []
  | c :: t =>
    if isSpace c && (t.dropWhile isSpace).head? = some '#' then [] else c :: beforeComment t

/-- The value after an equals sign and white space, and the text after it.  White space before the
value is enough to begin a comment in its place. -/
def value? (t : Text) : Option (Text × Text) :=
  match skipInline t with
  | '\'' :: t => (quotedValue? '\'' t).map fun (body, rest) => (unescape singleEscape? body, rest)
  | '"' :: t => (quotedValue? '"' t).map fun (body, rest) => (unescape doubleEscape? body, rest)
  | _ =>
    some (trimEnd (skipInline (beforeComment (t.takeWhile fun c => !isLineEnd c))),
      t.dropWhile fun c => !isLineEnd c)

/-- The text after `export` and white space, when they are here. -/
def afterExport (t : Text) : Text :=
  match dropPrefix? "export" t with
  | some r => if skipInline r = r then t else skipInline r
  | none => t

/-- The name of a binding and the text after it; a comment has none. -/
def name? (t : Text) : Option (Option Text × Text) :=
  match t with
  | '#' :: _ => some (none, t)
  | '\'' :: t =>
    let name := t.takeWhile (· != '\'')
    match name, t.dropWhile (· != '\'') with
    | [], _ => none
    | _, [] => none
    | name, _ :: rest => some (some name, rest)
  | t =>
    let isNameChar (c : Char) : Bool := c ≠ '=' && c ≠ '#' && !isSpace c
    match t.takeWhile isNameChar with
    | [] => none
    | name => some (some name, t.dropWhile isNameChar)

/-- Reads one binding: its name and value, both possibly missing, and the text after it; or the
text after the part that could be read. -/
def binding (t : Text) : (Option Text × Option Text) × Text :=
  let failed (rest : Text) : (Option Text × Option Text) × Text := ((none, none), nextLine rest)
  let t := afterExport t
  match name? t with
  | none => failed t
  | some (name, rest) =>
    match skipInline rest with
    | '=' :: r =>
      match value? r with
      | none => failed r
      | some (value, rest) =>
        match endOfBinding? rest with
        | some rest => ((name, some value), rest)
        | none => failed (skipInline rest)
    | r =>
      match endOfBinding? r with
      | some rest => ((name, none), rest)
      | none => failed r

/-- The bindings of a text, as many as the fuel allows. -/
def bindingsFrom : Nat → Text → List (Text × Option Text)
  | 0, _ => []
  | fuel + 1, t =>
    match t.dropWhile isSpace with
    | [] => []
    | t =>
      let (found, rest) := binding t
      match found.1 with
      | some name => (name, found.2) :: bindingsFrom fuel rest
      | none => bindingsFrom fuel rest

/-- The bindings of a text, in order; a name alone has no value. -/
def bindings (t : Text) : List (Text × Option Text) := bindingsFrom (t.length + 1) t

/-! ## References -/

/-- A reference `$\x7bname\x7d` or `$\x7bname:-default\x7d` at the start: the name, the default and
the text after it. -/
def reference? (t : Text) : Option ((Text × Text) × Text) :=
  (dropPrefix? "$\x7b" t).bind fun t =>
    let stop (c : Char) : Bool := c ≠ '\x7d' && c ≠ ':'
    let name := t.takeWhile stop
    match t.dropWhile stop with
    | '\x7d' :: rest => some ((name, []), rest)
    | ':' :: '-' :: rest =>
      match rest.dropWhile (· != '\x7d') with
      | _ :: after => some ((name, rest.takeWhile (· != '\x7d')), after)
      | [] => none
    | _ => none

/-- The text with its references replaced.  The next `skip` characters belong to the reference
replaced last. -/
def expandFrom (lookup : Text → Option Text) (skip : Nat) : Text → Text
  | [] => []
  | c :: t =>
    match skip with
    | skip + 1 => expandFrom lookup skip t
    | 0 =>
      match reference? (c :: t) with
      | some ((name, fallback), rest) =>
        (lookup name).getD fallback ++ expandFrom lookup (t.length - rest.length) t
      | none => c :: expandFrom lookup 0 t

/-- The variable of a name among those given so far, the latest first.  A name without value
counts as empty. -/
def lookupIn (earlier : List (Text × Option Text)) (env : List (Text × Text)) (name : Text) :
    Option Text :=
  match earlier.lookup name with
  | some value => some (value.getD [])
  | none => env.reverse.lookup name

/-- The bindings with references replaced by earlier bindings or the environment. -/
def resolveFrom (env : List (Text × Text)) (earlier : List (Text × Option Text)) :
    List (Text × Option Text) → List (Text × Option Text)
  | [] => []
  | (name, value) :: rest =>
    let value := value.map (expandFrom (lookupIn earlier env) 0)
    (name, value) :: resolveFrom env ((name, value) :: earlier) rest

/-- The bindings with each name once, at its first place and with its last value. -/
def latest (bs : List (Text × Option Text)) : List (Text × Option Text) :=
  (bs.map (·.1)).eraseDups.map fun name => (name, (bs.reverse.lookup name).getD none)

/-- The text without the mark that a file may start with. -/
def withoutMark : Text → Text
  | '\ufeff' :: t => t
  | t => t

/-- The variables of a file, seen from an environment. -/
def read (env : List (Text × Text)) (t : Text) : List (Text × Option Text) :=
  latest (resolveFrom env [] (bindings (withoutMark t)))

end ModuleDocs.VariableFile
