import ModuleDocs.Text.Word

/-! # Literals

    A text value is written between double quotes, between single quotes, or
    as a heredoc: a delimiter word on the first line, the lines of the value,
    and the delimiter again on a line of its own.  A backslash before a quote
    or a backslash is an escape; other backslashes stand for themselves. -/

namespace ModuleDocs.Hcl

open Text

/-- Reads up to the closing quote: the text before it and the text after it.  `bare` says which
characters may stand there as they are, `protect` which may follow a backslash. -/
def quotedBody? (quote : Char) (bare protect : Char → Bool) : Text → Option (Text × Text)
  | [] => none
  | ['\\'] => none
  | '\\' :: c :: t =>
    if protect c then
      (quotedBody? quote bare protect t).map fun (body, rest) => ('\\' :: c :: body, rest)
    else none
  | c :: t =>
    if c = quote then some ([], t)
    else if bare c then (quotedBody? quote bare protect t).map fun (body, rest) => (c :: body, rest)
    else none

/-- Writes a text so that it can stand between double quotes. -/
def escape (t : Text) : Text :=
  t.flatMap fun c => if c = '\\' ∨ c = '"' then ['\\', c] else [c]

theorem escape_cons_escaped {c : Char} (hc : c = '\\' ∨ c = '"') (t : Text) :
    escape (c :: t) = '\\' :: c :: escape t := by
  simp [escape, hc]

theorem escape_cons_plain {c : Char} (hc : ¬ (c = '\\' ∨ c = '"')) (t : Text) :
    escape (c :: t) = c :: escape t := by
  simp [escape, hc]

/-- Undoes escapes: a backslash before a quote or a backslash is dropped. -/
def unescape : Text → Text
  | [] => []
  | ['\\'] => ['\\']
  | '\\' :: c :: t =>
    if c = '"' ∨ c = '\'' ∨ c = '\\' then c :: unescape t else '\\' :: unescape (c :: t)
  | c :: t => c :: unescape t

/-- Unescaping undoes escaping. -/
theorem unescape_escape (t : Text) : unescape (escape t) = t := by
  induction t with
  | nil => rfl
  | cons c t ih =>
      by_cases hb : c = '\\'
      · subst hb; simpa [escape, unescape] using ih
      · by_cases hq : c = '"'
        · subst hq; simpa [escape, unescape] using ih
        · rw [escape_cons_plain (by simp [hb, hq]), unescape.eq_def]
          split
          · simp_all
          · simp_all
          · simp_all
          · simp_all

/-- Whether a line with the delimiter begins here: blanks, then the delimiter as a word. -/
def endsHeredoc (delimiter line : Text) : Bool :=
  match dropPrefix? delimiter (skipBlanks line) with
  | some rest => atWordEnd rest
  | none => false

/-- The text before the newline after which the delimiter stands. -/
def heredocBody? (delimiter : Text) : Text → Option Text
  | [] => none
  | c :: t =>
    if c = '\n' ∧ endsHeredoc delimiter t then some []
    else (heredocBody? delimiter t).map (c :: ·)

/-- The body of a heredoc after its two angle brackets. -/
def heredoc? (t : Text) : Option Text :=
  let t := (dropPrefix? ['-'] t).getD t
  let delimiter := t.takeWhile isWord
  if delimiter = [] then none
  else match skipBlanks (t.dropWhile isWord) with
    | '\n' :: t => heredocBody? delimiter t
    | _ => none

/-- The value of the literal at the start of the text. -/
def literal? : Text → Option Text
  | '"' :: t => (quotedBody? '"' (· != '\n') (fun _ => true) t).map fun found => unescape found.1
  | '\'' :: t => (quotedBody? '\'' (· != '\n') (fun _ => true) t).map fun found => unescape found.1
  | '<' :: '<' :: t => (heredoc? t).map trim
  | _ => none

end ModuleDocs.Hcl
