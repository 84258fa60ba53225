import ModuleDocs.Issue
import ModuleDocs.Json.Reader

/-! # Converting given values

    Settings arrive as JSON values or, from the environment, as texts.  A
    number may be given as text, a truth value as a word, and a whole number
    as a float without fraction; everything else is an issue. -/

namespace ModuleDocs.Conversion

open Text

/-- The result of a conversion: a value, or issues whose places are below the converted one. -/
abbrev Result (α : Type) := Except (List Issue) α

/-- A single issue with the converted value itself. -/
def fail {α : Type} (kind : IssueKind) : Result α := .error [⟨kind, []⟩]

/-- White space at the ends of a number given as text. -/
def isNumberSpace (c : Char) : Bool := isSpace c && !(0x1C ≤ c.toNat && c.toNat ≤ 0x1F)

/-- The text without white space at its ends. -/
def trimNumber (t : Text) : Text :=
  ((t.dropWhile isNumberSpace).reverse.dropWhile isNumberSpace).reverse

/-- The text without the underscores that group its digits; none may stand at an end or be
doubled. -/
def dropUnderscores? : Text → Option Text
  | [] => some []
  | ['_'] => none
  | '_' :: '_' :: _ => none
  | '_' :: t => dropUnderscores? t
  | c :: t => (dropUnderscores? t).map (c :: ·)

/-- The text without grouping underscores, when they stand as they should. -/
def ungrouped? : Text → Option Text
  | '_' :: _ => none
  | t => dropUnderscores? t

/-- A sign at the start of a number and the text after it. -/
def sign : Text → Bool × Text
  | '-' :: t => (true, t)
  | '+' :: t => (false, t)
  | t => (false, t)

/-! ## Whole numbers

    The plain form of a whole number has no zero at its start but in zero
    itself, and perhaps a minus sign.  A text in another form is tidied: white
    space, a plus sign, zeros at the start, a fraction of zeros and grouping
    underscores are left out. -/

/-- The whole number in plain form that a text gives. -/
def plainInteger (t : Text) : Except IssueKind Int :=
  let (negative, t) := match t with
    | '-' :: t => (true, t)
    | t => (false, t)
  let digits := t.takeWhile Char.isDigit
  if digits = [] ∨ (digits.head? = some '0' ∧ digits ≠ ['0']) then .error .unreadableInteger
  else if Json.digitLimit < digits.length then .error .integerTooLong
  else if digits ≠ t then .error .unreadableInteger
  else
    let n : Int := Json.decimalNumber digits
    .ok (if negative then -n else n)

/-- What follows the zeros at the start of a number, and the underscores among them; `last` is the
character before, which stays before a point and at the end.  A minus sign may stand there too. -/
def afterZeros? (last : Char) : Text → Option Text
  | [] => some [last]
  | c :: t =>
    if c = '0' ∨ c = '_' then afterZeros? c t
    else if c = '.' then some (last :: c :: t)
    else if c.isDigit ∨ c = '-' then some (c :: t)
    else none

/-- A number without the zeros at its start, if it starts with a digit. -/
def withoutZeros? : Text → Option Text
  | [] => none
  | c :: t => if c = '0' then afterZeros? c t else if c.isDigit then some (c :: t) else none

/-- A number without a fraction of zeros. -/
def withoutPlaces (t : Text) : Text :=
  match t.dropWhile (· ≠ '.') with
  | '.' :: '0' :: zeros => if zeros.all (· = '0') then t.takeWhile (· ≠ '.') else t
  | _ => t

/-- A whole number brought into plain form. -/
def tidyInteger? (t : Text) : Option Text :=
  let (negative, t) := sign (trimNumber t)
  (withoutZeros? t).map fun t =>
    let t := withoutPlaces t
    let t := (ungrouped? t).getD t
    if negative then '-' :: t else t

/-- The whole number that a text gives.  One that is too long is named so only in plain form. -/
def integerOfText (t : Text) : Except IssueKind Int :=
  match plainInteger t with
  | .error .unreadableInteger =>
    match (tidyInteger? t).map plainInteger with
    | some (.ok n) => .ok n
    | _ => .error .unreadableInteger
  | result => result

/-! ## Numbers -/

/-- A decimal without sign: digits with perhaps a point among them, and perhaps an exponent. -/
def decimalOfText? (negative : Bool) (t : Text) : Option Double :=
  let whole := t.takeWhile Char.isDigit
  let rest := t.dropWhile Char.isDigit
  let (places, rest) := match rest with
    | '.' :: r => (r.takeWhile Char.isDigit, r.dropWhile Char.isDigit)
    | r => ([], r)
  if whole ++ places = [] then none
  else
    let digits := Json.decimalNumber (whole ++ places)
    match rest with
    | [] => some (.ofDecimal negative digits (-places.length))
    | _ =>
      match Json.readExponent rest with
      | some (power, []) => some (.ofDecimal negative digits (power - places.length))
      | _ => none

/-- The number that a text gives; infinity and the undefined number have names. -/
def plainDouble? (t : Text) : Option Double :=
  let (negative, t) := sign t
  let word := t.map Char.toLower
  if word = "inf" ∨ word = "infinity" then some (.infinite negative)
  else if word = "nan" then some .undefined
  else decimalOfText? negative t

/-- The number that a text gives.  It may have white space at its ends or underscores among its
digits, but not both. -/
def doubleOfText? (t : Text) : Option Double :=
  (plainDouble? (trimNumber t)).or ((ungrouped? t).bind plainDouble?)

/-! ## Conversions -/

/-- A text. -/
def toText : Json → Result Text
  | .str t => .ok t
  | _ => fail .notText

/-- A text or nothing. -/
def toOptionalText : Json → Result (Option Text)
  | .null => .ok none
  | v => some <$> toText v

/-- The texts of a list, each item that is no text an issue of its own. -/
def toTextsFrom (index : Nat) : List Json → Result (List Text)
  | [] => .ok []
  | v :: rest =>
    match v, toTextsFrom (index + 1) rest with
    | .str t, .ok ts => .ok (t :: ts)
    | .str _, .error issues => .error issues
    | _, .ok _ => .error [⟨.notText, [.index index]⟩]
    | _, .error issues => .error (⟨.notText, [.index index]⟩ :: issues)

/-- A list of texts. -/
def toTexts : Json → Result (List Text)
  | .arr items => toTextsFrom 0 items
  | _ => fail .notAList

/-- The truth value of a word. -/
def wordTruth? (t : Text) : Option Bool :=
  let word := String.ofList (t.map Char.toLower)
  if word ∈ ["1", "on", "t", "true", "y", "yes"] then some true
  else if word ∈ ["0", "off", "f", "false", "n", "no"] then some false
  else none

/-- The truth value of a number. -/
def numberTruth (i : Int) : Result Bool :=
  if i = 0 then .ok false else if i = 1 then .ok true else fail .unreadableTruthValue

/-- Whether a whole number fits into a machine word with sign. -/
def fitsWord (i : Int) : Bool := -9223372036854775808 ≤ i && i ≤ 9223372036854775807

/-- Whether a float without fraction is read as a whole number: it lies within the machine words
and is not the least of them. -/
def isWordFloat (i : Int) : Bool := fitsWord i && i ≠ -9223372036854775808

/-- A truth value. -/
def toBool : Json → Result Bool
  | .bool b => .ok b
  | .int i => if fitsWord i then numberTruth i else fail .notATruthValue
  | .float x =>
    match x.toInt? with
    | some i => if isWordFloat i then numberTruth i else fail .notATruthValue
    | none => fail .notATruthValue
  | .str t =>
    match wordTruth? t with
    | some b => .ok b
    | none => fail .unreadableTruthValue
  | _ => fail .notATruthValue

/-- A whole number. -/
def toInt : Json → Result Int
  | .int i => .ok i
  | .bool b => .ok (if b then 1 else 0)
  | .float x =>
    match x with
    | .finite .. =>
      match x.toInt? with
      | some i => if isWordFloat i then .ok i else fail .integerTooLong
      | none => fail .fractional
    | _ => fail .notFinite
  | .str t => (integerOfText t).mapError fun kind => [⟨kind, []⟩]
  | _ => fail .notAnInteger

/-- A number. -/
def toDouble : Json → Result Double
  | .float x => .ok x
  | .int i =>
    match Double.ofInt i with
    | .finite s m e => .ok (.finite s m e)
    | _ => fail .notANumber
  | .bool b => .ok (.ofInt (if b then 1 else 0))
  | .str t =>
    match doubleOfText? t with
    | some x => .ok x
    | none => fail .unreadableNumber
  | _ => fail .notANumber

/-- A value that is refused unless it passes a test. -/
def require {α : Type} (ok : α → Bool) (kind : α → IssueKind) (r : Result α) : Result α :=
  match r with
  | .ok a => if ok a then .ok a else fail (kind a)
  | .error issues => .error issues

end ModuleDocs.Conversion
