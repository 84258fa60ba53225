import ModuleDocs.Json.Value

/-! # Reading JSON

    The reader takes the grammar of JSON with three numbers more, `NaN`,
    `Infinity` and `-Infinity`, and it refuses integers of too many digits
    and values that are nested too deeply.
    A fault names what was expected and where: the reader notes how much of
    the text was left, from which the place is computed at the end. -/

namespace ModuleDocs.Json

/-- What can be wrong with the text of a JSON value. -/
inductive Fault where
  | byteOrderMark
  | value
  | name
  | colon
  | comma
  | extra
  | controlCharacter
  | escape
  | unicodeEscape
  | unterminated
deriving DecidableEq, Repr

/-- The wording of a fault. -/
def Fault.message : Fault → Text
  | byteOrderMark => "Unexpected UTF-8 BOM (decode using utf-8-sig)"
  | value => "Expecting value"
  | name => "Expecting property name enclosed in double quotes"
  | colon => "Expecting ':' delimiter"
  | comma => "Expecting ',' delimiter"
  | extra => "Extra data"
  | controlCharacter => "Invalid control character at"
  | escape => "Invalid \\escape"
  | unicodeEscape => "Invalid \\uXXXX escape"
  | unterminated => "Unterminated string starting at"

/-- A value that holds others. -/
inductive Container where
  | array
  | object
deriving DecidableEq, Repr

/-- The name of a kind of container. -/
def Container.name : Container → Text
  | array => "array"
  | object => "object"

/-- Why a text is not read: a fault at an offset, an integer with too many digits, or a container
inside too many others. -/
inductive ReadError where
  | fault (what : Fault) (line column offset : Nat)
  | integerTooLong (digits : Nat)
  | tooDeep (what : Container)
deriving DecidableEq, Repr

/-- The greatest number of digits of an integer. -/
def digitLimit : Nat := 4300

/-- The greatest number of containers inside each other. -/
def nestingLimit : Nat := 990

/-- The wording of an error. -/
def ReadError.message : ReadError → Text
  | fault what line column offset =>
    what.message ++ ": line " ++ Text.ofNat line ++ " column " ++ Text.ofNat column ++
      " (char " ++ Text.ofNat offset ++ ")"
  | integerTooLong digits =>
    "Exceeds the limit (" ++ Text.ofNat digitLimit ++
      " digits) for integer string conversion: value has " ++ Text.ofNat digits ++
      " digits; use sys.set_int_max_str_digits() to increase the limit"
  | tooDeep what =>
    "maximum recursion depth exceeded while decoding a JSON " ++ what.name ++
      " from a unicode string"

/-- A stop while reading: a fault with the length of the text that was left. -/
inductive Stop where
  | fault (what : Fault) (left : Nat)
  | integerTooLong (digits : Nat)
  | tooDeep (what : Container)

/-- The error for a stop while reading `whole`: lines and columns count from one. -/
def Stop.toError (whole : Text) : Stop → ReadError
  | .fault what left =>
    let offset := whole.length - left
    let before := whole.take offset
    .fault what (before.count '\n' + 1)
      ((before.reverse.takeWhile (· != '\n')).length + 1) offset
  | .integerTooLong digits => .integerTooLong digits
  | .tooDeep what => .tooDeep what

/-- The white space of JSON. -/
def isJsonSpace (c : Char) : Bool := c = ' ' || c = '\t' || c = '\n' || c = '\r'

/-- The text after its leading white space. -/
def skipSpace (t : Text) : Text := t.dropWhile isJsonSpace

/-! ## Strings -/

/-- The value of a hexadecimal digit. -/
def hexDigit? (c : Char) : Option Nat :=
  if '0' ≤ c ∧ c ≤ '9' then some (c.toNat - '0'.toNat)
  else if 'a' ≤ c ∧ c ≤ 'f' then some (c.toNat - 'a'.toNat + 10)
  else if 'A' ≤ c ∧ c ≤ 'F' then some (c.toNat - 'A'.toNat + 10)
  else none

/-- The number that four hexadecimal digits stand for. -/
def hexNumber? (digits : Text) : Option Nat :=
  digits.foldlM (fun n c => (hexDigit? c).map (n * 16 + ·)) 0

/-- The character of a one-letter escape. -/
def simpleEscape? : Char → Option Char
  | '"' => some '"'
  | '\\' => some '\\'
  | '/' => some '/'
  | 'b' => some '\x08'
  | 'f' => some '\x0c'
  | 'n' => some '\n'
  | 'r' => some '\r'
  | 't' => some '\t'
  | _ => none

/-- The character of a code unit.  Half a surrogate pair is no character, and a text here cannot
hold one: U+FFFD stands for it.  A text that could hold the half would keep it as it was read, and
could then not be written in UTF-8. -/
def unitChar (n : Nat) : Char := if 0xD800 ≤ n ∧ n ≤ 0xDFFF then '\uFFFD' else Char.ofNat n

/-- One `\u` escape, its four digits following: the number and the text after them.  At least one
more character has to follow. -/
def unitEscape? (t : Text) : Option (Nat × Text) :=
  if t.drop 4 = [] then none else (hexNumber? (t.take 4)).map (·, t.drop 4)

/-- The low half of a pair at the start of the text: its number and the rest, or a fault. -/
def lowHalf (t : Text) : Except Stop (Option (Nat × Text)) :=
  match t with
  | '\\' :: 'u' :: r =>
    if r.drop 4 = [] then .ok none
    else match hexNumber? (r.take 4) with
      | none => .error (.fault .unicodeEscape (r.length + 1))
      | some n => if 0xDC00 ≤ n ∧ n ≤ 0xDFFF then .ok (some (n, r.drop 4)) else .ok none
  | _ => .ok none

/-- Reads a string after its opening quote.  `opened` is the length left at that quote. -/
def readString (opened : Nat) (fuel : Nat) (acc t : Text) : Except Stop (Text × Text) :=
  match fuel with
  | 0 => .error (.fault .unterminated opened)
  | fuel + 1 =>
    match t with
    | [] => .error (.fault .unterminated opened)
    | '"' :: r => .ok (acc.reverse, r)
    | ['\\'] => .error (.fault .unterminated opened)
    | '\\' :: 'u' :: r =>
      match unitEscape? r with
      | none => .error (.fault .unicodeEscape (r.length + 1))
      | some (n, r) =>
        if 0xD800 ≤ n ∧ n ≤ 0xDBFF then
          match lowHalf r with
          | .error stop => .error stop
          | .ok (some (low, r)) =>
            let c := Char.ofNat (0x10000 + (n - 0xD800) * 0x400 + (low - 0xDC00))
            readString opened fuel (c :: acc) r
          | .ok none => readString opened fuel (unitChar n :: acc) r
        else readString opened fuel (unitChar n :: acc) r
    | '\\' :: c :: r =>
      match simpleEscape? c with
      | some d => readString opened fuel (d :: acc) r
      | none => .error (.fault .escape (r.length + 2))
    | c :: r =>
      if c.toNat < 0x20 then .error (.fault .controlCharacter (r.length + 1))
      else readString opened fuel (c :: acc) r

/-! ## Numbers -/

/-- The number that decimal digits stand for. -/
def decimalNumber (digits : Text) : Nat :=
  digits.foldl (fun n c => n * 10 + (c.toNat - '0'.toNat)) 0

/-- A point and the digits after it, and the text after them; no digits, no fraction. -/
def readFraction : Text → Option (Text × Text)
  | '.' :: r =>
    let digits := r.takeWhile Char.isDigit
    if digits = [] then none else some (digits, r.dropWhile Char.isDigit)
  | _ => none

/-- An exponent and the text after it; no digits, no exponent. -/
def readExponent : Text → Option (Int × Text)
  | c :: r =>
    if c = 'e' || c = 'E' then
      let (negative, r) := match r with
        | '-' :: s => (true, s)
        | '+' :: s => (false, s)
        | s => (false, s)
      let digits := r.takeWhile Char.isDigit
      if digits = [] then none
      else
        let n : Int := decimalNumber digits
        some (if negative then -n else n, r.dropWhile Char.isDigit)
    else none
  | [] => none

/-- The digits before the point: a single zero, or digits that do not begin with zero. -/
def readWhole : Text → Option (Text × Text)
  | '0' :: r => some (['0'], r)
  | t =>
    let digits := t.takeWhile Char.isDigit
    if digits = [] then none else some (digits, t.dropWhile Char.isDigit)

/-- A number after its sign; `none` when there is none. -/
def readNumber (negative : Bool) (t : Text) : Option (Except Stop (Json × Text)) :=
  (readWhole t).map fun (whole, r) =>
    let fraction := readFraction r
    let r := (fraction.map (·.2)).getD r
    let exponent := readExponent r
    let r := (exponent.map (·.2)).getD r
    if fraction.isNone && exponent.isNone then
      if digitLimit < whole.length then .error (.integerTooLong whole.length)
      else
        let n : Int := decimalNumber whole
        .ok (.int (if negative then -n else n), r)
    else
      let places := (fraction.map (·.1)).getD []
      let power := (exponent.map (·.1)).getD 0
      let digits := decimalNumber (whole ++ places)
      .ok (.float (.ofDecimal negative digits (power - places.length)), r)

/-! ## Values -/

/-- The words that stand for a value, tried in this order. -/
def words : List (Text × Json) :=
  [("null", .null), ("true", .bool true), ("false", .bool false), ("NaN", .float .undefined),
   ("Infinity", .float (.infinite false)), ("-Infinity", .float (.infinite true))]

/-- A word at the start of the text, and the text after it. -/
def readWord (t : Text) : Option (Json × Text) :=
  words.findSome? fun (word, v) => (Text.dropPrefix? word t).map (v, ·)

/-- A value that is neither a string nor a list nor an object. -/
def readScalar (t : Text) : Except Stop (Json × Text) :=
  match readWord t with
  | some found => .ok found
  | none =>
    let number := match t with
      | '-' :: r => readNumber true r
      | _ => readNumber false t
    match number with
    | some found => found
    | none => .error (.fault .value t.length)

mutual

/-- Reads one value.  The fuel bounds the number of nested and successive steps, which is at most
two for each character; `room` is the number of containers that may still be entered. -/
def readValue : Nat → Nat → Text → Except Stop (Json × Text)
  | 0, _, t => .error (.fault .value t.length)
  | fuel + 1, room, t =>
    match t with
    | '"' :: r =>
      match readString t.length t.length [] r with
      | .error stop => .error stop
      | .ok (s, r) => .ok (.str s, r)
    | '[' :: r =>
      match room, skipSpace r with
      | 0, _ => .error (.tooDeep .array)
      | _ + 1, ']' :: r => .ok (.arr [], r)
      | room + 1, r =>
        match readItems fuel room r with
        | .error stop => .error stop
        | .ok (items, r) => .ok (.arr items, r)
    | '\x7b' :: r =>
      match room, skipSpace r with
      | 0, _ => .error (.tooDeep .object)
      | _ + 1, '\x7d' :: r => .ok (.obj [], r)
      | room + 1, r =>
        match readFields fuel room r with
        | .error stop => .error stop
        | .ok (fields, r) => .ok (.obj (objectOf fields), r)
    | t => readScalar t

/-- Reads the items of a list, the first of them at the start of the text, and the closing
bracket. -/
def readItems : Nat → Nat → Text → Except Stop (List Json × Text)
  | 0, _, t => .error (.fault .value t.length)
  | fuel + 1, room, t =>
    match readValue fuel room t with
    | .error stop => .error stop
    | .ok (v, r) =>
      match skipSpace r with
      | ']' :: r => .ok ([v], r)
      | ',' :: r =>
        match readItems fuel room (skipSpace r) with
        | .error stop => .error stop
        | .ok (items, r) => .ok (v :: items, r)
      | r => .error (.fault .comma r.length)

/-- Reads the fields of an object, the first name at the start of the text, and the closing
brace. -/
def readFields : Nat → Nat → Text → Except Stop (List (Text × Json) × Text)
  | 0, _, t => .error (.fault .name t.length)
  | fuel + 1, room, t =>
    match t with
    | '"' :: r =>
      match readString t.length t.length [] r with
      | .error stop => .error stop
      | .ok (key, r) =>
        match skipSpace r with
        | ':' :: r =>
          match readValue fuel room (skipSpace r) with
          | .error stop => .error stop
          | .ok (v, r) =>
            match skipSpace r with
            | '\x7d' :: r => .ok ([(key, v)], r)
            | ',' :: r =>
              match readFields fuel room (skipSpace r) with
              | .error stop => .error stop
              | .ok (fields, r) => .ok ((key, v) :: fields, r)
            | r => .error (.fault .comma r.length)
        | r => .error (.fault .colon r.length)
    | t => .error (.fault .name t.length)

end

/-- What stands behind a quote is read as a string. -/
theorem readValue_quote (fuel room : Nat) (t : Text) :
    readValue (fuel + 1) room ('"' :: t)
      = (readString (t.length + 1) (t.length + 1) [] t).map fun (s, r) => (.str s, r) := by
  rw [readValue, List.length_cons]
  cases readString (t.length + 1) (t.length + 1) [] t <;> rfl

/-- Reads a text that holds one value, with white space around it. -/
def readWhole? (t : Text) : Except Stop Json :=
  match t with
  | '\uFEFF' :: _ => .error (.fault .byteOrderMark t.length)
  | t =>
    match readValue (2 * t.length + 2) nestingLimit (skipSpace t) with
    | .error stop => .error stop
    | .ok (v, r) =>
      match skipSpace r with
      | [] => .ok v
      | r => .error (.fault .extra r.length)

/-- Reads a text that holds one value, with white space around it. -/
def read (t : Text) : Except ReadError Json :=
  match readWhole? t with
  | .ok v => .ok v
  | .error stop => .error (stop.toError t)

end ModuleDocs.Json
