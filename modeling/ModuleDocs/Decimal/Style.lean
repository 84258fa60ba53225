import ModuleDocs.Decimal.Shortest

/-! # How doubles are written

    The digits are the shortest that read back; this module places the point
    and the exponent. -/

namespace ModuleDocs.Double

/-- The choices in writing a double. -/
structure Style where
  /-- The least power of ten of the leading digit that is written without exponent. -/
  leastPlain : Int
  /-- The power of ten of the leading digit from which an exponent is written. -/
  firstScientific : Int
  /-- The least number of digits of a written exponent. -/
  exponentWidth : Nat
  /-- The texts of infinity and of the undefined number. -/
  infinity : Text
  undefined : Text

/-- Plain from `0.0001` up to sixteen digits before the point; exponents have a sign and at least
two digits. -/
def standard : Style := ⟨-4, 16, 2, "inf", "nan"⟩

/-- An exponent with its sign. -/
def Style.exponentText (n : Style) (e : Int) : Text :=
  let digits := Text.ofNat e.natAbs
  (if e < 0 then '-' else '+') :: List.replicate (n.exponentWidth - digits.length) '0' ++ digits

/-- The decimal `digits · 10 ^ power`, where `digits` does not end in zero. -/
def Style.decimal (n : Style) (digits : Text) (power : Int) : Text :=
  let lead := power + digits.length - 1
  if lead < n.leastPlain || n.firstScientific ≤ lead then
    let fraction := digits.drop 1
    digits.take 1 ++ (if fraction = [] then [] else '.' :: fraction) ++ 'e' :: n.exponentText lead
  else if lead < 0 then
    "0." ++ List.replicate (-lead - 1).toNat '0' ++ digits
  else if 0 ≤ power then
    digits ++ List.replicate power.toNat '0' ++ ".0"
  else
    digits.take (lead + 1).toNat ++ '.' :: digits.drop (lead + 1).toNat

/-- Drops the zeros at the end of the digits and counts them. -/
def dropZeros (digits : Text) : Text × Nat :=
  let kept := (digits.reverse.dropWhile (· = '0')).reverse
  (kept, digits.length - kept.length)

/-- The text of a double. -/
def Style.text (n : Style) : Double → Text
  | .undefined => n.undefined
  | .infinite s => (if s then ['-'] else []) ++ n.infinity
  | .finite s m e =>
    (if s then ['-'] else []) ++
      (if m = 0 then "0.0".toList
       else
        let (q, power) := shortest m e
        let (digits, zeros) := dropZeros (Text.ofNat q)
        n.decimal digits (power + zeros))

end ModuleDocs.Double
