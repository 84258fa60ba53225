import ModuleDocs.Text.Basic

/-! # Double-precision numbers

    A finite double is a whole number times a power of two.  Numbers are
    kept in that form and rounded by exact whole-number arithmetic, so every
    result of this module can be computed in a proof. -/

namespace ModuleDocs

/-- A number of double precision.  The value of `finite s m e` is `m · 2 ^ e`, negated when `s`. -/
inductive Double where
  | finite (negative : Bool) (mantissa : Nat) (exponent : Int)
  | infinite (negative : Bool)
  | undefined
deriving DecidableEq, Repr

namespace Double

/-- A power of two. -/
def twoTo (k : Nat) : Nat := Nat.pow 2 k

/-- A power of ten. -/
def tenTo (k : Nat) : Nat := Nat.pow 10 k

/-- The bound of a mantissa: it has 53 binary digits. -/
def mantissaBound : Nat := twoTo 53

/-- The least exponent of a finite double. -/
def leastExponent : Int := -1074

/-- The greatest exponent of a finite double. -/
def greatestExponent : Int := 971

/-- The quotient to the nearest whole number, a half to the even one. -/
def roundDiv (num den : Nat) : Nat :=
  let q := num / den
  let r := num % den
  if 2 * r < den then q
  else if den < 2 * r then q + 1
  else if q % 2 = 0 then q else q + 1

/-- The pair whose quotient is `num / den / 2 ^ e`. -/
def scaleDown (num den : Nat) (e : Int) : Nat × Nat :=
  match e with
  | .ofNat k => (num, den * twoTo k)
  | .negSucc k => (num * twoTo (k + 1), den)

/-- The double nearest to `num / den`. -/
def ofRatio (negative : Bool) (num den : Nat) : Double :=
  if num = 0 then .finite negative 0 leastExponent
  else
    let guess : Int := (num.log2 : Int) - (den.log2 : Int) - 52
    let parts := scaleDown num den guess
    let fitted := if parts.1 / parts.2 < twoTo 52 then guess - 1 else guess
    let e := max fitted leastExponent
    let parts := scaleDown num den e
    let m := roundDiv parts.1 parts.2
    let (m, e) := if m = mantissaBound then (twoTo 52, e + 1) else (m, e)
    if greatestExponent < e then .infinite negative else .finite negative m e

/-- The double nearest to `digits · 10 ^ power`.  Powers far beyond the range are settled by the
number of digits alone. -/
def ofDecimal (negative : Bool) (digits : Nat) (power : Int) : Double :=
  let size : Int := (Nat.toDigits 10 digits).length + power
  if digits = 0 || size < -400 then .finite negative 0 leastExponent
  else if 400 < size then .infinite negative
  else match power with
    | .ofNat k => ofRatio negative (digits * tenTo k) 1
    | .negSucc k => ofRatio negative digits (tenTo (k + 1))

/-- The double nearest to an integer. -/
def ofInt (i : Int) : Double := ofRatio (decide (i < 0)) i.natAbs 1

/-- Whether the number is zero of either sign. -/
def isZero : Double → Bool
  | .finite _ m _ => m = 0
  | _ => false

/-- The value times `2 ^ 1074`, a whole number, for a finite double. -/
def scaled (negative : Bool) (mantissa : Nat) (exponent : Int) : Int :=
  let size : Int := (mantissa * twoTo (exponent - leastExponent).toNat : Nat)
  if negative then -size else size

/-- Order of doubles; nothing is comparable with the undefined number. -/
def le : Double → Double → Bool
  | .undefined, _ => false
  | _, .undefined => false
  | .infinite s, .infinite t => s || !t
  | .infinite s, .finite .. => s
  | .finite .., .infinite t => !t
  | .finite s m e, .finite t n f => scaled s m e ≤ scaled t n f

/-- Strict order of doubles. -/
def lt (a b : Double) : Bool := le a b && !le b a

/-- The integer that a double stands for, when it has no fractional part. -/
def toInt? : Double → Option Int
  | .finite s m e =>
    match e with
    | .ofNat k => some (if s then -(m * twoTo k : Nat) else (m * twoTo k : Nat))
    | .negSucc k =>
      if m % twoTo (k + 1) = 0 then
        some (if s then -(m / twoTo (k + 1) : Nat) else (m / twoTo (k + 1) : Nat))
      else none
  | _ => none

end Double

end ModuleDocs
