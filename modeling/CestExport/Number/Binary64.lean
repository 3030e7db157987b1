import CestExport.Number.Power

/-!
# Binary floating-point numbers of 64 bits

A finite number is `± mantissa · 2 ^ exponent` with a mantissa below `2 ^ 53`
and an exponent of at least `-1074`.  Every operation computes the exact rational
result and rounds it once, to the nearest such number, a half to the even
mantissa; beyond the largest finite number it rounds to infinity.
-/

namespace CestExport.Number

/-- A binary64 value. -/
inductive Binary64
  | finite (negative : Bool) (mantissa : Nat) (exponent : Int)
  | infinite (negative : Bool)
  | nan
deriving DecidableEq, Repr

/-- Quotient rounded to the nearest whole number, a half to the even neighbour. -/
def roundQuotient (n d : Nat) : Nat :=
  let q := n / d
  let r := n % d
  if 2 * r < d then q else if d < 2 * r then q + 1 else q + q % 2

/-- Numerator and denominator of `n / d · 2 ^ (-e)`. -/
def scaleDown (n d : Nat) (e : Int) : Nat × Nat :=
  if 0 ≤ e then (n, d * twoTo e.toNat) else (n * twoTo (-e).toNat, d)

/-- The greatest `k` with `2 ^ k ≤ n / d`. -/
def binaryExponent (n d : Nat) : Int :=
  let k : Int := (n.log2 : Int) - d.log2
  let (a, b) := scaleDown n d k
  if b ≤ a then k else k - 1

namespace Binary64

/-- Zero, with a sign. -/
def zero (negative : Bool) : Binary64 := .finite negative 0 (-1074)

/-- The binary64 number nearest to `± n / d`. -/
def ofRatio (negative : Bool) (n d : Nat) : Binary64 :=
  if n = 0 then zero negative
  else
    let e := max (binaryExponent n d - 52) (-1074)
    let (a, b) := scaleDown n d e
    let m := roundQuotient a b
    let (m, e) := if m = twoTo 53 then (twoTo 52, e + 1) else (m, e)
    if 971 < e then .infinite negative else .finite negative m e

/-- Numerator and denominator of the absolute value of a finite number. -/
def ratio (mantissa : Nat) (exponent : Int) : Nat × Nat :=
  if 0 ≤ exponent then (mantissa * twoTo exponent.toNat, 1)
  else (mantissa, twoTo (-exponent).toNat)

/-- The nearest number to a whole one, or none if that is infinite. -/
def ofInt? (i : Int) : Option Binary64 :=
  match ofRatio (i < 0) i.natAbs 1 with
  | .infinite _ => none
  | x => some x

/-- The nearest number to `± m · 10 ^ e`. -/
def ofDecimal (negative : Bool) (m : Nat) (e : Int) : Binary64 :=
  if m = 0 then zero negative
  else
    let size := (Nat.toDigits 10 m).length + e
    if 400 < size then .infinite negative
    else if size < -400 then zero negative
    else if 0 ≤ e then ofRatio negative (m * tenTo e.toNat) 1
    else ofRatio negative m (tenTo (-e).toNat)

/-- Quotient by a positive whole number. -/
def divNat : Binary64 → Nat → Binary64
  | .finite negative m e, k => let (n, d) := ratio m e; ofRatio negative n (d * k)
  | x, _ => x

/-- Product with a positive whole number. -/
def timesNat : Binary64 → Nat → Binary64
  | .finite negative m e, k => let (n, d) := ratio m e; ofRatio negative (n * k) d
  | x, _ => x

/-- Numerator and denominator of a finite number. -/
def signedRatio (negative : Bool) (mantissa : Nat) (exponent : Int) : Int × Nat :=
  let (n, d) := ratio mantissa exponent
  (if negative then -(n : Int) else n, d)

/-- Sum of two numbers; zero is negative only as the sum of two negative ones. -/
def add : Binary64 → Binary64 → Binary64
  | .finite s m e, .finite t k f =>
    let (a, b) := signedRatio s m e
    let (c, d) := signedRatio t k f
    let n := a * d + c * b
    if n = 0 then zero (s && t) else ofRatio (n < 0) n.natAbs (b * d)
  | .infinite s, .infinite t => if s = t then .infinite s else .nan
  | .infinite s, .finite .. => .infinite s
  | .finite .., .infinite t => .infinite t
  | _, _ => .nan

/-- The number with the other sign. -/
def neg : Binary64 → Binary64
  | .finite negative m e => .finite (!negative) m e
  | .infinite negative => .infinite (!negative)
  | .nan => .nan

/-- A finite number without fraction. -/
def isWhole : Binary64 → Bool
  | .finite _ m e => let (n, d) := ratio m e; n % d == 0
  | _ => false

/-- The whole part of a finite number, towards zero. -/
def truncate? : Binary64 → Option Int
  | .finite negative m e =>
    let (n, d) := ratio m e
    some (if negative then -((n / d : Nat) : Int) else (n / d : Nat))
  | _ => none

end Binary64

end CestExport.Number
