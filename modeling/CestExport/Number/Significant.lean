import CestExport.Number.Binary64

/-!
# Showing binary64 numbers

A positive number is shown by some of its leading decimal digits, either a fixed
count of them or the fewest that read back as the same number, and written
without exponent when the point falls near the digits.
-/

namespace CestExport.Number

/-- Leading digits as a whole number, and the place of the first one: `d.ddd · 10 ^ place`. -/
structure Leading where
  digits : Nat
  place : Int

/-- Numerator and denominator of `n / d · 10 ^ k`. -/
def scaleTen (n d : Nat) (k : Int) : Nat × Nat :=
  if 0 ≤ k then (n * tenTo k.toNat, d) else (n, d * tenTo (-k).toNat)

/-- The greatest `k` with `10 ^ k ≤ n / d`. -/
def decimalExponent (n d : Nat) : Int :=
  let k : Int := ((Nat.toDigits 10 n).length : Int) - (Nat.toDigits 10 d).length
  let (a, b) := scaleTen n d (-k)
  if b ≤ a then k else k - 1

/-- `n / d` rounded to `count` digits, a half to the even neighbour. -/
def roundToDigits (count : Nat) (n d : Nat) : Leading :=
  let place := decimalExponent n d
  let (a, b) := scaleTen n d (count - 1 - place)
  let q := roundQuotient a b
  if q = tenTo count then ⟨tenTo (count - 1), place + 1⟩ else ⟨q, place⟩

/-- How many of at most `count` digits are left when zeros at the end are dropped. -/
def dropZeros (digits : List Char) : List Char :=
  (digits.reverse.dropWhile (· == '0')).reverse

/-- How a number is laid out around its leading digits. -/
structure DecimalLayout where
  /-- Least place written without exponent. -/
  low : Int
  /-- First place written with exponent again. -/
  high : Int
  /-- Whether a number without fraction ends in `.0`. -/
  point : Bool

/-- The exponent with its mark and sign, and at least two digits. -/
def exponentText (e : Int) : List Char :=
  let ds := Nat.toDigits 10 e.natAbs
  'e' :: (if e < 0 then '-' else '+') :: (if ds.length < 2 then '0' :: ds else ds)

/-- The text of leading digits in a layout. -/
def DecimalLayout.write (layout : DecimalLayout) (x : Leading) : List Char :=
  let ds := dropZeros (Nat.toDigits 10 x.digits)
  if x.place < layout.low || layout.high ≤ x.place then
    match ds with
    | [] => ['0']
    | [d] => d :: exponentText x.place
    | d :: r => d :: '.' :: r ++ exponentText x.place
  else if x.place < 0 then
    '0' :: '.' :: List.replicate (-x.place - 1).toNat '0' ++ ds
  else
    let front := ds.take (x.place.toNat + 1)
    let front := front ++ List.replicate (x.place.toNat + 1 - front.length) '0'
    let back := ds.drop (x.place.toNat + 1)
    if back.isEmpty then (if layout.point then front ++ ['.', '0'] else front)
    else front ++ '.' :: back

/-- Six digits; exponents below `-4` and from `6` on are written. -/
def sixDigits : DecimalLayout := ⟨-4, 6, false⟩

/-- Fewest digits; exponents below `-4` and from `16` on are written. -/
def fewestDigits : DecimalLayout := ⟨-4, 16, true⟩

/-- The digits nearest to the value among the shortest that read back as it. -/
def shortestLeading (m : Nat) (e : Int) (n d : Nat) : Nat → Leading
  | 0 => roundToDigits 17 n d
  | left + 1 =>
    let count := 17 - left
    let place := decimalExponent n d
    let (a, b) := scaleTen n d (count - 1 - place)
    let low := a / b
    let readsBack (q : Nat) : Bool :=
      Binary64.ofDecimal false q (place - (count - 1)) == .finite false m e
    let nearest := roundQuotient a b
    let other := if nearest = low then low + 1 else low
    let found := if readsBack nearest then some nearest
      else if readsBack other then some other else none
    match found with
    | some q => if q = tenTo count then ⟨tenTo (count - 1), place + 1⟩ else ⟨q, place⟩
    | none => shortestLeading m e n d left

namespace Binary64

/-- The sign in front of a text. -/
def signed (negative : Bool) (cs : List Char) : String :=
  String.ofList (if negative then '-' :: cs else cs)

/-- Six significant digits, zeros at the end dropped. -/
def general : Binary64 → String
  | .finite negative m e =>
    if m = 0 then signed negative ['0']
    else let (n, d) := ratio m e
      signed negative (sixDigits.write (roundToDigits 6 n d))
  | .infinite negative => signed negative "inf".toList
  | .nan => "nan"

/-- The fewest digits that read back as the number. -/
def shortest : Binary64 → String
  | .finite negative m e =>
    if m = 0 then signed negative "0.0".toList
    else let (n, d) := ratio m e
      signed negative (fewestDigits.write (shortestLeading m e n d 17))
  | .infinite negative => signed negative "inf".toList
  | .nan => "nan"

end Binary64

end CestExport.Number
