import CestExport.Number.Whole

/-!
# Whole numbers in other bases

In a base of two, eight or sixteen a number may begin with its base's mark; the
digits up to nine may be of any script, and blanks may stand around the number.
-/

namespace CestExport.Number

open CestExport.Text

/-- The value of a digit of any script, or of a letter. -/
def radixDigit? (c : Char) : Option Nat :=
  match digitValue? c with
  | some v => some v
  | none =>
    if 'a' ≤ c ∧ c ≤ 'z' then some (c.toNat - 0x57)
    else if 'A' ≤ c ∧ c ≤ 'Z' then some (c.toNat - 0x37)
    else none

/-- The letters that mark a base behind a zero. -/
def radixMarks (base : Nat) : List Char :=
  if base = 2 then ['b', 'B']
  else if base = 8 then ['o', 'O']
  else if base = 16 then ['x', 'X']
  else []

/-- What follows the mark of a base; the zero of the mark may be of any script. -/
def behindMark (base : Nat) : List Char → List Char
  | z :: m :: cs => if digitValue? z = some 0 ∧ m ∈ radixMarks base then cs else z :: m :: cs
  | cs => cs

/-- The value of digits in a base. -/
def radixValue (base : Nat) (cs : List Char) : Nat :=
  cs.foldl (fun n c => base * n + (radixDigit? c).getD 0) 0

/-- The whole number that a text writes in a base. -/
def readRadix? (base : Nat) (s : String) : Option Int :=
  let (negative, cs) := splitSign (trimChars isNumberBlank s.toList)
  let ds := behindMark base cs
  if !ds.isEmpty && ds.all fun c => (radixDigit? c).any (· < base) then
    some (if negative then -(radixValue base ds : Int) else radixValue base ds)
  else none

end CestExport.Number
