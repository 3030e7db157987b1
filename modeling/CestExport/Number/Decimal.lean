import CestExport.Number.Whole
import CestExport.Number.Binary64

/-!
# Reading decimal fractions

A written number has an optional sign and digits of any script with an optional
point and exponent, or is one of `inf`, `infinity` and `nan` in any case; single
underscores may stand between digits, and blanks around the whole.
-/

namespace CestExport.Number

open CestExport.Text

/-- Decimal digits of any script as ASCII digits. -/
def asciiDigit (c : Char) : Char :=
  match digitValue? c with
  | some v => Char.ofNat (0x30 + v)
  | none => c

/-- The characters without their underscores, if each stands between two digits. -/
def dropSeparators? : Bool → List Char → Option (List Char)
  | _, [] => some []
  | afterDigit, c :: cs =>
    if c == '_' then
      match cs with
      | d :: _ => if afterDigit && d.isDigit then dropSeparators? false cs else none
      | [] => none
    else (dropSeparators? c.isDigit cs).map (c :: ·)

/-- The exponent after the digits of a number: absent, or a mark and a signed whole number. -/
def exponent? : List Char → Option Int
  | [] => some 0
  | c :: cs =>
    let (negative, ds) := splitSign cs
    if (c == 'e' || c == 'E') && !ds.isEmpty && ds.all Char.isDigit then
      some (if negative then -(digitsValue ds : Int) else digitsValue ds)
    else none

/-- Digits with an optional point and exponent. -/
def positional? (negative : Bool) (cs : List Char) : Option Binary64 :=
  let front := cs.takeWhile Char.isDigit
  let rest := cs.dropWhile Char.isDigit
  let (back, rest) := match rest with
    | '.' :: r => (r.takeWhile Char.isDigit, r.dropWhile Char.isDigit)
    | r => ([], r)
  if front.isEmpty && back.isEmpty then none
  else (exponent? rest).map fun e =>
    Binary64.ofDecimal negative (digitsValue (front ++ back)) (e - back.length)

/-- The binary64 number nearest to a written one. -/
def readDecimal? (s : String) : Option Binary64 :=
  match dropSeparators? false ((trimChars isNumberBlank s.toList).map asciiDigit) with
  | none => none
  | some cs =>
    let (negative, cs) := splitSign cs
    let word := String.ofList (cs.map Char.toLower)
    if word = "inf" || word = "infinity" then some (.infinite negative)
    else if word = "nan" then some .nan
    else positional? negative cs

end CestExport.Number
