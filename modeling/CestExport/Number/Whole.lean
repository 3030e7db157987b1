import CestExport.Number.Power
import CestExport.Text.Blank
import CestExport.Text.Digit
import CestExport.Text.Cut

/-!
# Whole numbers in decimal

A written whole number has an optional sign and decimal digits of any script,
with single underscores allowed between digits and blanks around it.  Numbers of
more than 4300 digits are neither read nor shown.
-/

namespace CestExport.Number

open CestExport.Text

/-- Why a text is not taken for a whole number, or a number not shown. -/
inductive WholeError
  | unreadable (text : String)
  | tooManyDigits (count : Nat)
  | tooLongToShow
deriving DecidableEq, Repr

/-- The most digits a number may have to be read or shown. -/
def digitLimit : Nat := 4300

/-- A leading sign, and what follows it. -/
def splitSign : List Char → Bool × List Char
  | '-' :: cs => (true, cs)
  | '+' :: cs => (false, cs)
  | cs => (false, cs)

/-- The number denoted by decimal digits; other characters are passed over. -/
def digitsValue (cs : List Char) : Nat :=
  cs.foldl (fun n c => match digitValue? c with
    | some v => 10 * n + v
    | none => n) 0

/-- Digits, and the underscores between them. -/
def isDigitOrSeparator (c : Char) : Bool :=
  (digitValue? c).isSome || c == '_'

/-- No underscore at an end, and no two side by side. -/
def wellSeparated (cs : List Char) : Bool :=
  (splitChars (· == '_') cs).all (!·.isEmpty)

/-- The whole number that a text writes. -/
def readWhole (s : String) : Except WholeError Int :=
  let (negative, cs) := splitSign (trimChars isNumberBlank s.toList)
  let run := cs.takeWhile isDigitOrSeparator
  let count := run.countP (· != '_')
  if !wellSeparated run then .error (.unreadable s)
  else if digitLimit < count then .error (.tooManyDigits count)
  else if !(cs.dropWhile isDigitOrSeparator).isEmpty then .error (.unreadable s)
  else .ok (if negative then -(digitsValue run : Int) else digitsValue run)

/-- Decimal text of a whole number of any size. -/
def decimal (n : Int) : String := toString n

/-- Whether a whole number has no more digits than may be shown. -/
def isShowable (n : Int) : Bool := n.natAbs < tenTo digitLimit

/-- Decimal text of a whole number, refused beyond the digit limit. -/
def showWhole (n : Int) : Except WholeError String :=
  if isShowable n then .ok (decimal n) else .error .tooLongToShow

end CestExport.Number
