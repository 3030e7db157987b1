import CestExport.Failure
import CestExport.Number.Decimal
import CestExport.Number.Radix
import CestExport.Text.Lower
import CestExport.Yaml.Base64
import CestExport.Yaml.Plain

/-!
# Reading scalars

A scalar is read by its tag.  The numbers of the early version may be written in
base sixty, and those that begin with zero in base eight.
-/

namespace CestExport.Yaml

open CestExport.Number

/-- The words that are read as true and as false, in lower case. -/
def trueWords : List String := ["yes", "y", "true", "on"]
def falseWords : List String := ["no", "n", "false", "off"]

/-- The truth value that a scalar writes. -/
def readTruth (s : String) : Except Error Bool :=
  let word := Text.lower s
  if trueWords.contains word then .ok true
  else if falseWords.contains word then .ok false
  else .error (.truth word)

/-! ## Whole numbers -/

/-- A whole number in base ten. -/
def readTen (cs : List Char) : Except Error Int :=
  (readWhole (String.ofList cs)).mapError fun e => .value e.message

/-- A whole number in another base. -/
def readBase (base : Nat) (cs : List Char) : Except Error Int :=
  let s := String.ofList cs
  match readRadix? base s with
  | some n => .ok n
  | none => .error (.value s!"invalid literal for int() with base {base}: {clipped s}")

/-- A whole number in base sixty, from its parts. -/
def readSixty (parts : List (List Char)) : Except Error Int := do
  let ns ← parts.mapM readTen
  .ok (ns.foldl (fun n m => 60 * n + m) 0)

/-- A whole number behind its sign, without separators. -/
def readUnsigned (v : Version) : List Char → Except Error Int
  | ['0'] => .ok 0
  | '0' :: 'b' :: cs => readBase 2 cs
  | '0' :: 'x' :: cs => readBase 16 cs
  | '0' :: 'o' :: cs => readBase 8 cs
  | cs =>
    if v = .early then
      match cs with
      | [] => .error .noDigits
      | '0' :: _ => readBase 8 cs
      | _ => if cs.contains ':' then readSixty (Text.splitChars (· == ':') cs) else readTen cs
    else readTen cs

/-- The whole number that a scalar writes. -/
def readWholeScalar (v : Version) (s : String) : Except Error Int := do
  let cs := s.toList.filter (· != '_')
  if cs.isEmpty then throw .noDigits
  let n ← readUnsigned v (behindSign cs)
  .ok (if cs.head? = some '-' then -n else n)

/-! ## Numbers with fractions -/

/-- A number with a fraction in base ten. -/
def readPlaces (s : String) : Except Error Binary64 :=
  match readDecimal? s with
  | some x => .ok x
  | none => .error (.value s!"could not convert string to float: {Text.quoted s}")

/-- The sum of the parts of a number in base sixty, the last part first. -/
def sumSixtieths : Nat → List Binary64 → Binary64 → Binary64
  | _, [], sum => sum
  | weight, x :: xs, sum => sumSixtieths (60 * weight) xs (sum.add (x.timesNat weight))

/-- A number with a fraction behind its sign, in lower case and without separators. -/
def readUnsignedReal (v : Version) (s : String) : Except Error Binary64 := do
  let cs := s.toList
  if s = ".inf" then .ok (.infinite false)
  else if s = ".nan" then .ok .nan
  else if v != .usual && cs.contains ':' then
    let xs ← (Text.splitChars (· == ':') cs).mapM fun part => readPlaces (String.ofList part)
    .ok (sumSixtieths 1 xs.reverse (Binary64.zero false))
  else if v != .usual && 1 < cs.count 'e' then
    throw (.value "too many values to unpack (expected 2)")
  else readPlaces s

/-- The number that a scalar writes. -/
def readRealScalar (v : Version) (s : String) : Except Error Binary64 := do
  let cs := (Text.lower (String.ofList (s.toList.filter (· != '_')))).toList
  if cs.isEmpty then throw .noDigits
  let x ← readUnsignedReal v (String.ofList (behindSign cs))
  .ok (if cs.head? = some '-' then x.neg else x)

/-! ## Scalars -/

/-- The value of a scalar that begins at a place. -/
def Tag.read (t : Tag) (v : Version) (start : Mark) (s : String) : Except Error Data :=
  match t with
  | .null => .ok .null
  | .bool => (readTruth s).map .bool
  | .whole => (readWholeScalar v s).map .whole
  | .real => (readRealScalar v s).map .real
  | .text => .ok (.text s)
  | .bytes =>
    match readBase64? s.toList with
    | some bs => .ok (.bytes bs)
    | none => .error (.misplaced start)
  | .time =>
    match Timestamp.ofChars? s.toList with
    | some t => t.value
    | none => .error (.misplaced start)
  | _ => .error (.misplaced start)

end CestExport.Yaml
