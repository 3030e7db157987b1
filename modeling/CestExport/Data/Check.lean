import CestExport.Data.Basic
import CestExport.Number.Whole
import CestExport.Text.Blank
import CestExport.Text.Utf8

/-!
# Checking data

A check turns data into a value of a known type, or lists all its faults with
the places where they are.  Checks are lenient: a number may be written as a text,
a truth value as a number or a word.
-/

namespace CestExport

/-- A step on the way to a place in data. -/
inductive Place
  | key (name : String)
  | index (n : Nat)
deriving DecidableEq, Repr

/-- What is wrong with a value. -/
inductive FaultKind
  | missing
  | textType
  | textDecoding
  | boolType
  | boolReading
  | wholeType
  | wholeReading
  | wholeSize
  | wholeFraction
  | finiteNumber
  | listType
  | tupleType
  | recordType (name : String)
deriving DecidableEq, Repr

/-- The name of a kind of fault. -/
def FaultKind.name : FaultKind → String
  | missing => "missing"
  | textType => "string_type"
  | textDecoding => "string_unicode"
  | boolType => "bool_type"
  | boolReading => "bool_parsing"
  | wholeType => "int_type"
  | wholeReading => "int_parsing"
  | wholeSize => "int_parsing_size"
  | wholeFraction => "int_from_float"
  | finiteNumber => "finite_number"
  | listType => "list_type"
  | tupleType => "tuple_type"
  | recordType _ => "model_type"

/-- The text of a kind of fault. -/
def FaultKind.message : FaultKind → String
  | missing => "Field required"
  | textType => "Input should be a valid string"
  | textDecoding =>
    "Input should be a valid string, unable to parse raw data as a unicode string"
  | boolType => "Input should be a valid boolean"
  | boolReading => "Input should be a valid boolean, unable to interpret input"
  | wholeType => "Input should be a valid integer"
  | wholeReading => "Input should be a valid integer, unable to parse string as an integer"
  | wholeSize => "Unable to parse input string as an integer, exceeded maximum size"
  | wholeFraction => "Input should be a valid integer, got a number with a fractional part"
  | finiteNumber => "Input should be a finite number"
  | listType => "Input should be a valid list"
  | tupleType => "Input should be a valid tuple"
  | recordType name => s!"Input should be a valid dictionary or instance of {name}"

/-- A fault and its place. -/
structure DataFault where
  place : List Place
  kind : FaultKind
deriving DecidableEq, Repr

/-- A value that passed its check, or all faults that were found. -/
inductive Checked (α : Type)
  | valid (value : α)
  | invalid (faults : List DataFault)

namespace Checked

/-- Applies a function to a checked value. -/
def map {α β : Type} (f : α → β) : Checked α → Checked β
  | valid a => valid (f a)
  | invalid fs => invalid fs

/-- Joins two checks; the faults of both are kept. -/
def and {α β : Type} : Checked (α → β) → Checked α → Checked β
  | valid f, valid a => valid (f a)
  | valid _, invalid fs => invalid fs
  | invalid fs, valid _ => invalid fs
  | invalid fs, invalid gs => invalid (fs ++ gs)

/-- Checks what passed a check once more. -/
def andThen {α β : Type} (x : Checked α) (f : α → Checked β) : Checked β :=
  match x with
  | valid a => f a
  | invalid fs => invalid fs

/-- Moves the places of all faults inside a larger value. -/
def inside {α : Type} (p : Place) : Checked α → Checked α
  | valid a => valid a
  | invalid fs => invalid (fs.map fun f => { f with place := p :: f.place })

/-- A single fault at the value itself. -/
def fault {α : Type} (k : FaultKind) : Checked α :=
  invalid [⟨[], k⟩]

/-- Checks for each item of a list, with its index. -/
def each {α : Type} (check : Data → Checked α) : Nat → List Data → Checked (List α)
  | _, [] => valid []
  | n, d :: ds => ((check d).inside (.index n) |>.map List.cons).and (each check (n + 1) ds)

end Checked

namespace Check

/-- The text that bytes write, or else a fault. -/
def decoded (bs : List UInt8) (fault : FaultKind) : Checked String :=
  match Text.Utf8.decode bs with
  | .ok s => .valid s
  | .error _ => .fault fault

/-- A text, or bytes that write one. -/
def text : Data → Checked String
  | .text s => .valid s
  | .bytes bs => decoded bs .textDecoding
  | _ => .fault .textType

/-- The words for true and for false, in lower case. -/
def trueWords : List String := ["1", "t", "y", "true", "yes", "on"]
def falseWords : List String := ["0", "f", "n", "false", "no", "off"]

/-- A truth value as a text writes it, in any case. -/
def boolOfText (s : String) : Checked Bool :=
  let word := String.ofList (s.toList.map Char.toLower)
  if trueWords.contains word then .valid true
  else if falseWords.contains word then .valid false
  else .fault .boolReading

/-- A truth value: zero, one, or a word. -/
def bool : Data → Checked Bool
  | .bool b => .valid b
  | .text s => boolOfText s
  | .bytes bs => (decoded bs .boolReading).andThen boolOfText
  | .whole n =>
    if n = 1 then .valid true
    else if n = 0 then .valid false
    else if -Number.wordBound ≤ n ∧ n < Number.wordBound then .fault .boolReading
    else .fault .boolType
  | .real x =>
    if x.isWhole ∧ x.truncate? = some 1 then .valid true
    else if x.isWhole ∧ x.truncate? = some 0 then .valid false
    else .fault .boolType
  | _ => .fault .boolType

/-- The characters in front of a point that only zeros follow. -/
def dropZeroFraction (cs : List Char) : List Char :=
  match Text.cutFirstChars '.' cs with
  | some (front, back) => if back.all (· == '0') then front else cs
  | none => cs

/-- A number without the zeros and separators that lead it, or none if it is no number at all. -/
def dropLeadingZeros? : List Char → Option (List Char)
  | '0' :: cs =>
    match cs.dropWhile fun c => c == '0' || c == '_' with
    | [] => some [(cs.getLast?).getD '0']
    | c :: rest => if c.isDigit then some (c :: rest) else none
  | c :: cs => if c.isDigit || c == '-' then some (c :: cs) else none
  | [] => none

/-- The characters without separators, unless one stands at an end or two stand side by side. -/
def dropSeparators (cs : List Char) : List Char :=
  if Number.wellSeparated cs then cs.filter (· != '_') else cs

/-- A whole number as the characters of a text write it. -/
def wholeOfChars (cs : List Char) : Checked Int :=
  let (negative, ds) := match cs with
    | '-' :: r => (true, r)
    | r => (false, r)
  let led := match ds with
    | '0' :: _ :: _ => true
    | _ => false
  if ds.isEmpty || led || !ds.all Char.isDigit then .fault .wholeReading
  else if Number.digitLimit < ds.length then .fault .wholeSize
  else .valid (if negative then -(Number.digitsValue ds : Int) else Number.digitsValue ds)

/-- Blanks that may stand around a number. -/
def isOuterBlank (c : Char) : Bool := Text.isNumberBlank c

/-- A whole number as a text writes it. -/
def wholeOfText (s : String) : Checked Int :=
  let cs := Text.trimChars isOuterBlank s.toList
  let unsigned := match cs with
    | '+' :: '-' :: _ => none
    | '+' :: r => some r
    | r => some r
  match unsigned.bind fun cs => dropLeadingZeros? (dropZeroFraction cs) with
  | some cs => wholeOfChars (dropSeparators cs)
  | none => .fault .wholeReading

/-- A whole number, a fraction of zero, or a text that writes either. -/
def whole : Data → Checked Int
  | .whole n => .valid n
  | .bool b => .valid (if b then 1 else 0)
  | .text s => wholeOfText s
  | .bytes bs => (decoded bs .wholeReading).andThen wholeOfText
  | .real x =>
    match x.truncate? with
    | none => .fault .finiteNumber
    | some n =>
      if !x.isWhole then .fault .wholeFraction
      else if -Number.wordBound < n ∧ n < Number.wordBound then .valid n
      else .fault .wholeSize
  | _ => .fault .wholeType

/-- Checked items of a collection; anything else is a fault. -/
def items {α : Type} (fault : FaultKind) (check : Data → Checked α) (d : Data) :
    Checked (List α) :=
  match d.items? with
  | some ds => Checked.each check 0 ds
  | none => .fault fault

/-- A list with checked items. -/
def list {α : Type} (check : Data → Checked α) : Data → Checked (List α) := items .listType check

/-- A tuple of any length with checked items. -/
def tuple {α : Type} (check : Data → Checked α) : Data → Checked (List α) := items .tupleType check

/-- A value that may be missing or null. -/
def nullable {α : Type} (check : Data → Checked α) : Data → Checked (Option α)
  | .null => .valid none
  | d => (check d).map some

/-- The value under the first of some keys that is there. -/
def lookup (entries : List (Data × Data)) (keys : List String) : Option Data :=
  keys.findSome? (Data.find? · entries)

/-- A field under one of some keys, or its default; faults are reported under the first key. -/
def field {α : Type} (entries : List (Data × Data)) (key : String) (others : List String)
    (default : α) (check : Data → Checked α) : Checked α :=
  match lookup entries (key :: others) with
  | some d => (check d).inside (.key key)
  | none => .valid default

/-- A field that has to be there. -/
def required {α : Type} (entries : List (Data × Data)) (key : String)
    (check : Data → Checked α) : Checked α :=
  match lookup entries [key] with
  | some d => (check d).inside (.key key)
  | none => (Checked.fault .missing).inside (.key key)

/-- A table with checked entries. -/
def record {α : Type} (name : String) (check : List (Data × Data) → Checked α) (d : Data) :
    Checked α :=
  match d.entries? with
  | some es => check es
  | none => .fault (.recordType name)

end Check

end CestExport
