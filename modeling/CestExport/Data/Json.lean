import CestExport.Data.Basic
import CestExport.Number.Decimal

/-!
# Reading JSON

A JSON text is read from left to right; the first fault ends the reading and is
reported with its position.  `NaN` and the infinities count as numbers, and of
equal keys the last one wins.

A text is made of characters, so that half of a surrogate pair cannot be kept: an
escape that writes one by itself is read as the replacement character `U+FFFD`.
-/

namespace CestExport.Json

open CestExport.Number

/-- What is wrong with a JSON text. -/
inductive Fault
  | value
  | key
  | colon
  | comma
  | unterminated
  | control
  | escape
  | unicode
  | extra
  | mark
deriving DecidableEq, Repr

/-- The text of a fault. -/
def Fault.message : Fault → String
  | value => "Expecting value"
  | key => "Expecting property name enclosed in double quotes"
  | colon => "Expecting ':' delimiter"
  | comma => "Expecting ',' delimiter"
  | unterminated => "Unterminated string starting at"
  | control => "Invalid control character at"
  | escape => "Invalid \\escape"
  | unicode => "Invalid \\uXXXX escape"
  | extra => "Extra data"
  | mark => "Unexpected UTF-8 BOM (decode using utf-8-sig)"

/-- Why a text is not read: a fault and where it is, or a number with too many digits. -/
inductive Error
  | syntaxFault (fault : Fault) (position : Nat)
  | number (cause : WholeError)
deriving DecidableEq, Repr

/-- What is left of the text, and how many characters stand before it. -/
structure Cursor where
  rest : List Char
  position : Nat

/-- A cursor behind `n` characters more. -/
def Cursor.skip (c : Cursor) (n : Nat) : Cursor := ⟨c.rest.drop n, c.position + n⟩

/-- Blanks between tokens. -/
def isBlank (c : Char) : Bool := c == ' ' || c == '\t' || c == '\n' || c == '\r'

/-- A cursor behind the blanks. -/
def Cursor.skipBlanks (c : Cursor) : Cursor :=
  c.skip (c.rest.takeWhile isBlank).length

/-- A fault at a cursor. -/
def Cursor.fault {α : Type} (c : Cursor) (f : Fault) : Except Error α :=
  .error (.syntaxFault f c.position)

/-- The value of a hexadecimal digit. -/
def hexValue? (c : Char) : Option Nat :=
  if c.isDigit then some (c.toNat - 0x30)
  else if 'a' ≤ c ∧ c ≤ 'f' then some (c.toNat - 0x57)
  else if 'A' ≤ c ∧ c ≤ 'F' then some (c.toNat - 0x37)
  else none

/-- The value of four hexadecimal digits, and what follows them; they cannot end a text. -/
def fourHex? : List Char → Option (Nat × List Char)
  | a :: b :: c :: d :: e :: rest => do
    let a ← hexValue? a
    let b ← hexValue? b
    let c ← hexValue? c
    let d ← hexValue? d
    some (((a * 16 + b) * 16 + c) * 16 + d, e :: rest)
  | _ => none

/-- The character that a short escape stands for. -/
def escaped? (c : Char) : Option Char :=
  [('"', '"'), ('\\', '\\'), ('/', '/'), ('b', '\x08'), ('f', '\x0c'), ('n', '\n'),
    ('r', '\r'), ('t', '\t')].lookup c

/-- Whether a code unit is the first, respectively the second, of a pair. -/
def isHigh (n : Nat) : Bool := 0xD800 ≤ n && n < 0xDC00
def isLow (n : Nat) : Bool := 0xDC00 ≤ n && n < 0xE000

/-- The character of a code unit by itself; half of a pair has none and is replaced. -/
def unitChar (n : Nat) : Char :=
  if isHigh n || isLow n then '\ufffd' else Char.ofNat n

/-- The character that follows `\u`, and how many characters write it. -/
def unicodeEscape? (cs : List Char) : Option (Char × Nat) :=
  match fourHex? cs with
  | none => none
  | some (high, rest) =>
    match rest with
    | '\\' :: 'u' :: more =>
      match fourHex? more with
      | some (low, _) =>
        if isHigh high && isLow low then
          some (Char.ofNat (0x10000 + (high - 0xD800) * 0x400 + (low - 0xDC00)), 10)
        else some (unitChar high, 4)
      | none => some (unitChar high, 4)
    | _ => some (unitChar high, 4)

/-- The characters of a string up to its closing quote; `start` is where the string begins. -/
def stringBody (start : Nat) : Nat → Cursor → List Char → Except Error (String × Cursor)
  | 0, _, _ => .error (.syntaxFault .unterminated start)
  | fuel + 1, c, seen =>
    match c.rest with
    | [] => .error (.syntaxFault .unterminated start)
    | '"' :: _ => .ok (String.ofList seen.reverse, c.skip 1)
    | '\\' :: [] => .error (.syntaxFault .unterminated start)
    | '\\' :: 'u' :: cs =>
      match unicodeEscape? cs with
      | some (x, n) => stringBody start fuel (c.skip (2 + n)) (x :: seen)
      | none => (c.skip 1).fault .unicode
    | '\\' :: e :: _ =>
      match escaped? e with
      | some x => stringBody start fuel (c.skip 2) (x :: seen)
      | none => c.fault .escape
    | x :: _ =>
      if x.toNat < 0x20 then c.fault .control else stringBody start fuel (c.skip 1) (x :: seen)

/-- A string; the cursor stands on its opening quote. -/
def string (c : Cursor) : Except Error (String × Cursor) :=
  stringBody c.position (c.rest.length + 1) (c.skip 1) []

/-- The digits of a whole number without leading zeros. -/
def wholeDigits (cs : List Char) : List Char :=
  match cs with
  | '0' :: _ => ['0']
  | _ => cs.takeWhile Char.isDigit

/-- A point and digits, or nothing. -/
def fraction (cs : List Char) : List Char :=
  match cs with
  | '.' :: r => let ds := r.takeWhile Char.isDigit; if ds.isEmpty then [] else '.' :: ds
  | _ => []

/-- An exponent, or nothing. -/
def exponent (cs : List Char) : List Char :=
  match cs with
  | e :: r =>
    let sign := match r with
      | '-' :: _ => ['-']
      | '+' :: _ => ['+']
      | _ => []
    let ds := (r.drop sign.length).takeWhile Char.isDigit
    if (e == 'e' || e == 'E') && !ds.isEmpty then e :: sign ++ ds else []
  | [] => []

/-- A number. -/
def number (c : Cursor) : Except Error (Data × Cursor) :=
  let sign := match c.rest with
    | '-' :: _ => ['-']
    | _ => []
  let ds := wholeDigits (c.rest.drop sign.length)
  if ds.isEmpty then c.fault .value
  else
    let front := sign ++ ds
    let point := fraction (c.rest.drop front.length)
    let power := exponent (c.rest.drop (front.length + point.length))
    let all := String.ofList (front ++ point ++ power)
    if point.isEmpty && power.isEmpty then
      match readWhole all with
      | .ok n => .ok (.whole n, c.skip front.length)
      | .error e => .error (.number e)
    else
      match readDecimal? all with
      | some x => .ok (.real x, c.skip (front.length + point.length + power.length))
      | none => c.fault .value

/-- The words that stand for values. -/
def words : List (String × Data) :=
  [("null", .null), ("true", .bool true), ("false", .bool false), ("NaN", .real .nan),
    ("Infinity", .real (.infinite false)), ("-Infinity", .real (.infinite true))]

mutual

/-- A value. -/
def value : Nat → Cursor → Except Error (Data × Cursor)
  | 0, c => c.fault .value
  | fuel + 1, c =>
    match words.find? fun w => w.1.toList.isPrefixOf c.rest with
    | some w => .ok (w.2, c.skip w.1.length)
    | none =>
      match c.rest with
      | '"' :: _ => (string c).map fun (s, c) => (.text s, c)
      | '[' :: _ =>
        let c := (c.skip 1).skipBlanks
        match c.rest with
        | ']' :: _ => .ok (.list [], c.skip 1)
        | _ => (items fuel c).map fun (ds, c) => (.list ds, c)
      | '\x7b' :: _ =>
        let c := (c.skip 1).skipBlanks
        match c.rest with
        | '\x7d' :: _ => .ok (.table [], c.skip 1)
        | _ => (entries fuel c []).map fun (es, c) => (.table es, c)
      | _ => number c

/-- The items of a list up to its end. -/
def items : Nat → Cursor → Except Error (List Data × Cursor)
  | 0, c => c.fault .value
  | fuel + 1, c => do
    let (d, c) ← value fuel c
    let c := c.skipBlanks
    match c.rest with
    | ']' :: _ => .ok ([d], c.skip 1)
    | ',' :: _ =>
      let (ds, c) ← items fuel (c.skip 1).skipBlanks
      .ok (d :: ds, c)
    | _ => c.fault .comma

/-- The entries of an object up to its end, behind those that are read already. -/
def entries : Nat → Cursor → List (Data × Data) → Except Error (List (Data × Data) × Cursor)
  | 0, c, _ => c.fault .key
  | fuel + 1, c, seen =>
    match c.rest with
    | '"' :: _ => do
      let (k, c) ← string c
      let c := c.skipBlanks
      match c.rest with
      | ':' :: _ =>
        let (d, c) ← value fuel (c.skip 1).skipBlanks
        let seen := Data.put (.text k) d seen
        let c := c.skipBlanks
        match c.rest with
        | '\x7d' :: _ => .ok (seen, c.skip 1)
        | ',' :: _ => entries fuel (c.skip 1).skipBlanks seen
        | _ => c.fault .comma
      | _ => c.fault .colon
    | _ => c.fault .key

end

/-- The value that a JSON text writes. -/
def read (s : String) : Except Error Data := do
  let cs := s.toList
  let start : Cursor := ⟨cs, 0⟩
  match cs with
  | '\ufeff' :: _ => start.fault .mark
  | _ =>
    let (d, c) ← value (2 * cs.length + 2) start.skipBlanks
    let c := c.skipBlanks
    if c.rest.isEmpty then .ok d else c.fault .extra

end CestExport.Json
