/-!
# UTF-8

Bytes are decoded from left to right by a machine that is either between two
characters or inside one.  A byte that no character can have at its place ends the
decoding, and the fault says which bytes are to blame.
-/

namespace CestExport.Text.Utf8

/-- What is wrong with some bytes. -/
inductive Fault
  | start
  | continuation
  | ending
deriving DecidableEq, Repr

/-- A fault, the positions of the first and the last byte to blame, and the first byte. -/
structure Error where
  fault : Fault
  first : Nat
  last : Nat
  byte : UInt8
deriving DecidableEq, Repr

/-- A character whose last bytes are still to come. -/
structure Partial where
  /-- The first byte. -/
  byte : UInt8
  /-- How many bytes have been seen. -/
  seen : Nat
  /-- How many bytes are missing. -/
  missing : Nat
  /-- The least and the greatest value of the next byte. -/
  low : Nat
  high : Nat
  /-- The value of the bits so far. -/
  value : Nat
deriving DecidableEq, Repr

/-! ## Algorithm -/

/-- A character of several bytes, from its first one. -/
def begin? (b : UInt8) : Option Partial :=
  let n := b.toNat
  if 0xC2 ≤ n ∧ n ≤ 0xDF then some ⟨b, 1, 1, 0x80, 0xBF, n - 0xC0⟩
  else if n = 0xE0 then some ⟨b, 1, 2, 0xA0, 0xBF, 0⟩
  else if n = 0xED then some ⟨b, 1, 2, 0x80, 0x9F, n - 0xE0⟩
  else if 0xE1 ≤ n ∧ n ≤ 0xEF then some ⟨b, 1, 2, 0x80, 0xBF, n - 0xE0⟩
  else if n = 0xF0 then some ⟨b, 1, 3, 0x90, 0xBF, 0⟩
  else if n = 0xF4 then some ⟨b, 1, 3, 0x80, 0x8F, 4⟩
  else if 0xF1 ≤ n ∧ n ≤ 0xF3 then some ⟨b, 1, 3, 0x80, 0xBF, n - 0xF0⟩
  else none

/-- A character with one more byte. -/
def Partial.extend (p : Partial) (b : UInt8) : Partial :=
  ⟨p.byte, p.seen + 1, p.missing - 1, 0x80, 0xBF, 64 * p.value + (b.toNat - 0x80)⟩

/-- The characters of bytes that stand behind `position` others, and the one left unfinished. -/
def run (position : Nat) : Option Partial → List UInt8 →
    Except Error (List Char × Option Partial)
  | p, [] => .ok ([], p)
  | none, b :: bs =>
    if b.toNat < 0x80 then
      (run (position + 1) none bs).map fun r => (Char.ofNat b.toNat :: r.1, r.2)
    else
      match begin? b with
      | some p => run (position + 1) (some p) bs
      | none => .error ⟨.start, position, position, b⟩
  | some p, b :: bs =>
    if p.low ≤ b.toNat ∧ b.toNat ≤ p.high then
      let q := p.extend b
      if q.missing = 0 then
        (run (position + 1) none bs).map fun r => (Char.ofNat q.value :: r.1, r.2)
      else run (position + 1) (some q) bs
    else .error ⟨.continuation, position - p.seen, position - 1, p.byte⟩

/-- The text that bytes write. -/
def decode (bs : List UInt8) : Except Error String :=
  match run 0 none bs with
  | .error e => .error e
  | .ok (cs, none) => .ok (String.ofList cs)
  | .ok (_, some p) => .error ⟨.ending, bs.length - p.seen, bs.length - 1, p.byte⟩

/-- The characters of pieces behind an unfinished one; positions count from the beginning of the
unfinished character, or else of the piece. -/
def runPieces : Option Partial → List (List UInt8) → Except Error (List Char)
  | none, [] => .ok []
  | some p, [] => .error ⟨.ending, 0, p.seen - 1, p.byte⟩
  | p, piece :: rest => do
    let (cs, p) ← run ((p.map (·.seen)).getD 0) p piece
    (runPieces p rest).map (cs ++ ·)

/-- Cuts bytes into pieces of `size`. -/
def pieces (size : Nat) : Nat → List UInt8 → List (List UInt8)
  | 0, _ => []
  | fuel + 1, bs => if bs.isEmpty then [] else bs.take size :: pieces size fuel (bs.drop size)

/-- The text that bytes write which arrive in pieces of `size`. -/
def decodePieces (size : Nat) (bs : List UInt8) : Except Error String :=
  (runPieces none (pieces size bs.length bs)).map String.ofList

/-- The text of a fault. -/
def Fault.message : Fault → String
  | start => "invalid start byte"
  | continuation => "invalid continuation byte"
  | ending => "unexpected end of data"

/-- A byte in hexadecimal. -/
def byteText (b : UInt8) : String :=
  let ds := Nat.toDigits 16 b.toNat
  String.ofList ('0' :: 'x' :: (if ds.length < 2 then '0' :: ds else ds))

/-- The text of a fault with the bytes to blame. -/
def Error.message (e : Error) : String :=
  let place := if e.first = e.last then s!"byte {byteText e.byte} in position {e.first}"
    else s!"bytes in position {e.first}-{e.last}"
  s!"'utf-8' codec can't decode {place}: {e.fault.message}"

/-- A text with every kind of line break as a line feed. -/
def unifyBreaks : List Char → List Char
  | [] => []
  | '\r' :: '\n' :: cs => '\n' :: unifyBreaks cs
  | '\r' :: cs => '\n' :: unifyBreaks cs
  | c :: cs => c :: unifyBreaks cs

end CestExport.Text.Utf8
