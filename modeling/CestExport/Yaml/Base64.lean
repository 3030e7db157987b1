/-!
# Bytes written in base 64

Four characters write three bytes.  Characters of ASCII outside the alphabet are
passed over, and equals signs end the text.
-/

namespace CestExport.Yaml

/-- The value of a character of the alphabet. -/
def base64Value? (c : Char) : Option Nat :=
  if 'A' ≤ c ∧ c ≤ 'Z' then some (c.toNat - 0x41)
  else if 'a' ≤ c ∧ c ≤ 'z' then some (c.toNat - 0x61 + 26)
  else if c.isDigit then some (c.toNat - 0x30 + 52)
  else if c == '+' then some 62
  else if c == '/' then some 63
  else none

/-- The bytes that follow, when `count` characters with the value `left` wait for more and
`signs` equals signs have been seen since. -/
def base64Rest (count left signs : Nat) : List Char → Option (List UInt8)
  | [] => if count = 0 then some [] else none
  | c :: cs =>
    if c == '=' then
      if 2 ≤ count ∧ 4 ≤ count + signs + 1 then some []
      else base64Rest count left (signs + 1) cs
    else
      match base64Value? c with
      | none => base64Rest count left signs cs
      | some v =>
        match count with
        | 0 => base64Rest 1 v 0 cs
        | 1 => (base64Rest 2 (v % 16) 0 cs).map ((4 * left + v / 16).toUInt8 :: ·)
        | 2 => (base64Rest 3 (v % 4) 0 cs).map ((16 * left + v / 4).toUInt8 :: ·)
        | _ => (base64Rest 0 0 0 cs).map ((64 * left + v).toUInt8 :: ·)

/-- The bytes that a text of ASCII characters writes. -/
def readBase64? (cs : List Char) : Option (List UInt8) :=
  if cs.all (·.toNat < 0x80) then base64Rest 0 0 0 cs else none

end CestExport.Yaml
