import CestExport.Text.Printable

/-!
# Quoted display

The form in which messages show a text they complain about: in quotes, with
control characters, backslashes and unprintable characters written as escapes.
Single quotes are used unless the text holds a single quote and no double one.
-/

namespace CestExport.Text

/-- Lower-case hexadecimal digit. -/
def hexDigit (n : Nat) : Char :=
  (("0123456789abcdef".toList)[n % 16]?).getD '0'

/-- The `width` lowest hexadecimal digits of `n`. -/
def hexDigits (n : Nat) : Nat → List Char
  | 0 => []
  | width + 1 => hexDigits (n / 16) width ++ [hexDigit n]

/-- One character inside quotes of the kind `q`. -/
def quotedChar (q c : Char) : List Char :=
  if c == q || c == '\\' then ['\\', c]
  else if c == '\t' then ['\\', 't']
  else if c == '\n' then ['\\', 'n']
  else if c == '\r' then ['\\', 'r']
  else if isPrintable c then [c]
  else if c.toNat < 0x100 then '\\' :: 'x' :: hexDigits c.toNat 2
  else if c.toNat < 0x10000 then '\\' :: 'u' :: hexDigits c.toNat 4
  else '\\' :: 'U' :: hexDigits c.toNat 8

/-- The quote that encloses a text. -/
def enclosingQuote (cs : List Char) : Char :=
  if cs.contains '\'' && !cs.contains '"' then '"' else '\''

/-- Quoted display of a text. -/
def quoted (s : String) : String :=
  let q := enclosingQuote s.toList
  String.ofList (q :: s.toList.flatMap (quotedChar q) ++ [q])

end CestExport.Text
