import CestExport.Yaml.Tag
import CestExport.Yaml.Timestamp
import CestExport.Yaml.Version

/-!
# Plain scalars

A plain scalar without a tag has the one that its form implies.  The forms of
truth values and numbers depend on the version.
-/

namespace CestExport.Yaml

/-! ## Numbers -/

/-- A digit or a separator. -/
def isDigitOrLine (c : Char) : Bool := c.isDigit || c == '_'

/-- A digit of base eight or a separator. -/
def isOctalOrLine (c : Char) : Bool := ('0' ≤ c ∧ c ≤ '7') || c == '_'

/-- A digit of base sixteen or a separator. -/
def isHexOrLine (c : Char) : Bool :=
  isDigitOrLine c || ('a' ≤ c ∧ c ≤ 'f') || ('A' ≤ c ∧ c ≤ 'F')

/-- Characters behind the sign of a number. -/
def behindSign : List Char → List Char
  | '-' :: cs => cs
  | '+' :: cs => cs
  | cs => cs

/-- Whether the characters are not empty and all satisfy `p`. -/
def someAll (p : Char → Bool) (cs : List Char) : Bool := !cs.isEmpty && cs.all p

/-- Whether characters write the digits of a number in base two. -/
def isBinaryDigits : List Char → Bool
  | '0' :: 'b' :: cs => someAll (fun c => c == '0' || c == '1' || c == '_') cs
  | _ => false

/-- Whether characters write the digits of a number in base sixteen. -/
def isHexDigits : List Char → Bool
  | '0' :: 'x' :: cs => someAll isHexOrLine cs
  | _ => false

/-- Whether characters write a part of a number in base sixty. -/
def isSixtieth : List Char → Bool
  | [d] => d.isDigit
  | [t, d] => ('0' ≤ t ∧ t ≤ '5') && d.isDigit
  | _ => false

/-- Whether characters write the whole part of a number, without its sign. -/
def isWholeBody : List Char → Bool
  | '0' :: 'o' :: cs => someAll isOctalOrLine cs
  | cs => isBinaryDigits cs || isHexDigits cs || someAll isDigitOrLine cs

/-- Whether characters write the whole part of a number by the early rules, without its sign. -/
def isEarlyWholeBody (cs : List Char) : Bool :=
  isBinaryDigits cs || isHexDigits cs || someAll isOctalOrLine cs ||
    match cs with
    | c :: rest => ('1' ≤ c ∧ c ≤ '9') &&
      match Text.splitChars (· == ':') rest with
      | first :: parts => first.all isDigitOrLine && parts.all isSixtieth
      | [] => true
    | [] => false

/-- Whether a plain scalar writes a whole number. -/
def isWholeForm (body : List Char → Bool) (cs : List Char) : Bool :=
  match cs with
  | c :: _ => (c.isDigit || c == '+' || c == '-') && body (behindSign cs)
  | [] => false

/-- Whether characters write an exponent, whose sign may be required. -/
def isExponent (signed : Bool) : List Char → Bool
  | e :: cs =>
    let ds := behindSign cs
    (e == 'e' || e == 'E') && (!signed || ds.length < cs.length) && someAll Char.isDigit ds
  | [] => false

/-- Whether characters write a fraction behind its point. -/
def isFraction (cs : List Char) : Bool :=
  let ending := cs.dropWhile isDigitOrLine
  (cs.takeWhile isDigitOrLine).length != 0 && (ending.isEmpty || isExponent true ending)

/-- Whether characters write digits with a fraction or an exponent. -/
def isDecimalBody (cs : List Char) : Bool :=
  match cs with
  | c :: _ =>
    c.isDigit &&
      match cs.dropWhile isDigitOrLine with
      | '.' :: rest =>
        let ending := rest.dropWhile isDigitOrLine
        ending.isEmpty || isExponent false ending
      | ending => isExponent false ending
  | [] => false

/-- Whether characters write a number in base sixty with a fraction. -/
def isSixtiethBody (cs : List Char) : Bool :=
  match Text.cutFirstChars '.' cs with
  | some (front, back) =>
    match Text.splitChars (· == ':') front with
    | (c :: first) :: parts => c.isDigit && first.all isDigitOrLine && !parts.isEmpty &&
      parts.all isSixtieth && back.all isDigitOrLine
    | _ => false
  | none => false

/-- The words for infinity and for what is not a number, without their points. -/
def infinityWords : List String := ["inf", "Inf", "INF"]
def nanWords : List String := ["nan", "NaN", "NAN"]

/-- Whether characters write a number by a word. -/
def isRealWord (cs : List Char) : Bool :=
  let body := behindSign cs
  match body with
  | '.' :: rest =>
    infinityWords.contains (String.ofList rest) ||
      (body.length = cs.length && nanWords.contains (String.ofList rest))
  | _ => false

/-- Whether a plain scalar writes a number with a fraction or an exponent. -/
def isRealForm (cs : List Char) : Bool :=
  isRealWord cs || isDecimalBody (behindSign cs) ||
    match behindSign cs with
    | '.' :: rest => isFraction rest
    | _ => false

/-- Whether a plain scalar writes such a number by the early rules. -/
def isEarlyRealForm (cs : List Char) : Bool :=
  isRealWord cs || isDecimalBody (behindSign cs) || isSixtiethBody (behindSign cs) ||
    match cs with
    | '.' :: rest => isFraction rest
    | _ => false

/-! ## Other forms -/

/-- Whether a plain scalar writes a timestamp; a day by itself has two digits for each part. -/
def isTimeForm (cs : List Char) : Bool :=
  match Timestamp.ofChars? cs with
  | some t => t.time.isSome || cs.length = 10
  | none => false

/-- The words for truth values. -/
def truthWords : List String := ["true", "True", "TRUE", "false", "False", "FALSE"]

/-- The words for truth values by the early rules. -/
def earlyTruthWords : List String :=
  truthWords ++ ["y", "Y", "yes", "Yes", "YES", "n", "N", "no", "No", "NO",
    "on", "On", "ON", "off", "Off", "OFF"]

/-- The words for nothing. -/
def nullWords : List String := ["", "~", "null", "Null", "NULL"]

/-- The tag that the form of a plain scalar implies, if it is neither a truth value nor a number. -/
def Tag.ofOther (cs : List Char) : Tag :=
  let s := String.ofList cs
  if s = "<<" then .merge
  else if nullWords.contains s then .null
  else if isTimeForm cs then .time
  else if s = "=" then .default
  else .text

/-- The tag that the form of a plain scalar implies, if the version has rules. -/
def Tag.ofPlain? (v : Version) (s : String) : Option Tag :=
  let cs := if s = "\n" then s.toList else withoutBreak s.toList
  let word := String.ofList cs
  if v = .usual then
    some (if truthWords.contains word then .bool
      else if isRealForm cs then .real
      else if isWholeForm isWholeBody cs then .whole
      else .ofOther cs)
  else if v = .early then
    some (if earlyTruthWords.contains word then .bool
      else if isEarlyRealForm cs then .real
      else if isWholeForm isEarlyWholeBody cs then .whole
      else .ofOther cs)
  else none

end CestExport.Yaml
