import CestExport.Data.Display
import CestExport.Yaml.Error

/-!
# Timestamps

A calendar day, or a day with a time of day, which may name its zone by the
distance of its clock.  Fractions of a second are rounded to millionths by the
seventh digit, a half up.
-/

namespace CestExport.Yaml

open CestExport.Number

/-- A time of day as it is written. -/
structure TimeOfDay where
  hour : Nat
  minute : Nat
  second : Nat
  /-- The digits behind the point. -/
  fraction : List Char
  zone : Option Zone
deriving DecidableEq, Repr

/-- A timestamp as it is written. -/
structure Timestamp where
  date : Day
  time : Option TimeOfDay
deriving DecidableEq, Repr

/-! ## Reading -/

/-- The number of at least `low` and at most `high` digits, and what follows. -/
def someDigits? (low high : Nat) (cs : List Char) : Option (Nat × List Char) :=
  let ds := (cs.take high).takeWhile Char.isDigit
  if ds.length < low then none else some (digitsValue ds, cs.drop ds.length)

/-- What follows a given character. -/
def afterChar? (c : Char) : List Char → Option (List Char)
  | d :: ds => if d = c then some ds else none
  | [] => none

/-- A blank or the letter between date and time, and what follows. -/
def afterTimeMark? : List Char → Option (List Char)
  | 'T' :: cs => some cs
  | 't' :: cs => some cs
  | cs =>
    let rest := cs.dropWhile fun c => c == ' ' || c == '\t'
    if rest.length < cs.length then some rest else none

/-- The zone at the end of a timestamp, if there is one; it goes by the name it is written with. -/
def zone? (cs : List Char) : Option (Option Zone) :=
  match cs.dropWhile fun c => c == ' ' || c == '\t' with
  | [] => if cs.isEmpty then some none else none
  | ['Z'] => some (some ⟨0, "Z"⟩)
  | sign :: digits =>
    if sign == '+' || sign == '-' then do
      let (hours, rest) ← someDigits? 1 2 digits
      let (minutes, rest) ← (match rest with
        | ':' :: r => someDigits? 2 2 r
        | r => some (0, r))
      let distance : Int := 60 * hours + minutes
      if rest.isEmpty then
        some (some ⟨if sign == '-' then -distance else distance, String.ofList (sign :: digits)⟩)
      else none
    else none

/-- The digits behind a point, and what follows. -/
def fractionDigits : List Char → List Char × List Char
  | '.' :: cs => (cs.takeWhile Char.isDigit, cs.dropWhile Char.isDigit)
  | cs => ([], cs)

/-- A time of day up to the end. -/
def time? (cs : List Char) : Option TimeOfDay := do
  let (hour, cs) ← someDigits? 1 2 cs
  let cs ← afterChar? ':' cs
  let (minute, cs) ← someDigits? 2 2 cs
  let cs ← afterChar? ':' cs
  let (second, cs) ← someDigits? 2 2 cs
  let (fraction, cs) := fractionDigits cs
  let zone ← zone? cs
  some ⟨hour, minute, second, fraction, zone⟩

/-- The characters without a line break at their end. -/
def withoutBreak (cs : List Char) : List Char :=
  if cs.getLast? = some '\n' then cs.dropLast else cs

/-- The timestamp that characters write. -/
def Timestamp.ofChars? (cs : List Char) : Option Timestamp := do
  let (year, cs) ← someDigits? 4 4 (withoutBreak cs)
  let cs ← afterChar? '-' cs
  let (month, cs) ← someDigits? 1 2 cs
  let cs ← afterChar? '-' cs
  let (day, cs) ← someDigits? 1 2 cs
  if cs.isEmpty then some ⟨⟨year, month, day⟩, none⟩
  else
    let time ← time? (← afterTimeMark? cs)
    some ⟨⟨year, month, day⟩, some time⟩

/-! ## Values -/

/-- What is wrong with a zone: its clock is a day or more away. -/
def zoneFault? (z : Zone) : Option String :=
  if z.minutes.natAbs < 1440 then none
  else some ("offset must be a timedelta strictly between -timedelta(hours=24) and " ++
    s!"timedelta(hours=24), not {minutesText z.minutes}.")

/-- What is wrong with a day. -/
def dayFault? (d : Day) : Option String :=
  if d.year = 0 then some s!"year {d.year} is out of range"
  else if d.month = 0 ∨ 12 < d.month then some "month must be in 1..12"
  else if d.day = 0 ∨ daysInMonth d.year d.month < d.day then some "day is out of range for month"
  else none

/-- What is wrong with a time of day. -/
def timeFault? (t : TimeOfDay) : Option String :=
  if 23 < t.hour then some "hour must be in 0..23"
  else if 59 < t.minute then some "minute must be in 0..59"
  else if 59 < t.second then some "second must be in 0..59"
  else none

/-- Millionths of a second from the digits of a fraction, rounded by the seventh digit. -/
def microseconds (ds : List Char) : Nat :=
  let six := ds.take 6
  let n := digitsValue six * tenTo (6 - six.length)
  match ds.drop 6 with
  | d :: _ => if 4 < digitsValue [d] then n + 1 else n
  | [] => n

/-- A day with a time of day; a fraction that is rounded up to a second moves it on. -/
def momentOf (d : Day) (t : TimeOfDay) : Except Error Data :=
  let micros := microseconds t.fraction
  if micros < 1000000 then .ok (.moment ⟨d, t.hour, t.minute, t.second, micros, t.zone⟩)
  else
    match Moment.later? ⟨d, t.hour, t.minute, t.second, 0, t.zone⟩ with
    | some m => .ok (.moment m)
    | none => .error (.bounds "date value out of range")

/-- The value of a timestamp, or the first thing that is wrong with it. -/
def Timestamp.value (t : Timestamp) : Except Error Data :=
  match t.time with
  | none =>
    match dayFault? t.date with
    | some fault => .error (.value fault)
    | none => .ok (.date t.date)
  | some time =>
    match (time.zone.bind zoneFault?).or ((dayFault? t.date).or (timeFault? time)) with
    | some fault => .error (.value fault)
    | none => momentOf t.date time

end CestExport.Yaml
