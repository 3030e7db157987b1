import CestExport.Data.Basic
import CestExport.Number.Whole
import CestExport.Number.Significant
import CestExport.Text.Quoted

/-!
# Showing data

A text by itself is shown as it is, and inside another value in quotes.  A
collection that is met again inside itself is shown by three dots.
-/

namespace CestExport

/-- A number in decimal with leading zeros. -/
def padded (width n : Nat) : String :=
  let ds := Nat.toDigits 10 n
  String.ofList (List.replicate (width - ds.length) '0' ++ ds)

/-- What stands for a collection that is met again inside itself. -/
def CollectionKind.dots : CollectionKind → String
  | list => "[...]"
  | set => "set(...)"
  | table => "\x7b...\x7d"
  | ordered => "..."

/-! ## Times -/

/-- A length of time in minutes, as days and seconds. -/
def minutesText (minutes : Int) : String :=
  let days := minutes.fdiv 1440
  let seconds := 60 * minutes.fmod 1440
  let parts := (if days = 0 then [] else [s!"days={days}"]) ++
    (if seconds = 0 then [] else [s!"seconds={seconds}"])
  let arguments := if parts.isEmpty then "0" else ", ".intercalate parts
  s!"datetime.timedelta({arguments})"

/-- A zone inside another value. -/
def Zone.inner (z : Zone) : String :=
  s!"datetime.timezone({minutesText z.minutes}, {Text.quoted z.name})"

/-- The distance of a zone's clock in hours and minutes. -/
def Zone.offset (z : Zone) : String :=
  let n := z.minutes.natAbs
  let sign := if z.minutes < 0 then "-" else "+"
  s!"{sign}{padded 2 (n / 60)}:{padded 2 (n % 60)}"

/-- A calendar day. -/
def Day.display (d : Day) : String :=
  s!"{padded 4 d.year}-{padded 2 d.month}-{padded 2 d.day}"

/-- A calendar day inside another value. -/
def Day.inner (d : Day) : String := s!"datetime.date({d.year}, {d.month}, {d.day})"

namespace Moment

/-- A moment, with millionths of a second if there are any, and with its zone's clock. -/
def display (m : Moment) : String :=
  let time := s!"{padded 2 m.hour}:{padded 2 m.minute}:{padded 2 m.second}"
  let fraction := if m.micros = 0 then "" else s!".{padded 6 m.micros}"
  let offset := (m.zone.map Zone.offset).getD ""
  s!"{m.date.display} {time}{fraction}{offset}"

/-- The numbers of a moment, without a last part of zero. -/
def numbers (m : Moment) : List Nat :=
  [m.date.year, m.date.month, m.date.day, m.hour, m.minute] ++
    (if m.micros ≠ 0 then [m.second, m.micros] else if m.second ≠ 0 then [m.second] else [])

/-- A moment inside another value. -/
def inner (m : Moment) : String :=
  let zone := match m.zone with
    | some z => [s!"tzinfo={z.inner}"]
    | none => []
  let arguments := ", ".intercalate (m.numbers.map toString ++ zone)
  s!"datetime.datetime({arguments})"

end Moment

/-! ## Bytes -/

/-- One byte inside quotes of the kind `q`. -/
def quotedByte (q : Char) (b : UInt8) : List Char :=
  let c := Char.ofNat b.toNat
  if c == q || c == '\\' then ['\\', c]
  else if c == '\t' then ['\\', 't']
  else if c == '\n' then ['\\', 'n']
  else if c == '\r' then ['\\', 'r']
  else if 0x20 ≤ b.toNat && b.toNat < 0x7F then [c]
  else '\\' :: 'x' :: Text.hexDigits b.toNat 2

/-- The display of bytes. -/
def bytesText (bs : List UInt8) : String :=
  let q := Text.enclosingQuote (bs.map fun b => Char.ofNat b.toNat)
  String.ofList ('b' :: q :: bs.flatMap (quotedByte q) ++ [q])

/-! ## Values -/

namespace Data

/-- What stands for a value that is met again inside itself. -/
def dots : Data → String
  | list _ => CollectionKind.list.dots
  | set _ => CollectionKind.set.dots
  | ordered _ => CollectionKind.ordered.dots
  | _ => CollectionKind.table.dots

mutual

/-- The display of a value inside the collections with some labels. -/
def within (around : List Nat) : Data → String
  | null => "None"
  | bool b => if b then "True" else "False"
  | whole n => Number.decimal n
  | real x => x.shortest
  | text s => Text.quoted s
  | date d => d.inner
  | moment m => m.inner
  | bytes content => bytesText content
  | list items => "[" ++ ", ".intercalate (itemsWithin around items) ++ "]"
  | tuple items =>
    let ending := if items.length = 1 then ",)" else ")"
    "(" ++ ", ".intercalate (itemsWithin around items) ++ ending
  | set [] => "set()"
  | set members => "\x7b" ++ ", ".intercalate (itemsWithin around members) ++ "\x7d"
  | table entries => "\x7b" ++ ", ".intercalate (entriesWithin around entries) ++ "\x7d"
  | ordered [] => "ordereddict()"
  | ordered entries => "ordereddict([" ++ ", ".intercalate (pairsWithin around entries) ++ "])"
  | loop l d => if around.contains l then dots d else within (l :: around) d
  | again _ k => k.dots

/-- The display of the items of a collection. -/
def itemsWithin (around : List Nat) : List Data → List String
  | [] => []
  | d :: ds => within around d :: itemsWithin around ds

/-- The display of the entries of a table. -/
def entriesWithin (around : List Nat) : List (Data × Data) → List String
  | [] => []
  | (k, v) :: es => s!"{within around k}: {within around v}" :: entriesWithin around es

/-- The display of the entries of an ordered table. -/
def pairsWithin (around : List Nat) : List (Data × Data) → List String
  | [] => []
  | (k, v) :: es => s!"({within around k}, {within around v})" :: pairsWithin around es

end

/-- The display of a value inside another that does not hold itself. -/
def inner (d : Data) : String := d.within []

/-- The display of a value by itself. -/
def display : Data → String
  | text s => s
  | date d => d.display
  | moment m => m.display
  | d => d.inner

mutual

/-- Whether all whole numbers in a value may be shown. -/
def isShowable : Data → Bool
  | whole n => Number.isShowable n
  | list items => areShowable items
  | tuple items => areShowable items
  | set members => areShowable members
  | table entries => haveShowable entries
  | ordered entries => haveShowable entries
  | loop _ d => isShowable d
  | _ => true

/-- Whether all whole numbers in the items of a collection may be shown. -/
def areShowable : List Data → Bool
  | [] => true
  | d :: ds => isShowable d && areShowable ds

/-- Whether all whole numbers in the entries of a table may be shown. -/
def haveShowable : List (Data × Data) → Bool
  | [] => true
  | (k, v) :: es => isShowable k && isShowable v && haveShowable es

end

end Data

end CestExport
