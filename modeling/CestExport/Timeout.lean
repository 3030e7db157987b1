import CestExport.Failure
import CestExport.Number.Decimal
import CestExport.Number.Significant

/-!
# Waiting times

Recordings give waiting times in milliseconds, generated code in seconds.  A time
without fraction is written as a whole number, any other with six digits.
-/

namespace CestExport

/-- A recorded time: none, a text, or a whole number. -/
inductive Duration
  | absent
  | text (s : String)
  | whole (n : Int)
deriving DecidableEq, Repr

namespace Duration

/-- A number of seconds as it is written in generated code. -/
def literal (seconds : Number.Binary64) : String :=
  if seconds.isWhole then
    match seconds.truncate? with
    | some n => Number.decimal n
    | none => seconds.general
  else seconds.general

/-- The text of a recorded time, empty if there is none. -/
def written : Duration → Except Failure String
  | absent => .ok ""
  | text s => .ok (Text.trim s)
  | whole n => (Number.showWhole n).mapError .whole

/-- The literal for a recorded time in seconds; a blank one stands for `fallback` seconds. -/
def secondsOr (d : Duration) (fallback : Except Failure Number.Binary64) :
    Except Failure String := do
  let s ← d.written
  if s = "" then fallback.map literal
  else
    match Number.readDecimal? s with
    | some x => .ok (literal (x.divNat 1000))
    | none => .error (.timeout (match d with
      | .text t => t
      | _ => s))

/-- A whole number of seconds, refused if it is too large. -/
def wholeSeconds (n : Int) : Except Failure Number.Binary64 :=
  match Number.Binary64.ofInt? n with
  | some x => .ok x
  | none => .error .timeoutTooLarge

/-- The literal for a recorded time, in seconds, where a whole number stands for a blank one. -/
def seconds (d : Duration) (fallback : Int) : Except Failure String :=
  d.secondsOr (wholeSeconds fallback)

end Duration

end CestExport
