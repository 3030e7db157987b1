import CestExport.Emission
import CestExport.Failure
import CestExport.Php.Name
import CestExport.Recording.Step
import CestExport.Scope

/-!
# What a command drafts

A command looks at the step and the settings alone and drafts what to generate.
Drafts that assign a variable or need a loop counter are settled against the
context, which remembers both.

An emitter that fails returns no context, so its type does not tell in which order
a command checks its step and changes the context.  For the standard commands
nothing is lost: each of them changes the context behind its last check.  But there
is no emitter that changes the context and then fails.
-/

namespace CestExport

/-- The settings that commands look at. -/
structure Settings where
  baseUrl : String := ""
  waitForTextTimeout : Int := 30
  waitTimeout : Int := 30
deriving DecidableEq, Repr

/-- The settings of an export, and what its steps have used so far. -/
structure Context where
  settings : Settings := {}
  scope : Scope := {}
  /-- How many loop counters have been numbered. -/
  counters : Nat := 0
deriving DecidableEq, Repr

/-- What a command drafts. -/
inductive Draft
  | ready (emission : Emission)
  /-- Assigns an expression to a variable, or nothing if the variable has no name. -/
  | assign (name expression : String)
  /-- Opens a loop over a collection, with a variable for its items. -/
  | iterate (collection name : String)
  /-- Opens a loop that runs a number of times, with a counter named after the id. -/
  | repeated (id count : String)
deriving DecidableEq, Repr

/-- Drafts from the settings and a step. -/
abbrev Generator := Settings → Step → Except Failure Draft

/-- Generates a step in a context; a failure leaves the context as it was. -/
abbrev Emitter := Context → Step → Except Failure (Emission × Context)

namespace Draft

/-- The name of the counter with a number. -/
def numberedCounter (n : Nat) : String :=
  if n = 0 then "$i" else s!"$i{n}"

/-- The counter of a loop, named after the id or else numbered, and the count of numbered ones. -/
def counter (id : String) (used : Nat) : String × Nat :=
  let suffix := Php.nameSuffix id
  if suffix = "" then (numberedCounter used, used + 1) else (s!"$i_{suffix}", used)

/-- The line that opens a loop which runs a number of times. -/
def countedLoop (counter count : String) : String :=
  s!"for ({counter} = 0; {counter} < {count}; {counter}++) \x7b"

/-- The emission of a draft, and the context after it. -/
def settle (d : Draft) (context : Context) : Emission × Context :=
  match d with
  | ready e => (e, context)
  | assign name expression =>
    if name = "" then (.nothing, context)
    else (.statement (Scope.assignment name expression),
      { context with scope := context.scope.record name })
  | iterate collection name =>
    let opening : Line := ⟨0, s!"foreach ({collection} as $item) \x7b"⟩
    if name = "" then (.block ⟨[opening], 0, 1⟩, context)
    else (.block ⟨[opening, ⟨1, Scope.assignment name "$item"⟩], 0, 1⟩,
      { context with scope := context.scope.record name })
  | repeated id count =>
    let (name, used) := counter id context.counters
    (.block ⟨[⟨0, countedLoop name count⟩], 0, 1⟩, { context with counters := used })

/-- A single statement. -/
def statement (text : String) : Draft :=
  .ready (.statement text)

/-- Lines with their levels. -/
def lines (ls : List (Int × String)) : Draft :=
  .ready (.block ⟨ls.map fun l => ⟨l.1, l.2⟩, 0, 0⟩)

/-- Lines around a handle that is acquired before them and released after them. -/
def held (handle acquire : String) (body : List (Int × String)) : Draft :=
  lines ([(0, "\x7b"), (1, s!"{handle} = {acquire};")] ++ body.map (fun l => (l.1 + 1, l.2)) ++
    [(1, s!"unset({handle});"), (0, "\x7d")])

end Draft

/-- The emitter that settles what a generator drafts. -/
def Generator.emitter (g : Generator) : Emitter := fun context step =>
  (g context.settings step).map (·.settle context)

end CestExport
