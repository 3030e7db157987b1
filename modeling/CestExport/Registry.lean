import CestExport.Command.Standard
import CestExport.Index
import CestExport.Journal

/-!
# The registry of commands

Commands are registered under a name; a later registration of a name takes its
place and keeps its rank.  A step is generated by the command registered under
its name, and wrapped if it opens a window.

    (r.set n e info).find? m = if m = n then some e else r.find? m          (find?_set)
-/

namespace CestExport

/-- How a command is described. -/
structure CommandInfo where
  name : String
  description : String
  category : String
deriving DecidableEq, Repr

/-- The registered commands, in the order of their first registration. -/
structure Registry where
  emitters : List (String × Emitter) := []
  infos : List (String × CommandInfo) := []

/-- What is offered for registration: an emitter, or a value of another kind. -/
inductive Offer
  | emitter (e : Emitter)
  | other (kind : String)

/-- An offer that is refused. -/
inductive RegistryError
  | notCallable (kind : String)
  | notRegistered (name : String)
deriving DecidableEq, Repr

/-- The text of a refusal. -/
def RegistryError.message : RegistryError → String
  | notCallable kind => s!"emitter は呼び出し可能である必要があります: {kind}"
  | notRegistered name => s!"コマンド '{name}' は登録されていません"

namespace Registry

/-- The emitter registered under a name. -/
def find? (r : Registry) (name : String) : Option Emitter :=
  r.emitters.lookup name

/-- Whether a name is registered. -/
def canEmit (r : Registry) (name : String) : Bool :=
  (r.find? name).isSome

/-- The emitter registered under a name, or the refusal. -/
def get (r : Registry) (name : String) : Except RegistryError Emitter :=
  match r.find? name with
  | some e => .ok e
  | none => .error (.notRegistered name)

/-- The description of a command that came without one. -/
def defaultInfo (name : String) : CommandInfo :=
  ⟨name, s!"{name} コマンド", "unknown"⟩

/-- The descriptions after a registration; one that is not given is kept or made up. -/
def putInfo (name : String) (info : Option CommandInfo) (infos : List (String × CommandInfo)) :
    List (String × CommandInfo) :=
  match info with
  | some i => Index.put name i infos
  | none =>
    if (infos.lookup name).isSome then infos else Index.put name (defaultInfo name) infos

/-- Registers an emitter under a name, with a description or without one. -/
def set (r : Registry) (name : String) (e : Emitter) (info : Option CommandInfo) : Registry where
  emitters := Index.put name e r.emitters
  infos := putInfo name info r.infos

/-- What a registration notes. -/
def registrationEvents (r : Registry) (name : String) : List Event :=
  (if r.canEmit name then [.commandReplaced name] else []) ++ [.commandRegistered name]

/-- Registers what is offered under a name. -/
def register (r : Registry) (name : String) (offer : Offer) (info : Option CommandInfo) :
    Except RegistryError Registry :=
  match offer with
  | .emitter e => .ok (r.set name e info)
  | .other kind => .error (.notCallable kind)

/-- Registers standard commands, and what that notes. -/
def addStandard (r : Registry) (commands : List Command.Standard) : Registry :=
  commands.foldl (fun r c =>
    r.set c.name c.generator.emitter (some ⟨c.name, c.description, c.category⟩)) r

/-- The registry of the standard commands. -/
def default : Registry :=
  addStandard {} Command.standard

/-- What setting up the default registry notes. -/
def defaultEvents : List Event :=
  Command.standard.map (fun c => .commandRegistered c.name) ++
    [.standardRegistered Command.standard.length]

/-- Wraps an emission if its step opens a window. -/
def finish (step : Step) (emission : Emission) (context : Context) :
    Except Failure Emission × Context :=
  if step.opensWindow then
    match Window.wrap step emission context.scope with
    | .ok (block, scope) => (.ok (.block block), { context with scope := scope })
    | .error f => (.error f, context)
  else (.ok emission, context)

/-- Generates a step, and the context after it; an unknown command generates nothing. -/
def emit (r : Registry) (context : Context) (step : Step) : Except Failure Emission × Context :=
  match r.find? step.name with
  | none => (.ok .nothing, context)
  | some e =>
    match e context step with
    | .ok (emission, context) => finish step emission context
    | .error f => (.error f, context)

/-- What the generation of a step notes besides the variables it writes. -/
def emitEvents (r : Registry) (step : Step) : List Event :=
  if r.canEmit step.name then [] else [.commandUnknown step.name]

/-- Order of texts by their characters. -/
def textLe (a b : String) : Bool :=
  !decide (b < a)

/-- The registered names in order. -/
def names (r : Registry) : List String :=
  (Index.names r.emitters).mergeSort textLe

/-- The descriptions in the order of the names they give. -/
def listAll (r : Registry) : List CommandInfo :=
  (r.infos.map (·.2)).mergeSort fun a b => textLe a.name b.name

/-! ## Lemmas -/

theorem find?_set (r : Registry) (name m : String) (e : Emitter) (info : Option CommandInfo) :
    (r.set name e info).find? m = if m = name then some e else r.find? m :=
  Index.lookup_put name m e r.emitters

end Registry

end CestExport
