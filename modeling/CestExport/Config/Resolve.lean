import CestExport.Config.File

/-!
# Resolving settings

Overrides come before a settings file, a settings file before the environment, and
the environment before the defaults.  What a command line overrides is resolved as
overrides of any kind are.

    LooseConfig.resolve … (overrides b s) = Config.resolve … b s, loosened   (loosen_resolve)
-/

namespace CestExport

/-- The settings file that is read if no other is named. -/
def usualSettingsFile : Path := ⟨"", ["cept.yaml"]⟩

/-- The settings file to be read, if there is one. -/
def settingsFile? (d : Disk) (path : Option Path) : Except SettingsFault (Option Path) := do
  match path with
  | some p => .ok (some p)
  | none =>
    match ← (d.find usualSettingsFile).mapError .disk with
    | some _ => .ok (some usualSettingsFile)
    | none => .ok none

/-- The settings of the environment and of a file. -/
def Config.load (environment : List (String × String)) (d : Disk) (path : Option Path) :
    Noted SettingsFault Config :=
  let (c, events) := ofEnvironment environment
  (⟨settingsFile? d path, events⟩ : Noted SettingsFault (Option Path)).andThen fun file =>
    match file with
    | some p => c.enterFile d p
    | none => .quiet (.ok c)

namespace LooseConfig

/-- Settings with overrides of any kind, one after the other; null overrides nothing. -/
def override : List (String × Data) → LooseConfig → Except SettingsFault LooseConfig
  | [], c => .ok c
  | (_, .null) :: os, c => override os c
  | (name, v) :: os, c =>
    match Setting.ofName? name with
    | some s => override os (c.set s v)
    | none => .error (.unknownSetting name)

/-- The settings of the environment, of a file and of overrides. -/
def resolve (environment : List (String × String)) (d : Disk) (path : Option Path)
    (overrides : List (String × Data)) : Noted SettingsFault LooseConfig :=
  (Config.load environment d path).andThen fun c =>
    (Noted.quiet (override overrides c.loosen)).andThen fun c =>
      ⟨.ok c, [.settingsResolved c.display]⟩

end LooseConfig

namespace Config

/-- Settings with the overrides that a command line can give. -/
def override (c : Config) (baseUrl : Option String) (strict : Option Bool) : Config :=
  { c with baseUrl := baseUrl.getD c.baseUrl, strict := strict.getD c.strict }

/-- The settings of the environment, of a file and of a command line. -/
def resolve (environment : List (String × String)) (d : Disk) (path : Option Path)
    (baseUrl : Option String) (strict : Option Bool) : Noted SettingsFault Config :=
  (load environment d path).andThen fun c =>
    let c := c.override baseUrl strict
    ⟨.ok c, [.settingsResolved c.loosen.display]⟩

/-- The overrides of a command line by name. -/
def overrides (baseUrl : Option String) (strict : Option Bool) : List (String × Data) :=
  [("base_url", (baseUrl.map Data.text).getD .null), ("strict", (strict.map Data.bool).getD .null)]

/-! ## Lemmas -/

theorem loosen_override (c : Config) (baseUrl : Option String) (strict : Option Bool) :
    LooseConfig.override (overrides baseUrl strict) c.loosen =
      .ok (c.override baseUrl strict).loosen := by
  cases baseUrl <;> cases strict <;> rfl

/-- The settings of a command line are those that its overrides give. -/
theorem loosen_resolve (environment : List (String × String)) (d : Disk) (path : Option Path)
    (baseUrl : Option String) (strict : Option Bool) :
    let resolved := resolve environment d path baseUrl strict
    LooseConfig.resolve environment d path (overrides baseUrl strict) =
      ⟨resolved.result.map loosen, resolved.events⟩ := by
  intro resolved
  unfold resolved resolve LooseConfig.resolve Noted.andThen
  cases (load environment d path).result with
  | error e => rfl
  | ok c =>
    simp only [Noted.quiet, loosen_override]
    rfl

end Config

end CestExport
