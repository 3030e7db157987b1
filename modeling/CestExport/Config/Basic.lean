import CestExport.Data.Display

/-!
# Export settings

The eight settings of an export.  The type of each kind of field is a parameter:
an export needs texts, whole numbers and truth values, while overrides may give
a field any value at all.

    (c.set s v).get s = v                                 (Config.get_set_self)
    (c.set s v).get t = c.get t    for t ≠ s              (Config.get_set_of_ne)
-/

namespace CestExport

/-- Settings whose text, number and truth fields have the given types. -/
structure Fields (T N B : Type) where
  baseUrl : T
  indent : N
  space : T
  testerClass : T
  classSuffix : T
  waitForTextTimeout : N
  waitTimeout : N
  strict : B
deriving DecidableEq, Repr

/-- The settings of an export. -/
abbrev Config := Fields String Int Bool

/-- Settings that have been overridden by any values. -/
abbrev LooseConfig := Fields Data Data Data

/-- The settings that hold if nothing else is said. -/
def Config.default : Config where
  baseUrl := ""
  indent := 4
  space := ""
  testerClass := "AcceptanceTester"
  classSuffix := "Cest"
  waitForTextTimeout := 30
  waitTimeout := 30
  strict := false

/-- Settings as values of any kind. -/
def Config.loosen (c : Config) : LooseConfig where
  baseUrl := .text c.baseUrl
  indent := .whole c.indent
  space := .text c.space
  testerClass := .text c.testerClass
  classSuffix := .text c.classSuffix
  waitForTextTimeout := .whole c.waitForTextTimeout
  waitTimeout := .whole c.waitTimeout
  strict := .bool c.strict

/-! ## Settings by name -/

/-- What kind of value a setting has. -/
inductive SettingKind
  | text
  | number
  | truth
deriving DecidableEq, Repr

/-- The values of a kind. -/
abbrev SettingKind.Value : SettingKind → Type
  | text => String
  | number => Int
  | truth => Bool

/-- The settings. -/
inductive Setting
  | baseUrl
  | indent
  | space
  | testerClass
  | classSuffix
  | waitForTextTimeout
  | waitTimeout
  | strict
deriving DecidableEq, Repr

namespace Setting

/-- The settings in order. -/
def all : List Setting :=
  [baseUrl, indent, space, testerClass, classSuffix, waitForTextTimeout, waitTimeout, strict]

/-- The name of a setting. -/
def name : Setting → String
  | baseUrl => "base_url"
  | indent => "indent"
  | space => "namespace"
  | testerClass => "tester_class"
  | classSuffix => "class_suffix"
  | waitForTextTimeout => "wait_for_text_timeout"
  | waitTimeout => "wait_timeout"
  | strict => "strict"

/-- The kind of a setting's value. -/
def kind : Setting → SettingKind
  | baseUrl | space | testerClass | classSuffix => .text
  | indent | waitForTextTimeout | waitTimeout => .number
  | strict => .truth

/-- The environment variable that gives a setting. -/
def environmentName? : Setting → Option String
  | baseUrl => some "CEPT_BASE_URL"
  | indent => some "CEPT_INDENT"
  | space => some "CEPT_NAMESPACE"
  | testerClass => some "CEPT_TESTER_CLASS"
  | strict => some "CEPT_STRICT"
  | _ => none

/-- The setting with a name. -/
def ofName? (name : String) : Option Setting :=
  all.find? (·.name == name)

/-- The setting that a key names. -/
def ofKey? : Data → Option Setting
  | .text name => ofName? name
  | _ => none

end Setting

namespace Config

/-- The value of a setting. -/
def get (c : Config) : (s : Setting) → s.kind.Value
  | .baseUrl => c.baseUrl
  | .indent => c.indent
  | .space => c.space
  | .testerClass => c.testerClass
  | .classSuffix => c.classSuffix
  | .waitForTextTimeout => c.waitForTextTimeout
  | .waitTimeout => c.waitTimeout
  | .strict => c.strict

/-- Gives a setting a value. -/
def set (c : Config) : (s : Setting) → s.kind.Value → Config
  | .baseUrl, v => { c with baseUrl := v }
  | .indent, v => { c with indent := v }
  | .space, v => { c with space := v }
  | .testerClass, v => { c with testerClass := v }
  | .classSuffix, v => { c with classSuffix := v }
  | .waitForTextTimeout, v => { c with waitForTextTimeout := v }
  | .waitTimeout, v => { c with waitTimeout := v }
  | .strict, v => { c with strict := v }

end Config

namespace LooseConfig

/-- The value of a setting. -/
def get (c : LooseConfig) : Setting → Data
  | .baseUrl => c.baseUrl
  | .indent => c.indent
  | .space => c.space
  | .testerClass => c.testerClass
  | .classSuffix => c.classSuffix
  | .waitForTextTimeout => c.waitForTextTimeout
  | .waitTimeout => c.waitTimeout
  | .strict => c.strict

/-- Gives a setting a value. -/
def set (c : LooseConfig) (s : Setting) (v : Data) : LooseConfig :=
  match s with
  | .baseUrl => { c with baseUrl := v }
  | .indent => { c with indent := v }
  | .space => { c with space := v }
  | .testerClass => { c with testerClass := v }
  | .classSuffix => { c with classSuffix := v }
  | .waitForTextTimeout => { c with waitForTextTimeout := v }
  | .waitTimeout => { c with waitTimeout := v }
  | .strict => { c with strict := v }

/-- The settings with their names, in order. -/
def toList (c : LooseConfig) : List (String × Data) :=
  Setting.all.map fun s => (s.name, c.get s)

/-- The display of settings. -/
def display (c : LooseConfig) : String :=
  let fields := ", ".intercalate (c.toList.map fun f => s!"{f.1}={f.2.inner}")
  s!"ExportConfig({fields})"

end LooseConfig

/-! ## Lemmas -/

@[simp] theorem Config.get_set_self (c : Config) (s : Setting) (v : s.kind.Value) :
    (c.set s v).get s = v := by
  cases s <;> rfl

theorem Config.get_set_of_ne (c : Config) {s t : Setting} (v : s.kind.Value) (h : t ≠ s) :
    (c.set s v).get t = c.get t := by
  cases s <;> cases t <;> try rfl
  all_goals exact absurd rfl h

theorem LooseConfig.get_set (c : LooseConfig) (s t : Setting) (v : Data) :
    (c.set s v).get t = if t = s then v else c.get t := by
  cases s <;> cases t <;> rfl

theorem Setting.ofName?_name (s : Setting) : ofName? s.name = some s := by
  cases s <;> decide

end CestExport
