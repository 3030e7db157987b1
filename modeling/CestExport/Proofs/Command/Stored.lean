import CestExport.Proofs.Context

/-!
# The variables that commands store

A storing command assigns the one variable that its step names: `storeWindowHandle`
in the target, the others in the value.  A step without a name stores nothing, and
all other commands never do.  A step that opens a window stores two handles more.

    c ∈ standard  →  d.names = named (storedIn c.name step)          (names_of_mem_standard)
    default.emit c s = .ok e  →  e.Assigns n ↔ s.Stores n, or the slot of the
      window handles                                                  (assigns_emit_iff)
-/

namespace CestExport

open Php

/-! ## Algorithm -/

/-- A name by itself, if it is one. -/
def named (name : String) : List String :=
  if name = "" then [] else [name]

namespace Command

/-- The commands that store something in the variable that the value of their step names. -/
def storing : List String := [
  "executeScript", "executeAsyncScript", "store", "storeText", "storeValue", "storeAttribute",
  "storeTitle", "storeJson", "storeXpathCount", "forEach"]

/-- The name of the variable in which a command stores something, or nothing. -/
def storedIn (command : String) (step : Step) : String :=
  if command ∈ storing then step.value
  else if command = "storeWindowHandle" then step.target
  else ""

end Command

/-- A variable that the recording names for something that a step stores. -/
def Step.Stores (s : Step) (n : String) : Prop :=
  n ≠ "" ∧ (n = Command.storedIn s.name s ∨ (s.opensWindow = true ∧ n = s.windowHandleName))

/-- A computation whose draft assigns just the variables with some names. -/
def Names (names : List String) (x : Except Failure Draft) : Prop :=
  ∀ d, x = .ok d → d.names = names

/-- A generator that stores in the variable that a step names. -/
def Generator.Names (g : Generator) (name : Step → String) : Prop :=
  ∀ settings step, CestExport.Names (named (name step)) (g settings step)

/-- A generator that stores nothing. -/
def Generator.Nameless (g : Generator) : Prop :=
  ∀ settings step, CestExport.Names [] (g settings step)

/-! ## Lemmas -/

theorem mem_named {name n : String} : n ∈ named name ↔ n ≠ "" ∧ n = name := by
  unfold named
  split
  next h => simp [h]
  next h => simpa using fun hn => hn ▸ h

namespace Names

variable {α : Type} {names : List String}

theorem ok {d : Draft} (h : d.names = names) : Names names (.ok d) := by
  intro d' hd'
  cases hd'
  exact h

theorem error (f : Failure) : Names names (.error f) := by
  intro d hd
  cases hd

theorem map {x : Except Failure α} {f : α → Draft} (h : ∀ a, (f a).names = names) :
    Names names (x.map f) := by
  intro d hd
  obtain ⟨a, _, rfl⟩ := map_eq_ok.1 hd
  exact h a

theorem bind {x : Except Failure α} {f : α → Except Failure Draft}
    (h : ∀ a, Names names (f a)) : Names names (x >>= f) := by
  intro d hd
  obtain ⟨a, _, hd⟩ := bind_eq_ok.1 hd
  exact h a d hd

end Names

namespace Command

/-! ## Commands that store -/

theorem names_scriptResult (step : Step) (call : String) :
    (scriptResult step call).names = named step.value := by
  unfold scriptResult
  split
  next h => simp [Draft.statement, Draft.names, named, h]
  next => rfl

theorem names_storeIn (name : String) (expression : Except Failure String) :
    Names (named name) (storeIn name expression) := by
  unfold storeIn
  split
  next h => exact .ok (by simp [Draft.names, named, h])
  next => exact .map fun _ => rfl

/-! ## The name that a step gives -/

section

variable {command : String} {g : Generator}

theorem names_storedIn_of_storing (h : command ∈ storing) (hg : g.Names (·.value)) :
    g.Names (storedIn command) := by
  intro settings step
  rw [storedIn, if_pos h]
  exact hg settings step

theorem names_storedIn_of_handle (h : command = "storeWindowHandle") (hg : g.Names (·.target)) :
    g.Names (storedIn command) := by
  intro settings step
  rw [storedIn, if_neg (by rw [h]; decide), if_pos h]
  exact hg settings step

theorem names_storedIn_of_nameless (h : command ∉ storing) (hhandle : command ≠ "storeWindowHandle")
    (hg : g.Nameless) : g.Names (storedIn command) := by
  intro settings step
  rw [storedIn, if_neg h, if_neg hhandle]
  exact hg settings step

end

/-! ## Commands that store nothing -/

theorem nameless_clickWith (method : String) : (clickWith method).Nameless :=
  fun _ _ => .map fun _ => rfl

theorem nameless_withElement (locator : String) (body : List (Int × String)) :
    Names [] (withElement locator body) :=
  .map fun _ => rfl

theorem nameless_selectWindow : selectWindow.Nameless := by
  refine fun _ _ => .map fun address => ?_
  cases address <;> rfl

theorem nameless_selectFrame : selectFrame.Nameless := by
  refine fun _ _ => .bind fun address => ?_
  cases address with
  | relative | index => exact .ok rfl
  | locator l => exact nameless_withElement l _

theorem nameless_run : run.Nameless := by
  intro settings step
  unfold run
  split
  next => exact .ok rfl
  next => exact .error _

theorem nameless_of_mem_navigation : ∀ c ∈ navigation, c.generator.Nameless := by
  simp only [navigation, List.forall_mem_cons, List.not_mem_nil, false_implies, implies_true,
    and_true]
  exact ⟨fun _ _ => .ok rfl, fun _ _ => .ok rfl, fun _ _ => .map fun _ => rfl,
    nameless_selectWindow, nameless_selectFrame⟩

theorem nameless_of_mem_actions : ∀ c ∈ actions, c.generator.Nameless := by
  have hpointer : ∀ action, (pointer action).Nameless :=
    fun action _ step => nameless_withElement step.target _
  have hclickIf : ∀ condition, (clickIf condition).Nameless := fun _ _ _ => .map fun _ => rfl
  have hselect : select.Nameless := fun _ _ => .bind fun _ => .bind fun _ => .ok rfl
  simp only [actions, List.forall_mem_cons, List.not_mem_nil, false_implies, implies_true,
    and_true]
  exact ⟨nameless_clickWith _, nameless_clickWith _, nameless_clickWith _, nameless_clickWith _,
    hpointer _, hpointer _, hpointer _, hpointer _, hpointer _, hpointer _, hpointer _,
    fun _ _ => .ok rfl, hclickIf _, hclickIf _, fun _ _ => .map fun _ => rfl,
    fun _ _ => .map fun _ => rfl, fun _ _ => .map fun _ => rfl,
    fun _ step => nameless_withElement step.target _, hselect, hselect, hselect,
    fun _ _ => .bind fun _ => .bind fun _ => .ok rfl⟩

theorem nameless_of_mem_assertions : ∀ c ∈ assertions, c.generator.Nameless := by
  simp only [assertions, List.forall_mem_cons, List.not_mem_nil, false_implies, implies_true,
    and_true]
  exact ⟨fun _ _ => .ok rfl, fun _ _ => .ok rfl, fun _ _ => .ok rfl, fun _ _ => .ok rfl,
    fun _ _ => .map fun _ => rfl, fun _ _ => .map fun _ => rfl,
    fun _ step => nameless_withElement step.target _,
    fun _ step => nameless_withElement step.target _,
    fun _ _ => .map fun _ => rfl, fun _ _ => .map fun _ => rfl, fun _ _ => .map fun _ => rfl,
    fun _ _ => .map fun _ => rfl, fun _ _ => .map fun _ => rfl, fun _ _ => .map fun _ => rfl,
    fun _ _ => .map fun _ => rfl, fun _ _ => .map fun _ => rfl, fun _ _ => .ok rfl⟩

theorem nameless_of_mem_waiting : ∀ c ∈ waiting, c.generator.Nameless := by
  have hwaitWith : ∀ method, (waitWith method).Nameless := fun _ _ _ => .map fun _ => rfl
  have hwaitUntilNot : ∀ condition, (waitUntilNot condition).Nameless :=
    fun _ _ _ => .map fun _ => rfl
  simp only [waiting, List.forall_mem_cons, List.not_mem_nil, false_implies, implies_true,
    and_true]
  exact ⟨hwaitWith _, hwaitUntilNot _, hwaitWith _, hwaitWith _, hwaitWith _, hwaitUntilNot _,
    fun _ _ => .bind fun _ => .bind fun _ => .ok rfl⟩

theorem nameless_of_mem_dialogs : ∀ c ∈ dialogs, c.generator.Nameless := by
  simp only [dialogs, List.forall_mem_cons, List.not_mem_nil, false_implies, implies_true,
    and_true]
  exact ⟨fun _ _ => .ok rfl, fun _ _ => .ok rfl, fun _ _ => .ok rfl, fun _ _ => .ok rfl⟩

theorem nameless_of_mem_miscellany : ∀ c ∈ miscellany, c.generator.Nameless := by
  simp only [miscellany, List.forall_mem_cons, List.not_mem_nil, false_implies, implies_true,
    and_true]
  exact ⟨fun _ _ => .ok rfl, fun _ _ => .map fun _ => rfl⟩

theorem nameless_of_mem_silent : ∀ c ∈ silent, c.generator.Nameless := by
  simp only [silent, List.forall_mem_cons, List.not_mem_nil, false_implies, implies_true,
    and_true]
  exact ⟨fun _ _ => .ok rfl, fun _ _ => .ok rfl, fun _ _ => .ok rfl, fun _ _ => .ok rfl,
    fun _ _ => .ok rfl, fun _ _ => .ok rfl⟩

/-! ## All commands -/

theorem names_of_mem_scripts : ∀ c ∈ scripts, c.generator.Names (storedIn c.name) := by
  simp only [scripts, List.forall_mem_cons, List.not_mem_nil, false_implies, implies_true,
    and_true]
  have hexecute : executeScript.Names (·.value) := fun _ _ => .ok (names_scriptResult _ _)
  have hasync : executeAsyncScript.Names (·.value) := fun _ _ => .ok (names_scriptResult _ _)
  have hrunScript : runScript.Nameless := fun _ _ => .ok rfl
  exact ⟨names_storedIn_of_storing (by decide) hexecute,
    names_storedIn_of_storing (by decide) hasync,
    names_storedIn_of_nameless (by decide) (by decide) hrunScript,
    names_storedIn_of_nameless (by decide) (by decide) nameless_run⟩

theorem names_of_mem_storage : ∀ c ∈ storage, c.generator.Names (storedIn c.name) := by
  have hassign : ∀ {command : String} {g : Generator} {f : Step → String}, command ∈ storing →
      (∀ settings step, g settings step = .ok (.assign step.value (f step))) →
      g.Names (storedIn command) := by
    intro command g f h hg
    refine names_storedIn_of_storing h fun settings step => ?_
    rw [hg]
    exact .ok rfl
  have hstoreIn : ∀ {command : String} {g : Generator} {f : Step → Except Failure String},
      command ∈ storing → (∀ settings step, g settings step = storeIn step.value (f step)) →
      g.Names (storedIn command) := by
    intro command g f h hg
    refine names_storedIn_of_storing h fun settings step => ?_
    rw [hg]
    exact names_storeIn _ _
  have hhandle : storeWindowHandle.Names (·.target) := fun _ _ => .ok rfl
  simp only [storage, List.forall_mem_cons, List.not_mem_nil, false_implies, implies_true,
    and_true]
  exact ⟨hassign (by decide) fun _ _ => rfl, hstoreIn (by decide) fun _ _ => rfl,
    hstoreIn (by decide) fun _ _ => rfl, hstoreIn (by decide) fun _ _ => rfl,
    hassign (by decide) fun _ _ => rfl, hassign (by decide) fun _ _ => rfl,
    names_storedIn_of_handle rfl hhandle, hstoreIn (by decide) fun _ _ => rfl⟩

theorem names_of_mem_control : ∀ c ∈ control, c.generator.Names (storedIn c.name) := by
  have hbracket : ∀ {command : String} {g : Generator} {text : Step → String} {before after : Int},
      command ∉ storing → command ≠ "storeWindowHandle" →
      (∀ settings step, g settings step = bracket (text step) before after) →
      g.Names (storedIn command) := by
    intro command g text before after h hhandle hg
    refine names_storedIn_of_nameless h hhandle fun settings step => ?_
    rw [hg]
    exact .ok rfl
  have hforEach : forEach.Names (·.value) := fun _ _ => .ok rfl
  have htimes : times.Nameless := fun _ _ => .map fun _ => rfl
  simp only [control, List.forall_mem_cons, List.not_mem_nil, false_implies, implies_true,
    and_true]
  exact ⟨hbracket (by decide) (by decide) fun _ _ => rfl,
    hbracket (by decide) (by decide) fun _ _ => rfl,
    hbracket (by decide) (by decide) fun _ _ => rfl,
    hbracket (by decide) (by decide) fun _ _ => rfl,
    hbracket (by decide) (by decide) fun _ _ => rfl,
    hbracket (by decide) (by decide) fun _ _ => rfl,
    hbracket (by decide) (by decide) fun _ _ => rfl,
    names_storedIn_of_storing (by decide) hforEach,
    names_storedIn_of_nameless (by decide) (by decide) htimes⟩

theorem names_of_mem_primary : ∀ c ∈ primary, c.generator.Names (storedIn c.name) := by
  have hnameless : ∀ {cs : List Standard},
      (∀ c ∈ cs, c.name ∉ storing ∧ c.name ≠ "storeWindowHandle") →
      (∀ c ∈ cs, c.generator.Nameless) → ∀ c ∈ cs, c.generator.Names (storedIn c.name) := by
    intro cs hcs hgenerators c hc
    exact names_storedIn_of_nameless (hcs c hc).1 (hcs c hc).2 (hgenerators c hc)
  simp only [primary, List.forall_mem_append]
  exact ⟨⟨⟨⟨⟨⟨⟨⟨⟨hnameless (by decide) nameless_of_mem_navigation,
    hnameless (by decide) nameless_of_mem_actions⟩,
    hnameless (by decide) nameless_of_mem_assertions⟩,
    names_of_mem_scripts⟩, names_of_mem_storage⟩,
    hnameless (by decide) nameless_of_mem_waiting⟩,
    hnameless (by decide) nameless_of_mem_dialogs⟩, names_of_mem_control⟩,
    hnameless (by decide) nameless_of_mem_miscellany⟩,
    hnameless (by decide) nameless_of_mem_silent⟩

/-- A standard command stores in the variable that its step names for it, if at all. -/
theorem names_of_mem_standard {c : Standard} (hc : c ∈ standard) :
    c.generator.Names (storedIn c.name) := by
  rcases List.mem_append.1 hc with hc | hc
  · exact names_of_mem_primary c hc
  · obtain ⟨p, hp, hpair, hgenerator⟩ := exists_primary_of_mem_secondary hc
    have hnames : ∀ q ∈ verifying, storedIn q.1 = storedIn q.2 := by
      have hother : ∀ q ∈ verifying, (q.1 ∉ storing ∧ q.1 ≠ "storeWindowHandle") ∧
          q.2 ∉ storing ∧ q.2 ≠ "storeWindowHandle" := by decide
      intro q hq
      obtain ⟨⟨hsoft, hsoftHandle⟩, hhard, hhardHandle⟩ := hother q hq
      funext step
      simp [storedIn, hsoft, hsoftHandle, hhard, hhardHandle]
    rw [hgenerator, hnames _ hpair]
    exact names_of_mem_primary p hp

end Command

/-! ## Steps -/

namespace Registry

/-- What is generated for a step is what its command generates, which assigns the variable that the
step names for it; if the step opens a window, this stands between the snapshot and the wait. -/
theorem lines_emit {c : Context} {s : Step} {e : Emission} (h : (default.emit c s).1 = .ok e)
    (hknown : default.canEmit s.name = true) : ∃ x : Emission,
      (∀ n, x.Assigns n ↔ n ≠ "" ∧ n = Command.storedIn s.name s) ∧
      ((s.opensWindow = false ∧ e = x) ∨
        (s.opensWindow = true ∧ ∃ seconds, e = Window.around s seconds x)) := by
  rcases emit_cases c s with ⟨hno, _⟩ | ⟨standard, hstandard, hname, ⟨f, hemit⟩ | ⟨d, hd, hemit⟩⟩
  · rw [hknown] at hno
    cases hno
  · simp [hemit] at h
  · refine ⟨(d.settle c).1, fun n => ?_, ?_⟩
    · have hquiet := Command.quiet_of_mem_standard hstandard c.settings s d hd
      have hnames := Command.names_of_mem_standard hstandard c.settings s d hd
      rw [Draft.assigns_settle hquiet, hnames, mem_named, hname]
    · rw [hemit] at h
      rcases finish_eq_ok h with ⟨hopens, rfl⟩ | ⟨hopens, b, scope, hwrap, rfl⟩
      · exact .inl ⟨hopens, rfl⟩
      · rw [Window.wrap_eq hopens] at hwrap
        obtain ⟨seconds, _, hb⟩ := map_eq_ok.1 hwrap
        cases hb
        exact .inr ⟨hopens, seconds, rfl⟩

/-- What is generated for a step whose command is known assigns the variables that the recording
names for what the step stores, and for a window the slot of the handles, and no others. -/
theorem assigns_emit_iff {c : Context} {s : Step} {e : Emission}
    (h : (default.emit c s).1 = .ok e) (hknown : default.canEmit s.name = true) (n : String) :
    e.Assigns n ↔ s.Stores n ∨ (s.opensWindow = true ∧ n = Scope.windowHandlesSlot) := by
  obtain ⟨x, hx, ⟨hopens, rfl⟩ | ⟨hopens, seconds, rfl⟩⟩ := lines_emit h hknown
  · rw [hx, Step.Stores]
    simp [hopens]
  · rw [Window.assigns_around hopens, hx, Window.mem_windowNames, Step.Stores]
    grind

end Registry

end CestExport
