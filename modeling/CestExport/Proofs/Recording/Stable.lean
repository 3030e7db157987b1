import CestExport.Proofs.Data.Alike
import CestExport.Proofs.Recording.Writing

/-!
# Loading is stable

Two recordings are alike if they differ only under keys that no field has: in the
project, its tests and suites, their steps, and the scripts of these.  They are
loaded as the same project or refused for the same faults.  A project that is
written back is loaded as itself.

    Project.Alike d d'  →  Project.ofData d' = Project.ofData d
    Project.ofData d = .valid p  →  Project.ofData (p.toData m) = .valid p   (ofData_stable)
-/

namespace CestExport

open Check

/-! ## Algorithm -/

/-! The keys under which a record looks for values of its own; parts stand under the others. -/

def Script.plainKeys : List String := ["script", "argv"]

def Step.plainKeys : List String :=
  ["id", "command", "name", "target", "value", "comment", "opensWindow", "opens_window",
    "windowHandleName", "window_handle_name", "windowTimeout", "window_timeout"]

def TestCase.plainKeys : List String := ["id", "name"]

def Suite.plainKeys : List String := ["id", "name", "tests"]

def Project.plainKeys : List String := ["id", "name", "url"]

/-! Records that differ only under keys that no field has. -/

def Script.Alike : Data → Data → Prop :=
  AlikeRecords Script.plainKeys []

def Step.Alike : Data → Data → Prop :=
  AlikeRecords Step.plainKeys [("script", Script.Alike)]

def TestCase.Alike : Data → Data → Prop :=
  AlikeRecords TestCase.plainKeys [("commands", AlikeItems Step.Alike)]

def Suite.Alike : Data → Data → Prop :=
  AlikeRecords Suite.plainKeys []

def Project.Alike : Data → Data → Prop :=
  AlikeRecords Project.plainKeys
    [("tests", AlikeItems TestCase.Alike), ("suites", AlikeItems Suite.Alike)]

/-! ## Reading what is alike -/

theorem Script.ofData_congr {d d' : Data} (h : Script.Alike d d') :
    Script.ofData d' = Script.ofData d := by
  refine record_congr h _ fun es fs hentries => ?_
  rw [required_plain hentries "script" (by decide), field_plain hentries "argv" [] (by decide)]

theorem Step.ofData_congr {d d' : Data} (h : Step.Alike d d') :
    Step.ofData d' = Step.ofData d := by
  have hscript : ∀ v w, Script.Alike v w →
      nullable Script.ofData w = nullable Script.ofData v := by
    intro v w hvw
    exact nullable_congr hvw (Script.ofData_congr hvw)
  refine record_congr h _ fun es fs hentries => ?_
  rw [field_plain hentries "id" [] (by decide),
    field_plain hentries "command" ["name"] (by decide),
    field_plain hentries "target" [] (by decide),
    field_plain hentries "value" [] (by decide),
    field_plain hentries "comment" [] (by decide),
    field_plain hentries "opensWindow" ["opens_window"] (by decide),
    field_plain hentries "windowHandleName" ["window_handle_name"] (by decide),
    field_plain hentries "windowTimeout" ["window_timeout"] (by decide),
    field_part hentries List.mem_cons_self none hscript]

theorem TestCase.ofData_congr {d d' : Data} (h : TestCase.Alike d d') :
    TestCase.ofData d' = TestCase.ofData d := by
  have hcommands : ∀ v w, AlikeItems Step.Alike v w →
      list Step.ofData w = list Step.ofData v := by
    intro v w hvw
    exact list_congr (fun _ _ => Step.ofData_congr) hvw
  refine record_congr h _ fun es fs hentries => ?_
  rw [field_plain hentries "id" [] (by decide), required_plain hentries "name" (by decide),
    field_part hentries List.mem_cons_self [] hcommands]

theorem Suite.ofData_congr {d d' : Data} (h : Suite.Alike d d') :
    Suite.ofData d' = Suite.ofData d := by
  refine record_congr h _ fun es fs hentries => ?_
  rw [field_plain hentries "id" [] (by decide), required_plain hentries "name" (by decide),
    field_plain hentries "tests" [] (by decide)]

/-- Projects that differ only under keys that no field has are read alike. -/
theorem Project.ofData_congr {d d' : Data} (h : Project.Alike d d') :
    Project.ofData d' = Project.ofData d := by
  have htests : ∀ v w, AlikeItems TestCase.Alike v w →
      list TestCase.ofData w = list TestCase.ofData v := by
    intro v w hvw
    exact list_congr (fun _ _ => TestCase.ofData_congr) hvw
  have hsuites : ∀ v w, AlikeItems Suite.Alike v w →
      list Suite.ofData w = list Suite.ofData v := by
    intro v w hvw
    exact list_congr (fun _ _ => Suite.ofData_congr) hvw
  refine record_congr h _ fun es fs hentries => ?_
  rw [field_plain hentries "id" [] (by decide), required_plain hentries "name" (by decide),
    field_plain hentries "url" [] (by decide), field_part hentries List.mem_cons_self [] htests,
    field_part hentries (List.mem_cons_of_mem _ List.mem_cons_self) [] hsuites]

/-- A project that is read is read again from what is written of it, under either keys, and from all
recordings that differ from its own only under keys that no field has; and so are the faults of a
recording that is refused. -/
theorem Project.ofData_stable (d : Data) :
    (∀ p, Project.ofData d = .valid p → ∀ m, Project.ofData (p.toData m) = .valid p) ∧
    ∀ d', Project.Alike d d' → Project.ofData d' = Project.ofData d := by
  constructor
  · intro p _ m
    exact Project.ofData_toData m p
  · intro d' h
    exact Project.ofData_congr h

/-- A recording in which a step has two names and writes a number and a truth value as texts, with
more entries in each of its tables. -/
def Project.sampleData (more : List (Data × Data)) : Data :=
  let table (es : List (Data × Data)) : Data := .table (es ++ more)
  let step : Data := table [
    (.text "name", .text "type"), (.text "command", .text "click"),
    (.text "opens_window", .text "Yes"), (.text "windowTimeout", .text "15.0"),
    (.text "script", table [(.text "script", .text "return 1")])]
  let test : Data := table [(.text "name", .text "Login"), (.text "commands", .list [step])]
  let suite : Data := table [(.text "name", .text "All")]
  table [(.text "name", .text "Shop"), (.text "tests", .list [test]), (.text "suites", .list [suite])]

/-- The project of that recording. -/
def Project.sample : Project where
  name := "Shop"
  tests := [{
    name := "Login"
    commands := [{
      name := "click", opensWindow := true, windowTimeout := some 15
      script := some { body := "return 1" } }] }]
  suites := [{ name := "All" }]

theorem Project.ofData_stable_sample :
    let d := sampleData [(.text "zoom", .whole 1)]
    let d' := sampleData [(.text "zoom", .whole 2), (.text "title", .null)]
    Project.Alike d d' ∧ Project.ofData d = .valid sample ∧ Project.ofData d' = .valid sample ∧
      ∀ m, Project.ofData (sample.toData m) = .valid sample := by
  intro d d'
  have halike : Project.Alike d d' := by
    refine .tables rfl rfl ⟨List.map_inj_left.1 rfl, ?_⟩
    refine List.forall_mem_cons.2 ⟨.some (.lists rfl rfl (.cons ?test .nil)), ?_⟩
    case test =>
      refine .tables rfl rfl ⟨List.map_inj_left.1 rfl, ?_⟩
      refine List.forall_mem_cons.2 ⟨.some (.lists rfl rfl (.cons ?step .nil)), by simp⟩
      case step =>
        refine .tables rfl rfl ⟨List.map_inj_left.1 rfl, ?_⟩
        refine List.forall_mem_cons.2 ⟨.some ?script, by simp⟩
        case script =>
          exact ((AlikeRecords.same _).put (k := "zoom") (by decide) (by simp) (.whole 2)).put
            (k := "title") (by decide) (by simp) .null
    refine List.forall_mem_cons.2 ⟨.some (.lists rfl rfl (.cons ?suite .nil)), by simp⟩
    case suite =>
      exact ((AlikeRecords.same _).put (k := "zoom") (by decide) (by simp) (.whole 2)).put
        (k := "title") (by decide) (by simp) .null
  have hread : Project.ofData d = .valid sample := rfl
  obtain ⟨hwritten, hcongr⟩ := Project.ofData_stable d
  exact ⟨halike, hread, (hcongr d' halike).trans hread, hwritten sample hread⟩

end CestExport
