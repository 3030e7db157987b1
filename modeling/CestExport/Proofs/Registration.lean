import CestExport.Registry
import CestExport.Proofs.Success

/-!
# Registering more commands

Further registrations extend a registry: what it can generate before, it can
generate afterwards.  The emitter of a name is the one that was registered for it
last, so it is an old one or was offered by one of the calls.

    r.Extends (r.registerAll calls)                                     (extends_registerAll)
    (r.registerAll calls).find? m = some e  →
      a call offers e under m, or r.find? m = some e                    (find?_registerAll)
-/

namespace CestExport.Registry

/-! ## Algorithm -/

/-- A call that registers what is offered under a name. -/
structure Call where
  name : String
  offer : Offer
  info : Option CommandInfo := none

/-- The registry after a call; one that is refused changes nothing. -/
def after (r : Registry) (call : Call) : Registry :=
  match r.register call.name call.offer call.info with
  | .ok r' => r'
  | .error _ => r

/-- The registry after calls, one after the other. -/
def registerAll (r : Registry) (calls : List Call) : Registry :=
  calls.foldl after r

/-- A registry that can generate whatever another one can. -/
def Extends (r r' : Registry) : Prop :=
  ∀ m, r.canEmit m = true → r'.canEmit m = true

/-! ## Names -/

theorem canEmit_eq (r : Registry) (m : String) : r.canEmit m = (r.find? m).isSome := rfl

theorem mem_names {r : Registry} {m : String} : m ∈ r.names ↔ r.canEmit m = true := by
  rw [names, List.mem_mergeSort]
  exact Index.isSome_lookup.symm

/-! ## Calls -/

/-- All that a call can do: it is refused, or its emitter is the one of its name from then on. -/
theorem after_cases (r : Registry) (call : Call) :
    (∃ kind, call.offer = .other kind ∧ r.after call = r) ∨
    (∃ e, call.offer = .emitter e ∧ r.after call = r.set call.name e call.info) := by
  unfold after register
  cases call.offer with
  | emitter e => exact .inr ⟨e, rfl, rfl⟩
  | other kind => exact .inl ⟨kind, rfl, rfl⟩

theorem Extends.refl (r : Registry) : r.Extends r := fun _ h => h

theorem Extends.trans {r r' r'' : Registry} (h : r.Extends r') (h' : r'.Extends r'') :
    r.Extends r'' :=
  fun m hm => h' m (h m hm)

theorem extends_set (r : Registry) (name : String) (e : Emitter) (info : Option CommandInfo) :
    r.Extends (r.set name e info) := by
  intro m hm
  rw [canEmit_eq] at hm ⊢
  rw [find?_set]
  split
  next => rfl
  next => exact hm

theorem extends_after (r : Registry) (call : Call) : r.Extends (r.after call) := by
  rcases r.after_cases call with ⟨_, _, h⟩ | ⟨e, _, h⟩
  · rw [h]
    exact .refl r
  · rw [h]
    exact r.extends_set call.name e call.info

theorem extends_registerAll (r : Registry) (calls : List Call) :
    r.Extends (r.registerAll calls) := by
  induction calls generalizing r with
  | nil => exact .refl r
  | cons call calls ih => exact (r.extends_after call).trans (ih (r.after call))

theorem find?_after {r : Registry} {call : Call} {m : String} {e : Emitter}
    (h : (r.after call).find? m = some e) :
    (call.name = m ∧ call.offer = .emitter e) ∨ r.find? m = some e := by
  rcases r.after_cases call with ⟨_, _, hafter⟩ | ⟨e', hoffer, hafter⟩
  · rw [hafter] at h
    exact .inr h
  · rw [hafter, find?_set] at h
    split at h
    next hm =>
      cases h
      exact .inl ⟨hm.symm, hoffer⟩
    next => exact .inr h

/-- An emitter that is found after some calls was offered by one of them, or was there before. -/
theorem find?_registerAll {r : Registry} {calls : List Call} {m : String} {e : Emitter}
    (h : (r.registerAll calls).find? m = some e) :
    (∃ call ∈ calls, call.name = m ∧ call.offer = .emitter e) ∨ r.find? m = some e := by
  induction calls generalizing r with
  | nil => exact .inr h
  | cons call calls ih =>
    rcases ih h with ⟨c, hc, hoffered⟩ | hr
    · exact .inl ⟨c, List.mem_cons_of_mem call hc, hoffered⟩
    · exact (find?_after hr).imp_left fun hcall => ⟨call, List.mem_cons_self, hcall⟩

/-! ## Failures -/

/-- A step fails in its emitter, or in the time to wait for its window. -/
theorem emit_eq_error {r : Registry} {context context' : Context} {step : Step} {f : Failure}
    (h : r.emit context step = (.error f, context')) : ∃ e, r.find? step.name = some e ∧
      (e context step = .error f ∨ Window.timeout step = .error f) := by
  unfold emit at h
  split at h
  next => cases h
  next e he =>
    refine ⟨e, he, ?_⟩
    split at h
    next =>
      unfold finish at h
      split at h
      next =>
        split at h
        next => cases h
        next f' hwrap =>
          cases h
          exact .inr (map_eq_error.1 hwrap)
      next => cases h
    next f' herror =>
      cases h
      exact .inl herror

end CestExport.Registry
