import CestExport.Proofs.Registration
import CestExport.Proofs.Sorted
import Mathlib.Data.List.Induction

/-!
# What a history of registrations leaves

A registry holds its emitters and its descriptions in two indexes.  A registration
always puts an emitter, but a description only if one is given or there is none; a
call that is refused changes nothing.  So both indexes have the registered names in
the order in which they first came up, the emitter of a name is the last one that
was registered, and its description the last one that was given, or else made up.

    Holds calls r  →  Holds (calls ++ [call]) (r.after call)                     (holds_after)
    after the calls behind a start, a registry answers by the last registration
      of each name, and warns of every registration of a name that it has
                                                               (answers_registerAll)
-/

namespace CestExport.Registry

/-! ## Algorithm -/

/-- The emitter that a call registers, unless it is refused. -/
def Call.emitter? (call : Call) : Option Emitter :=
  match call.offer with
  | .emitter e => some e
  | .other _ => none

/-- Whether a call is not refused. -/
def Call.succeeds (call : Call) : Bool :=
  call.emitter?.isSome

/-- The calls that register a name, in order. -/
def registrationsOf (calls : List Call) (name : String) : List Call :=
  calls.filter fun call => call.succeeds && call.name == name

/-- The names that calls register, in the order in which they first come up. -/
def registered (calls : List Call) : List String :=
  distinct ((calls.filter (·.succeeds)).map (·.name))

/-- The emitter that is registered for a name in the end. -/
def lastEmitter? (calls : List Call) (name : String) : Option Emitter :=
  (registrationsOf calls name).getLast?.bind (·.emitter?)

/-- The description of a name in the end: the last one that is given, or the one made up. -/
def lastInfo (calls : List Call) (name : String) : CommandInfo :=
  ((registrationsOf calls name).reverse.findSome? (·.info)).getD (defaultInfo name)

/-- What calls note, one after the other. -/
def notes (r : Registry) : List Call → List Event
  | [] => []
  | call :: calls =>
    (match r.register call.name call.offer call.info with
      | .ok _ => r.registrationEvents call.name
      | .error _ => []) ++ (r.after call).notes calls

/-- The names that calls add to those that a registry has. -/
def added (r : Registry) (calls : List Call) : List String :=
  (r.registerAll calls).names.filter fun m => !r.canEmit m

/-- How a registry begins. -/
inductive Start
  | empty
  | standard

/-- The registry at the beginning. -/
def Start.registry : Start → Registry
  | empty => {}
  | standard => default

/-- The calls that set the registry up. -/
def Start.calls : Start → List Call
  | empty => []
  | standard => Command.standard.map fun c =>
    ⟨c.name, .emitter c.generator.emitter, some ⟨c.name, c.description, c.category⟩⟩

/-- The two indexes of a registry after calls: what each holds under a name, and in which order. -/
structure Holds (calls : List Call) (r : Registry) : Prop where
  emitter : ∀ m, r.find? m = lastEmitter? calls m
  info : ∀ m ∈ registered calls, r.infos.lookup m = some (lastInfo calls m)
  names : Index.names r.emitters = registered calls
  infoNames : Index.names r.infos = registered calls

/-- All that a registry answers after calls: by the last registration of a name where it looks one
up, and in order where it lists them. -/
structure Answers (calls : List Call) (r : Registry) : Prop where
  canEmit : ∀ m, r.canEmit m = (lastEmitter? calls m).isSome
  get : ∀ m, r.get m = match lastEmitter? calls m with
    | some e => .ok e
    | none => .error (.notRegistered m)
  emit : ∀ context step, r.emit context step = match lastEmitter? calls step.name with
    | some e =>
      match e context step with
      | .ok (emission, context) => finish step emission context
      | .error f => (.error f, context)
    | none => (.ok .nothing, context)
  noted : ∀ step, r.emitEvents step =
    if (lastEmitter? calls step.name).isSome then [] else [.commandUnknown step.name]
  info : ∀ m ∈ registered calls, r.infos.lookup m = some (lastInfo calls m)
  increasing : r.names.Pairwise (· < ·)
  mem_names : ∀ m, m ∈ r.names ↔ m ∈ registered calls
  listed : SortedBy (·.name) ((registered calls).map (lastInfo calls)) r.listAll

/-! ## Histories -/

section

variable {calls : List Call} {call : Call}

theorem registrationsOf_append (calls : List Call) (call : Call) (m : String) :
    registrationsOf (calls ++ [call]) m =
      registrationsOf calls m ++ if call.succeeds ∧ call.name = m then [call] else [] := by
  by_cases h : call.succeeds ∧ call.name = m
  · simp [registrationsOf, h]
  · have hcall : (call.succeeds && call.name == m) = false := by simpa using h
    simp [registrationsOf, hcall, h]

theorem registered_append (calls : List Call) (call : Call) :
    registered (calls ++ [call]) =
      if call.succeeds then addNew (registered calls) call.name else registered calls := by
  by_cases h : call.succeeds = true
  · simp [registered, distinct, h, addAllNew]
  · simp [registered, h]

theorem mem_registered {m : String} : m ∈ registered calls ↔ registrationsOf calls m ≠ [] := by
  rw [registered, distinct, mem_addAllNew, registrationsOf, Ne, List.filter_eq_nil_iff]
  simp [and_assoc]

/-- A name is registered if and only if there is an emitter for it. -/
theorem isSome_lastEmitter? {m : String} :
    (lastEmitter? calls m).isSome = true ↔ m ∈ registered calls := by
  rw [mem_registered, lastEmitter?]
  cases h : (registrationsOf calls m).getLast? with
  | none => simp [List.getLast?_eq_none_iff.1 h]
  | some call =>
    have hmem := List.mem_of_getLast? h
    have hne := List.ne_nil_of_mem hmem
    have hcall := (List.mem_filter.1 hmem).2
    rw [Bool.and_eq_true] at hcall
    exact iff_of_true hcall.1 hne

theorem nodup_registered (calls : List Call) : (registered calls).Nodup :=
  nodup_addAllNew List.nodup_nil _

/-! ## One more call -/

theorem lastEmitter?_append_of_ne {m : String} (h : ¬(call.succeeds ∧ call.name = m)) :
    lastEmitter? (calls ++ [call]) m = lastEmitter? calls m := by
  rw [lastEmitter?, registrationsOf_append, if_neg h, List.append_nil, lastEmitter?]

theorem lastInfo_append_of_ne {m : String} (h : ¬(call.succeeds ∧ call.name = m)) :
    lastInfo (calls ++ [call]) m = lastInfo calls m := by
  rw [lastInfo, registrationsOf_append, if_neg h, List.append_nil, lastInfo]

theorem lastEmitter?_append_self (h : call.succeeds = true) :
    lastEmitter? (calls ++ [call]) call.name = call.emitter? := by
  rw [lastEmitter?, registrationsOf_append, if_pos ⟨h, rfl⟩, List.getLast?_concat]
  rfl

theorem lastInfo_append_self (h : call.succeeds = true) :
    lastInfo (calls ++ [call]) call.name = call.info.getD (lastInfo calls call.name) := by
  rw [lastInfo, registrationsOf_append, if_pos ⟨h, rfl⟩, List.reverse_concat,
    List.findSome?_cons]
  cases call.info <;> rfl

theorem emitter?_eq_some {e : Emitter} : call.emitter? = some e ↔ call.offer = .emitter e := by
  unfold Call.emitter?
  cases call.offer <;> simp

/-- A call that is refused names the kind of what was offered, and changes nothing. -/
theorem register_of_refused (h : call.succeeds = false) (r : Registry) :
    (∃ kind, r.register call.name call.offer call.info = .error (.notCallable kind)) ∧
      r.after call = r := by
  unfold after register
  cases hoffer : call.offer with
  | emitter e => simp [Call.succeeds, emitter?_eq_some.2 hoffer] at h
  | other kind => exact ⟨⟨kind, rfl⟩, rfl⟩

/-- A call that is not refused sets the emitter that it offers. -/
theorem register_of_succeeds (h : call.succeeds = true) :
    ∃ e, call.emitter? = some e ∧ ∀ r : Registry,
      r.register call.name call.offer call.info = .ok (r.set call.name e call.info) ∧
      r.after call = r.set call.name e call.info := by
  obtain ⟨e, he⟩ := Option.isSome_iff_exists.1 h
  refine ⟨e, he, fun r => ?_⟩
  unfold after register
  rw [emitter?_eq_some.1 he]
  exact ⟨rfl, rfl⟩

/-! ## Runs -/

theorem holds_empty : Holds [] {} where
  emitter _ := rfl
  info _ hm := absurd hm List.not_mem_nil
  names := rfl
  infoNames := rfl

theorem names_putInfo (name : String) (info : Option CommandInfo)
    (infos : List (String × CommandInfo)) :
    Index.names (putInfo name info infos) = addNew (Index.names infos) name := by
  unfold putInfo
  split
  next i => exact Index.names_put name i infos
  next =>
    split
    next h => exact (addNew_of_mem (Index.isSome_lookup.1 h)).symm
    next => exact Index.names_put name _ infos

theorem lookup_putInfo_of_ne {name m : String} (h : m ≠ name) (info : Option CommandInfo)
    (infos : List (String × CommandInfo)) :
    (putInfo name info infos).lookup m = infos.lookup m := by
  unfold putInfo
  split
  next => rw [Index.lookup_put, if_neg h]
  next =>
    split
    next => rfl
    next => rw [Index.lookup_put, if_neg h]

theorem lookup_putInfo_self (name : String) (info : Option CommandInfo)
    (infos : List (String × CommandInfo)) : (putInfo name info infos).lookup name =
      some (info.getD ((infos.lookup name).getD (defaultInfo name))) := by
  unfold putInfo
  split
  next => rw [Index.lookup_put, if_pos rfl, Option.getD_some]
  next =>
    split
    next h =>
      obtain ⟨i, hi⟩ := Option.isSome_iff_exists.1 h
      simp [hi]
    next h =>
      rw [Index.lookup_put, if_pos rfl, Option.not_isSome_iff_eq_none.1 h]
      rfl

/-- A call keeps the two indexes in step with the history. -/
theorem holds_after {r : Registry} (h : Holds calls r) (call : Call) :
    Holds (calls ++ [call]) (r.after call) := by
  cases hcall : call.succeeds with
  | false =>
    have hother : ∀ m, ¬(call.succeeds = true ∧ call.name = m) := by simp [hcall]
    have hregistered : registered (calls ++ [call]) = registered calls := by
      simp [registered_append, hcall]
    rw [(register_of_refused hcall r).2]
    refine ⟨fun m => ?_, fun m hm => ?_, ?_, ?_⟩
    · rw [h.emitter, lastEmitter?_append_of_ne (hother m)]
    · rw [hregistered] at hm
      rw [h.info m hm, lastInfo_append_of_ne (hother m)]
    · rw [hregistered, h.names]
    · rw [hregistered, h.infoNames]
  | true =>
    obtain ⟨e, he, hset⟩ := register_of_succeeds hcall
    have hregistered : registered (calls ++ [call]) = addNew (registered calls) call.name := by
      rw [registered_append, if_pos hcall]
    have hother : ∀ {m}, m ≠ call.name → ¬(call.succeeds = true ∧ call.name = m) :=
      fun hm hsame => hm hsame.2.symm
    rw [(hset r).2]
    refine ⟨fun m => ?_, fun m hm => ?_, ?_, ?_⟩
    · rw [find?_set]
      by_cases hm : m = call.name
      · rw [if_pos hm, hm, lastEmitter?_append_self hcall, he]
      · rw [if_neg hm, lastEmitter?_append_of_ne (hother hm), h.emitter]
    · show (putInfo call.name call.info r.infos).lookup m = _
      by_cases hself : m = call.name
      · subst hself
        rw [lookup_putInfo_self, lastInfo_append_self hcall]
        -- a name that comes up for the first time has no description to keep
        by_cases hknown : call.name ∈ registered calls
        · rw [h.info _ hknown, Option.getD_some]
        · have hfirst : registrationsOf calls call.name = [] := by
            simpa using mt mem_registered.2 hknown
          have hnone : r.infos.lookup call.name = none := by
            rw [← h.infoNames, ← Index.isSome_lookup] at hknown
            exact Option.not_isSome_iff_eq_none.1 hknown
          rw [hnone, lastInfo, hfirst]
          rfl
      · rw [hregistered, mem_addNew, or_iff_left hself] at hm
        rw [lookup_putInfo_of_ne hself, h.info m hm, lastInfo_append_of_ne (hother hself)]
    · rw [hregistered, ← h.names]
      exact Index.names_put call.name e r.emitters
    · rw [hregistered, ← h.infoNames]
      exact names_putInfo call.name call.info r.infos

end

theorem registerAll_append (r : Registry) (calls more : List Call) :
    r.registerAll (calls ++ more) = (r.registerAll calls).registerAll more :=
  List.foldl_append

theorem holds_registerAll (calls : List Call) : Holds calls (({} : Registry).registerAll calls) := by
  induction calls using List.reverseRecOn with
  | nil => exact holds_empty
  | append_singleton calls call ih =>
    rw [registerAll_append]
    exact holds_after ih call

/-- The default registry is set up by calls as well. -/
theorem registry_start (start : Start) : start.registry = ({} : Registry).registerAll start.calls := by
  cases start with
  | empty => rfl
  | standard =>
    show default = _
    rw [default, addStandard, Start.calls, registerAll, List.foldl_map]
    rfl

/-! ## Answers -/

theorem textLe_iff (a b : String) : textLe a b = true ↔ a ≤ b := by
  rw [textLe, Bool.not_eq_true', decide_eq_false_iff_not, String.not_lt]

theorem answers_of_holds {calls : List Call} {r : Registry} (h : Holds calls r) :
    Answers calls r where
  canEmit m := by rw [canEmit, h.emitter]
  get m := by cases hm : lastEmitter? calls m <;> simp [get, h.emitter, hm]
  emit context step := by
    rw [emit, h.emitter]
    cases lastEmitter? calls step.name <;> rfl
  noted step := by rw [emitEvents, canEmit, h.emitter]
  info := h.info
  increasing := by
    have hsorted : SortedBy id (Index.names r.emitters) r.names := sortedBy_mergeSort textLe_iff _
    have hnodup : r.names.Nodup := by
      rw [names, (List.mergeSort_perm _ _).nodup_iff, h.names]
      exact nodup_registered calls
    refine (hsorted.ordered.and hnodup).imp ?_
    rintro a b ⟨hab, hne⟩
    exact Std.lt_of_le_of_ne hab hne
  mem_names m := by rw [mem_names, canEmit, h.emitter, isSome_lastEmitter?]
  listed := by
    have hvalues : r.infos.map (·.2) = (registered calls).map (lastInfo calls) := by
      rw [← h.infoNames]
      refine Index.values_eq_map ?_ fun m hm => ?_
      · rw [h.infoNames]
        exact nodup_registered calls
      · rw [h.infoNames] at hm
        exact h.info m hm
    rw [← hvalues]
    exact sortedBy_mergeSort (fun a b => textLe_iff a.name b.name) _

/-! ## Warnings -/

theorem notes_append (r : Registry) (calls more : List Call) :
    r.notes (calls ++ more) = r.notes calls ++ (r.registerAll calls).notes more := by
  induction calls generalizing r with
  | nil => rfl
  | cons call calls ih =>
    rw [List.cons_append, notes, ih, notes, List.append_assoc]
    rfl

theorem length_added (r : Registry) (calls : List Call) : (r.added calls).length =
    ((Index.names (r.registerAll calls).emitters).filter fun m => !r.canEmit m).length :=
  ((List.mergeSort_perm _ _).filter _).length_eq

theorem notes_of_refused {call : Call} (h : call.succeeds = false) (r : Registry) :
    r.notes [call] = [] := by
  obtain ⟨kind, hkind⟩ := (register_of_refused h r).1
  simp [notes, hkind]

theorem notes_of_succeeds {call : Call} (h : call.succeeds = true) (r : Registry) :
    r.notes [call] = r.registrationEvents call.name := by
  obtain ⟨e, _, hset⟩ := register_of_succeeds h
  simp [notes, (hset r).1]

theorem added_nil (r : Registry) : r.added [] = [] := by
  refine List.filter_eq_nil_iff.2 fun m hm => ?_
  have hknown : r.canEmit m = true := mem_names.1 hm
  simp [hknown]

theorem warnings_registrationEvents (r : Registry) (name : String) :
    (r.registrationEvents name).filter (·.severity = .warning) =
      if r.canEmit name then [.commandReplaced name] else [] := by
  cases h : r.canEmit name <;> simp [registrationEvents, h, Event.severity]

/-- A registration adds its name if the registry did not have it, neither then nor before. -/
theorem length_added_append {r : Registry} {calls : List Call} {call : Call}
    (h : call.succeeds = true) : (r.added (calls ++ [call])).length =
      (r.added calls).length + if (r.registerAll calls).canEmit call.name then 0 else 1 := by
  obtain ⟨e, _, hset⟩ := register_of_succeeds h
  have hnames : Index.names (r.registerAll (calls ++ [call])).emitters =
      addNew (Index.names (r.registerAll calls).emitters) call.name := by
    rw [registerAll_append]
    show Index.names ((r.registerAll calls).after call).emitters = _
    rw [(hset _).2]
    exact Index.names_put call.name e _
  rw [length_added, length_added, hnames]
  split
  next hknown => rw [addNew_of_mem (Index.isSome_lookup.1 hknown), Nat.add_zero]
  next hnew =>
    have habsent : call.name ∉ Index.names (r.registerAll calls).emitters :=
      fun hmem => hnew (Index.isSome_lookup.2 hmem)
    have hbefore : r.canEmit call.name = false := by
      rw [← Bool.not_eq_true]
      exact fun hr => hnew (r.extends_registerAll calls _ hr)
    simp [addNew, habsent, hbefore]

/-- A call is refused, or warns that it replaces an emitter, or adds a name. -/
theorem warnings_notes (r : Registry) (calls : List Call) : ∃ replaced : List String,
    (r.notes calls).filter (·.severity = .warning) = replaced.map .commandReplaced ∧
      replaced.length + (r.added calls).length = (calls.filter (·.succeeds)).length := by
  induction calls using List.reverseRecOn with
  | nil => exact ⟨[], rfl, by simp [added_nil]⟩
  | append_singleton calls call ih =>
    obtain ⟨replaced, hwarnings, hcount⟩ := ih
    rw [notes_append, List.filter_append, hwarnings, List.filter_append, List.length_append,
      ← hcount]
    cases hcall : call.succeeds with
    | false =>
      refine ⟨replaced, by simp [notes_of_refused hcall], ?_⟩
      have hsame : r.added (calls ++ [call]) = r.added calls := by
        rw [added, registerAll_append]
        show ((r.registerAll calls).after call).names.filter _ = _
        rw [(register_of_refused hcall _).2, added]
      simp [hsame, hcall]
    | true =>
      rw [notes_of_succeeds hcall, warnings_registrationEvents, length_added_append hcall]
      cases hknown : (r.registerAll calls).canEmit call.name with
      | true => exact ⟨replaced ++ [call.name], by simp, by simp [hcall]; omega⟩
      | false => exact ⟨replaced, by simp, by simp [hcall]; omega⟩

/-! ## Whole histories -/

/-- Whatever is registered after a start, the registry answers by the last registration of each
name.  A call that is refused changes nothing and notes nothing, and there are as many warnings as
registrations that add no name. -/
theorem answers_registerAll (start : Start) (calls : List Call) :
    Answers (start.calls ++ calls) (start.registry.registerAll calls) ∧
    (∀ (r : Registry) (name kind : String) (info : Option CommandInfo),
      let call : Call := ⟨name, .other kind, info⟩
      r.register name (.other kind) info = .error (.notCallable kind) ∧
        r.after call = r ∧ r.notes [call] = []) ∧
    ∃ replaced : List String,
      (start.registry.notes calls).filter (·.severity = .warning) =
        replaced.map .commandReplaced ∧
      replaced.length + (start.registry.added calls).length =
        (calls.filter (·.succeeds)).length := by
  have hholds : Holds (start.calls ++ calls) (start.registry.registerAll calls) := by
    rw [registry_start, ← registerAll_append]
    exact holds_registerAll _
  exact ⟨answers_of_holds hholds, fun _ _ _ _ => ⟨rfl, rfl, rfl⟩, warnings_notes _ calls⟩

/-- A description may give another name than the one it is registered under, and outlives a new
emitter. -/
example :
    let emitter : Emitter := fun c _ => .ok (.nothing, c)
    let calls : List Call := [
      ⟨"tap", .emitter emitter, some ⟨"click", "Taps", "action"⟩⟩,
      ⟨"tap", .other "str", some ⟨"tap", "Fails", "action"⟩⟩,
      ⟨"swipe", .emitter emitter, none⟩,
      ⟨"tap", .emitter emitter, none⟩]
    (({} : Registry).registerAll calls).infos =
        [("tap", ⟨"click", "Taps", "action"⟩), ("swipe", defaultInfo "swipe")] ∧
      (({} : Registry).notes calls).filter (·.severity = .warning) = [.commandReplaced "tap"] := by
  decide +kernel

end CestExport.Registry
