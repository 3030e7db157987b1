import CestExport.Proofs.Keys
import CestExport.Proofs.Registry

/-!
# The counters of loops

A loop that runs a number of times counts with a variable of its own, named after
the step's id or numbered by the context.  Numbers never repeat while a context is
in use, and a numbered counter is never a named one; but ids with the same name
characters name the same counter.

    two loops of a run have the same counter  ↔
      their ids have the same name characters, and have some       (sameCounter_iff)
-/

namespace CestExport

open Php

/-! ## Algorithm -/

/-- What steps generate one after the other in one context; a step that fails does not stop those
behind it. -/
def Registry.emitAll (r : Registry) (context : Context) : List Step → List (Except Failure Emission)
  | [] => []
  | s :: rest => (r.emit context s).1 :: r.emitAll (r.emit context s).2 rest

/-- The context behind steps that are generated one after the other. -/
def Registry.contextAfter (r : Registry) (context : Context) : List Step → Context
  | [] => context
  | s :: rest => r.contextAfter (r.emit context s).2 rest

/-- The variable that a counting loop sets, if a line opens one: what stands between the bracket and
the next blank. -/
def Php.loopCounter? (text : String) : Option String :=
  (Text.after? "for (" text).map fun rest => String.ofList (rest.toList.takeWhile (· != ' '))

/-- The counter of the first counting loop that is opened. -/
def Emission.counter? (e : Emission) : Option String :=
  e.toBlock.lines.findSome? fun l => loopCounter? l.text

/-! ## Names of counters -/

namespace Draft

theorem counter_of_empty {id : String} (h : nameSuffix id = "") (used : Nat) :
    counter id used = (numberedCounter used, used + 1) := by
  simp [counter, h]

theorem counter_of_ne_empty {id : String} (h : nameSuffix id ≠ "") (used : Nat) :
    counter id used = ("$i_" ++ nameSuffix id, used) := by
  simp [counter, h]
  rfl

theorem toList_numberedCounter (n : Nat) :
    (numberedCounter n).toList = '$' :: 'i' :: if n = 0 then [] else Nat.toDigits 10 n := by
  unfold numberedCounter
  split
  next => rfl
  next =>
    show ("$i" ++ n.repr).toList = _
    rw [String.toList_append, Nat.toList_repr]
    rfl

theorem numberedCounter_inj {m n : Nat} (h : numberedCounter m = numberedCounter n) : m = n := by
  have hlist := congrArg String.toList h
  simp only [toList_numberedCounter, List.cons.injEq, true_and] at hlist
  by_cases hm : m = 0
  · by_cases hn : n = 0
    · rw [hm, hn]
    · rw [if_pos hm, if_neg hn] at hlist
      exact absurd hlist.symm Nat.toDigits_ne_nil
  · by_cases hn : n = 0
    · rw [if_neg hm, if_pos hn] at hlist
      exact absurd hlist Nat.toDigits_ne_nil
    · rw [if_neg hm, if_neg hn] at hlist
      have hnumber := congrArg (Nat.ofDigitChars 10 · 0) hlist
      simpa [Nat.ofDigitChars_toDigits] using hnumber

/-- A number does not begin with an underscore. -/
theorem numberedCounter_ne_named (n : Nat) (suffix : String) :
    numberedCounter n ≠ "$i_" ++ suffix := by
  intro h
  have hlist := congrArg String.toList h
  rw [toList_numberedCounter, String.toList_append] at hlist
  simp only [String.reduceToList, List.cons_append, List.nil_append, List.cons.injEq,
    true_and] at hlist
  split at hlist
  next => cases hlist
  next =>
    have hmem : '_' ∈ Nat.toDigits 10 n := by simp [hlist]
    exact absurd (Nat.isDigit_of_mem_toDigits (by decide) (by decide) hmem) (by decide)

/-- A later counter is the same as an earlier one only if both are named, by the same characters. -/
theorem counter_eq_iff {id id' : String} {used used' : Nat} (h : (counter id used).2 ≤ used') :
    (counter id used).1 = (counter id' used').1 ↔
      nameSuffix id = nameSuffix id' ∧ nameSuffix id ≠ "" := by
  by_cases hid : nameSuffix id = ""
  · rw [counter_of_empty hid] at h ⊢
    refine iff_of_false ?_ (fun hnamed => hnamed.2 hid)
    by_cases hid' : nameSuffix id' = ""
    · rw [counter_of_empty hid']
      intro heq
      have := numberedCounter_inj heq
      omega
    · rw [counter_of_ne_empty hid']
      exact numberedCounter_ne_named used _
  · rw [counter_of_ne_empty hid]
    by_cases hid' : nameSuffix id' = ""
    · rw [counter_of_empty hid']
      refine iff_of_false (fun heq => numberedCounter_ne_named used' _ heq.symm) ?_
      exact fun hnamed => hid (hnamed.1.trans hid')
    · rw [counter_of_ne_empty hid']
      simp [hid]

theorem ne_blank_of_mem_counter {id : String} {used : Nat} {c : Char}
    (h : c ∈ (counter id used).1.toList) : c ≠ ' ' := by
  by_cases hid : nameSuffix id = ""
  · rw [counter_of_empty hid, toList_numberedCounter] at h
    simp only [List.mem_cons] at h
    rcases h with rfl | rfl | h
    · decide
    · decide
    · split at h
      next => cases h
      next =>
        rintro rfl
        exact absurd (Nat.isDigit_of_mem_toDigits (by decide) (by decide) h) (by decide)
  · rw [counter_of_ne_empty hid, String.toList_append, List.mem_append] at h
    rintro rfl
    rcases h with h | h
    · exact absurd h (by decide)
    · rw [nameSuffix, String.toList_ofList] at h
      exact absurd (mem_nameChars h) (by decide)

end Draft

/-! ## Lines that open a loop -/

theorem Php.loopCounter?_countedLoop {counter : String} (h : ∀ c ∈ counter.toList, c ≠ ' ')
    (count : String) : loopCounter? (Draft.countedLoop counter count) = some counter := by
  have hline : Draft.countedLoop counter count = "for (" ++ (counter ++
      (" = 0; " ++ counter ++ " < " ++ count ++ "; " ++ counter ++ "++) \x7b")) := by
    simp only [Draft.countedLoop, String.append_assoc]
    rfl
  have hwhole : ∀ c ∈ counter.toList, (c != ' ') = true := fun c hc => by simpa using h c hc
  rw [loopCounter?, hline, Keys.after?_eq_some.2 rfl, Option.map_some, String.toList_append,
    List.takeWhile_append_of_pos hwhole]
  simp

/-- A statement that begins with a variable opens no loop. -/
theorem Php.loopCounter?_eq_none {text : String} (h : text.toList.head? = some '$') :
    loopCounter? text = none := by
  cases hafter : Text.after? "for (" text with
  | none => simp [loopCounter?, hafter]
  | some rest =>
    rw [Keys.after?_eq_some.1 hafter] at h
    simp at h

/-! ## Steps -/

namespace Registry

theorem counters_settle_le (d : Draft) (context : Context) :
    context.counters ≤ (d.settle context).2.counters := by
  cases d with
  | ready e => exact Nat.le_refl _
  | assign name expression =>
    simp only [Draft.settle]
    split <;> exact Nat.le_refl _
  | iterate collection name =>
    simp only [Draft.settle]
    split <;> exact Nat.le_refl _
  | repeated id count =>
    show context.counters ≤ (Draft.counter id context.counters).2
    by_cases hid : nameSuffix id = ""
    · rw [Draft.counter_of_empty hid]
      exact Nat.le_succ _
    · exact Nat.le_of_eq (by rw [Draft.counter_of_ne_empty hid])

theorem counters_finish (step : Step) (e : Emission) (context : Context) :
    (finish step e context).2.counters = context.counters := by
  rcases finish_cases step e context with ⟨_, h⟩ | ⟨_, _, _, _, h⟩ | ⟨_, h⟩ <;> rw [h]

/-- No step takes a number back. -/
theorem counters_emit_le (context : Context) (step : Step) :
    context.counters ≤ (default.emit context step).2.counters := by
  rcases emit_cases context step with ⟨_, h⟩ | ⟨c, _, _, ⟨f, h⟩ | ⟨d, _, h⟩⟩
  · exact Nat.le_of_eq (by rw [h])
  · exact Nat.le_of_eq (by rw [h])
  · rw [h, counters_finish]
    exact counters_settle_le d context

theorem generator_of_times {c : Command.Standard} (hc : c ∈ Command.standard)
    (hname : c.name = "times") : c.generator = Command.times := by
  have hcontrol : ∀ c ∈ Command.control, c.name = "times" → c.generator = Command.times := by
    simp [Command.control]
  rcases Command.calm_of_mem_standard hc with h | ⟨hplain, _⟩
  · exact hcontrol c h hname
  · rw [hname] at hplain
    cases hplain

/-- A loop counts with the counter that the context gives it, which is used up then. -/
theorem counter?_emit_times {context : Context} {step : Step} {e : Emission}
    (hname : step.name = "times") (h : (default.emit context step).1 = .ok e) :
    e.counter? = some (Draft.counter step.id context.counters).1 ∧
      (default.emit context step).2.counters = (Draft.counter step.id context.counters).2 := by
  rcases emit_cases context step with ⟨hno, _⟩ | ⟨c, hc, hcname, ⟨f, hemit⟩ | ⟨d, hd, hemit⟩⟩
  · have hstandard : default.canEmit step.name = true :=
      canEmit_default.2 (Command.exists_standard_of_role (by rw [hname]; decide))
    rw [hstandard] at hno
    cases hno
  · simp [hemit] at h
  · rw [generator_of_times hc (hcname.trans hname)] at hd
    obtain ⟨count, _, rfl⟩ := map_eq_ok.1 hd
    have hcounters := counters_finish step ((Draft.repeated step.id count).settle context).1
      ((Draft.repeated step.id count).settle context).2
    refine ⟨?_, by rw [hemit, hcounters]; rfl⟩
    have hline : loopCounter? (Draft.countedLoop (Draft.counter step.id context.counters).1 count) =
        some (Draft.counter step.id context.counters).1 :=
      loopCounter?_countedLoop (fun _ hc => Draft.ne_blank_of_mem_counter hc) count
    rw [hemit] at h
    rcases finish_eq_ok h with ⟨_, rfl⟩ | ⟨_, b, scope, hwrap, rfl⟩
    · simp [Emission.counter?, Draft.settle, Emission.toBlock, hline]
    · obtain ⟨seconds, scope', _, rfl⟩ := Window.wrap_eq_ok hwrap
      have hsnapshot := loopCounter?_eq_none
        (head?_assignment Scope.windowHandlesSlot Window.allHandles)
      simp [Emission.counter?, Draft.settle, Emission.toBlock, hline, hsnapshot]

/-! ## Runs -/

theorem emitAll_getElem? (r : Registry) (context : Context) (steps : List Step) (i : Nat) :
    (r.emitAll context steps)[i]? =
      steps[i]?.map fun s => (r.emit (r.contextAfter context (steps.take i)) s).1 := by
  induction steps generalizing context i with
  | nil => simp [emitAll]
  | cons s rest ih =>
    cases i with
    | zero => rfl
    | succ i => simpa [emitAll, contextAfter] using ih (r.emit context s).2 i

/-- No run takes a number back. -/
theorem counters_contextAfter_le (context : Context) (steps : List Step) :
    context.counters ≤ (default.contextAfter context steps).counters := by
  induction steps generalizing context with
  | nil => exact Nat.le_refl _
  | cons s rest ih =>
    rw [contextAfter]
    exact Nat.le_trans (counters_emit_le context s) (ih _)

/-- The numbers that a step has used up stay used up before every later step. -/
theorem counters_step_le (context : Context) {steps : List Step} {i j : Nat} {s : Step}
    (hij : i < j) (hs : steps[i]? = some s) :
    (default.emit (default.contextAfter context (steps.take i)) s).2.counters ≤
      (default.contextAfter context (steps.take j)).counters := by
  induction steps generalizing context i j with
  | nil => simp at hs
  | cons s' rest ih =>
    obtain ⟨j, rfl⟩ := Nat.exists_eq_succ_of_ne_zero (Nat.ne_zero_of_lt hij)
    rw [Nat.succ_eq_add_one, List.take_succ_cons, contextAfter]
    cases i with
    | zero =>
      obtain rfl : s' = s := by simpa using hs
      rw [List.take_zero, contextAfter]
      exact counters_contextAfter_le _ _
    | succ i =>
      rw [List.take_succ_cons, contextAfter]
      exact ih _ (Nat.lt_of_succ_lt_succ hij) (by simpa using hs)

/-- Of two loops in a run, the later one has the counter of the earlier one if and only if both are
named after the same characters. -/
theorem sameCounter_of_lt {context : Context} {steps : List Step} {i j : Nat} {s t : Step}
    {e f : Emission} (hij : i < j) (hs : steps[i]? = some s) (ht : steps[j]? = some t)
    (hsname : s.name = "times") (htname : t.name = "times")
    (he : (default.emitAll context steps)[i]? = some (.ok e))
    (hf : (default.emitAll context steps)[j]? = some (.ok f)) :
    ∃ a b, e.counter? = some a ∧ f.counter? = some b ∧
      (a = b ↔ nameSuffix s.id = nameSuffix t.id ∧ nameSuffix s.id ≠ "") := by
  have hused := counters_step_le context hij hs
  rw [emitAll_getElem?, hs, Option.map_some, Option.some.injEq] at he
  rw [emitAll_getElem?, ht, Option.map_some, Option.some.injEq] at hf
  obtain ⟨ha, hcounters⟩ := counter?_emit_times hsname he
  obtain ⟨hb, _⟩ := counter?_emit_times htname hf
  rw [hcounters] at hused
  exact ⟨_, _, ha, hb, Draft.counter_eq_iff hused⟩

/-- Any two loops that are generated in one context have the same counter if and only if their ids
have the same name characters, and have some. -/
theorem sameCounter_iff {context : Context} {steps : List Step} {i j : Nat} {s t : Step}
    {e f : Emission} (hne : i ≠ j) (hs : steps[i]? = some s) (ht : steps[j]? = some t)
    (hsname : s.name = "times") (htname : t.name = "times")
    (he : (default.emitAll context steps)[i]? = some (.ok e))
    (hf : (default.emitAll context steps)[j]? = some (.ok f)) :
    ∃ a b, e.counter? = some a ∧ f.counter? = some b ∧
      (a = b ↔ nameSuffix s.id = nameSuffix t.id ∧ nameSuffix s.id ≠ "") := by
  rcases Nat.lt_or_gt_of_ne hne with hlt | hgt
  · exact sameCounter_of_lt hlt hs ht hsname htname he hf
  · obtain ⟨b, a, hb, ha, hsame⟩ := sameCounter_of_lt hgt ht hs htname hsname hf he
    refine ⟨a, b, ha, hb, ?_⟩
    constructor
    · intro heq
      obtain ⟨hid, hnamed⟩ := hsame.1 heq.symm
      exact ⟨hid.symm, hid ▸ hnamed⟩
    · rintro ⟨hid, hnamed⟩
      exact (hsame.2 ⟨hid.symm, hid ▸ hnamed⟩).symm

/-- Loops without a name character in their ids, around a step that fails; the second one opens a
window. -/
def anonymousLoops : List Step := [
  { name := "times", target := "2" },
  { name := "times", target := "many" },
  { name := "times", id := "--", target := "$\x7bn\x7d", opensWindow := true }]

theorem sameCounter_iff_anonymousLoops :
    let first : Emission := .block ⟨[⟨0, Draft.countedLoop "$i" "2"⟩], 0, 1⟩
    let second : Emission := .block ⟨[
      ⟨0, "$this->vars['windowHandles'] = $this->windowHandles($I);"⟩,
      ⟨0, Draft.countedLoop "$i1" "(int) $this->vars['n']"⟩,
      ⟨0, "$this->waitForWindow($I, 2);"⟩], 0, 1⟩
    (default.emitAll {} anonymousLoops)[0]? = some (.ok first) ∧
      (default.emitAll {} anonymousLoops)[2]? = some (.ok second) ∧
      ∃ a b, first.counter? = some a ∧ second.counter? = some b ∧ a ≠ b := by
  intro first second
  have hrun : (default.emitAll {} anonymousLoops).map Except.toOption =
      [some first, none, some second] := by
    decide +kernel
  have hfirst := getElem?_eq_ok (i := 0) (a := first) (by rw [hrun]; rfl)
  have hsecond := getElem?_eq_ok (i := 2) (a := second) (by rw [hrun]; rfl)
  obtain ⟨a, b, ha, hb, hsame⟩ :=
    sameCounter_iff (by decide) rfl rfl rfl rfl hfirst hsecond
  refine ⟨hfirst, hsecond, a, b, ha, hb, ?_⟩
  intro heq
  exact (hsame.1 heq).2 (by decide)

/-- Ids that differ only in what no name can hold name the same counter, also when one loop stands
inside the other. -/
theorem counter_shared :
    let outer : Step := { id := "a-b", name := "times", target := "2" }
    let inner : Step := { id := "ab", name := "times", target := "3" }
    outer.id ≠ inner.id ∧
      (default.emitAll {} [outer, inner]).map (fun x => x.toOption.bind (·.counter?)) =
        [some "$i_ab", some "$i_ab"] := by
  decide +kernel

end Registry

end CestExport
