import CestExport.Proofs.Command.Stored

/-!
# The slot of the window handles

A step that opens a window puts the known handles into a slot, which the generated
code compares with the handles behind the step.  The slot is a variable like those
of the recording, and nothing keeps a recording from naming its own variable like
it.  Where none does, the slot is assigned by the statement in front of such a step
and nowhere else, and the statements around it leave the recorded variables alone.

    all that a run generates reserves the slot  ↔
      no step that is generated stores something in it             (reservesSlot_iff)
-/

namespace CestExport

open Php

namespace Registry

/-! ## Algorithm -/

/-- A step of a run that is generated, and what comes out. -/
def Generated (context : Context) (steps : List Step) (s : Step) (e : Emission) : Prop :=
  default.canEmit s.name = true ∧
    ∃ i : Nat, steps[i]? = some s ∧ (default.emitAll context steps)[i]? = some (.ok e)

/-- A variable of the recording: one that a generated step of the run stores something in. -/
def Recorded (context : Context) (steps : List Step) (n : String) : Prop :=
  ∃ s e, Generated context steps s e ∧ s.Stores n

/-- What a step generates reserves the slot of the window handles, where some variables are those of
the recording. -/
structure ReservesSlot (recorded : String → Prop) (s : Step) (e : Emission) : Prop where
  /-- Only the snapshot assigns the slot, in front of all that a step that opens a window does. -/
  snapshot : ∀ front l back, e.toBlock.lines = front ++ l :: back →
    Php.Assigns l.text Scope.windowHandlesSlot →
    s.opensWindow = true ∧ front = [] ∧
      l.text = Scope.assignment Scope.windowHandlesSlot Window.allHandles
  /-- Nothing between the snapshot and the wait assigns the slot. -/
  between : s.opensWindow = true → ∀ first body last, e.toBlock.lines = first :: body ++ [last] →
    ∀ l ∈ body, ¬Php.Assigns l.text Scope.windowHandlesSlot
  /-- The snapshot and the wait assign no variable of the recording but the one that the step names
  for its window. -/
  around : s.opensWindow = true → ∀ first body last, e.toBlock.lines = first :: body ++ [last] →
    ∀ n, recorded n → Php.Assigns first.text n ∨ Php.Assigns last.text n → n = s.windowHandleName

/-! ## Steps -/

section

variable {recorded : String → Prop} {c : Context} {s : Step} {e : Emission}

/-- A step that stores nothing in the slot reserves it, if no other step does so either. -/
theorem reservesSlot_of_not_stores (h : (default.emit c s).1 = .ok e)
    (hknown : default.canEmit s.name = true) (hstores : ¬s.Stores Scope.windowHandlesSlot)
    (hrecorded : ¬recorded Scope.windowHandlesSlot) : ReservesSlot recorded s e := by
  obtain ⟨x, hx, hcases⟩ := lines_emit h hknown
  have hslot : Scope.windowHandlesSlot ≠ "" := by decide
  have hbody : ∀ l ∈ x.toBlock.lines, ¬Php.Assigns l.text Scope.windowHandlesSlot := by
    intro l hl hassigns
    exact hstores ⟨hslot, .inl ((hx _).1 ⟨l, hl, hassigns⟩).2⟩
  rcases hcases with ⟨hopens, rfl⟩ | ⟨hopens, seconds, rfl⟩
  · refine ⟨fun front l back hlines hassigns => ?_, ?_, ?_⟩
    · have hmem : l ∈ e.toBlock.lines := by simp [hlines]
      exact absurd hassigns (hbody l hmem)
    · simp [hopens]
    · simp [hopens]
  · have hwait : ¬Php.Assigns (Window.wait s seconds {}).1 Scope.windowHandlesSlot := by
      rw [Window.assigns_wait]
      exact fun hname => hstores ⟨hslot, .inr ⟨hopens, hname.2⟩⟩
    have hsplit : ∀ {first body last}, (Window.around s seconds x).toBlock.lines =
        first :: body ++ [last] →
        first = ⟨0, Scope.assignment Scope.windowHandlesSlot Window.allHandles⟩ ∧
          body = x.toBlock.lines ∧ last = ⟨0, (Window.wait s seconds {}).1⟩ := by
      intro first body last hlines
      obtain ⟨hfirst, hrest⟩ := List.cons.inj hlines
      obtain ⟨hbody, hlast⟩ := List.append_inj' hrest rfl
      exact ⟨hfirst.symm, hbody.symm, (List.cons.inj hlast).1.symm⟩
    refine ⟨fun front l back hlines hassigns => ⟨hopens, ?_⟩, fun _ first body last hlines => ?_,
      fun _ first body last hlines n hn => ?_⟩
    · cases front with
      | nil =>
        obtain ⟨rfl, _⟩ := List.cons.inj hlines
        exact ⟨rfl, rfl⟩
      | cons first front =>
        obtain ⟨_, hrest⟩ := List.cons.inj hlines
        have hmem : l ∈ x.toBlock.lines ++ [⟨0, (Window.wait s seconds {}).1⟩] := by
          show l ∈ List.append _ _
          rw [hrest]
          simp
        rcases List.mem_append.1 hmem with hl | hl
        · exact absurd hassigns (hbody l hl)
        · rw [List.mem_singleton.1 hl] at hassigns
          exact absurd hassigns hwait
    · obtain ⟨_, rfl, _⟩ := hsplit hlines
      exact hbody
    · obtain ⟨rfl, _, rfl⟩ := hsplit hlines
      rw [assigns_assignment, Window.assigns_wait]
      rintro (rfl | hname)
      · exact absurd hn hrecorded
      · exact hname.2

/-- A step that stores something in the slot does not reserve it. -/
theorem not_reservesSlot_of_stores (h : (default.emit c s).1 = .ok e)
    (hknown : default.canEmit s.name = true) (hstores : s.Stores Scope.windowHandlesSlot) :
    ¬ReservesSlot recorded s e := by
  intro hreserves
  obtain ⟨x, hx, hcases⟩ := lines_emit h hknown
  obtain ⟨hslot, hnamed⟩ := hstores
  have hwindow : s.opensWindow = true → ∃ seconds, e = Window.around s seconds x := by
    intro hopens
    rcases hcases with ⟨hno, _⟩ | ⟨_, hseconds⟩
    · rw [hno] at hopens
      cases hopens
    · exact hseconds
  rcases hnamed with hstored | ⟨hopens, hname⟩
  · obtain ⟨l, hl, hassigns⟩ := (hx _).2 ⟨hslot, hstored⟩
    rcases hcases with ⟨hno, rfl⟩ | ⟨hopens, seconds, rfl⟩
    · obtain ⟨front, back, hlines⟩ := List.append_of_mem hl
      have hopens := (hreserves.snapshot front l back hlines hassigns).1
      rw [hno] at hopens
      cases hopens
    · exact hreserves.between hopens _ _ _ rfl l hl hassigns
  · obtain ⟨seconds, rfl⟩ := hwindow hopens
    have hassigns := (Window.assigns_wait s seconds _).2 ⟨hslot, hname⟩
    have hlast := hreserves.snapshot (⟨0, _⟩ :: x.toBlock.lines) _ [] rfl hassigns
    cases hlast.2.1

end

/-! ## Runs -/

theorem exists_emit_of_generated {context : Context} {steps : List Step} {s : Step} {e : Emission}
    (h : Generated context steps s e) : ∃ c, (default.emit c s).1 = .ok e := by
  obtain ⟨_, i, hs, he⟩ := h
  rw [emitAll_getElem?, hs, Option.map_some, Option.some.injEq] at he
  exact ⟨_, he⟩

/-- Whatever a run generates reserves the slot of the window handles if and only if no step that is
generated stores something in it. -/
theorem reservesSlot_iff (context : Context) (steps : List Step) :
    (∀ s e, Generated context steps s e → ReservesSlot (Recorded context steps) s e) ↔
      ¬Recorded context steps Scope.windowHandlesSlot := by
  constructor
  · rintro hreserves ⟨s, e, hgenerated, hstores⟩
    obtain ⟨c, hc⟩ := exists_emit_of_generated hgenerated
    exact not_reservesSlot_of_stores hc hgenerated.1 hstores (hreserves s e hgenerated)
  · intro hfree s e hgenerated
    obtain ⟨c, hc⟩ := exists_emit_of_generated hgenerated
    have hstores : ¬s.Stores Scope.windowHandlesSlot :=
      fun hslot => hfree ⟨s, e, hgenerated, hslot⟩
    exact reservesSlot_of_not_stores hc hgenerated.1 hstores hfree

/-- A script's result that is stored under the name of the slot takes the place of the snapshot,
before the new handle is looked for. -/
theorem slot_overwritten :
    let step : Step :=
      { name := "executeScript", target := "return 1", value := "windowHandles",
        opensWindow := true }
    let e : Emission := .block ⟨[
      ⟨0, "$this->vars['windowHandles'] = $this->windowHandles($I);"⟩,
      ⟨0, "$this->vars['windowHandles'] = $I->executeJS('return 1');"⟩,
      ⟨0, "$this->waitForWindow($I, 2);"⟩], 0, 0⟩
    Generated {} [step] step e ∧ ¬ReservesSlot (Recorded {} [step]) step e := by
  intro step e
  have hrun : (default.emitAll {} [step]).map Except.toOption = [some e] := by
    decide +kernel
  have hgenerated : Generated {} [step] step e :=
    ⟨by decide +kernel, 0, rfl, getElem?_eq_ok (by rw [hrun]; rfl)⟩
  refine ⟨hgenerated, fun hreserves => ?_⟩
  have hassigns : Php.Assigns "$this->vars['windowHandles'] = $I->executeJS('return 1');"
      Scope.windowHandlesSlot := by
    rw [Php.Assigns]
    decide +kernel
  exact hreserves.between rfl _ [⟨0, _⟩] _ rfl _ List.mem_cons_self hassigns

end Registry

end CestExport
