import CestExport.Proofs.ReadBack
import CestExport.Proofs.Timeout

/-!
# Commands that wait for a time

The commands that wait for an element, the pause and the wait for a window paste the
literal for a time into their statement, and nothing else.  So the statement has a
number there exactly if the time is one; what is written instead is a word, which the
generated code does not read as a number.

    d.secondsOr fallback = .ok s  →
      s is numeric  ↔  the time is a number below the bound           (timeout_numeric_iff)
-/

namespace CestExport

open Number

/-! ## Algorithm -/

/-- A time that generated code waits for: the recorded one, the number of seconds that stands for a
blank one, and the statement around its literal. -/
structure Wait where
  recorded : Duration
  fallback : Int
  statement : String → String

namespace Wait

/-- The wait of a step for an element or a time. -/
inductive OfStep (settings : Settings) (s : Step) : Wait → Prop
  | element {statement : String → String → String} {e : String} :
    (s.name, statement) ∈ forElement → Locator.resolve s.target = .ok e →
    OfStep settings s ⟨.text s.value, settings.waitTimeout, statement e⟩
  | pause : s.name = "pause" →
    OfStep settings s ⟨.text s.target, 0, fun time => s!"$I->wait({time});"⟩

/-- The wait of a step for its window. -/
def forWindow (s : Step) : Wait where
  recorded := .whole (s.windowTimeout.getD Window.defaultTimeout)
  fallback := 0
  statement time :=
    let call := s!"$this->waitForWindow($I, {time})"
    if s.windowHandleName = "" then call ++ ";" else Scope.assignment s.windowHandleName call

/-- The lines hold the statement with the literal for the time, and it is a number just if the time
is blank or a number below the bound. -/
def StandsIn (w : Wait) (lines : List Line) : Prop :=
  ∃ t, w.recorded.seconds w.fallback = .ok t ∧ (⟨0, w.statement t⟩ : Line) ∈ lines ∧
    ((∃ q, Php.Numeric t.toList q) ↔ w.recorded.written = .ok "" ∨
      ∃ r q, w.recorded.written = .ok r ∧ Denotes r q ∧ |q| < overflowBound)

end Wait

/-! ## Statements -/

namespace Registry

/-- What a standard command drafts is among the lines of what is generated for its step. -/
theorem exists_draft_of_emit {c : Context} {s : Step} {e : Emission} {name : String}
    {g : Command.Standard} (hname : s.name = name)
    (hfind : Command.standard.find? (·.name == name) = some g)
    (h : (default.emit c s).1 = .ok e) : ∃ d, g.generator c.settings s = .ok d ∧
      ∀ l ∈ (d.settle c).1.toBlock.lines, l ∈ e.toBlock.lines := by
  cases hd : g.generator c.settings s with
  | error f =>
    simp [emit, find?_of_find hname hfind, Generator.emitter, hd, Except.map] at h
  | ok d =>
    refine ⟨d, rfl, fun l hl => ?_⟩
    rw [emit_of_draft c hname hfind hd] at h
    rcases finish_eq_ok h with ⟨-, rfl⟩ | ⟨-, b, scope, hwrap, rfl⟩
    · exact hl
    · obtain ⟨seconds, scope', -, rfl⟩ := Window.wrap_eq_ok hwrap
      exact List.mem_append_left _ (List.mem_cons_of_mem _ hl)

end Registry

namespace Command

theorem locatorAndTimeout_eq_ok {settings : Settings} {s : Step} {p : String × String} :
    locatorAndTimeout settings s = .ok p ↔ Locator.resolve s.target = .ok p.1 ∧
      (Duration.text s.value).seconds settings.waitTimeout = .ok p.2 := by
  rw [locatorAndTimeout, bind_eq_ok]
  constructor
  · rintro ⟨e, he, h⟩
    obtain ⟨time, htime, h⟩ := bind_eq_ok.1 h
    cases h
    exact ⟨he, htime⟩
  · rintro ⟨he, htime⟩
    exact ⟨p.1, he, bind_eq_ok.2 ⟨p.2, htime, rfl⟩⟩

/-- The commands that wait for an element are found under their names. -/
theorem find?_forElement : ∀ p ∈ Wait.forElement, ∃ g,
    standard.find? (·.name == p.1) = some g ∧ g.generator = Wait.generator p.2 := by
  simp only [Wait.forElement, List.forall_mem_cons, List.not_mem_nil, false_implies, implies_true,
    and_true]
  exact ⟨⟨_, rfl, rfl⟩, ⟨_, rfl, rfl⟩, ⟨_, rfl, rfl⟩, ⟨_, rfl, rfl⟩, ⟨_, rfl, rfl⟩, ⟨_, rfl, rfl⟩⟩

end Command

namespace Wait

theorem standsIn_of_seconds {w : Wait} {lines : List Line} {t : String}
    (h : w.recorded.seconds w.fallback = .ok t) (hmem : (⟨0, w.statement t⟩ : Line) ∈ lines) :
    w.StandsIn lines :=
  ⟨t, h, hmem, (Duration.numeric_seconds_iff h).trans (Duration.isNumber_wholeSeconds_iff h)⟩

section

variable {c : Context} {s : Step} {e : Emission} (h : (Registry.default.emit c s).1 = .ok e)
include h

theorem exists_forElement (hname : s.name ∈ forElement.map (·.1)) :
    ∃ w, OfStep c.settings s w ∧ w.StandsIn e.toBlock.lines := by
  obtain ⟨⟨name, statement⟩, hp, hs⟩ := List.mem_map.1 hname
  obtain rfl : name = s.name := hs
  obtain ⟨g, hfind, hgenerator⟩ := Command.find?_forElement _ hp
  obtain ⟨d, hd, hlines⟩ := Registry.exists_draft_of_emit rfl hfind h
  rw [hgenerator] at hd
  obtain ⟨⟨element, time⟩, hpair, rfl⟩ := map_eq_ok.1 hd
  obtain ⟨hresolve, hseconds⟩ := Command.locatorAndTimeout_eq_ok.1 hpair
  refine ⟨_, .element hp hresolve, standsIn_of_seconds hseconds (hlines _ ?_)⟩
  exact List.mem_singleton_self _

theorem exists_pause (hname : s.name = "pause") :
    ∃ w, OfStep c.settings s w ∧ w.StandsIn e.toBlock.lines := by
  obtain ⟨d, hd, hlines⟩ := Registry.exists_draft_of_emit hname rfl h
  obtain ⟨time, hseconds, rfl⟩ := map_eq_ok.1 hd
  refine ⟨_, .pause hname, standsIn_of_seconds hseconds (hlines _ ?_)⟩
  exact List.mem_singleton_self _

end

theorem statement_forWindow (s : Step) (time : String) (scope : Scope) :
    (forWindow s).statement time = (Window.wait s time scope).1 := by
  simp only [forWindow, Window.wait]
  split
  next => rfl
  next hname => rw [Scope.write_of_ne_empty hname]

theorem standsIn_wrap {s : Step} {e : Emission} {scope scope' : Scope} {b : Block}
    (h : Window.wrap s e scope = .ok (b, scope')) : (forWindow s).StandsIn b.lines := by
  obtain ⟨seconds, scope'', hseconds, rfl⟩ := Window.wrap_eq_ok h
  refine standsIn_of_seconds hseconds (List.mem_append_right _ ?_)
  rw [statement_forWindow s seconds scope'']
  exact List.mem_singleton_self _

end Wait

/-- A time is written as a number exactly if it is one, whatever stands for a blank time; the pause,
the commands that wait for an element and the wait for a window hold what is written. -/
theorem timeout_numeric_iff (d : Duration) (fallback : Except Failure Binary64) (c : Context)
    (s : Step) :
    (∀ t, d.secondsOr fallback = .ok t →
      ((∃ q, Php.Numeric t.toList q) ↔ d.IsNumber fallback) ∧
        (¬d.IsNumber fallback → t ∈ ["inf", "-inf", "nan"])) ∧
    (∀ e, (Registry.default.emit c s).1 = .ok e →
      s.name = "pause" ∨ s.name ∈ Wait.forElement.map (·.1) →
        ∃ w, Wait.OfStep c.settings s w ∧ w.StandsIn e.toBlock.lines) ∧
    ∀ e scope b scope', Window.wrap s e scope = .ok (b, scope') →
      (Wait.forWindow s).StandsIn b.lines := by
  refine ⟨fun t h => ?_, fun e h hname => ?_, fun e scope b scope' => Wait.standsIn_wrap⟩
  · exact ⟨Duration.numeric_seconds_iff h, Duration.word_of_seconds h⟩
  · rcases hname with hname | hname
    · exact Wait.exists_pause h hname
    · exact Wait.exists_forElement h hname

/-- What is no number in words is none in digits. -/
theorem timeout_fails_nan : (Duration.text "nan").seconds 0 = .ok "nan" ∧
    ¬∃ q, Php.Numeric "nan".toList q :=
  ⟨by decide +kernel, fun ⟨q, hq⟩ => Php.not_numeric_word (by decide) q hq⟩

end CestExport
