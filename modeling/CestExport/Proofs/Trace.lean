import CestExport.Proofs.Command.Stored
import CestExport.Proofs.Timeout

/-!
# What a step that fails leaves behind

A command that fails has not touched the context, since an emitter returns one only
if it succeeds.  Behind a command that is generated a step can only fail for its window, if the time to wait for it has more
digits than may be shown.  By then the command has recorded its variable and
numbered its loop, and the context keeps both.

    a step fails  ↔  its command fails and c' = c, or the wait for its window is too
      long and c' is what the command leaves                    (emit_eq_error_iff)
    no failure changes the variables or the count of loops  ↔  ¬s.LeavesTrace c
                                                              (keepsOnFailure_iff)
-/

namespace CestExport

/-! ## Algorithm -/

/-- A step waits for its window for a time that has more digits than may be shown. -/
structure Step.WaitsTooLong (s : Step) : Prop where
  opens : s.opensWindow = true
  long : ∃ n, s.windowTimeout = some n ∧
    Number.digitLimit < (Nat.toDigits 10 n.natAbs).length

/-- A step stores something in a variable that is new, or numbers a loop. -/
def Step.Changes (s : Step) (c : Context) : Prop :=
  (∃ n, n ≠ "" ∧ n = Command.storedIn s.name s ∧ n ∉ c.scope.written) ∨ s.isNumbered = true

namespace Registry

/-- The command of a step is generated, and leaves a context, before a window is looked at. -/
def Drafts (r : Registry) (c : Context) (s : Step) (c' : Context) : Prop :=
  ∃ emitter e, r.find? s.name = some emitter ∧ emitter c s = .ok (e, c')

/-- If the step fails, the variables and the count of loops are the same as before. -/
def KeepsOnFailure (r : Registry) (c : Context) (s : Step) : Prop :=
  ∀ f c', r.emit c s = (.error f, c') →
    c'.scope.written = c.scope.written ∧ c'.counters = c.counters

end Registry

/-- A step whose command is generated and changes the context, and that fails for its window. -/
structure Step.LeavesTrace (s : Step) (c : Context) : Prop where
  waits : s.WaitsTooLong
  drafts : ∃ c', Registry.default.Drafts c s c'
  changes : s.Changes c

/-! ## Times that are too long -/

namespace Number

theorem isShowable_iff {n : Int} :
    isShowable n = true ↔ (Nat.toDigits 10 n.natAbs).length ≤ digitLimit := by
  have hpower : ∀ k, tenTo k = 10 ^ k := fun _ => rfl
  rw [isShowable, decide_eq_true_eq, hpower, Nat.length_toDigits_le_iff (by decide) (by decide)]

/-- Whatever number is written is read as some number. -/
theorem exists_readDecimal?_of_decimal (n : Int) : ∃ x, readDecimal? (decimal n) = some x := by
  obtain ⟨-, x, hx, -⟩ := exists_rounded_of_denotes (Php.numeric_decimal n).denotes
  exact ⟨x, hx⟩

end Number

namespace Duration

/-- A whole time has a literal if and only if it can be shown. -/
theorem seconds_whole_eq_error_iff {n : Int} {f : Failure} : (whole n).seconds 0 = .error f ↔
    Number.isShowable n = false ∧ f = .whole .tooLongToShow := by
  cases hshow : Number.isShowable n with
  | false =>
    have hwritten : (whole n).written = .error (.whole .tooLongToShow) := by
      rw [written, Number.showWhole, hshow]
      rfl
    rw [seconds, secondsOr, hwritten]
    exact ⟨fun h => by cases h; exact ⟨rfl, rfl⟩, fun h => by rw [h.2]; rfl⟩
  | true =>
    refine iff_of_false (fun h => ?_) fun h => by cases h.1
    obtain ⟨x, hx⟩ := Number.exists_readDecimal?_of_decimal n
    have hwritten : (whole n).written = .ok (Number.decimal n) := by
      rw [written, Number.showWhole, hshow]
      rfl
    have hne : Number.decimal n ≠ "" := by
      intro hempty
      rw [hempty, readDecimal?_empty] at hx
      cases hx
    have hok : (whole n).seconds 0 = .ok (literal (x.divNat 1000)) :=
      secondsOr_eq_ok.2 ⟨_, hwritten, .inr ⟨hne, x, hx, rfl⟩⟩
    rw [hok] at h
    cases h

end Duration

/-- Nothing but a time that is too long keeps a step from waiting for its window. -/
theorem Window.timeout_eq_error_iff {s : Step} (hopens : s.opensWindow = true) {f : Failure} :
    timeout s = .error f ↔ s.WaitsTooLong ∧ f = .whole .tooLongToShow := by
  rw [timeout, Duration.seconds_whole_eq_error_iff, ← Bool.not_eq_true, Number.isShowable_iff,
    not_le]
  refine and_congr_left fun _ => ?_
  cases htime : s.windowTimeout with
  | none =>
    refine iff_of_false (fun h => absurd h (by decide)) ?_
    rintro ⟨-, n, hn, -⟩
    rw [htime] at hn
    cases hn
  | some n =>
    refine ⟨fun hlong => ⟨hopens, n, htime, hlong⟩, ?_⟩
    rintro ⟨-, m, hm, hlong⟩
    rw [htime] at hm
    cases hm
    exact hlong

/-! ## Contexts -/

theorem Scope.recordAll_named {scope : Scope} {name : String} :
    (scope.recordAll (named name)).written = scope.written ↔
      ∀ n, n ≠ "" → n = name → n ∈ scope.written := by
  by_cases hname : name = ""
  · rw [hname]
    exact iff_of_true rfl fun n hne hn => absurd hn hne
  · have hrecord : (scope.recordAll (named name)).written = addNew scope.written name := by
      simp [recordAll, named, addAllNew, hname]
    rw [hrecord, addNew]
    split
    next hmem => exact iff_of_true rfl fun n _ hn => hn ▸ hmem
    next hmem => exact iff_of_false (by simp) fun h => hmem (h name hname rfl)

/-- What the command of a step leaves differs from the context in front of it just if the step
changes something. -/
theorem Step.not_changes_iff {s : Step} {c : Context} : ¬s.Changes c ↔
    (c.advance (named (Command.storedIn s.name s)) s.isNumbered.toNat).scope.written =
      c.scope.written ∧
    (c.advance (named (Command.storedIn s.name s)) s.isNumbered.toNat).counters = c.counters := by
  have hcounters : c.counters + s.isNumbered.toNat = c.counters ↔ ¬s.isNumbered = true := by
    cases s.isNumbered <;> simp
  simp only [Context.advance, Scope.recordAll_named, hcounters, Changes, not_or, not_exists,
    not_and, not_not]

/-! ## Steps -/

namespace Registry

section

variable {r : Registry} {c c' : Context} {s : Step} {e : Emission} {f : Failure}

theorem finish_eq_error_iff : finish s e c = (.error f, c') ↔
    (s.WaitsTooLong ∧ f = .whole .tooLongToShow) ∧ c' = c := by
  cases hopens : s.opensWindow with
  | false =>
    refine iff_of_false (fun h => ?_) fun h => by simp [h.1.1.opens] at hopens
    rw [finish, hopens] at h
    cases h
  | true =>
    rw [← Window.timeout_eq_error_iff hopens, finish, if_pos hopens, Window.wrap]
    cases Window.timeout s with
    | error g => simp [Except.map, eq_comm]
    | ok seconds => simp [Except.map]

/-- A step fails if its command does, which leaves the context alone, or if the wait for its window
is too long, behind all that the command has done. -/
theorem emit_eq_error_iff : r.emit c s = (.error f, c') ↔
    (∃ emitter, r.find? s.name = some emitter ∧ emitter c s = .error f ∧ c' = c) ∨
      (s.WaitsTooLong ∧ f = .whole .tooLongToShow ∧ r.Drafts c s c') := by
  unfold emit Drafts
  cases hfind : r.find? s.name with
  | none => simp
  | some emitter =>
    cases hemitter : emitter c s with
    | error g => simp [hemitter, eq_comm]
    | ok p =>
      obtain ⟨e, c''⟩ := p
      simp only [hemitter, finish_eq_error_iff]
      simp [hemitter, and_assoc, eq_comm]

/-- A standard command that is generated has recorded the variable that its step names for it, and
numbered its loop. -/
theorem drafts_default (h : default.Drafts c s c') :
    c' = c.advance (named (Command.storedIn s.name s)) s.isNumbered.toNat := by
  obtain ⟨emitter, e, hfind, hemitter⟩ := h
  obtain ⟨standard, hstandard, hname, rfl⟩ := find?_default hfind
  obtain ⟨d, hd, hsettle⟩ := map_eq_ok.1 hemitter
  have hnames := Command.names_of_mem_standard hstandard c.settings s d hd
  have hloops := loops_of_mem_standard hstandard hname hd
  rw [← hname, ← hnames, ← hloops, ← d.settle_advance, hsettle]

end

/-- A failing step leaves the variables and the count of loops as they were, except for one whose
command is generated and changes them, and that opens a window for which it waits too long.  Such a
step always fails. -/
theorem keepsOnFailure_iff (c : Context) (s : Step) :
    default.KeepsOnFailure c s ↔ ¬s.LeavesTrace c := by
  constructor
  · rintro hkeeps ⟨hwaits, ⟨c', hdrafts⟩, hchanges⟩
    have hsame := hkeeps _ c' (emit_eq_error_iff.2 (.inr ⟨hwaits, rfl, hdrafts⟩))
    rw [drafts_default hdrafts, ← Step.not_changes_iff] at hsame
    exact hsame hchanges
  · intro hnone f c' hemit
    obtain ⟨-, -, -, rfl⟩ | ⟨hwaits, -, hdrafts⟩ := emit_eq_error_iff.1 hemit
    · exact ⟨rfl, rfl⟩
    · have hsame : ¬s.Changes c := fun hchanges => hnone ⟨hwaits, ⟨c', hdrafts⟩, hchanges⟩
      rw [drafts_default hdrafts]
      exact Step.not_changes_iff.1 hsame

/-- The variable of a step that fails since it waits too long for its window is kept, and so is the
counter of a loop that does; the time has one digit more than may be shown. -/
theorem not_keepsOnFailure_longTimeout :
    let time : Int := Number.twoTo 14285
    let store : Step :=
      { name := "store", target := "1", value := "x", opensWindow := true,
        windowTimeout := some time }
    let loop : Step :=
      { name := "times", target := "2", opensWindow := true, windowTimeout := some time }
    default.emit {} store = (.error (.whole .tooLongToShow), { scope := ⟨["x"]⟩ }) ∧
      ¬default.KeepsOnFailure {} store ∧
    default.emit {} loop = (.error (.whole .tooLongToShow), { counters := 1 }) ∧
      ¬default.KeepsOnFailure {} loop := by
  intro time store loop
  have hstore : default.emit {} store = (.error (.whole .tooLongToShow), { scope := ⟨["x"]⟩ }) := by
    decide +kernel
  have hloop : default.emit {} loop = (.error (.whole .tooLongToShow), { counters := 1 }) := by
    decide +kernel
  refine ⟨hstore, fun hkeeps => ?_, hloop, fun hkeeps => ?_⟩
  · exact absurd (hkeeps _ _ hstore).1 (by decide)
  · exact absurd (hkeeps _ _ hloop).2 (by decide)

end Registry

end CestExport
