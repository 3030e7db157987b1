import CestExport.Proofs.Address.Line
import CestExport.Proofs.Number.Reading

/-!
# Frames by number

The number of a frame is read as a binary64 number, and its fraction is cut off.  So
a written number is refused from the bound of infinity on, and below it names a frame
whether it is whole or not; a whole number names itself exactly if binary64 has it.

    frame index=v fails  ↔  no number below the bound is written
    index=v is exact     ↔  v writes no number, one from the bound on, or a whole one
                              that binary64 has                  (exactIndex_iff)
-/

namespace CestExport.Address

open Number

/-! ## Algorithm -/

/-- A value is a frame's number only if it writes a whole one, and then it names that one. -/
structure ExactIndex (v : String) : Prop where
  answers : ∀ a, frame ("index=" ++ v) = .ok a →
    ∃ i : Int, Denotes v i ∧ a = .index (decimal i)
  refuses : (∀ i : Int, ¬Denotes v i) → ∃ f, frame ("index=" ++ v) = .error f ∧
    f.kind = .addressing ∧ f.target? = some ("index=" ++ v)

/-! ## Reading -/

theorem frame_index {v : String} (hv : '\n' ∉ v.toList) :
    frame ("index=" ++ v) = frameIndex ("index=" ++ v) v := by
  have hfirst : ∀ u : String, u.toList.head? ≠ some 'i' → "index=" ++ v ≠ u := by
    rintro u hu rfl
    exact hu (by rw [String.toList_append]; rfl)
  rw [frame, if_neg (hfirst _ (by decide)), if_neg (hfirst _ (by decide)),
    lineAfter?_of_not_mem hv]

/-- A text that writes no number is refused. -/
theorem frameIndex_of_not_denotes {v : String} (h : ∀ q, ¬Denotes v q) (target : String) :
    frameIndex target v = .error (.frameIndex target) := by
  have hnone : (readDecimal? v).bind (·.truncate?) = none := by
    cases hx : readDecimal? v with
    | none => rfl
    | some x =>
      cases hi : x.truncate? with
      | none => simp [hi]
      | some i =>
        obtain ⟨negative, m, e, hnumeral⟩ := numeral_of_readDecimal? hx (by rw [hi]; rfl)
        exact absurd ⟨negative, m, e, hnumeral, rfl⟩ (h _)
  rw [frameIndex, hnone]

/-- A number from the bound on is refused. -/
theorem frameIndex_of_overflow {v : String} {q : ℚ} (h : Denotes v q) (hq : overflowBound ≤ |q|)
    (target : String) : frameIndex target v = .error (.frameIndex target) := by
  obtain ⟨negative, x, hx, hrounded, -⟩ := exists_rounded_of_denotes h
  rw [frameIndex, hx]
  cases hrounded with
  | finite hlt => exact absurd hq (not_le.2 hlt)
  | infinite => rfl

/-- A number below the bound names a frame that binary64 has. -/
theorem exists_frameIndex {v : String} {q : ℚ} (h : Denotes v q) (hq : |q| < overflowBound)
    (target : String) : ∃ i : Int, frameIndex target v = .ok (.index (decimal i)) ∧
      IsBinary64 i ∧ ∀ j : Int, q = j → IsBinary64 j → i = j := by
  obtain ⟨negative, x, hx, hrounded, hsign⟩ := exists_rounded_of_denotes h
  rw [frameIndex, hx]
  cases hrounded with
  | @finite m e hlt hm he hexact =>
    obtain ⟨i, hi⟩ : ∃ i, Binary64.truncate? (.finite negative m e) = some i := ⟨_, rfl⟩
    refine ⟨i, by rw [Option.bind_some, hi], Binary64.isBinary64_of_truncate? hm he hi, ?_⟩
    rintro j rfl hj
    have habs : |(j : ℚ)| = (j.natAbs : ℚ) := by
      rw [Nat.cast_natAbs, Int.cast_abs]
    have hvalue : (m : ℚ) * 2 ^ e = (j.natAbs : ℚ) := by
      rw [hexact (by rwa [IsBinary64, abs_abs]), habs]
    rw [Binary64.truncate?_of_eq hvalue] at hi
    cases hi
    have hcast : ((if negative then -(j.natAbs : Int) else j.natAbs : Int) : ℚ) = j := by
      rw [hsign, habs]
      cases negative
      · simp
      · simp
    exact_mod_cast hcast
  | infinite hge => exact absurd hq (not_lt.2 hge)

/-! ## Exactness -/

theorem frameIndex_error_iff {v : String} (target : String) :
    frameIndex target v = .error (.frameIndex target) ↔
      ∀ q, Denotes v q → overflowBound ≤ |q| := by
  constructor
  · intro h q hq
    by_contra hlt
    obtain ⟨i, hi, -⟩ := exists_frameIndex hq (not_le.1 hlt) target
    rw [hi] at h
    cases h
  · intro h
    by_cases hnone : ∀ q, ¬Denotes v q
    · exact frameIndex_of_not_denotes hnone target
    · obtain ⟨q, hq⟩ := not_forall_not.1 hnone
      exact frameIndex_of_overflow hq (h q hq) target

theorem exactIndex_iff {v : String} (hv : '\n' ∉ v.toList) : ExactIndex v ↔
    ∀ q, Denotes v q → overflowBound ≤ |q| ∨ ∃ i : Int, q = i ∧ IsBinary64 i := by
  constructor
  · intro h q hq
    rcases le_or_gt overflowBound |q| with hge | hlt
    · exact .inl hge
    · obtain ⟨i, hi, hbinary, -⟩ := exists_frameIndex hq hlt ("index=" ++ v)
      rw [← frame_index hv] at hi
      obtain ⟨j, hj, heq⟩ := h.answers _ hi
      obtain rfl : i = j := decimal_inj (FrameAddress.index.inj heq)
      exact .inr ⟨i, hq.unique hj, hbinary⟩
  · intro h
    refine ⟨fun a ha => ?_, fun hnone => ?_⟩
    · rw [frame_index hv] at ha
      have hsome : ¬∀ q, Denotes v q → overflowBound ≤ |q| := by
        intro hall
        rw [(frameIndex_error_iff _).2 hall] at ha
        cases ha
      obtain ⟨q, hq⟩ := not_forall.1 hsome
      obtain ⟨hdenotes, hlt⟩ := Classical.not_imp.1 hq
      rcases h q hdenotes with hge | ⟨j, rfl, hbinary⟩
      · exact absurd hge hlt
      · obtain ⟨i, hi, -, hexact⟩ := exists_frameIndex hdenotes (not_le.1 hlt) ("index=" ++ v)
        obtain rfl : i = j := hexact j rfl hbinary
        rw [hi] at ha
        exact ⟨i, hdenotes, (Except.ok.inj ha).symm⟩
    · refine ⟨.frameIndex ("index=" ++ v), ?_, rfl, rfl⟩
      rw [frame_index hv, frameIndex_error_iff]
      intro q hq
      rcases h q hq with hge | ⟨i, rfl, -⟩
      · exact hge
      · exact absurd hq (hnone i)

theorem frame_index_decides {v : String} (hv : '\n' ∉ v.toList) :
    (frame ("index=" ++ v) = .error (.frameIndex ("index=" ++ v)) ↔
      ∀ q, Denotes v q → overflowBound ≤ |q|) ∧
    (∀ i : Int, Denotes v i →
      (frame ("index=" ++ v) = .ok (.index (decimal i)) ↔ IsBinary64 i)) ∧
    (ExactIndex v ↔
      ∀ q, Denotes v q → overflowBound ≤ |q| ∨ ∃ i : Int, q = i ∧ IsBinary64 i) := by
  refine ⟨?_, fun i hi => ?_, exactIndex_iff hv⟩
  · rw [frame_index hv]
    exact frameIndex_error_iff _
  · rw [frame_index hv]
    constructor
    · intro h
      rcases le_or_gt overflowBound |(i : ℚ)| with hge | hlt
      · rw [frameIndex_of_overflow hi hge] at h
        cases h
      · obtain ⟨j, hj, hbinary, -⟩ := exists_frameIndex hi hlt ("index=" ++ v)
        rw [hj] at h
        obtain rfl : j = i := decimal_inj (FrameAddress.index.inj (Except.ok.inj h))
        exact hbinary
    · intro hbinary
      obtain ⟨j, hj, -, hexact⟩ := exists_frameIndex hi hbinary.lt_overflowBound ("index=" ++ v)
      rw [hj, hexact i rfl hbinary]

theorem frame_index_decides_wholeFraction : '\n' ∉ "1.0".toList ∧
    frame ("index=" ++ "1.0") = .ok (.index (decimal 1)) ∧ ExactIndex "1.0" := by
  have hline : '\n' ∉ "1.0".toList := by decide
  have hone : Denotes "1.0" (1 : Int) :=
    ⟨false, 10, -1, written?_eq_some.1 (by decide), by norm_num⟩
  have hbinary : IsBinary64 (1 : Int) :=
    ⟨1, 0, by norm_num, by norm_num, by norm_num, by norm_num⟩
  obtain ⟨-, hnamed, hexact⟩ := frame_index_decides hline
  exact ⟨hline, (hnamed 1 hone).2 hbinary, hexact.2 fun q hq => .inr ⟨1, hq.unique hone, hbinary⟩⟩

/-- A number with a fraction names the frame before it. -/
theorem not_exactIndex_fraction : ¬ExactIndex "1.5" := by
  intro h
  have hframe : frame ("index=" ++ "1.5") = .ok (.index "1") := by decide +kernel
  have hhalf : Denotes "1.5" (3 / 2) :=
    ⟨false, 15, -1, written?_eq_some.1 (by decide), by norm_num⟩
  obtain ⟨i, hi, -⟩ := h.answers _ hframe
  have hwhole : (i : ℚ) = 3 / 2 := hi.unique hhalf
  have hdouble : 2 * i = 3 := by
    have hcast : (2 * (i : ℚ)) = 3 := by rw [hwhole]; norm_num
    exact_mod_cast hcast
  omega

end CestExport.Address
