import CestExport.Recording.Reading

/-!
# A refusal names its faults

A check gives a value, or lists what is wrong with the data.  That list is never
empty: a single check that refuses names one fault, and checks that are joined,
moved inside a larger value or made for every item of a list lose none.

    Project.ofData d = .invalid faults  →  faults ≠ []             (faults_ne_nil_ofData)
-/

namespace CestExport

/-! ## Algorithm -/

/-- A value that passed, or a refusal that names a fault. -/
def Checked.Explained {α : Type} : Checked α → Prop
  | valid _ => True
  | invalid faults => faults ≠ []

/-! ## Joining checks -/

namespace Checked

variable {α β : Type}

theorem explained_fault (k : FaultKind) : (fault k : Checked α).Explained := by
  show [(⟨[], k⟩ : DataFault)] ≠ []
  simp

theorem Explained.ite {p : Prop} [Decidable p] {x y : Checked α} (hx : x.Explained)
    (hy : y.Explained) : (if p then x else y).Explained := by
  by_cases hp : p
  · rw [if_pos hp]
    exact hx
  · rw [if_neg hp]
    exact hy

theorem Explained.map {x : Checked α} (h : x.Explained) (f : α → β) : (x.map f).Explained := by
  cases x with
  | valid a => trivial
  | invalid faults => exact h

theorem Explained.and {x : Checked (α → β)} {y : Checked α} (hx : x.Explained)
    (hy : y.Explained) : (x.and y).Explained := by
  cases x with
  | valid f =>
    cases y with
    | valid a => trivial
    | invalid faults => exact hy
  | invalid faults =>
    cases y with
    | valid a => exact hx
    | invalid more =>
      show faults ++ more ≠ []
      exact List.append_ne_nil_of_left_ne_nil hx more

theorem Explained.andThen {x : Checked α} {f : α → Checked β} (hx : x.Explained)
    (hf : ∀ a, (f a).Explained) : (x.andThen f).Explained := by
  cases x with
  | valid a => exact hf a
  | invalid faults => exact hx

theorem Explained.inside {x : Checked α} (h : x.Explained) (p : Place) :
    (x.inside p).Explained := by
  cases x with
  | valid a => trivial
  | invalid faults =>
    have hmap : ∀ g : DataFault → DataFault, faults.map g ≠ [] := by
      intro g hg
      exact h (List.map_eq_nil_iff.1 hg)
    exact hmap _

theorem explained_each {check : Data → Checked α} (h : ∀ d, (check d).Explained) (n : Nat)
    (ds : List Data) : (each check n ds).Explained := by
  induction ds generalizing n with
  | nil => trivial
  | cons d ds ih =>
    rw [each]
    apply Explained.and
    · exact ((h d).inside (.index n)).map List.cons
    · exact ih (n + 1)

end Checked

/-! ## Single checks -/

namespace Check

open Checked

variable {α : Type}

theorem explained_decoded (bs : List UInt8) (k : FaultKind) : (decoded bs k).Explained := by
  unfold decoded
  split
  next => trivial
  next => exact explained_fault k

theorem explained_text (d : Data) : (text d).Explained := by
  unfold text
  split
  next => trivial
  next => exact explained_decoded _ _
  next => exact explained_fault .textType

theorem explained_boolOfText (s : String) : (boolOfText s).Explained :=
  .ite trivial (.ite trivial (explained_fault .boolReading))

theorem explained_bool (d : Data) : (bool d).Explained := by
  unfold bool
  split
  next => trivial
  next => exact explained_boolOfText _
  next => exact (explained_decoded _ _).andThen explained_boolOfText
  next =>
    -- one and zero pass; what is refused depends on the size of the number
    refine .ite trivial (.ite trivial ?_)
    exact .ite (explained_fault .boolReading) (explained_fault .boolType)
  next => exact .ite trivial (.ite trivial (explained_fault .boolType))
  next => exact explained_fault .boolType

theorem explained_wholeOfChars (cs : List Char) : (wholeOfChars cs).Explained :=
  .ite (explained_fault .wholeReading) (.ite (explained_fault .wholeSize) trivial)

theorem explained_wholeOfText (s : String) : (wholeOfText s).Explained := by
  unfold wholeOfText
  dsimp only
  split
  next => exact explained_wholeOfChars _
  next => exact explained_fault .wholeReading

theorem explained_whole (d : Data) : (whole d).Explained := by
  unfold whole
  split
  next => trivial
  next => trivial
  next => exact explained_wholeOfText _
  next => exact (explained_decoded _ _).andThen explained_wholeOfText
  next =>
    split
    next => exact explained_fault .finiteNumber
    next =>
      refine .ite (explained_fault .wholeFraction) ?_
      exact .ite trivial (explained_fault .wholeSize)
  next => exact explained_fault .wholeType

/-! ## Collections and fields -/

section

variable {check : Data → Checked α} (hcheck : ∀ d, (check d).Explained)

include hcheck

theorem explained_items (k : FaultKind) (d : Data) : (items k check d).Explained := by
  unfold items
  split
  next => exact explained_each hcheck 0 _
  next => exact explained_fault k

theorem explained_list (d : Data) : (list check d).Explained :=
  explained_items hcheck .listType d

theorem explained_tuple (d : Data) : (tuple check d).Explained :=
  explained_items hcheck .tupleType d

theorem explained_nullable (d : Data) : (nullable check d).Explained := by
  unfold nullable
  split
  next => trivial
  next => exact (hcheck _).map some

theorem explained_field (entries : List (Data × Data)) (key : String) (others : List String)
    (default : α) : (field entries key others default check).Explained := by
  unfold field
  split
  next => exact (hcheck _).inside _
  next => trivial

theorem explained_required (entries : List (Data × Data)) (key : String) :
    (required entries key check).Explained := by
  unfold required
  split
  next => exact (hcheck _).inside _
  next => exact (explained_fault .missing).inside _

end

theorem explained_record {check : List (Data × Data) → Checked α}
    (hcheck : ∀ entries, (check entries).Explained) (name : String) (d : Data) :
    (record name check d).Explained := by
  unfold record
  split
  next => exact hcheck _
  next => exact explained_fault _

end Check

/-! ## Recordings -/

open Check

theorem Script.explained_ofData (d : Data) : (Script.ofData d).Explained := by
  apply explained_record
  intro entries
  apply Checked.Explained.and
  · exact (explained_required explained_text entries _).map _
  · exact explained_field (explained_tuple explained_text) entries _ _ _

theorem Step.explained_ofData (d : Data) : (Step.ofData d).Explained := by
  apply explained_record
  intro entries
  have htext : ∀ key others, (field entries key others "" text).Explained :=
    fun key others => explained_field explained_text entries key others ""
  have hopens := explained_field explained_bool entries "opensWindow" ["opens_window"] false
  have htimeout := explained_field (explained_nullable explained_whole) entries "windowTimeout"
    ["window_timeout"] none
  have hscript := explained_field (explained_nullable Script.explained_ofData) entries "script"
    [] none
  exact ((htext "id" []).map _)
    |>.and (htext "command" ["name"])
    |>.and (htext "target" [])
    |>.and (htext "value" [])
    |>.and (htext "comment" [])
    |>.and hopens
    |>.and (htext "windowHandleName" ["window_handle_name"])
    |>.and htimeout
    |>.and hscript

theorem TestCase.explained_ofData (d : Data) : (TestCase.ofData d).Explained := by
  apply explained_record
  intro entries
  exact ((explained_field explained_text entries "id" [] "").map _)
    |>.and (explained_required explained_text entries "name")
    |>.and (explained_field (explained_list Step.explained_ofData) entries "commands" [] [])

theorem Suite.explained_ofData (d : Data) : (Suite.ofData d).Explained := by
  apply explained_record
  intro entries
  exact ((explained_field explained_text entries "id" [] "").map _)
    |>.and (explained_required explained_text entries "name")
    |>.and (explained_field (explained_list explained_text) entries "tests" [] [])

theorem Project.explained_ofData (d : Data) : (Project.ofData d).Explained := by
  apply explained_record
  intro entries
  exact ((explained_field explained_text entries "id" [] "").map _)
    |>.and (explained_required explained_text entries "name")
    |>.and (explained_field explained_text entries "url" [] "")
    |>.and (explained_field (explained_list TestCase.explained_ofData) entries "tests" [] [])
    |>.and (explained_field (explained_list Suite.explained_ofData) entries "suites" [] [])

/-- Data that is refused as a project is refused for a reason. -/
theorem Project.faults_ne_nil_ofData {d : Data} {faults : List DataFault}
    (h : Project.ofData d = .invalid faults) : faults ≠ [] := by
  have hexplained := Project.explained_ofData d
  rw [h] at hexplained
  exact hexplained

end CestExport
