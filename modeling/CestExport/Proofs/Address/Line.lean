import CestExport.Address
import CestExport.Proofs.Template

/-!
# The line behind a mark

What follows a mark is one line.  A line break at its end is lost, and one within
it leaves no line at all.

    line? cs = some l  ↔  l has no line break, and cs is l or l and a line break
                                                                  (line?_eq_some)
    lineAfter? mark (mark ++ v) is the line of v              (lineAfter?_append)
-/

namespace CestExport.Address

theorem line?_eq_some {cs l : List Char} :
    line? cs = some l ↔ '\n' ∉ l ∧ (cs = l ∨ cs = l ++ ['\n']) := by
  unfold line?
  constructor
  · intro h
    split at h
    next hnone =>
      cases h
      exact ⟨Text.cutFirstChars_eq_none.1 hnone, .inl rfl⟩
    next hcut =>
      cases h
      obtain ⟨hcs, hfree⟩ := Text.cutFirstChars_eq hcut
      exact ⟨hfree, .inr hcs⟩
    next => cases h
  · rintro ⟨hfree, rfl | rfl⟩
    · rw [Text.cutFirstChars_eq_none.2 hfree]
    · rw [Template.cutFirstChars_append hfree]

theorem lineAfter?_append (mark v : String) :
    lineAfter? mark (mark ++ v) = (line? v.toList).map String.ofList := by
  have hdrop : Text.dropBeginning? mark.toList (mark ++ v).toList = some v.toList :=
    Text.dropBeginning?_eq_some.2 String.toList_append
  rw [lineAfter?, hdrop, Option.bind_some]

theorem lineAfter?_eq_none {mark target : String} (h : ∀ v, target ≠ mark ++ v) :
    lineAfter? mark target = none := by
  cases hdrop : Text.dropBeginning? mark.toList target.toList with
  | none => rw [lineAfter?, hdrop, Option.bind_none]
  | some cs =>
    refine absurd (String.toList_injective ?_) (h (String.ofList cs))
    rw [Text.dropBeginning?_eq_some.1 hdrop, String.toList_append, String.toList_ofList]

/-- A value without line breaks is kept. -/
theorem lineAfter?_of_not_mem {v : String} (h : '\n' ∉ v.toList) (mark : String) :
    lineAfter? mark (mark ++ v) = some v := by
  rw [lineAfter?_append, line?_eq_some.2 ⟨h, .inl rfl⟩, Option.map_some, String.ofList_toList]

end CestExport.Address
