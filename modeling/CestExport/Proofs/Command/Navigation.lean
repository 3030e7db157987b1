import CestExport.Command.Navigation
import CestExport.Proofs.Command.Element

/-!
# Commands that navigate leave blocks alone

The number of a window or frame is pasted as it was read, not as it was recorded.

    Address.window target = .ok (.serial n)  →  Closed 0 n                 (closed_serial)
    Address.frame target = .ok (.index n)    →  Closed 0 n                  (closed_index)
-/

namespace CestExport.Address

open Php

/-! ## Numbers of windows and frames -/

theorem closed_serial {target n : String} (h : window target = .ok (.serial n)) : Closed 0 n := by
  unfold window at h
  split at h
  next => cases h
  next =>
    split at h
    next => cases h
    next =>
      split at h
      next number _ =>
        unfold serial at h
        split at h
        next =>
          cases h
          rfl
        next =>
          split at h
          next =>
            obtain ⟨k, _, hk⟩ := map_eq_ok.1 h
            cases hk
            exact closed_decimal k
          next => cases h
      next => cases h

theorem closed_index {target n : String} (h : frame target = .ok (.index n)) : Closed 0 n := by
  unfold frame at h
  split at h
  next => cases h
  next =>
    split at h
    next => cases h
    next =>
      split at h
      next number _ =>
        unfold frameIndex at h
        split at h
        next k _ =>
          cases h
          exact closed_decimal k
        next => cases h
      next => cases h

end CestExport.Address

namespace CestExport.Command

open Php

/-! ## Commands -/

theorem fits_openUrl : openUrl.Fits .plain := by
  intro settings step d h
  cases h
  exact Draft.fits_statement (phrase_template "$I->amOnUrl(" [text _] [");"] (by decide) rfl rfl
    (by simp only [List.forall_mem_singleton, closed_text]))

theorem fits_close : close.Fits .plain := by
  intro settings step d h
  cases h
  exact Draft.fits_statement ⟨rfl, by decide, rfl⟩

theorem fits_setWindowSize : setWindowSize.Fits .plain := by
  intro settings step d h
  obtain ⟨size, _, rfl⟩ := map_eq_ok.1 h
  exact Draft.fits_statement (phrase_template "$I->resizeWindow("
    [Number.decimal size.1, Number.decimal size.2] [", ", ");"] (by decide) rfl rfl
    (by simp [closed_decimal]))

theorem fits_selectWindow : selectWindow.Fits .plain := by
  intro settings step d h
  have hname (v : String) : Phrase s!"$I->switchToWindow({text v});" :=
    phrase_template "$I->switchToWindow(" [text v] [");"] (by decide) rfl rfl
      (by simp [closed_text])
  obtain ⟨address, haddress, rfl⟩ := map_eq_ok.1 h
  cases address with
  | handle v | name v => exact Draft.fits_statement (hname v)
  | serial n =>
    exact Draft.fits_statement (phrase_template "$I->switchToWindow("
      [Window.allHandles, n] ["[", "]);"] (by decide) rfl rfl
      (by simp [show Closed 0 Window.allHandles from rfl, Address.closed_serial haddress]))

theorem fits_selectFrame : selectFrame.Fits .plain := by
  intro settings step d h
  obtain ⟨address, haddress, h⟩ := bind_eq_ok.1 h
  cases address with
  | relative target =>
    cases h
    exact Draft.fits_statement (phrase_selenium rfl)
  | index n =>
    cases h
    have hframe : Closed 0 s!"$webDriver->switchTo()->frame({n})" :=
      closed_template "$webDriver->switchTo()->frame(" [n] [")"] rfl rfl
        (by simp [Address.closed_index haddress])
    exact Draft.fits_statement (phrase_selenium hframe)
  | locator l => exact fits_withElement h (.phrase (phrase_selenium rfl) (.nil 0))

end CestExport.Command
