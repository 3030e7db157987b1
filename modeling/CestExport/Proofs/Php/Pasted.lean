import CestExport.Recording.Step
import CestExport.Proofs.Locator
import CestExport.Proofs.Number.Character
import CestExport.Proofs.Php.Name
import CestExport.Proofs.Php.Nesting

/-!
# Expressions that are pasted into statements

Numbers, identifiers, locators, calls of scripts and assignments are closed,
whatever text they are made from.

    Locator.resolve l = .ok e       →  Closed 0 e                          (closed_resolve)
    d.seconds fallback = .ok s      →  Closed 0 s                          (closed_seconds)
    Closed 0 e                      →  Phrase (Scope.assignment name e) (phrase_assignment)
-/

namespace CestExport.Php

/-! ## Numbers and names -/

theorem silent_of_isFigure {c : Char} (h : Number.isFigure c = true) : Mark.of c = .silent := by
  unfold Mark.of
  split <;> first | rfl | exact absurd h (by decide)

theorem silent_of_isNameChar {c : Char} (h : isNameChar c = true) : Mark.of c = .silent := by
  unfold Mark.of
  split <;> first | rfl | exact absurd h (by decide)

theorem closed_of_figures {s : String} (h : ∀ c ∈ s.toList, Number.isFigure c = true) :
    Closed 0 s :=
  closed_of_silent fun c hc => silent_of_isFigure (h c hc)

theorem closed_of_nameChars {s : String} (h : ∀ c ∈ s.toList, isNameChar c = true) :
    Closed 0 s :=
  closed_of_silent fun c hc => silent_of_isNameChar (h c hc)

theorem closed_decimal (n : Int) : Closed 0 (Number.decimal n) :=
  closed_of_figures fun _ => Number.isFigure_of_mem_decimal

theorem closed_natural (n : Nat) : Closed 0 (toString n) :=
  closed_decimal n

theorem closed_showWhole {n : Int} {s : String} (h : Number.showWhole n = .ok s) : Closed 0 s :=
  closed_of_figures fun _ => Number.isFigure_of_mem_showWhole h

theorem closed_seconds {d : Duration} {fallback : Int} {s : String}
    (h : d.seconds fallback = .ok s) : Closed 0 s :=
  closed_of_figures (Duration.isFigure_of_mem_seconds h)

theorem isNameChar_of_mem_identifier? {s name : String} (h : identifier? s = some name) :
    ∀ c ∈ name.toList, isNameChar c = true :=
  isNameChar_of_isIdentifier (isIdentifier_of_identifier? h)

theorem closed_identifier? {s name : String} (h : identifier? s = some name) : Closed 0 name :=
  closed_of_nameChars (isNameChar_of_mem_identifier? h)

theorem closed_nameSuffix (s : String) : Closed 0 (nameSuffix s) := by
  refine closed_of_nameChars ?_
  rw [nameSuffix, String.toList_ofList]
  exact fun c hc => mem_nameChars hc

/-! ## Locators -/

theorem closed_by (method : String) (h : Closed 0 method) (value : String) :
    Closed 0 (Locator.by method value) :=
  closed_template "WebDriverBy::" [method, quote value] ["(", ")"] rfl rfl
    (by simp [h, closed_quote])

theorem closed_of_lookup_methods {strategy method : String}
    (h : Locator.methods.lookup strategy = some method) : Closed 0 method := by
  have hmethods : ∀ p ∈ Locator.methods, braces? p.2 = some 0 := by decide
  have hmem : ∃ p ∈ Locator.methods, p.2 = method := by
    obtain ⟨_, _, hl, _⟩ := List.lookup_eq_some_iff.1 h
    exact ⟨(strategy, method), by rw [hl]; simp, rfl⟩
  obtain ⟨p, hp, rfl⟩ := hmem
  exact hmethods p hp

theorem closed_resolve {locator by_ : String} (h : Locator.resolve locator = .ok by_) :
    Closed 0 by_ := by
  obtain ⟨method, value, hnames, rfl⟩ := Locator.resolve_eq_ok.1 h
  cases hnames with
  | path => exact closed_by "xpath" rfl locator
  | strategy _ _ _ hmethod =>
    exact closed_by method (closed_of_lookup_methods hmethod) value

theorem closed_choice {choice by_ : String} (h : Choice.resolve choice = .ok by_) :
    Closed 0 by_ := by
  unfold Choice.resolve at h
  split at h
  next => cases h
  next =>
    obtain ⟨path, _, rfl⟩ := map_eq_ok.1 h
    exact closed_by "xpath" rfl path

/-! ## Scripts -/

theorem closed_arguments (script : Script) : Closed 0 script.arguments := by
  have hreads : Closed 0 (", ".intercalate (script.argv.map read)) := by
    refine closed_intercalate ", " rfl ?_
    intro t ht
    obtain ⟨name, _, rfl⟩ := List.mem_map.1 ht
    exact closed_read name
  exact closed_template "[" [_] ["]"] rfl rfl (by simpa using hreads)

theorem phrase_call (method : String) (hmethod : Closed 0 method) (script : Script)
    (body : String) : Phrase (script.call method body) := by
  unfold Script.call
  split
  next =>
    exact phrase_template "$I->" [method, quote body] ["(", ")"] (by decide) rfl rfl
      (by simp [hmethod, closed_quote])
  next =>
    exact phrase_template "$I->" [method, quote body, script.arguments] ["(", ", ", ")"]
      (by decide) rfl rfl (by simp [hmethod, closed_quote, closed_arguments])

theorem closed_expression (script : Script) : Closed 0 script.expression :=
  (phrase_call "executeJS" rfl script _).closed

/-! ## Assignments -/

theorem phrase_assignment (name : String) {expression : String} (h : Closed 0 expression) :
    Phrase (Scope.assignment name expression) :=
  (phrase_read name).template " = " [expression] [";"] rfl rfl (by simp [h])

theorem head?_assignment (name expression : String) :
    (Scope.assignment name expression).toList.head? = some '$' := by
  have hread : (read name).toList.head? = some '$' :=
    head?_append (head?_append rfl (quote name)) "]"
  exact head?_append (head?_append (head?_append hread " = ") expression) ";"

end CestExport.Php
