import CestExport.Proofs.Command.Stored
import CestExport.Proofs.Registration
import CestExport.Proofs.Template.Consumers
import Mathlib.Data.List.Nodup

/-!
# A stored variable is the variable read back

A variable is stored by one step and read by another, which may refer to it in a
text, in key input, in a script or in a count, or may name it alone.  Whatever
characters the name is made of, all of them come to the same expression, to which
the storing step assigns; and another name comes to another one.

    n ≠ "", no } in n  →  steps that store n assign to read n, steps that read n
      use read n, and read m ≠ read n for m ≠ n                    (stored_readBack)
-/

namespace CestExport

open Php

/-! ## Algorithm -/

/-- A reference to a variable, as it is recorded. -/
def Template.referTo (name : String) : String :=
  "$\x7b" ++ name ++ "\x7d"

/-- Whether a line of an emission assigns something to an expression. -/
def Emission.AssignsTo (e : Emission) (slot : String) : Prop :=
  ∃ l ∈ e.toBlock.lines, ∃ expression, l.text = slot ++ " = " ++ expression

open Template (LeavesOpen pieces referTo)

/-- All that reads a variable `n` reads it by the expression `slot`: a reference in a text or in key
input, provided that the text in front of it has not begun another one, a script and its arguments,
a count, the collection of a loop, and a variable that is compared. -/
structure ReadBack (n slot : String) : Prop where
  text (u v : String) : ¬LeavesOpen u.toList → Php.text (u ++ referTo n ++ v) =
    " . ".intercalate ((pieces u).map operand ++ slot :: (pieces v).map operand)
  keys (u v locator : String) (c : Context) (s : Step) : (∀ k, n ≠ Keys.keyMark ++ k) →
    ¬LeavesOpen u.toList → s.name = "sendKeys" → s.value = u ++ referTo n ++ v →
    Locator.resolve s.target = .ok locator →
    let typed := ", ".intercalate ((Keys.split u).map Keys.Token.argument ++
      slot :: (Keys.split v).map Keys.Token.argument)
    Registry.default.emit c s =
      Registry.finish s (.statement s!"$I->pressKey({locator}, {typed});") c
  arguments (script : Script) (i : Nat) : script.argv[i]? = some n →
    ∃ items : List String, items[i]? = some slot ∧ ∀ method body : String,
      let array := "[" ++ ", ".intercalate items ++ "]"
      script.call method body = s!"$I->{method}({quote body}, {array})"
  script (u v : String) : ¬LeavesOpen u.toList →
    let script := Script.parse (u ++ referTo n ++ v)
    ∃ i : Nat, script.argv[i]? = some n ∧
      script.body = String.join ((pieces u).map (Script.argument script.argv)) ++
        s!"arguments[{i}]" ++ String.join ((pieces v).map (Script.argument script.argv))
  count (x y : List Char) (c : Context) (s : Step) : (∀ b ∈ x ++ y, Text.isBlank b = true) →
    s.name = "times" → s.target.toList = x ++ (referTo n).toList ++ y →
    ∃ counter c', Registry.default.emit c s =
      Registry.finish s (.block ⟨[⟨0, Draft.countedLoop counter s!"(int) {slot}"⟩], 0, 1⟩) c'
  collection (c : Context) (s : Step) : s.name = "forEach" → s.target = n →
    ∃ lines c', Registry.default.emit c s =
      Registry.finish s (.block ⟨⟨0, s!"foreach ({slot} as $item) \x7b"⟩ :: lines, 0, 1⟩) c'
  compared (c : Context) (s : Step) : s.name = "assert" ∨ s.name = "verify" → s.target = n →
    let value := Php.text s.value
    Registry.default.emit c s =
      Registry.finish s (.statement s!"$I->assertEquals({value}, {slot});") c

/-! ## Commands by their names -/

namespace Command

theorem nodup_names : (standard.map (·.name)).Nodup := by decide +kernel

end Command

namespace Registry

/-- Each standard command is found under its name. -/
theorem find?_of_mem {c : Command.Standard} (hc : c ∈ Command.standard) :
    default.find? c.name = some c.generator.emitter := by
  have hknown : (default.find? c.name).isSome = true := by
    rw [← canEmit_eq]
    exact canEmit_default.2 ⟨c, hc, rfl⟩
  obtain ⟨e, he⟩ := Option.isSome_iff_exists.1 hknown
  obtain ⟨d, hd, hname, rfl⟩ := find?_default he
  rw [he, List.inj_on_of_nodup_map Command.nodup_names hd hc hname]

/-- A step that a generator drafts is its draft, settled and finished. -/
theorem emit_of_find? {registry : Registry} {context : Context} {step : Step} {g : Generator}
    {d : Draft} (hfind : registry.find? step.name = some g.emitter)
    (hd : g context.settings step = .ok d) :
    registry.emit context step = finish step (d.settle context).1 (d.settle context).2 := by
  simp [emit, hfind, Generator.emitter, hd, Except.map]

/-- A step with the name of a standard command is generated by this command. -/
theorem find?_of_find {name : String} {step : Step} {c : Command.Standard}
    (hname : step.name = name) (hfind : Command.standard.find? (·.name == name) = some c) :
    default.find? step.name = some c.generator.emitter := by
  have hc : c.name = step.name := by
    rw [hname]
    simpa using List.find?_some hfind
  rw [← hc]
  exact find?_of_mem (List.mem_of_find?_eq_some hfind)

/-- A step with the name of a standard command is what this command drafts. -/
theorem emit_of_draft (context : Context) {step : Step} {name : String} {c : Command.Standard}
    {d : Draft} (hname : step.name = name)
    (hfind : Command.standard.find? (·.name == name) = some c)
    (hd : c.generator context.settings step = .ok d) :
    default.emit context step = finish step (d.settle context).1 (d.settle context).2 :=
  emit_of_find? (find?_of_find hname hfind) hd

end Registry

/-! ## References -/

namespace Template

theorem toList_referTo (n : String) : (referTo n).toList = writeReference n.toList := by
  simp [referTo, writeReference]

/-- A reference is a piece of the text around it, unless it was begun in front of it. -/
theorem pieces_referTo {n : String} (hname : IsName n.toList) {u : String}
    (hopen : ¬LeavesOpen u.toList) (v : String) :
    pieces (u ++ referTo n ++ v) = pieces u ++ .reference n :: pieces v := by
  have htext : (u ++ referTo n ++ v).toList =
      u.toList ++ (writeReference n.toList ++ v.toList) := by
    simp [toList_referTo]
  rw [pieces, htext, scan_append_reference hopen hname, String.ofList_toList]
  rfl

theorem single?_referTo {n : String} (hname : IsName n.toList) : single? (referTo n) = some n := by
  have hopen : ¬LeavesOpen "".toList := by
    rintro ⟨x, y, h, _⟩
    simp at h
  have hpieces := pieces_referTo hname hopen ""
  rw [String.empty_append, String.append_empty] at hpieces
  rw [single?_eq_some, hpieces]
  simp [pieces, scan]

/-- No blanks around a reference belong to it. -/
theorem trim_referTo {n : String} {s : String} {x y : List Char}
    (hblank : ∀ b ∈ x ++ y, Text.isBlank b = true)
    (hs : s.toList = x ++ (referTo n).toList ++ y) : Text.trim s = referTo n := by
  have hx : ∀ b ∈ x, Text.isBlank b = true := fun b hb => hblank b (List.mem_append_left y hb)
  have hy : ∀ b ∈ y.reverse, Text.isBlank b = true :=
    fun b hb => hblank b (List.mem_append_right x (List.mem_reverse.1 hb))
  have hfront : (s.toList.dropWhile Text.isBlank) = (referTo n).toList ++ y := by
    rw [hs, List.append_assoc, List.dropWhile_append_of_pos hx, toList_referTo]
    rfl
  have hback : ((referTo n).toList ++ y).reverse.dropWhile Text.isBlank =
      (referTo n).toList.reverse := by
    rw [List.reverse_append, List.dropWhile_append_of_pos hy, toList_referTo, writeReference]
    simp only [List.reverse_cons, List.reverse_append]
    rfl
  rw [Text.trim, Text.trimChars, hfront, hback, List.reverse_reverse, String.ofList_toList]

end Template

/-! ## Texts, key input and scripts -/

open Template (IsName)

theorem Php.text_referTo {n : String} (hname : IsName n.toList) {u : String}
    (hopen : ¬LeavesOpen u.toList) (v : String) : Php.text (u ++ referTo n ++ v) =
      " . ".intercalate ((pieces u).map operand ++ read n :: (pieces v).map operand) := by
  have hpieces := Template.pieces_referTo hname hopen v
  rw [text_eq (by simp [hpieces]), hpieces, List.map_append, List.map_cons]
  rfl

namespace Keys

theorem split_referTo {n : String} (hname : IsName n.toList) (hkey : ∀ k, n ≠ keyMark ++ k)
    {u : String} (hopen : ¬LeavesOpen u.toList) (v : String) :
    split (u ++ referTo n ++ v) = split u ++ .variable (read n) :: split v := by
  have hnone : Text.after? keyMark n = none := by
    cases h : Text.after? keyMark n with
    | none => rfl
    | some k => exact absurd (after?_eq_some.1 h) (hkey k)
  simp only [split_eq_map, Template.pieces_referTo hname hopen, List.map_append, List.map_cons,
    ofPiece_variable hnone]

theorem arguments_of_ne_nil {tokens : List Token} (h : tokens ≠ []) :
    arguments tokens = ", ".intercalate (tokens.map Token.argument) := by
  cases tokens with
  | nil => exact absurd rfl h
  | cons token tokens => rfl

end Keys

namespace Script

theorem call_of_argv {script : Script} {i : Nat} {n : String} (h : script.argv[i]? = some n)
    (method body : String) :
    let array := "[" ++ ", ".intercalate (script.argv.map read) ++ "]"
    script.call method body = s!"$I->{method}({quote body}, {array})" := by
  have hne : script.argv.isEmpty = false := by
    cases hargv : script.argv with
    | nil => simp [hargv] at h
    | cons m argv => rfl
  simp [call, arguments, hne]

theorem parse_referTo {n : String} (hname : IsName n.toList) {u : String}
    (hopen : ¬LeavesOpen u.toList) (v : String) :
    let script := parse (u ++ referTo n ++ v)
    ∃ i : Nat, script.argv[i]? = some n ∧
      script.body = String.join ((pieces u).map (argument script.argv)) ++
        s!"arguments[{i}]" ++ String.join ((pieces v).map (argument script.argv)) := by
  intro script
  have hpieces := Template.pieces_referTo hname hopen v
  refine ⟨script.argv.idxOf n, getElem?_argv (by simp [hpieces]), ?_⟩
  have hbody : script.body =
      String.join ((pieces (u ++ referTo n ++ v)).map (argument script.argv)) := body_parse _
  rw [hbody, hpieces, List.map_append, List.map_cons]
  simp [argument, String.append_assoc]

end Script

theorem Command.rounds_referTo {n : String} (hname : IsName n.toList) :
    rounds (referTo n) = .ok s!"(int) {read n}" := by
  rw [rounds, Template.single?_referTo hname]

/-! ## Reading back -/

theorem Php.read_inj {m n : String} (h : read m = read n) : m = n := by
  have hname := congrArg readName? h
  rwa [readName?_read, readName?_read, Option.some.injEq] at hname

theorem Emission.assignsTo_read {e : Emission} {n : String} :
    e.AssignsTo (read n) ↔ e.Assigns n := by
  have htext : ∀ text : String,
      (∃ expression, text = read n ++ " = " ++ expression) ↔ Php.Assigns text n := by
    intro text
    rw [Php.Assigns, beginsWith_iff]
    constructor
    · rintro ⟨expression, rfl⟩
      rw [String.toList_append (s := read n ++ " = ")]
      exact List.prefix_append _ _
    · rintro ⟨rest, hrest⟩
      refine ⟨String.ofList rest, String.toList_inj.1 ?_⟩
      rw [String.toList_append (s := read n ++ " = "), String.toList_ofList, hrest]
  simp only [AssignsTo, Assigns, htext]

open Registry in
/-- A variable is read back by the expression for its slot. -/
theorem readBack_read {n : String} (hname : IsName n.toList) : ReadBack n (read n) where
  text u v hopen := text_referTo hname hopen v
  keys u v locator c s hkey hopen hs hvalue hlocator := by
    intro typed
    have hkeys : Keys.arguments (Keys.split s.value) = typed := by
      rw [hvalue, Keys.split_referTo hname hkey hopen, Keys.arguments_of_ne_nil (by simp),
        List.map_append, List.map_cons]
      rfl
    have hdraft : Command.sendKeys c.settings s =
        .ok (.statement s!"$I->pressKey({locator}, {typed});") := by
      simp only [Command.sendKeys, hlocator, hkeys]
      rfl
    have hemit := emit_of_draft c hs rfl hdraft
    exact hemit
  arguments script i hi :=
    ⟨script.argv.map read, by rw [List.getElem?_map, hi]; rfl, Script.call_of_argv hi⟩
  script u v hopen := Script.parse_referTo hname hopen v
  count x y c s hblank hs htarget := by
    have hdraft : Command.times c.settings s = .ok (.repeated s.id s!"(int) {read n}") := by
      rw [Command.times, Template.trim_referTo hblank htarget, Command.rounds_referTo hname]
      rfl
    have hemit := emit_of_draft c hs rfl hdraft
    exact ⟨_, _, hemit⟩
  collection c s hs htarget := by
    have hdraft : Command.forEach c.settings s = .ok (.iterate (read n) s.value) := by
      rw [Command.forEach, htarget]
    have hemit := emit_of_draft c hs rfl hdraft
    by_cases hvalue : s.value = ""
    · rw [Draft.settle, if_pos hvalue] at hemit
      exact ⟨_, _, hemit⟩
    · rw [Draft.settle, if_neg hvalue] at hemit
      exact ⟨_, _, hemit⟩
  compared c s hs htarget := by
    intro value
    have hdraft : Command.assertVariable c.settings s =
        .ok (.statement s!"$I->assertEquals({value}, {read n});") := by
      rw [Command.assertVariable, htarget]
    rcases hs with hs | hs
    · have hemit := emit_of_draft c hs rfl hdraft
      exact hemit
    · have hemit := emit_of_draft c hs rfl hdraft
      exact hemit

/-- A stored variable is the variable read back.  For every name that is not empty and holds no
closing brace, a step assigns to the read of this name if and only if the step stores something in
the variable, the snapshot of the window handles apart; all that reads the variable reads it by the
same expression; and the expressions for two names differ if the names do. -/
theorem stored_readBack {n : String} (hne : n ≠ "") (hbrace : '}' ∉ n.toList) :
    (∀ (c : Context) (s : Step) (e : Emission), Registry.default.canEmit s.name = true →
      (Registry.default.emit c s).1 = .ok e →
      (e.AssignsTo (read n) ↔
        s.Stores n ∨ (s.opensWindow = true ∧ n = Scope.windowHandlesSlot))) ∧
    ReadBack n (read n) ∧ ∀ m, m ≠ n → read m ≠ read n := by
  have hname : IsName n.toList := ⟨by simpa using hne, hbrace⟩
  refine ⟨fun c s e hknown hemit => ?_, readBack_read hname, fun m hmn h => hmn (read_inj h)⟩
  rw [Emission.assignsTo_read]
  exact Registry.assigns_emit_iff hemit hknown n

/-- A name with a quote, a backslash, blanks and the beginning of a reference is stored by a step
that opens a window, and read back by each of the steps that follow. -/
theorem stored_readBack_quotedName :
    let n := "it's \\ $\x7bx "
    let slot := "$this->vars['it\\'s \\\\ $\x7bx ']"
    let storing : Step := { name := "storeTitle", value := n, opensWindow := true }
    let counting : Step := { name := "times", target := " " ++ referTo n }
    let comparing : Step := { name := "assert", target := n, value := "1" }
    n ≠ "" ∧ '}' ∉ n.toList ∧ read n = slot ∧
      (∃ e, (Registry.default.emit {} storing).1 = .ok e ∧ e.AssignsTo slot) ∧
      Php.text ("for " ++ referTo n ++ "!") = "'for ' . " ++ slot ++ " . '!'" ∧
      (∃ counter c, Registry.default.emit {} counting = Registry.finish counting
        (.block ⟨[⟨0, Draft.countedLoop counter s!"(int) {slot}"⟩], 0, 1⟩) c) ∧
      Registry.default.emit {} comparing =
        (.ok (.statement ("$I->assertEquals('1', " ++ slot ++ ");")), {}) ∧
      read "it's" ≠ read n := by
  intro n slot storing counting comparing
  have hne : n ≠ "" := by decide
  have hbrace : '}' ∉ n.toList := by decide
  have hslot : read n = slot := by decide +kernel
  have hemit : (Registry.default.emit {} storing).1 = .ok (.block ⟨[
      ⟨0, "$this->vars['windowHandles'] = $this->windowHandles($I);"⟩,
      ⟨0, slot ++ " = " ++ Command.title ++ ";"⟩,
      ⟨0, "$this->waitForWindow($I, 2);"⟩], 0, 0⟩) :=
    toOption_eq_some.1 (by decide +kernel)
  have hopen : ¬LeavesOpen "for ".toList := by
    rintro ⟨x, y, h, _⟩
    have hmark : '$' ∈ "for ".toList := by simp [h]
    exact absurd hmark (by decide)
  obtain ⟨hassigns, hreads, hdiffer⟩ := stored_readBack hne hbrace
  rw [hslot] at hassigns hreads
  refine ⟨hne, hbrace, hslot, ⟨_, hemit, ?_⟩, ?_, ?_, ?_, hdiffer _ (by decide)⟩
  · exact (hassigns {} storing _ (by decide +kernel) hemit).2 (.inl ⟨hne, .inl rfl⟩)
  · rw [hreads.text "for " "!" hopen]
    decide +kernel
  · have hblank : ∀ b ∈ [' '] ++ [], Text.isBlank b = true := by
      rw [List.append_nil, List.forall_mem_singleton]
      rfl
    exact hreads.count [' '] [] {} counting hblank rfl (by simp [counting])
  · rw [hreads.compared {} comparing (.inl rfl) rfl]
    decide +kernel

end CestExport
