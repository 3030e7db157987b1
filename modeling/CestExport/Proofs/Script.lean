import CestExport.Proofs.Distinct
import CestExport.Proofs.Php.Arguments
import CestExport.Proofs.ReadBack

/-!
# Scripts and their arguments

A script reads its arguments by their numbers, and the call that runs it passes their
values in an array.  The numbers, the order of the names and the array all come from
one text, and they agree: the argument with the number that stands for a reference is
the value of the variable referred to.

    two readings of a call agree                                      (ScriptCall.unique)
    the body, the names and the array of every call agree                (script_aligned)
-/

namespace CestExport

open Php

/-! ## Algorithm -/

/-- An array of operands behind an argument, or nothing. -/
def arrayText : Option (List Operand) → List Char
  | none => []
  | some items => ", [".toList ++ (separated comma Operand.write items ++ [']'])

/-- A call of a method with a literal, and an array of operands or none. -/
structure ScriptCall (source method body : List Char) (array : Option (List Operand)) : Prop where
  identifier : isIdentifier method = true
  source_eq : ∃ literal, decode? literal = some body ∧ source =
    "$I->".toList ++ (method ++ '(' :: '\'' :: (literal ++ '\'' :: (arrayText array ++ [')'])))
  valid : ∀ items, array = some items → ∀ o ∈ items, o.IsValid

/-- How a command runs a script: the method it calls, the body it makes of the script, and what
stands in front of the call and behind it. -/
structure Runner where
  method : String
  front : Step → String
  body : String → String
  behind : String

/-- The assignment to the variable of a step, if it names one. -/
def Runner.result (step : Step) : String :=
  if step.value = "" then "" else read step.value ++ " = "

/-- The body that hands the outcome of a promise to the last argument. -/
def Runner.awaited (body : String) : String :=
  "var callback = arguments[arguments.length - 1];" ++ body ++ ".then(callback).catch(callback);"

/-- The body that returns an expression. -/
def Runner.returned (body : String) : String :=
  "return (" ++ body ++ ");"

/-- The commands that run scripts. -/
def Runner.all : List (String × Runner) := [
  ("executeScript", ⟨"executeJS", result, id, ";"⟩),
  ("runScript", ⟨"executeJS", fun _ => "", id, ";"⟩),
  ("executeAsyncScript", ⟨"executeAsyncJS", result, awaited, ";"⟩),
  ("if", ⟨"executeJS", fun _ => "if ((bool) ", returned, ") \x7b"⟩),
  ("elseIf", ⟨"executeJS", fun _ => "\x7d elseif ((bool) ", returned, ") \x7b"⟩),
  ("while", ⟨"executeJS", fun _ => "while ((bool) ", returned, ") \x7b"⟩),
  ("repeatIf", ⟨"executeJS", fun _ => "\x7d while ((bool) ", returned, ");"⟩)]

/-- A step generates a line: alone, or between the statements for a window. -/
structure Generates (c : Context) (step : Step) (line : Line) : Prop where
  alone : step.opensWindow = false →
    ∃ e, (Registry.default.emit c step).1 = .ok e ∧ e.toBlock.lines = [line]
  within : ∀ e, (Registry.default.emit c step).1 = .ok e → line ∈ e.toBlock.lines

/-! ## Calls -/

theorem separated_items_inj {items items' : List Operand} {rest rest' : List Char}
    (h : ∀ o ∈ items, o.IsValid) (h' : ∀ o ∈ items', o.IsValid)
    (heq : separated comma Operand.write items ++ ']' :: rest =
      separated comma Operand.write items' ++ ']' :: rest') : items = items' ∧ rest = rest' := by
  have hhead : ∀ (o : Operand) (os : List Operand) (r r' : List Char),
      separated comma Operand.write (o :: os) ++ r ≠ ']' :: r' := by
    intro o os r r' hcs
    have hfirst := congrArg List.head? hcs
    rw [separated_cons] at hfirst
    cases o with
    | literal b => simp [Operand.write] at hfirst
    | read b => simp [Operand.write, readMark] at hfirst
  have hend : ∀ cs ds, ']' :: cs ≠ comma ++ ds := by
    intro cs ds hcs
    simp [comma] at hcs
  cases items with
  | nil =>
    cases items' with
    | nil => exact ⟨rfl, (List.cons.inj heq).2⟩
    | cons o os => exact absurd heq.symm (hhead o os _ _)
  | cons o os =>
    cases items' with
    | nil => exact absurd heq (hhead o os _ _)
    | cons o' os' =>
      obtain ⟨hitems, hrest⟩ := readable_operand.eq_of_separated (fun _ => trivial)
        (List.cons_ne_nil o os) (List.cons_ne_nil o' os') h h' trivial trivial (hend rest)
        (hend rest') heq
      exact ⟨hitems, (List.cons.inj hrest).2⟩

theorem arrayText_inj {a a' : Option (List Operand)} {rest rest' : List Char}
    (h : ∀ items, a = some items → ∀ o ∈ items, o.IsValid)
    (h' : ∀ items, a' = some items → ∀ o ∈ items, o.IsValid)
    (heq : arrayText a ++ ')' :: rest = arrayText a' ++ ')' :: rest') : a = a' ∧ rest = rest' := by
  cases a with
  | none =>
    cases a' with
    | none => exact ⟨rfl, (List.cons.inj heq).2⟩
    | some items => simp [arrayText] at heq
  | some items =>
    cases a' with
    | none => simp [arrayText] at heq
    | some items' =>
      simp only [arrayText, List.append_assoc, List.append_cancel_left_eq, List.singleton_append]
        at heq
      obtain ⟨rfl, hrest⟩ := separated_items_inj (h items rfl) (h' items' rfl) heq
      exact ⟨rfl, (List.cons.inj hrest).2⟩

/-- A call can be read in one way only, whatever follows it. -/
theorem ScriptCall.unique {source source' method method' body body' rest rest' : List Char}
    {a a' : Option (List Operand)} (h : ScriptCall source method body a)
    (h' : ScriptCall source' method' body' a') (heq : source ++ rest = source' ++ rest') :
    method = method' ∧ body = body' ∧ a = a' ∧ rest = rest' := by
  obtain ⟨literal, hliteral, rfl⟩ := h.source_eq
  obtain ⟨literal', hliteral', rfl⟩ := h'.source_eq
  have hopen : ∀ cs, EndsName ('(' :: cs) := by
    rintro cs c ds ⟨⟩
    decide
  simp only [List.append_assoc, List.append_cancel_left_eq, List.cons_append] at heq
  obtain ⟨rfl, hcall⟩ := eq_of_nameChars (isNameChar_of_isIdentifier h.identifier)
    (isNameChar_of_isIdentifier h'.identifier) (hopen _) (hopen _) heq
  have hquoted := (List.cons.inj (List.cons.inj hcall).2).2
  obtain ⟨rfl, hbehind⟩ := eq_of_quoted hliteral hliteral' hquoted
  obtain ⟨rfl, hrest⟩ := arrayText_inj h.valid h'.valid hbehind
  exact ⟨rfl, Option.some.inj (hliteral.symm.trans hliteral'), rfl, hrest⟩

/-- The items of the array for variables. -/
def Script.items (argv : List String) : Option (List Operand) :=
  if argv.isEmpty then none else some (argv.map fun n => .read (escape n.toList))

theorem toList_read (n : String) : (read n).toList = (Operand.read (escape n.toList)).write :=
  toList_operand (.reference n)

theorem isValid_read (n : String) : (Operand.read (escape n.toList)).IsValid :=
  isValid_ofPiece (.reference n)

theorem map_write_reads (argv : List String) :
    (argv.map fun n => Operand.read (escape n.toList)).map Operand.write =
      argv.map fun n => (read n).toList := by
  rw [List.map_map]
  exact List.map_congr_left fun n _ => (toList_read n).symm

theorem Script.toList_arguments (script : Script) : script.arguments.toList =
    '[' :: (separated comma Operand.write
      (script.argv.map fun n => Operand.read (escape n.toList)) ++ [']']) := by
  have hreads : (", ".intercalate (script.argv.map read)).toList =
      separated comma Operand.write
        (script.argv.map fun n => Operand.read (escape n.toList)) := by
    rw [separated, map_write_reads, String.toList_intercalate, List.map_map]
    rfl
  rw [arguments, String.toList_append, String.toList_append, hreads]
  rfl

/-- The call of a script reads back as its method, its body and its arguments. -/
theorem scriptCall_call (script : Script) {method : String}
    (hmethod : isIdentifier method.toList = true) (body : String) :
    ScriptCall (script.call method body).toList method.toList body.toList
      (Script.items script.argv) where
  identifier := hmethod
  source_eq := by
    refine ⟨escape body.toList, decode?_escape _, ?_⟩
    unfold Script.call Script.items
    split
    next =>
      show ("$I->" ++ method ++ "(" ++ quote body ++ ")").toList = _
      simp [quote, quoteChars, arrayText]
    next =>
      show ("$I->" ++ method ++ "(" ++ quote body ++ ", " ++ script.arguments ++ ")").toList = _
      simp [quote, quoteChars, arrayText, Script.toList_arguments]
  valid := by
    intro items hitems o ho
    unfold Script.items at hitems
    split at hitems
    next => cases hitems
    next =>
      cases hitems
      obtain ⟨n, -, rfl⟩ := List.mem_map.1 ho
      exact isValid_read n

/-! ## Commands -/

theorem generates_of_finish {c c' : Context} {step : Step} {e : Emission} {line : Line}
    (h : Registry.default.emit c step = Registry.finish step e c')
    (hline : e.toBlock.lines = [line]) : Generates c step line where
  alone hopens := by
    refine ⟨e, ?_, hline⟩
    rw [h, Registry.finish, hopens]
    rfl
  within e' he' := by
    rw [h] at he'
    rcases Registry.finish_eq_ok he' with ⟨-, rfl⟩ | ⟨-, b, scope, hwrap, rfl⟩
    · rw [hline]
      exact List.mem_singleton_self line
    · obtain ⟨seconds, scope', -, rfl⟩ := Window.wrap_eq_ok hwrap
      show line ∈ _ :: e.toBlock.lines ++ [_]
      rw [hline]
      simp

theorem lines_scriptResult (c : Context) (step : Step) (call : String) :
    ((Command.scriptResult step call).settle c).1.toBlock.lines =
      [⟨0, Runner.result step ++ call ++ ";"⟩] := by
  by_cases hvalue : step.value = ""
  · rw [Command.scriptResult, if_pos hvalue, Runner.result, if_pos hvalue, String.empty_append]
    rfl
  · rw [Command.scriptResult, if_neg hvalue, Runner.result, if_neg hvalue, Draft.settle,
      if_neg hvalue]
    show [(⟨0, read step.value ++ " = " ++ call ++ ";"⟩ : Line)] = _
    rfl

theorem append_condition (a b : String) (step : Step) : a ++ Command.condition step ++ b =
    a ++ "(bool) " ++ step.scriptOrTarget.call "executeJS"
      (Runner.returned step.scriptOrTarget.body) ++ b := by
  rw [Command.condition, ← String.append_assoc]
  rfl

/-- A condition and the text around it make the one line of a step. -/
theorem generates_condition {c : Context} {step : Step} {name : String} {g : Command.Standard}
    {behind : String} {before after : Int} (front : String) (hname : step.name = name)
    (hfind : Command.standard.find? (·.name == name) = some g)
    (hdraft : g.generator c.settings step =
      Command.bracket (front ++ Command.condition step ++ behind) before after) :
    Generates c step ⟨0, front ++ "(bool) " ++ step.scriptOrTarget.call "executeJS"
      (Runner.returned step.scriptOrTarget.body) ++ behind⟩ := by
  refine generates_of_finish (Registry.emit_of_draft c hname hfind hdraft) ?_
  rw [← append_condition]
  rfl

/-- Each of the commands generates one line around the call of its script. -/
theorem generates_call : ∀ p ∈ Runner.all, ∀ (c : Context) (step : Step), step.name = p.1 →
    Generates c step ⟨0, p.2.front step ++
      step.scriptOrTarget.call p.2.method (p.2.body step.scriptOrTarget.body) ++ p.2.behind⟩ := by
  simp only [Runner.all, List.forall_mem_cons, List.not_mem_nil, false_implies, implies_true,
    and_true]
  refine ⟨fun c step h => ?_, fun c step h => ?_, fun c step h => ?_, fun c step h => ?_,
    fun c step h => ?_, fun c step h => ?_, fun c step h => ?_⟩
  · exact generates_of_finish (Registry.emit_of_draft c h rfl rfl) (lines_scriptResult c step _)
  · refine generates_of_finish (Registry.emit_of_draft c h rfl rfl) ?_
    rw [String.empty_append]
    rfl
  · exact generates_of_finish (Registry.emit_of_draft c h rfl rfl) (lines_scriptResult c step _)
  · exact generates_condition "if (" h rfl rfl
  · exact generates_condition "\x7d elseif (" h rfl rfl
  · exact generates_condition "while (" h rfl rfl
  · exact generates_condition "\x7d while (" h rfl rfl

/-! ## Bodies -/

namespace Script

theorem items_eq_none {argv : List String} : items argv = none ↔ argv = [] := by
  unfold items
  split
  next h => exact iff_of_true rfl (List.isEmpty_iff.1 h)
  next h => exact iff_of_false (by simp) fun hnil => h (List.isEmpty_iff.2 hnil)

theorem argv_eq_nil {t : String} :
    (parse t).argv = [] ↔ Template.references (Template.pieces t) = [] := by
  have hfirst := firstAppearances_distinct (Template.references (Template.pieces t))
  constructor
  · intro h
    refine List.eq_nil_iff_forall_not_mem.2 fun n hn => ?_
    have hmem := (hfirst.mem_iff n).2 hn
    rw [← argv_parse, h] at hmem
    cases hmem
  · intro h
    rw [argv_parse, h]
    rfl

/-- The body is the text with the numbers of the arguments in place of its references. -/
theorem toList_body (t : String) {env : String → String}
    (henv : ∀ (k : Nat) (n : String), (parse t).argv[k]? = some n → env n = s!"arguments[{k}]") :
    (parse t).body.toList = Template.substitute env t.toList := by
  have hpiece : ∀ p ∈ Template.pieces t, (argument (parse t).argv p).toList = p.value env := by
    intro p hp
    cases p with
    | text cs => exact String.toList_ofList
    | reference name =>
      rw [Template.Piece.value, henv _ name (getElem?_argv hp)]
      rfl
  calc (parse t).body.toList
    _ = (Template.pieces t).flatMap fun p => (argument (parse t).argv p).toList := by
      rw [body_parse, String.toList_join, List.flatMap_map]
    _ = (Template.pieces t).flatMap (Template.Piece.value env) := List.flatMap_congr hpiece

end Script

/-- The numbers of the arguments, the names and the array agree, for every text of a script.  The
names are those of the references, each once, in the order of their first appearance; the body is
the text in which the leftmost references have been replaced, one after the other, by the number of
the argument; and every command that runs the script generates a line with one call, which can be
read in one way only.  It hands over the body that the command makes of the script, and, unless the
text refers to nothing, an array of just the values of the names in their order. -/
theorem script_aligned (t : String) :
    ∃ ps : List Template.Piece, (∀ qs, Template.Cut t.toList qs ↔ qs = ps) ∧
      FirstAppearances (Template.references ps) (Script.parse t).argv ∧
      (∀ env : String → String, (∀ (k : Nat) (n : String),
          (Script.parse t).argv[k]? = some n → env n = s!"arguments[{k}]") →
        ∀ out, Template.Substituted env t.toList out ↔ out = (Script.parse t).body.toList) ∧
      ∀ p ∈ Runner.all, ∀ (c : Context) (step : Step), step.name = p.1 →
        step.scriptOrTarget = Script.parse t →
        ∃ (call : String) (array : Option (List Operand)),
          Generates c step ⟨0, p.2.front step ++ call ++ p.2.behind⟩ ∧
          (∀ method body array', ScriptCall call.toList method body array' ↔
            method = p.2.method.toList ∧ body = (p.2.body (Script.parse t).body).toList ∧
              array' = array) ∧
          (array = none ↔ Template.references ps = []) ∧
          ∀ items, array = some items →
            items.map Operand.write =
              (Script.parse t).argv.map fun n => (read n).toList := by
  refine ⟨Template.pieces t, fun qs => Template.cut_iff,
    Script.argv_parse t ▸ firstAppearances_distinct _,
    fun env henv out => ?_, fun p hp c step hname hscript => ?_⟩
  · rw [Script.toList_body t henv]
    exact Template.substituted_iff
  · have hidentifier : ∀ q ∈ Runner.all, isIdentifier q.2.method.toList = true := by decide
    have hcall := scriptCall_call (Script.parse t) (hidentifier p hp)
      (p.2.body (Script.parse t).body)
    have hgenerates := generates_call p hp c step hname
    rw [hscript] at hgenerates
    refine ⟨_, Script.items (Script.parse t).argv, hgenerates,
      fun method body array' => ⟨fun h => ?_, ?_⟩,
      Script.items_eq_none.trans Script.argv_eq_nil, fun items hitems => ?_⟩
    · obtain ⟨hm, hb, ha, -⟩ := h.unique hcall (congrArg (· ++ []) rfl)
      exact ⟨hm, hb, ha⟩
    · rintro ⟨rfl, rfl, rfl⟩
      exact hcall
    · unfold Script.items at hitems
      split at hitems
      next => cases hitems
      next =>
        cases hitems
        exact map_write_reads (Script.parse t).argv

example : Script.parse "return $\x7bb\x7d + $\x7ba\x7d * $\x7bb\x7d;" =
    ⟨"return arguments[0] + arguments[1] * arguments[0];", ["b", "a"]⟩ := by
  decide +kernel

end CestExport
