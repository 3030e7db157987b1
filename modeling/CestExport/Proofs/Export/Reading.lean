import CestExport.Proofs.Export.Written
import CestExport.Proofs.Template
import Mathlib.Data.List.DropRight

/-!
# Reading a class back

The settings and the helper methods fix what stands before the name of the class
and what stands behind its last test.  Between the two every method begins with an
empty line, while no line of a body is empty, however little it is indented: a
body ends where the next empty line is, whatever its lines look like.

    leadingLines [] (lines ++ rest) = (lines, rest)    if no line is empty   (leadingLines_written)
    a test is read back in front of whatever follows it                       (readTest?_written)
    so are all tests, one after the other                                    (readTests?_written)
    the text of a class gives its name, its methods and their lines           (readClass?_render)
-/

namespace CestExport

namespace Php

/-! ## Algorithm -/

/-- A character of an identifier; PHP takes every character beyond ASCII for a letter. -/
def isLabelChar (c : Char) : Bool :=
  isNameChar c || 0x80 ≤ c.toNat

/-- An identifier of PHP, which may have letters beyond ASCII. -/
def isLabel : List Char → Bool
  | [] => false
  | c :: cs => !c.isDigit && (c :: cs).all isLabelChar

end Php

namespace Export

/-- Lines as they stand in a file, each with its line break. -/
def written (ls : List (List Char)) : List Char :=
  ls.flatMap (· ++ ['\n'])

/-- A test as it is written in a class. -/
def writtenTest (unit tester : String) (t : ExportedTest) : List Char :=
  written ((methodLines unit (testDeclaration tester t) t.lines).map String.toList)

/-- The lines in front of the first empty one, and what follows them; `current` has been read of the
first line. -/
def leadingLines (current : List Char) : List Char → List (List Char) × List Char
  | [] => ([], [])
  | c :: cs =>
    if c = '\n' then
      if current = [] then ([], c :: cs)
      else (current :: (leadingLines [] cs).1, (leadingLines [] cs).2)
    else leadingLines (current ++ [c]) cs

/-- What stands in front of the name of a test's method. -/
def methodStart (unit : String) : List Char :=
  '\n' :: (unit.toList ++ "public function ".toList)

/-- What stands between the bracket behind the name of a test's method and its body. -/
def methodOpening (unit tester : String) : List Char :=
  tester.toList ++ " $I)".toList ++ '\n' :: (unit.toList ++ "\x7b".toList ++ ['\n'])

/-- The lines of a body as they stand in a class, with the brace that closes it. -/
def bodyWithEnd (unit : String) (lines : List String) : List (List Char) :=
  lines.map (fun l => (unit ++ unit ++ l).toList) ++ [(unit ++ "\x7d").toList]

/-- The lines of a body, without the brace that closes it and without indentation. -/
def unindented (unit : String) (ls : List (List Char)) : List String :=
  ls.dropLast.map fun l => String.ofList (l.drop (unit ++ unit).toList.length)

/-- The name and the lines of the method that a text begins with, and what follows it. -/
def readTest? (unit tester : String) (cs : List Char) :
    Option ((String × List String) × List Char) :=
  (Text.cutFirstChars '(' (cs.drop (methodStart unit).length)).map fun p =>
    let body := leadingLines [] (p.2.drop (methodOpening unit tester).length)
    ((String.ofList p.1, unindented unit body.1), body.2)

theorem length_leadingLines_le (current cs : List Char) :
    (leadingLines current cs).2.length ≤ cs.length := by
  fun_induction leadingLines current cs with
  | case1 => exact Nat.le_refl _
  | case2 => exact Nat.le_refl _
  | case3 current cs hcurrent ih =>
    rw [List.length_cons]
    exact Nat.le_succ_of_le ih
  | case4 current c cs hc ih =>
    rw [List.length_cons]
    omega

theorem length_readTest?_lt {unit tester : String} {cs rest : List Char}
    {t : String × List String} (h : readTest? unit tester cs = some (t, rest)) :
    rest.length < cs.length := by
  obtain ⟨⟨name, after⟩, hcut, hread⟩ := Option.map_eq_some_iff.1 h
  have hbody := length_leadingLines_le [] (after.drop (methodOpening unit tester).length)
  have hname := congrArg List.length (Text.cutFirstChars_eq hcut).1
  obtain ⟨_, hrest⟩ := Prod.mk.inj hread
  rw [hrest, List.length_drop] at hbody
  rw [List.length_drop, List.length_append, List.length_cons] at hname
  omega

/-- The names and the lines of the methods that a text consists of. -/
def readTests? (unit tester : String) (cs : List Char) : Option (List (String × List String)) :=
  match cs with
  | [] => some []
  | c :: cs =>
    match _h : readTest? unit tester (c :: cs) with
    | some (t, rest) => (readTests? unit tester rest).map (t :: ·)
    | none => none
termination_by cs.length
decreasing_by exact length_readTest?_lt _h

/-- What stands in front of the name of the class. -/
def classStart (config : Config) : List Char :=
  written ((header config).map String.toList) ++ "class ".toList

/-- What stands between the line with the name of the class and its tests. -/
def classOpening (unit : String) : List Char :=
  written (["\x7b", unit ++ "private $vars = [];"].map String.toList)

/-- What stands behind the tests. -/
def classClosing (unit : String) (bodies : List (Method × List String)) : List Char :=
  written ((bodies.flatMap (fun b => methodLines unit b.1.declaration b.2) ++ ["\x7d"]).map
    String.toList)

/-- The name of the class, and the names and the lines of its tests, if the class has been made with
these settings and these helper methods. -/
def readClass? (config : Config) (helpers : List Method) (text : String) :
    Option (String × List (String × List String)) := do
  let bodies ← (helperBodies config helpers).toOption
  let unit ← (Layout.spaces config.indent).toOption
  let (name, rest) ← Text.cutFirstChars '\n' (text.toList.drop (classStart config).length)
  let tests := (rest.drop (classOpening unit).length).rdrop (classClosing unit bodies).length
  let methods ← readTests? unit (testerName config) tests
  some (String.ofList name, methods)

end Export

/-! ## Identifiers -/

namespace Php

theorem isLabelChar_of_isLabel {name : List Char} (h : isLabel name = true) :
    ∀ c ∈ name, isLabelChar c = true := by
  cases name with
  | nil => simp
  | cons c cs =>
    simp only [isLabel, Bool.and_eq_true, List.all_eq_true] at h
    exact h.2

theorem not_mem_of_isLabel {name : List Char} (h : isLabel name = true) {c : Char}
    (hc : isLabelChar c = false) : c ∉ name := by
  intro hmem
  rw [isLabelChar_of_isLabel h c hmem] at hc
  simp at hc

end Php

namespace Export

/-! ## Lines -/

theorem written_cons (l : List Char) (ls : List (List Char)) :
    written (l :: ls) = l ++ '\n' :: written ls := by
  simp [written]

theorem written_append (ls ls' : List (List Char)) :
    written (ls ++ ls') = written ls ++ written ls' := by
  rw [written, List.flatMap_append]
  rfl

theorem written_flatMap {α : Type} (f : α → List (List Char)) (xs : List α) :
    written (xs.flatMap f) = xs.flatMap fun x => written (f x) := by
  rw [written, List.flatMap_assoc]
  rfl

theorem toList_join_lines (ls : List String) :
    (String.join (ls.map (· ++ "\n"))).toList = written (ls.map String.toList) := by
  simp [written, List.flatMap_map]

/-- The rest of a line is read up to its line break. -/
theorem leadingLines_line (current : List Char) {line : List Char} (hline : '\n' ∉ line)
    (hne : current ++ line ≠ []) (rest : List Char) :
    leadingLines current (line ++ '\n' :: rest) =
      ((current ++ line) :: (leadingLines [] rest).1, (leadingLines [] rest).2) := by
  induction line generalizing current with
  | nil =>
    rw [List.append_nil] at hne
    rw [List.nil_append, leadingLines, if_pos rfl, if_neg hne, List.append_nil]
  | cons c cs ih =>
    obtain ⟨hc, hcs⟩ := not_or.1 (mt List.mem_cons.2 hline)
    rw [List.cons_append, leadingLines, if_neg (Ne.symm hc), ih _ hcs (by simp), List.append_assoc]
    rfl

theorem leadingLines_written {ls : List (List Char)} (hls : ∀ l ∈ ls, l ≠ [] ∧ '\n' ∉ l)
    {rest : List Char} (hrest : leadingLines [] rest = ([], rest)) :
    leadingLines [] (written ls ++ rest) = (ls, rest) := by
  induction ls with
  | nil => exact hrest
  | cons l ls ih =>
    obtain ⟨⟨hne, hl⟩, hls⟩ := List.forall_mem_cons.1 hls
    rw [written_cons, List.append_assoc, List.cons_append, leadingLines_line [] hl hne, ih hls]
    rfl

/-! ## Tests -/

section

variable {unit tester : String}

theorem toList_testDeclaration (t : ExportedTest) :
    (testDeclaration tester t).toList =
      "public function ".toList ++ (t.methodName.toList ++ '(' :: (tester.toList ++
        " $I)".toList)) := by
  have hparts : testDeclaration tester t =
      "public function " ++ t.methodName ++ "(" ++ tester ++ " $I)" := rfl
  rw [hparts]
  simp only [String.toList_append, List.append_assoc]
  rfl

theorem writtenTest_eq (t : ExportedTest) :
    writtenTest unit tester t =
      methodStart unit ++ (t.methodName.toList ++ '(' :: (methodOpening unit tester ++
        written (bodyWithEnd unit t.lines))) := by
  have hlines : (methodLines unit (testDeclaration tester t) t.lines).map String.toList =
      [] :: (unit ++ testDeclaration tester t).toList :: (unit ++ "\x7b").toList ::
        bodyWithEnd unit t.lines := by
    simp only [methodLines, bodyWithEnd, List.map_append, List.map_map]
    rfl
  rw [writtenTest, hlines, written_cons, written_cons, written_cons, String.toList_append,
    toList_testDeclaration, String.toList_append, methodStart, methodOpening]
  simp only [List.append_assoc, List.cons_append, List.nil_append]

theorem not_newline_mem_unit {n : Int} (h : Layout.spaces n = .ok unit) : '\n' ∉ unit.toList := by
  unfold Layout.spaces at h
  split at h
  next =>
    cases h
    simp
  next => cases h

theorem bodyWithEnd_ne_nil (hunit : '\n' ∉ unit.toList) {lines : List String}
    (hlines : ∀ l ∈ lines, l ≠ "" ∧ '\n' ∉ l.toList) :
    ∀ l ∈ bodyWithEnd unit lines, l ≠ [] ∧ '\n' ∉ l := by
  intro l hl
  rcases List.mem_append.1 hl with hl | hl
  · obtain ⟨line, hline, rfl⟩ := List.mem_map.1 hl
    obtain ⟨hne, hbreak⟩ := hlines line hline
    simp [hunit, hne, hbreak]
  · obtain rfl := List.mem_singleton.1 hl
    simp [hunit]

theorem unindented_bodyWithEnd (lines : List String) :
    unindented unit (bodyWithEnd unit lines) = lines := by
  rw [unindented, bodyWithEnd, List.dropLast_concat, List.map_map]
  refine (List.map_congr_left fun l _ => ?_).trans (List.map_id lines)
  rw [Function.comp_apply, String.toList_append (s := unit ++ unit), List.drop_left,
    String.ofList_toList, id_eq]

/-- A test is read back, in front of another method or at the end. -/
theorem readTest?_written (tester : String) (hunit : '\n' ∉ unit.toList) {t : ExportedTest}
    (hname : Php.isLabel t.methodName.toList = true)
    (hlines : ∀ l ∈ t.lines, l ≠ "" ∧ '\n' ∉ l.toList) {rest : List Char}
    (hrest : leadingLines [] rest = ([], rest)) :
    readTest? unit tester (writtenTest unit tester t ++ rest) =
      some ((t.methodName, t.lines), rest) := by
  have hbracket : '(' ∉ t.methodName.toList := Php.not_mem_of_isLabel hname (by decide)
  have hbody := leadingLines_written (bodyWithEnd_ne_nil hunit hlines) hrest
  rw [writtenTest_eq, readTest?, List.append_assoc, List.drop_left, List.append_assoc,
    List.cons_append, Template.cutFirstChars_append hbracket, Option.map_some]
  simp only [List.append_assoc, List.drop_left, hbody, unindented_bodyWithEnd,
    String.ofList_toList]

/-- Nothing behind a body is taken for one of its lines, since every method begins with an empty
line. -/
theorem leadingLines_tests (unit tester : String) (ts : List ExportedTest) :
    leadingLines [] (ts.flatMap (writtenTest unit tester)) =
      ([], ts.flatMap (writtenTest unit tester)) := by
  cases ts with
  | nil => rfl
  | cons t ts =>
    rw [List.flatMap_cons, writtenTest_eq]
    rfl

theorem readTests?_of_readTest? {cs rest : List Char} {t : String × List String}
    (h : readTest? unit tester cs = some (t, rest)) :
    readTests? unit tester cs = (readTests? unit tester rest).map (t :: ·) := by
  cases cs with
  | nil => exact absurd (length_readTest?_lt h) (Nat.not_lt_zero _)
  | cons c cs =>
    rw [readTests?]
    split
    next h' =>
      rw [h] at h'
      cases h'
      rfl
    next h' =>
      rw [h] at h'
      cases h'

/-- The tests are read back one after the other. -/
theorem readTests?_written (tester : String) (hunit : '\n' ∉ unit.toList) {ts : List ExportedTest}
    (hnames : ∀ t ∈ ts, Php.isLabel t.methodName.toList = true)
    (hlines : ∀ t ∈ ts, ∀ l ∈ t.lines, l ≠ "" ∧ '\n' ∉ l.toList) :
    readTests? unit tester (ts.flatMap (writtenTest unit tester)) =
      some (ts.map fun t => (t.methodName, t.lines)) := by
  induction ts with
  | nil =>
    rw [List.flatMap_nil, readTests?]
    rfl
  | cons t ts ih =>
    obtain ⟨hname, hnames⟩ := List.forall_mem_cons.1 hnames
    obtain ⟨hbody, hlines⟩ := List.forall_mem_cons.1 hlines
    have hread := readTest?_written tester hunit hname hbody (leadingLines_tests unit tester ts)
    rw [List.flatMap_cons, readTests?_of_readTest? hread, ih hnames hlines]
    rfl

end

/-! ## Classes -/

/-- A class is its name and its tests between what the settings and the helper methods fix. -/
theorem toList_of_render {config : Config} {p : ExportedProject} {text : String}
    (h : render config p = .ok text) :
    ∃ bodies unit, helperBodies config p.helpers = .ok bodies ∧
      Layout.spaces config.indent = .ok unit ∧
      text.toList = classStart config ++ (p.className.toList ++ '\n' :: (classOpening unit ++
        (p.tests.flatMap (writtenTest unit (testerName config)) ++ classClosing unit bodies))) := by
  obtain ⟨bodies, hbodies, h⟩ := bind_eq_ok.1 h
  obtain ⟨unit, hunit, h⟩ := bind_eq_ok.1 h
  refine ⟨bodies, unit, hbodies, hunit, ?_⟩
  cases h
  have htests : written ((p.tests.flatMap fun t =>
      methodLines unit (testDeclaration (testerName config) t) t.lines).map String.toList) =
      p.tests.flatMap (writtenTest unit (testerName config)) := by
    rw [List.map_flatMap, written_flatMap]
    rfl
  have hname : written (([s!"class {p.className}", "\x7b",
      unit ++ "private $vars = [];"] : List String).map String.toList) =
      "class ".toList ++ (p.className.toList ++ '\n' :: classOpening unit) := by
    have hparts : s!"class {p.className}" = "class " ++ p.className := rfl
    rw [hparts, List.map_cons, written_cons, String.toList_append, List.append_assoc]
    rfl
  rw [toList_join_lines, classLines, List.append_assoc, List.append_assoc, List.append_assoc,
    List.map_append, written_append, List.map_append, written_append, hname, List.map_append,
    written_append, htests, classStart, classClosing]
  simp only [List.append_assoc, List.cons_append]

/-- Nothing of a class is lost in its text: the name of the class, and test by test the name of the
method and its lines, can be told from the text, the settings and the helper methods. -/
theorem readClass?_render {config : Config} {p : ExportedProject} {text : String}
    (hclass : Php.isLabel p.className.toList = true)
    (hmethods : ∀ t ∈ p.tests, Php.isLabel t.methodName.toList = true)
    (hlines : ∀ t ∈ p.tests, ∀ l ∈ t.lines, l ≠ "" ∧ '\n' ∉ l.toList)
    (h : render config p = .ok text) :
    readClass? config p.helpers text =
      some (p.className, p.tests.map fun t => (t.methodName, t.lines)) := by
  obtain ⟨bodies, unit, hbodies, hunit, htext⟩ := toList_of_render h
  have hbreak : '\n' ∉ p.className.toList := Php.not_mem_of_isLabel hclass (by decide)
  have htests := readTests?_written (testerName config) (not_newline_mem_unit hunit)
    hmethods hlines
  simp only [readClass?, hbodies, hunit, htext, Option.bind_eq_bind,
    Option.bind_some, List.drop_left, Template.cutFirstChars_append hbreak,
    List.rdrop_append_length, htests, String.ofList_toList, Except.toOption]

/-- Lines that look like the end of a method and the beginning of the next one are read as lines,
even where nothing is indented and the tester's class stands in a namespace. -/
theorem readClass?_render_braces :
    let config : Config :=
      { Config.default with
        indent := -1, space := "Tests", testerClass := "Tests\\Support\\Tester" }
    let body : ExportedTest :=
      ⟨"body", "body", ["\x7d", "public function f(Tester $I)", "\x7b"], []⟩
    let empty : ExportedTest := ⟨"empty", "empty", [], []⟩
    let p : ExportedProject :=
      ⟨"Shop", "ShopCest", [body, empty], Window.helperMethods "Tester", []⟩
    ∃ text, render config p = .ok text ∧ readClass? config p.helpers text =
      some ("ShopCest",
        [("body", ["\x7d", "public function f(Tester $I)", "\x7b"]), ("empty", [])]) := by
  intro config body empty p
  have htext : render config p = .ok _ := rfl
  exact ⟨_, htext, readClass?_render (by decide) (by decide) (by decide) htext⟩

end Export

end CestExport
