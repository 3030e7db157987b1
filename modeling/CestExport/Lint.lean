import CestExport.Recording.Step

/-!
# Checking the blocks of a test

Blocks have to be closed in the order in which they were opened, `do` by
`repeatIf` and the others by `end`; branches belong to an `if` and stand before
its `else`.  Commands that are unknown or generate nothing are pointed out too.
-/

namespace CestExport.Lint

/-- How much an issue matters. -/
inductive Severity
  | error
  | warning
  | info
deriving DecidableEq, Repr

/-- A block that is open, and the step that opened it. -/
structure OpenBlock where
  command : String
  position : Nat
  sawElse : Bool := false
deriving DecidableEq, Repr

/-- What is wrong with a step. -/
inductive Problem
  | dropped
  | unsupported
  | unmatched
  | outsideIf (block : OpenBlock)
  | afterElse
  | repeatWithoutDo (block : OpenBlock)
  | endOfDo (block : OpenBlock)
  | unclosed
deriving DecidableEq, Repr

/-- A problem and the step that has it. -/
structure Issue where
  position : Nat
  command : String
  problem : Problem
deriving DecidableEq, Repr

/-- How much a problem matters. -/
def Problem.severity : Problem → Severity
  | dropped => .info
  | unsupported => .warning
  | _ => .error

/-- The name of a severity. -/
def Severity.name : Severity → String
  | error => "error"
  | warning => "warning"
  | info => "info"

/-- The name of the rule that a problem breaks. -/
def Problem.rule : Problem → String
  | dropped => "dropped-command"
  | unsupported => "unsupported-command"
  | unmatched => "unmatched-closer"
  | outsideIf _ => "branch-outside-if"
  | afterElse => "branch-after-else"
  | repeatWithoutDo _ => "repeat-if-without-do"
  | endOfDo _ => "end-closes-do"
  | unclosed => "unclosed-block"

/-- The text of an issue. -/
def Issue.message (i : Issue) : String :=
  let c := i.command
  match i.problem with
  | .dropped => s!"{c} は生成コードに出力されません"
  | .unsupported => s!"{c} は未対応のコマンドのため出力されません"
  | .unmatched => s!"{c} に対応する開始ブロックがありません"
  | .outsideIf b => s!"{c} が if 以外のブロック（{b.command}, {b.position} 行目）内にあります"
  | .afterElse => s!"{c} が else の後にあります"
  | .repeatWithoutDo b => s!"repeatIf が do ではなく {b.command}（{b.position} 行目）を閉じています"
  | .endOfDo b => s!"do ブロック（{b.position} 行目）は repeatIf で閉じてください"
  | .unclosed => s!"{c} ブロックが閉じられていません"

/-- The commands that open a block. -/
def openers : List String := ["if", "while", "do", "forEach", "times"]

/-- The commands that generate nothing though they might be expected to. -/
def dropped : List String := ["setSpeed", "debugger"]

/-- What is wrong with a command by itself. -/
def commandProblem? (known : Option (List String)) (name : String) : Option Problem :=
  if dropped.contains name then some .dropped
  else
    match known with
    | some names => if names.contains name then none else some .unsupported
    | none => none

/-- A branch, in the open blocks; the innermost one comes first. -/
def branch (name : String) : List OpenBlock → Option Problem × List OpenBlock
  | [] => (some .unmatched, [])
  | b :: bs =>
    if b.command != "if" then (some (.outsideIf b), b :: bs)
    else if b.sawElse then (some .afterElse, b :: bs)
    else (none, { b with sawElse := name == "else" } :: bs)

/-- The end of a block, in the open blocks. -/
def closer (name : String) : List OpenBlock → Option Problem × List OpenBlock
  | [] => (some .unmatched, [])
  | b :: bs =>
    if name == "repeatIf" && b.command != "do" then (some (.repeatWithoutDo b), bs)
    else if name == "end" && b.command == "do" then (some (.endOfDo b), bs)
    else (none, bs)

/-- What a step does to the open blocks, and what is wrong with that. -/
def track (position : Nat) (name : String) (stack : List OpenBlock) :
    Option Problem × List OpenBlock :=
  if openers.contains name then (none, ⟨name, position, false⟩ :: stack)
  else if name == "elseIf" || name == "else" then branch name stack
  else if name == "end" || name == "repeatIf" then closer name stack
  else (none, stack)

/-- The issues of the steps from a position on, and the blocks that stay open. -/
def walk (known : Option (List String)) :
    Nat → List Step → List OpenBlock → List Issue × List OpenBlock
  | _, [], stack => ([], stack)
  | n, s :: rest, stack =>
    if !s.isActive then walk known (n + 1) rest stack
    else
      let (problem, stack') := track n s.name stack
      let found := ((commandProblem? known s.name).toList ++ problem.toList).map (⟨n, s.name, ·⟩)
      let (issues, left) := walk known (n + 1) rest stack'
      (found ++ issues, left)

/-- The issues of a test in the order of its steps. -/
def lint (known : Option (List String)) (t : TestCase) : List Issue :=
  let (issues, left) := walk known 1 t.commands []
  let unclosed := left.reverse.map fun b => (⟨b.position, b.command, .unclosed⟩ : Issue)
  (issues ++ unclosed).mergeSort fun a b => a.position ≤ b.position

end CestExport.Lint
