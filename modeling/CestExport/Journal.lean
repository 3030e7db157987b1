/-!
# What is noted on the way

Events are noted in the order in which they happen.  Each has a severity, the
part of the program that notes it, and a text.
-/

namespace CestExport

/-- How much an event matters. -/
inductive Severity
  | debug
  | info
  | warning
deriving DecidableEq, Repr

/-- Something that happens on the way. -/
inductive Event
  | commandReplaced (command : String)
  | commandRegistered (command : String)
  | standardRegistered (count : Nat)
  | commandUnknown (command : String)
  | variableWritten (name : String)
  | stepSkipped (test : String) (position : Nat) (command : String)
  | testExported (test : String) (lines : Nat)
  | projectExported (project : String) (tests skipped : Nat)
  | classWritten (path : String)
  | projectLoaded (project : String) (tests : Nat)
  | environmentIndent (value : String)
  | unknownKey (key : String)
  | badNumber (key value : String)
  | settingsFileLoaded (path : String)
  | settingsResolved (shown : String)
deriving DecidableEq, Repr

namespace Event

/-- How much an event matters. -/
def severity : Event → Severity
  | commandReplaced _ | commandUnknown _ | stepSkipped .. => .warning
  | environmentIndent _ | unknownKey _ | badNumber .. => .warning
  | projectExported .. | classWritten _ | settingsResolved _ => .info
  | _ => .debug

/-- The part of the program that notes an event. -/
def source : Event → String
  | commandReplaced _ | commandRegistered _ | commandUnknown _ => "cept.emit.registry"
  | standardRegistered _ => "cept.emit.commands"
  | variableWritten _ => "cept.emit.variables"
  | stepSkipped .. | testExported .. | projectExported .. => "cept.core.exporter"
  | classWritten _ => "cept.core.writer"
  | projectLoaded .. => "cept.side.parser"
  | _ => "cept.config"

/-- The text of an event. -/
def text : Event → String
  | commandReplaced c => s!"コマンド '{c}' のジェネレータを上書きします"
  | commandRegistered c => s!"コマンド '{c}' を登録しました"
  | standardRegistered n => s!"標準コマンド {n} 種を登録しました"
  | commandUnknown c => s!"未対応のコマンドをスキップします: {c}"
  | variableWritten n => s!"変数 '{n}' への書き込みを生成しました"
  | stepSkipped t n c => s!"{t}: 未対応のコマンドをスキップします（{n} 番目）: {c}"
  | testExported t n => s!"テスト '{t}' を生成しました（{n} 行）"
  | projectExported p n k => s!"プロジェクト '{p}' を生成しました（テスト {n} 件、スキップ {k} 種）"
  | classWritten p => s!"Cest クラスを出力しました: {p}"
  | projectLoaded p n => s!"プロジェクト '{p}' を読み込みました（テスト {n} 件）"
  | environmentIndent v => s!"CEPT_INDENT の値が不正です: {v}"
  | unknownKey k => s!"設定ファイルの未知のキーを無視します: {k}"
  | badNumber k v => s!"設定ファイルの {k} の値が不正です: {v}"
  | settingsFileLoaded p => s!"設定ファイルを読み込みました: {p}"
  | settingsResolved c => s!"設定を読み込みました: {c}"

end Event

/-- The name of a severity. -/
def Severity.name : Severity → String
  | debug => "DEBUG"
  | info => "INFO"
  | warning => "WARNING"

/-- A result, or why there is none, and what was noted on the way. -/
structure Noted (ε α : Type) where
  result : Except ε α
  events : List Event

namespace Noted

/-- A result without notes. -/
def quiet {ε α : Type} (r : Except ε α) : Noted ε α := ⟨r, []⟩

/-- Goes on with a result; the notes of both parts are kept in order. -/
def andThen {ε α β : Type} (x : Noted ε α) (f : α → Noted ε β) : Noted ε β :=
  match x.result with
  | .error e => ⟨.error e, x.events⟩
  | .ok a => ⟨(f a).result, x.events ++ (f a).events⟩

end Noted

end CestExport
