import CestExport.Number.Whole
import CestExport.Text.Quoted

/-!
# Why a step cannot be generated

Each failure is a cause; `message` words it, and `kind` says which family it
belongs to.
-/

namespace CestExport

/-- The families of failures. -/
inductive FailureKind
  | locatorSyntax
  | addressing
  | unsupported
  | value
  | overflow
deriving DecidableEq, Repr

/-- Why a step cannot be generated. -/
inductive Failure
  | locatorEmpty
  | locatorShape (locator : String)
  | locatorStrategy (strategy : String)
  | choiceEmpty
  | choiceIndex (choice : String)
  | choiceStrategy (strategy : String)
  | windowTarget (target : String)
  | windowSerial (target : String)
  | frameIndex (target : String)
  | unsupportedCommand (command : String)
  | windowSize (target : String)
  | loopCount (target : String)
  | attributeLocator (target : String)
  | methodName (name : String)
  | timeout (text : String)
  | timeoutTooLarge
  | whole (cause : Number.WholeError)
  | raised (text : String)
deriving DecidableEq, Repr

open Text (quoted)

/-- At most the first 200 characters of a quoted text. -/
def clipped (s : String) : String :=
  String.ofList ((quoted s).toList.take 200)

/-- What is wrong with a whole number. -/
def Number.WholeError.message : Number.WholeError → String
  | .unreadable text => s!"invalid literal for int() with base 10: {clipped text}"
  | .tooManyDigits count =>
    "Exceeds the limit (4300 digits) for integer string conversion: value has " ++
      s!"{count} digits; use sys.set_int_max_str_digits() to increase the limit"
  | .tooLongToShow =>
    "Exceeds the limit (4300 digits) for integer string conversion; " ++
      "use sys.set_int_max_str_digits() to increase the limit"

namespace Failure

/-- The locator strategies, in order. -/
def strategyNames : String :=
  "css, id, link, linkText, name, partialLinkText, xpath"

/-- The text of a failure. -/
def message : Failure → String
  | locatorEmpty => "ロケータが空です"
  | locatorShape l => s!"ロケータの形式が不正です（strategy=value）: {quoted l}"
  | locatorStrategy s => s!"未知のロケータ戦略です: {quoted s}（対応: {strategyNames}）"
  | choiceEmpty => "選択肢の指定が空です"
  | choiceIndex c => s!"index は 0 以上の整数で指定してください: {quoted c}"
  | choiceStrategy s => s!"未知の選択肢指定です: {quoted s}"
  | windowTarget t =>
    s!"未対応のウィンドウ指定です（handle= / name= / win_ser_ のみ対応）: {quoted t}"
  | windowSerial t => s!"win_ser_ の後には local または整数を指定してください: {quoted t}"
  | frameIndex t => s!"index= の値が数値ではありません: {quoted t}"
  | unsupportedCommand c => s!"未対応のコマンドです: {c}"
  | windowSize t => s!"ウィンドウサイズは WxH 形式で指定してください: {quoted t}"
  | loopCount t => s!"times の回数は整数または変数参照で指定してください: {quoted t}"
  | attributeLocator t =>
    s!"属性ロケータは <locator>@<attribute> 形式で指定してください: {quoted t}"
  | methodName n => s!"メソッド名に変換できないテスト名です: {quoted n}"
  | timeout t => s!"タイムアウト値が数値ではありません: {quoted t}"
  | timeoutTooLarge => "int too large to convert to float"
  | whole cause => cause.message
  | raised text => text

/-- The family of a failure. -/
def kind : Failure → FailureKind
  | locatorEmpty | locatorShape _ | locatorStrategy _ => .locatorSyntax
  | choiceEmpty | choiceIndex _ | choiceStrategy _ => .locatorSyntax
  | windowTarget _ | windowSerial _ | frameIndex _ => .addressing
  | unsupportedCommand _ => .unsupported
  | windowSize _ | loopCount _ | attributeLocator _ | methodName _ => .value
  | timeout _ | whole _ | raised _ => .value
  | timeoutTooLarge => .overflow

/-- The target that a failure of addressing is about. -/
def target? : Failure → Option String
  | windowTarget t | windowSerial t | frameIndex t => some t
  | _ => none

end Failure

end CestExport
