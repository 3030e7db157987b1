import CestExport.Command.Control
import CestExport.Command.Navigation
import CestExport.Command.Storage
import CestExport.Command.Waiting

/-!
# The standard commands

Every command that is generated without further registration, with the text that
describes it.  A `verify` command does the same as the `assert` command it is
named after.
-/

namespace CestExport.Command

/-- A command, what it drafts, and how it is described. -/
structure Standard where
  name : String
  generator : Generator
  description : String
  category : String

/-- Commands that navigate. -/
def navigation : List Standard := [
  ⟨"open", openUrl, "URL へ遷移（相対 URL はベース URL を前置）", "navigation"⟩,
  ⟨"close", close, "現在のタブを閉じる", "navigation"⟩,
  ⟨"setWindowSize", setWindowSize, "ウィンドウサイズを変更", "navigation"⟩,
  ⟨"selectWindow", selectWindow, "ウィンドウを切り替え", "navigation"⟩,
  ⟨"selectFrame", selectFrame, "フレームを切り替え", "navigation"⟩]

/-- Commands that act on elements. -/
def actions : List Standard := [
  ⟨"click", click, "クリック可能になるのを待ってクリック", "action"⟩,
  ⟨"clickAt", click, "クリック可能になるのを待ってクリック", "action"⟩,
  ⟨"doubleClick", doubleClick, "クリック可能になるのを待ってダブルクリック", "action"⟩,
  ⟨"doubleClickAt", doubleClick, "クリック可能になるのを待ってダブルクリック", "action"⟩,
  ⟨"mouseDown", mouseDown, "要素上でマウスボタンを押下", "action"⟩,
  ⟨"mouseDownAt", mouseDown, "要素上でマウスボタンを押下", "action"⟩,
  ⟨"mouseUp", mouseUp, "要素上でマウスボタンを解放", "action"⟩,
  ⟨"mouseUpAt", mouseUp, "要素上でマウスボタンを解放", "action"⟩,
  ⟨"mouseMove", mouseMove, "要素へポインタを移動", "action"⟩,
  ⟨"mouseMoveAt", mouseMove, "要素へポインタを移動", "action"⟩,
  ⟨"mouseOver", mouseMove, "要素へポインタを移動", "action"⟩,
  ⟨"mouseOut", mouseOut, "ポインタを要素外へ移動", "action"⟩,
  ⟨"check", check, "チェックボックスをチェック", "action"⟩,
  ⟨"uncheck", uncheck, "チェックボックスのチェックを外す", "action"⟩,
  ⟨"submit", submit, "フォームを送信", "action"⟩,
  ⟨"sendKeys", sendKeys, "キー入力を送信", "action"⟩,
  ⟨"type", typeText, "入力欄に値を入力", "action"⟩,
  ⟨"editContent", editContent, "contentEditable 要素の内容を変更", "action"⟩,
  ⟨"select", select, "select の選択肢を選択", "action"⟩,
  ⟨"addSelection", select, "複数選択 select に選択肢を追加", "action"⟩,
  ⟨"removeSelection", select, "複数選択 select の選択肢を切り替え", "action"⟩,
  ⟨"dragAndDropToObject", dragAndDrop, "要素を別の要素へドラッグ＆ドロップ", "action"⟩]

/-- Commands that assert. -/
def assertions : List Standard := [
  ⟨"assert", assertVariable, "変数の値を検証", "assertion"⟩,
  ⟨"assertAlert", assertAlert, "アラートのテキストを検証", "assertion"⟩,
  ⟨"assertConfirmation", assertAlert, "確認ダイアログのテキストを検証", "assertion"⟩,
  ⟨"assertPrompt", assertAlert, "プロンプトのテキストを検証", "assertion"⟩,
  ⟨"assertChecked", assertChecked, "チェック状態を検証", "assertion"⟩,
  ⟨"assertNotChecked", assertNotChecked, "未チェック状態を検証", "assertion"⟩,
  ⟨"assertEditable", assertEditable, "編集可能であることを検証", "assertion"⟩,
  ⟨"assertNotEditable", assertNotEditable, "編集不可であることを検証", "assertion"⟩,
  ⟨"assertElementPresent", assertElementPresent, "要素が存在することを検証", "assertion"⟩,
  ⟨"assertElementNotPresent", assertElementNotPresent, "要素が存在しないことを検証", "assertion"⟩,
  ⟨"assertText", assertText, "要素のテキストを検証", "assertion"⟩,
  ⟨"assertNotText", assertNotText, "要素のテキストが一致しないことを検証", "assertion"⟩,
  ⟨"assertValue", assertValue, "入力値を検証", "assertion"⟩,
  ⟨"assertSelectedValue", assertValue, "選択中の値を検証", "assertion"⟩,
  ⟨"assertNotSelectedValue", assertNotSelectedValue, "選択中の値が一致しないことを検証", "assertion"⟩,
  ⟨"assertSelectedLabel", assertSelectedLabel, "選択中のラベルを検証", "assertion"⟩,
  ⟨"assertTitle", assertTitle, "ページタイトルを検証", "assertion"⟩]

/-- Commands that run scripts and tests. -/
def scripts : List Standard := [
  ⟨"executeScript", executeScript, "スクリプトを実行し結果を格納", "script"⟩,
  ⟨"executeAsyncScript", executeAsyncScript, "非同期スクリプトを実行し結果を格納", "script"⟩,
  ⟨"runScript", runScript, "スクリプトを実行", "script"⟩,
  ⟨"run", run, "別のテストを実行", "script"⟩]

/-- Commands that store values. -/
def storage : List Standard := [
  ⟨"store", store, "値を変数に格納", "store"⟩,
  ⟨"storeText", storeText, "要素のテキストを変数に格納", "store"⟩,
  ⟨"storeValue", storeValue, "入力値を変数に格納", "store"⟩,
  ⟨"storeAttribute", storeAttribute, "要素の属性値を変数に格納", "store"⟩,
  ⟨"storeTitle", storeTitle, "ページタイトルを変数に格納", "store"⟩,
  ⟨"storeJson", storeJson, "JSON を解析して変数に格納", "store"⟩,
  ⟨"storeWindowHandle", storeWindowHandle, "現在のウィンドウハンドルを変数に格納", "store"⟩,
  ⟨"storeXpathCount", storeXpathCount, "一致する要素数を変数に格納", "store"⟩]

/-- Commands that wait. -/
def waiting : List Standard := [
  ⟨"waitForElementPresent", waitForElementPresent, "要素が存在するまで待機", "wait"⟩,
  ⟨"waitForElementNotPresent", waitForElementNotPresent, "要素が存在しなくなるまで待機", "wait"⟩,
  ⟨"waitForElementVisible", waitForElementVisible, "要素が表示されるまで待機", "wait"⟩,
  ⟨"waitForElementNotVisible", waitForElementNotVisible, "要素が非表示になるまで待機", "wait"⟩,
  ⟨"waitForElementEditable", waitForElementEditable, "要素が編集可能になるまで待機", "wait"⟩,
  ⟨"waitForElementNotEditable", waitForElementNotEditable, "要素が編集不可になるまで待機", "wait"⟩,
  ⟨"waitForText", waitForText, "要素に指定テキストが現れるまで待機", "wait"⟩]

/-- Commands that answer dialogs. -/
def dialogs : List Standard := [
  ⟨"webdriverAnswerOnVisiblePrompt", answerPrompt, "表示中のプロンプトに入力して確定", "dialog"⟩,
  ⟨"webdriverChooseCancelOnVisibleConfirmation", cancelDialog, "表示中の確認ダイアログをキャンセル", "dialog"⟩,
  ⟨"webdriverChooseCancelOnVisiblePrompt", cancelDialog, "表示中のプロンプトをキャンセル", "dialog"⟩,
  ⟨"webdriverChooseOkOnVisibleConfirmation", acceptDialog, "表示中の確認ダイアログで OK を選択", "dialog"⟩]

/-- Commands that branch and loop. -/
def control : List Standard := [
  ⟨"if", beginIf, "条件分岐を開始", "control-flow"⟩,
  ⟨"elseIf", elseIf, "別条件の分岐", "control-flow"⟩,
  ⟨"else", otherwise, "それ以外の分岐", "control-flow"⟩,
  ⟨"end", endBlock, "ブロックを閉じる", "control-flow"⟩,
  ⟨"do", beginDo, "後判定ループを開始", "control-flow"⟩,
  ⟨"repeatIf", repeatIf, "後判定ループを閉じる", "control-flow"⟩,
  ⟨"while", beginWhile, "前判定ループを開始", "control-flow"⟩,
  ⟨"forEach", forEach, "コレクション変数を反復", "control-flow"⟩,
  ⟨"times", times, "指定回数繰り返す", "control-flow"⟩]

/-- Commands that speak or pause. -/
def miscellany : List Standard := [
  ⟨"echo", echo, "メッセージを出力", "misc"⟩,
  ⟨"pause", pause, "指定ミリ秒待機", "misc"⟩]

/-- Commands that generate nothing. -/
def silent : List Standard := [
  ⟨"answerOnNextPrompt", skip, "記録側専用（出力なし）", "no-op"⟩,
  ⟨"chooseCancelOnNextConfirmation", skip, "記録側専用（出力なし）", "no-op"⟩,
  ⟨"chooseCancelOnNextPrompt", skip, "記録側専用（出力なし）", "no-op"⟩,
  ⟨"chooseOkOnNextConfirmation", skip, "記録側専用（出力なし）", "no-op"⟩,
  ⟨"setSpeed", skip, "実行速度の設定（出力なし）", "no-op"⟩,
  ⟨"debugger", skip, "ブレークポイント（出力なし）", "no-op"⟩]

/-- The `verify` commands, and the `assert` commands they are named after. -/
def verifying : List (String × String) := [
  ("verify", "assert"),
  ("verifyChecked", "assertChecked"),
  ("verifyNotChecked", "assertNotChecked"),
  ("verifyEditable", "assertEditable"),
  ("verifyNotEditable", "assertNotEditable"),
  ("verifyElementPresent", "assertElementPresent"),
  ("verifyElementNotPresent", "assertElementNotPresent"),
  ("verifyText", "assertText"),
  ("verifyNotText", "assertNotText"),
  ("verifyValue", "assertValue"),
  ("verifySelectedValue", "assertSelectedValue"),
  ("verifyNotSelectedValue", "assertNotSelectedValue"),
  ("verifySelectedLabel", "assertSelectedLabel"),
  ("verifyTitle", "assertTitle")]

/-- The commands that have a definition of their own. -/
def primary : List Standard :=
  navigation ++ actions ++ assertions ++ scripts ++ storage ++
    waiting ++ dialogs ++ control ++ miscellany ++ silent

/-- The `verify` commands. -/
def secondary : List Standard :=
  verifying.filterMap fun (soft, hard) =>
    (primary.find? (·.name == hard)).map fun c => { c with name := soft }

/-- All standard commands, in the order in which they are registered. -/
def standard : List Standard :=
  primary ++ secondary

end CestExport.Command
