import CestExport.Config.Resolve
import CestExport.Export.Written
import CestExport.Lint
import CestExport.Recording.File
import CestExport.Tool.Arguments

/-!
# Running a request

The tool answers a request with an exit code, lines of output, lines of errors and
the files as they are afterwards.
-/

namespace CestExport.Tool

/-- What the tool finds. -/
structure World where
  disk : Disk
  environment : List (String × String)

/-- What the tool answers. -/
structure Reply where
  exitCode : Nat
  output : List String
  errors : List String
  disk : Disk

/-- Lines as a text. -/
def textOf (lines : List String) : String := String.join (lines.map (· ++ "\n"))

/-- A failure. -/
def failure (message : String) : String := s!"エラー: {message}"

/-- A request that fails and changes nothing. -/
def Reply.failed (w : World) (errors : List String) (message : String) : Reply :=
  ⟨1, [], errors ++ [failure message], w.disk⟩

/-! ## Export -/

/-- Whether an event is shown. -/
def isShown (verbose : Bool) (e : Event) : Bool := verbose || e.severity == .warning

/-- The lines of events. -/
def eventLines (verbose : Bool) (es : List Event) : List String :=
  (es.filter (isShown verbose)).map fun e => s!"{e.severity.name} {e.source}: {e.text}"

/-- The settings and the project of an export, or a failure's text. -/
def prepare (w : World) (r : ExportRequest) : Noted String (Config × Project) :=
  let settings := Config.resolve w.environment w.disk r.settings r.baseUrl r.strict
  (⟨settings.result.mapError (·.message), settings.events⟩ : Noted String Config).andThen fun c =>
    let project := Recording.load w.disk r.project
    ⟨(project.result.mapError (·.message)).map (c, ·), project.events⟩

/-- The end of an export whose class is made. -/
def finishExport (w : World) (r : ExportRequest) (config : Config) (e : ExportedProject)
    (events : List Event) : Reply :=
  let written := Export.write config w.disk e r.output
  let errors := eventLines r.verbose (events ++ written.events)
  match written.result with
  | .error fault => ⟨1, [], errors ++ [failure fault.message], written.disk⟩
  | .ok file =>
    let skipped := ", ".intercalate e.skipped
    ⟨0, [s!"Cest クラスを出力しました: {file.display}（テスト {e.tests.length} 件）"],
      errors ++ (if e.skipped.isEmpty then []
        else [s!"未対応のためスキップしたコマンド: {skipped}"]), written.disk⟩

/-- Exports a project. -/
def runExport (w : World) (r : ExportRequest) : Reply :=
  let prepared := prepare w r
  match prepared.result with
  | .error message => .failed w (eventLines r.verbose prepared.events) message
  | .ok (config, project) =>
    let o := Export.project Registry.default config project r.tests
    let events := prepared.events ++ Registry.defaultEvents ++ o.events
    match o.result with
    | .error f => .failed w (eventLines r.verbose events) f.message
    | .ok e => finishExport w r config e events

/-! ## Lint and validation -/

/-- The line of an issue. -/
def issueLine (t : TestCase) (i : Lint.Issue) : String :=
  s!"[{i.problem.severity.name}] {t.name} {i.position} 番目 ({i.command}): {i.message}"

/-- The lines of a test's issues. -/
def lintLines (t : TestCase) (issues : List Lint.Issue) : List String :=
  if issues.isEmpty then [s!"✓ {t.name}: lint 問題なし"] else issues.map (issueLine t)

/-- Whether an issue makes the tool fail. -/
def isSerious (i : Lint.Issue) : Bool := i.problem.severity != .info

/-- Lints the tests of a project. -/
def runLint (w : World) (p : Path) : Reply :=
  match Recording.read w.disk p with
  | .error f => .failed w [] f.message
  | .ok project =>
    let results := project.tests.map fun t => (t, Lint.lint (some Registry.default.names) t)
    let serious := results.any fun r => r.2.any isSerious
    ⟨if serious then 1 else 0, results.flatMap fun r => lintLines r.1 r.2, [], w.disk⟩

/-- The line of a complaint. -/
def complaintLine (c : Recording.Complaint) : String :=
  let line := match c.line with
    | some n => s!" (行 {n})"
    | none => ""
  s!"✗ {c.location}{line}: {c.message}"

/-- Validates a project; one that cannot be read at all fails without a complaint. -/
def runValidate (w : World) (p : Path) : Reply :=
  match Recording.validate w.disk p with
  | .error _ => ⟨1, [], [], w.disk⟩
  | .ok [] => ⟨0, [s!"✓ {p.display}: スキーマ検証 OK"], [], w.disk⟩
  | .ok cs => ⟨1, [], cs.map complaintLine, w.disk⟩

/-! ## The list of commands -/

/-- A text filled up with spaces. -/
def padRight (width : Nat) (s : String) : String :=
  s ++ String.ofList (List.replicate (width - s.length) ' ')

/-- The lines of a category. -/
def categoryLines (infos : List CommandInfo) (category : String) : List String :=
  ["", s!"[{category}]"] ++ (infos.filter (·.category == category)).map fun i =>
    s!"  {padRight 45 i.name} {i.description}"

/-- Lists the standard commands by category. -/
def runList (w : World) : Reply :=
  let infos := Registry.default.listAll
  let categories := (distinct (infos.map (·.category))).mergeSort Registry.textLe
  ⟨0, categories.flatMap (categoryLines infos) ++ ["", s!"合計: {infos.length} コマンド"], [],
    w.disk⟩

/-! ## A new settings file -/

/-- The lines of a new settings file. -/
def settingsLines : List String := [
  "# cept エクスポート設定",
  "# CLI 引数 > このファイル > 環境変数 > デフォルト値 の順に適用されます",
  "",
  "# open の相対 URL に前置するベース URL（空ならプロジェクトの url）",
  "base_url: \"\"",
  "",
  "# 生成コードのインデント幅",
  "indent: 4",
  "",
  "# 生成クラスの名前空間（空なら namespace 宣言なし）",
  "namespace: \"\"",
  "",
  "# Codeception のアクタークラス名",
  "tester_class: AcceptanceTester",
  "",
  "# 生成クラス名の接尾辞",
  "class_suffix: Cest",
  "",
  "# waitForText のタイムアウト（秒）",
  "wait_for_text_timeout: 30",
  "",
  "# 待機時間の記録がない waitForElement* のタイムアウト（秒）",
  "wait_timeout: 30",
  "",
  "# 未対応コマンドをエラーにする",
  "strict: false"]

/-- The path from the root to a place. -/
def absolute (place : List String) : Path := ⟨"/", place⟩

/-- The new settings file, its place unless it was there already, and the files afterwards. -/
def newSettings (d : Disk) (directory : Path) :
    Except DiskError (Path × Option (List String)) × Disk :=
  match d.ensureDirectories directory with
  | (.error e, made) => (.error e, made)
  | (.ok _, made) =>
    let file := directory.child usualSettingsFile.name
    match made.find file with
    | .error e => (.error e, made)
    | .ok (some _) => (.ok (file, none), made)
    | .ok none =>
      match made.filePlace file with
      | .error e => (.error e, made)
      | .ok place =>
        (.ok (file, some place), made.putFile place (Export.bytesOf (textOf settingsLines)))

/-- Makes a settings file in a directory unless it is there already. -/
def runStart (w : World) (directory : Path) : Reply :=
  match newSettings w.disk directory with
  | (.error e, d) => ⟨1, [], [failure e.message], d⟩
  | (.ok (file, none), d) => ⟨0, [s!"設定ファイルは既に存在します: {file.display}"], [], d⟩
  | (.ok (_, some place), d) =>
    ⟨0, [s!"設定ファイルを生成しました: {(absolute place).display}"], [], d⟩

/-! ## Requests -/

/-- What the tool says about itself. -/
def helpLines : List String := [
  "cept — Selenium IDE の記録を PHP Codeception の Cest クラスに変換するツール",
  "",
  "基本の流れ:",
  "  1. cept lint project.side     制御構文の対応を確認",
  "  2. cept export project.side -o tests/acceptance",
  "",
  "詳しくは各コマンドに --help を付けてください。"]

/-- Answers a request. -/
def run (w : World) : Request → Reply
  | .exporting r => runExport w r
  | .linting p => runLint w p
  | .validating p => runValidate w p
  | .listing => runList w
  | .starting directory => runStart w directory
  | .help => ⟨0, helpLines, [], w.disk⟩

/-- The answer to arguments that make no request. -/
def refusal (w : World) (_ : UsageError) : Reply := ⟨2, helpLines, [], w.disk⟩

/-- Answers arguments. -/
def answer (w : World) (arguments : List String) : Reply :=
  match Request.ofArguments arguments with
  | .ok request => run w request
  | .error e => refusal w e

end CestExport.Tool
