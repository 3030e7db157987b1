import CestExport.Config.Environment
import CestExport.Disk.Basic
import CestExport.Text.Utf8
import CestExport.Yaml.Reading

/-!
# Settings from a file

A settings file is a YAML mapping.  Unknown keys, and numbers that cannot be read,
are noted and passed over; null leaves a setting as it is.
-/

namespace CestExport

/-- Why settings cannot be had. -/
inductive SettingsFault
  | missing (path : Path)
  | disk (error : DiskError)
  | decoding (error : Text.Utf8.Error)
  | yaml (error : Yaml.Error)
  | notTable (path : Path)
  | number (cause : UnusableNumber)
  | unknownSetting (name : String)

/-- The text of a fault. -/
def SettingsFault.message : SettingsFault → String
  | missing path => s!"設定ファイルが見つかりません: {path.display}"
  | disk e => e.message
  | decoding e => e.message
  | yaml e => if e.isSyntax then s!"設定ファイルの YAML 構文エラー: {e.message}" else e.message
  | notTable path =>
    s!"設定ファイルのトップレベルはマッピングである必要があります: {path.display}"
  | number cause => cause.message
  | unknownSetting name => s!"未知の設定項目です: {name}"

namespace Config

/-- Settings with one entry of a file. -/
def enter (c : Config) (key value : Data) : Noted SettingsFault Config :=
  match Setting.ofKey? key with
  | none => ⟨.ok c, [.unknownKey key.display]⟩
  | some s =>
    match value with
    | .null => ⟨.ok c, []⟩
    | _ =>
      match s.kind.convert value with
      | .error e => ⟨.error (.number e), []⟩
      | .ok none => ⟨.ok c, [.badNumber s.name value.display]⟩
      | .ok (some v) => ⟨.ok (c.set s v), []⟩

/-- Settings with the entries of a file, one after the other. -/
def enterAll : List (Data × Data) → Config → Noted SettingsFault Config
  | [], c => ⟨.ok c, []⟩
  | e :: es, c => (c.enter e.1 e.2).andThen (enterAll es)

/-- How many bytes of a settings file are read at a time. -/
def pieceSize : Nat := 8192

/-- What a settings file holds. -/
def fileData (d : Disk) (path : Path) : Except SettingsFault Data := do
  match ← (d.find path).mapError .disk with
  | none => .error (.missing path)
  | some _ =>
    let bytes ← (d.read path).mapError .disk
    let text ← (Text.Utf8.decodePieces pieceSize bytes).mapError .decoding
    (Yaml.read (String.ofList (Text.Utf8.unifyBreaks text.toList))).mapError .yaml

/-- Settings with those that data gives, which was read from a file. -/
def enterData (c : Config) (path : Path) : Data → Noted SettingsFault Config
  | .null => ⟨.ok c, []⟩
  | d =>
    match d.entries? with
    | some es => (enterAll es c).andThen fun c => ⟨.ok c, [.settingsFileLoaded path.display]⟩
    | none => ⟨.error (.notTable path), []⟩

/-- Settings with those that a file gives. -/
def enterFile (c : Config) (d : Disk) (path : Path) : Noted SettingsFault Config :=
  (Noted.quiet (fileData d path)).andThen (c.enterData path)

end Config

end CestExport
