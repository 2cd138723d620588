import InputMap.File
import InputMap.Notice
import InputMap.Settings
import InputMap.Toml.Decode

/-! # Settings as documents

A document may set any of the settings; the others keep their defaults.  A missing file sets
nothing, but a file that is there must be right. -/

namespace InputMap

open Toml

/-- Why there are no settings. -/
inductive SettingsError where
  | file (path : String) (fault : FileFault)
  | parse (error : ParseError)
  | invalid (fault : SettingFault)
deriving DecidableEq

/-- The message of settings that are not to be had. -/
def SettingsError.message : SettingsError → String
  | file path fault => "Failed to read settings file " ++ path ++ ": " ++ fault.message
  | parse error => "Failed to parse settings: " ++ error.message
  | invalid fault => fault.message

namespace Settings

/-- The names of the settings. -/
def fieldNames : List String :=
  ["analog_limit", "joystick_deadzone", "stats_interval_ticks", "log_level"]

/-- The settings with one of them set. -/
def set (settings : Settings) : String × Tree → Decoded Settings
  | ("analog_limit", t) => do return { settings with analogLimit := ← t.decodeSingle }
  | ("joystick_deadzone", t) => do return { settings with joystickDeadzone := ← t.decodeSingle }
  | ("stats_interval_ticks", t) => do return { settings with statsInterval := ← t.decodeNatural }
  | ("log_level", t) => do return { settings with logLevel := ← t.decodeString }
  | _ => .ok settings

/-- The settings of a document, unchecked. -/
def ofTree (t : Tree) : Decoded Settings := do
  let record ← t.decodeRecord "struct EngineSettings" fieldNames
  record.fields.foldlM set default

/-- The settings that a text holds. -/
def ofText (text : String) : Except SettingsError Settings :=
  match decodeText ofTree text with
  | .error error => .error (.parse error)
  | .ok settings =>
    match settings.validate with
    | .error fault => .error (.invalid fault)
    | .ok () => .ok settings

/-- The settings of a file, from its bytes if it is there. -/
def load (path : String) (content? : Option ByteArray) : Except SettingsError Settings :=
  match readText content? with
  | .error fault => .error (.file path fault)
  | .ok text => ofText text

/-- The settings of a file, or the defaults if it is missing. -/
def loadOrDefault (path : String) (content? : Option ByteArray) : Except SettingsError Settings :=
  match content? with
  | none => .ok default
  | some content => load path (some content)

/-- What `loadOrDefault` tells. -/
def loadNotices (path : String) (content? : Option ByteArray) : List Notice :=
  match content? with
  | none => [.settingsMissing path]
  | some _ => [.settingsLoading path]

end Settings

end InputMap
