import InputMap.Number

/-! # Settings

Every setting has a default.  Two of them are numbers with a range, which `Settings.validate`
checks; `Settings.limit` is the bound for readings that is used in any case. -/

namespace InputMap

/-- What a user can set. -/
structure Settings where
  /-- Components of readings are kept between minus this and this. -/
  analogLimit : Float32
  /-- How far a stick or trigger must move before a pad with hardware reports it. -/
  joystickDeadzone : Float32
  /-- A summary is told after this many ticks; 0 stands for never. -/
  statsInterval : Nat
  /-- The name of the least urgent level that is shown. -/
  logLevel : String

/-- A setting that is out of its range, with its value. -/
inductive SettingFault where
  | analogLimit (v : Float32)
  | joystickDeadzone (v : Float32)
deriving DecidableEq

namespace SettingFault

/-- The name of the setting in files. -/
def field : SettingFault → String
  | analogLimit _ => "analog_limit"
  | joystickDeadzone _ => "joystick_deadzone"

/-- What is wrong with it. -/
def reason : SettingFault → String
  | analogLimit v => s!"must be a positive finite number, got {Number.shortText .plain v}"
  | joystickDeadzone v => s!"must be in [0, 1), got {Number.shortText .plain v}"

/-- The message of a setting out of its range. -/
def message (fault : SettingFault) : String :=
  s!"Invalid setting {fault.field}: {fault.reason}"

end SettingFault

namespace Settings

/-- The bound for readings where none is set. -/
def defaultLimit : Float32 := 1.0

/-- The settings where nothing is set. -/
def default : Settings := ⟨defaultLimit, 0.05, 0, "info"⟩

/-- Whether a number can bound readings: it must be positive and finite. -/
def isLimit (v : Float32) : Bool := v.isFinite && decide (0.0 < v)

/-- Whether a number is a dead zone: from 0 up to but not including 1. -/
def isDeadzone (v : Float32) : Bool := decide (0.0 ≤ v) && decide (v < 1.0)

/-- Checks the ranges; the first setting out of its range is the fault. -/
def validate (settings : Settings) : Except SettingFault Unit :=
  if !isLimit settings.analogLimit then .error (.analogLimit settings.analogLimit)
  else if !isDeadzone settings.joystickDeadzone then
    .error (.joystickDeadzone settings.joystickDeadzone)
  else .ok ()

/-- The bound for readings: the one that is set, if it can be one. -/
def limit (settings : Settings) : Float32 :=
  if isLimit settings.analogLimit then settings.analogLimit else defaultLimit

/-- Settings that pass the checks are used as they are. -/
theorem limit_eq_of_validate {settings : Settings} (h : settings.validate = .ok ()) :
    settings.limit = settings.analogLimit := by
  simp only [validate] at h
  split at h
  · cases h
  · rename_i hlimit
    simp only [Bool.not_eq_true, Bool.not_eq_false'] at hlimit
    simp [limit, hlimit]

end Settings

end InputMap
