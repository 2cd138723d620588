import InputMap.Demo

/-! # The command

Runs the demo with the files of the user's configuration directory and prints what it shows. -/

open InputMap

/-- The directory of the demo's files: its own one in the user's configuration directory, or the
    working directory if the user has none. -/
def configurationDirectory : IO String := do
  match ← IO.getEnv "XDG_CONFIG_HOME" with
  | some directory =>
    if directory.startsWith "/" then return directory ++ "/padbind" else pure ()
  | none => pure ()
  match ← IO.getEnv "HOME" with
  | some home => return home ++ "/.config/padbind"
  | none => return "."

/-- The bytes of a file, if it is there. -/
def readBytes? (path : String) : IO (Option ByteArray) :=
  try return some (← IO.FS.readBinFile path)
  catch _ => return none

/-- Runs the demo. -/
def main : IO UInt32 := do
  let directory ← configurationDirectory
  let settings? ← readBytes? (directory ++ "/settings.toml")
  let profile? ← readBytes? (directory ++ "/profile.toml")
  let result := Demo.run directory settings? profile?
  for notice in result.shown do
    IO.println s!"{notice.level.name} {notice.message}"
  match result.failure? with
  | some failure => IO.eprintln s!"Error: {failure.message}"
  | none => pure ()
  return result.exitCode.toUInt32
