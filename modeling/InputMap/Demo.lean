import InputMap.Host.Session
import InputMap.Pad.Simulated
import InputMap.Profile.File
import InputMap.Settings.Document

/-! # The demo

The demo declares two actions, `fire` and `movement`, binds them by a profile, and runs five ticks
on a simulated pad.  It shows what happens as notices of the level that the settings name.  Its
own profile is used where there is no file. -/

namespace InputMap.Demo

/-- Why the demo stops. -/
inductive Failure where
  | settings (error : SettingsError)
  | level (name : String)
  | bind (error : BindError)
  | profile (error : ProfileFileError)
  | host (error : HostError)
deriving DecidableEq

/-- The message of a demo that stops. -/
def Failure.message : Failure → String
  | settings error => error.message
  | level name =>
    "Invalid log level " ++ Text.quoted name ++ ": error parsing level: expected one of " ++
      "\"error\", \"warn\", \"info\", \"debug\", \"trace\", or a number 1-5"
  | bind error => error.message
  | profile error => error.message
  | host error => error.message

/-- What a run of the demo shows, and why it stopped if it did. -/
structure Result where
  shown : List Notice
  failure? : Option Failure

/-- The exit code of a run. -/
def Result.exitCode (result : Result) : Nat := if result.failure?.isNone then 0 else 1

/-- Which of the two actions a listener reports. -/
inductive Reporter where
  | fire
  | movement
deriving DecidableEq, Repr

/-- The name of an action in reports. -/
def Reporter.name : Reporter → String
  | fire => "fire"
  | movement => "movement"

/-- The demo's own profile: the lower face button fires; the triggers move to the sides, and the
    directional pad moves up or down and keeps its last direction while it is idle. -/
def defaultProfile : Profile :=
  let up := Expr.input (.button .dpadUp)
  let down := Expr.input (.button .dpadDown)
  let vertical := Expr.branch (.xor up down)
    (.branch up (.constant (.scalar 1.0)) (.constant (.scalar (-1.0)))) (.split .previous .y)
  let horizontal := Expr.add (.input (.trigger .right)) (Expr.negate (.input (.trigger .left)))
  ⟨"default",
    [⟨"fire", .digital, .input (.button .faceDown)⟩,
      ⟨"movement", .analog2, .join horizontal vertical⟩]⟩

/-- The host of the demo. -/
abbrev DemoHost := Host SimulatedPad Reporter

/-- The declared actions. -/
structure Actions where
  set : ActionSet
  fire : ActionId
  movement : ActionId

/-- Declares the two actions. -/
def declareActions : Except BindError Actions := do
  let (builder, _) := ActionSet.builder .zero
  let (answer, builder) := builder.declare .digital Reporter.fire.name
  let fire ← answer
  let (answer, builder) := builder.declare .analog2 Reporter.movement.name
  let movement ← answer
  return ⟨builder, fire, movement⟩

/-- What the demo shows of an event: of a listener's call, its report. -/
def reportEvent : Event Reporter → Notice
  | .notice n => n
  | .call c => .report s!"Player {c.player.slot} {c.listener.name}: {c.value.text}"

/-- A tick of the demo, under a label. -/
def tickNotices (label : String) (done : Tick SimulatedPad Reporter) : List Notice :=
  done.events.map reportEvent ++
    [.report s!"Tick {done.report.tick} ({label}): {done.report.changes} changes, {done.report.calls} listener calls"]

/-- The five ticks: their labels, with what is done to the pad before each. -/
def script : List (String × (SimulatedPad → SimulatedPad)) :=
  [("idle", id),
    ("press fire", fun pad => pad.set 0 (.button .faceDown) true),
    ("dpad up, right trigger", fun pad =>
      (pad.set 0 (.button .dpadUp) true).set 0 (.trigger .right) (0.75 : Float32)),
    ("release dpad", fun pad => pad.set 0 (.button .dpadUp) false),
    ("disconnect", fun pad => pad.setConnected 0 false)]

/-- The ticks of a script, one after the other. -/
def runScript (host : DemoHost) :
    List (String × (SimulatedPad → SimulatedPad)) → DemoHost × List Notice
  | [] => (host, [])
  | (label, change) :: rest =>
    let done := (host.modifyPad change).update
    let (last, notices) := runScript done.host rest
    (last, tickNotices label done ++ notices)

/-- The text of a value that may be missing. -/
def optionText {α : Type} (text : α → String) : Option α → String
  | some a => "Some(" ++ text a ++ ")"
  | none => "None"

/-- The text of a pair of numbers in the final report. -/
def pairText (pair : Float32 × Float32) : String :=
  "(" ++ Number.shortText .report pair.1 ++ ", " ++ Number.shortText .report pair.2 ++ ")"

/-- The final report. -/
def finalNotices (host : DemoHost) (actions : Actions) : List Notice :=
  match host.player? 0 with
  | some p =>
    let fire := optionText (fun b => if b then "true" else "false") (p.digital? actions.fire)
    let movement := optionText pairText (p.analog2? actions.movement)
    [.report s!"Final state: fire {fire}, movement {movement}"]
  | none => []

/-- Applies a profile to the players of some slots, one after the other. -/
def applyToAll (profile : Profile) (host : DemoHost) :
    List Nat → List Notice × Except HostError DemoHost
  | [] => ([], .ok host)
  | slot :: rest =>
    let notices := host.applyProfileNotices slot profile
    match host.applyProfile slot profile with
    | (.error error, _) => (notices, .error error)
    | (.ok _, changed) =>
      let (more, result) := applyToAll profile changed rest
      (notices ++ more, result)

/-- The demo with its settings, its actions and a profile. -/
def runWith (settings : Settings) (actions : Actions) (profile : Profile) :
    List Notice × Option Failure :=
  let pad := SimulatedPad.create 1 .all
  let host : DemoHost := .create actions.set pad settings
  let created := .simulatedPadCreated 1 :: host.createNotices
  match applyToAll profile host (List.range host.players.length) with
  | (notices, .error error) => (created ++ notices, some (.host error))
  | (notices, .ok host) =>
    let host := (host.listen actions.fire .fire).2
    let host := (host.listen actions.movement .movement).2
    let (last, ticks) := runScript host script
    (created ++ notices ++ ticks ++ finalNotices last actions, none)

/-- The profile of the demo, from the file if it is there, with what is told of it. -/
def chooseProfile (path : String) (content? : Option ByteArray) :
    List Notice × Except ProfileFileError Profile :=
  match content? with
  | none => ([.report s!"No profile at {path}, using built-in bindings"], .ok defaultProfile)
  | some _ => (Profile.loadNotices path content?, Profile.load content?)

/-- The demo after its settings are known. -/
def runSettled (directory : String) (settings : Settings) (profile? : Option ByteArray) :
    List Notice × Option Failure :=
  let opening := [Notice.report s!"Using config directory {directory}"]
  match declareActions with
  | .error error => (opening, some (.bind error))
  | .ok actions =>
    let declared := [.declared .digital Reporter.fire.name, .declared .analog2 Reporter.movement.name]
    match chooseProfile (directory ++ "/profile.toml") profile? with
    | (notices, .error error) => (opening ++ declared ++ notices, some (.profile error))
    | (notices, .ok profile) =>
      let (rest, failure?) := runWith settings actions profile
      (opening ++ declared ++ notices ++ rest, failure?)

/-- The demo with the two files of a directory, each by its bytes if it is there.  Nothing is shown
    before the level is known. -/
def run (directory : String) (settings? profile? : Option ByteArray) : Result :=
  match Settings.loadOrDefault (directory ++ "/settings.toml") settings? with
  | .error error => ⟨[], some (.settings error)⟩
  | .ok settings =>
    match Level.ofText? settings.logLevel with
    | none => ⟨[], some (.level settings.logLevel)⟩
    | some level =>
      let (notices, failure?) := runSettled directory settings profile?
      ⟨notices.filter (·.level.shownAt level), failure?⟩

end InputMap.Demo
