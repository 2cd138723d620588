import InputMap.BindError
import InputMap.Pad
import InputMap.Text.Quoted

/-! # Notices

What the library does is told to its user as a list of notices.  A notice is data: its level says
who should see it and its message says what happened. -/

namespace InputMap

/-- How urgent a notice is; the first is the most urgent. -/
inductive Level where
  | error
  | warn
  | info
  | debug
  | trace
deriving DecidableEq, Repr

namespace Level

/-- All levels, the most urgent first. -/
def all : List Level := [.error, .warn, .info, .debug, .trace]

/-- The number of a level, from 1. -/
def rank : Level → Nat
  | error => 1
  | warn => 2
  | info => 3
  | debug => 4
  | trace => 5

/-- The name of a level in front of its messages. -/
def name : Level → String
  | error => "ERROR"
  | warn => "WARN"
  | info => "INFO"
  | debug => "DEBUG"
  | trace => "TRACE"

/-- Whether a user who asked for `limit` sees notices of the level. -/
def shownAt (level limit : Level) : Bool := level.rank ≤ limit.rank

/-- The value of a decimal number that may have a plus sign in front. -/
def numberOf? (text : String) : Option Nat :=
  let digits := match text.toList with
    | '+' :: rest => rest
    | cs => cs
  if digits.isEmpty || digits.any (fun c => !c.isDigit) then none
  else some (Nat.ofDigitChars 10 digits 0)

/-- The level of a name, in capitals or not, or of a number from 1 to 5. -/
def ofText? (text : String) : Option Level :=
  match numberOf? text with
  | some n => all.find? (·.rank == n)
  | none => all.find? (·.name == text.map Char.toUpper)

end Level

/-- Totals over a window of ticks. -/
structure TickTotals where
  ticks : Nat
  evaluations : Nat
  changes : Nat
  calls : Nat
deriving DecidableEq, Repr

/-- Something that happened. -/
inductive Notice where
  | declared (category : Category) (name : String)
  | bound (action : String) (node : Node)
  | bindingRefused (action : String) (error : BindError)
  | tableInstalled (bindings : Nat)
  | tableRefused (error : BindError)
  | signalMissing (s : Signal)
  | playerTableInstalled (slot : Nat)
  | playerTableForeign (slot : Nat)
  | profileApplied (name : String) (slot : Nat)
  | simulatedPadCreated (slots : Nat)
  | hostCreated (actions signals slots : Nat)
  | limitIgnored (limit used : Float32)
  | readFault (slot : Nat) (s : Signal) (fault : Fault)
  | readingNaN
  | readingClamped (value limit : Float32)
  | polled (signals slot : Nat)
  | noValue (category : Category)
  | changed (slot : Nat) (action : String) (before after : Value)
  | tickFault (tick : Nat) (fault : Fault)
  | tickChanges (tick changes calls : Nat)
  | summary (totals : TickTotals)
  | profileLoading (path : String)
  | profileLoaded (name : String) (bindings : Nat)
  | profileSaved (name path : String)
  | settingsLoading (path : String)
  | settingsMissing (path : String)
  /-- A message of the program that uses the library. -/
  | report (text : String)
deriving DecidableEq

namespace Notice

/-- Who should see a notice. -/
def level : Notice → Level
  | bindingRefused .. | tableRefused .. | signalMissing .. | playerTableForeign ..
  | limitIgnored .. | readFault .. | readingNaN | tickFault .. => .warn
  | profileApplied .. | hostCreated .. | summary .. | profileLoaded .. | settingsMissing ..
  | report .. => .info
  | declared .. | bound .. | tableInstalled .. | playerTableInstalled .. | simulatedPadCreated ..
  | readingClamped .. | polled .. | tickChanges .. | profileLoading .. | profileSaved ..
  | settingsLoading .. => .debug
  | noValue .. | changed .. => .trace

/-- What a notice says. -/
def message : Notice → String
  | declared category name => s!"Declared {category.name} action {Text.quoted name}"
  | bound action node => s!"Bound {action} to {node.name}"
  | bindingRefused action error => s!"Rejected binding for {action}: {error.message}"
  | tableInstalled bindings => s!"Installed configuration with {bindings} explicit bindings"
  | tableRefused error => s!"Rejected configuration: {error.message}"
  | signalMissing s => s!"Rejected configuration: signal {s.name} is not available"
  | playerTableInstalled slot => s!"Player {slot} installed a new configuration"
  | playerTableForeign slot => s!"Player {slot} rejected a configuration for another action set"
  | profileApplied name slot => s!"Applied profile {Text.quoted name} to player {slot}"
  | simulatedPadCreated slots => s!"Creating simulated backend with {slots} slots"
  | hostCreated actions signals slots =>
    s!"Creating registry: {actions} actions, {signals} raw signals, {slots} player slots"
  | limitIgnored limit used =>
    s!"Ignoring invalid analog limit {Number.shortText .plain limit}, using {Number.shortText .plain used}"
  | readFault slot s fault => s!"Read fault on slot {slot} signal {s.name}: {fault.message}"
  | readingNaN => "Backend returned NaN, substituting 0.0"
  | readingClamped value limit =>
    s!"Clamping out-of-range reading {Number.fixedText 4 value} to ±{Number.fixedText 2 limit}"
  | polled signals slot => s!"Polled {signals} signals for slot {slot}"
  | noValue category => s!"Binding for {category.name} produced no value"
  | changed slot action before after =>
    s!"Player {slot} {action}: {before.text} -> {after.text}"
  | tickFault tick fault => s!"Backend failed to start tick {tick}: {fault.message}"
  | tickChanges tick changes calls => s!"Tick {tick}: {changes} changes, {calls} listener calls"
  | summary totals =>
    s!"Registry stats: {totals.ticks} ticks, {totals.evaluations} evaluations, {totals.changes} changes, {totals.calls} listener calls"
  | profileLoading path => s!"Loading bind profile from {path}"
  | profileLoaded name bindings => s!"Loaded profile {Text.quoted name} with {bindings} bindings"
  | profileSaved name path => s!"Saved profile {Text.quoted name} to {path}"
  | settingsLoading path => s!"Loading engine settings from {path}"
  | settingsMissing path => s!"No settings at {path}, using defaults"
  | report text => text

end Notice

end InputMap
