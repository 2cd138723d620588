import InputMap.Notice
import InputMap.Settings
import InputMap.Snapshot

/-! # Polling a slot

Once per tick every signal of a slot is read once.  Here faults are absorbed: a failed reading
counts as at rest, a component that is not a number counts as zero, and every other component is
brought into the range that the settings allow.  Nothing behind this point sees a fault. -/

namespace InputMap

/-- A component of a reading between `-limit` and `limit`, with zero in place of what is not a
    number.  Zero always has the positive sign, so that a sign flip at rest is no change. -/
def cleanComponent (limit v : Float32) : Float32 :=
  if v.isNaN then 0.0
  else
    let kept := if v < -limit then -limit else if limit < v then limit else v
    if kept == 0.0 then 0.0 else kept

/-- What cleaning a component tells. -/
def componentNotices (limit v : Float32) : List Notice :=
  if v.isNaN then [.readingNaN]
  else if limit < v.abs then [.readingClamped v limit]
  else []

/-- A reading with its components cleaned. -/
def cleanReading (limit : Float32) : (c : Category) → c.Reading → Value
  | .digital, b => .bool b
  | .analog1, v => .scalar (cleanComponent limit v)
  | .analog2, (x, y) => .vec2 (cleanComponent limit x) (cleanComponent limit y)

/-- What cleaning a reading tells. -/
def readingNotices (limit : Float32) : (c : Category) → c.Reading → List Notice
  | .digital, _ => []
  | .analog1, v => componentNotices limit v
  | .analog2, (x, y) => componentNotices limit x ++ componentNotices limit y

/-- The value that an answer of a pad comes to. -/
def cleanAnswer (limit : Float32) (s : Signal) : Answer s → Value
  | .ok r => cleanReading limit s.category r
  | .error _ => s.category.neutral

/-- What an answer of a pad tells. -/
def answerNotices (limit : Float32) (slot : Nat) (s : Signal) : Answer s → List Notice
  | .ok r => readingNotices limit s.category r
  | .error fault => [.readFault slot s fault]

/-- What has been read of a slot, with the pad as the readings have left it. -/
structure Poll (σ : Type) where
  pad : σ
  snapshot : Snapshot
  notices : List Notice

namespace Poll

variable {σ : Type} [Pad σ]

/-- Reads one more signal. -/
def readSignal (limit : Float32) (slot : Nat) (poll : Poll σ) (s : Signal) : Poll σ :=
  let (answer, pad) := Pad.read poll.pad slot s
  { pad
    snapshot := poll.snapshot.insert s (cleanAnswer limit s answer)
    notices := poll.notices ++ answerNotices limit slot s answer }

/-- What the settings tell before the first reading. -/
def limitNotices (settings : Settings) : List Notice :=
  if Settings.isLimit settings.analogLimit then []
  else [.limitIgnored settings.analogLimit Settings.defaultLimit]

/-- Reads every signal of a set once. -/
def run (settings : Settings) (signals : SignalSet) (slot : Nat) (pad : σ) : Poll σ :=
  let poll := signals.toList.foldl (readSignal settings.limit slot)
    ⟨pad, .empty, limitNotices settings⟩
  { poll with notices := poll.notices ++ [.polled poll.snapshot.size slot] }

@[simp] theorem readSignal_snapshot (limit : Float32) (slot : Nat) (poll : Poll σ) (s : Signal) :
    (poll.readSignal limit slot s).snapshot =
      poll.snapshot.insert s (cleanAnswer limit s (Pad.read poll.pad slot s).1) := rfl

@[simp] theorem readSignal_pad (limit : Float32) (slot : Nat) (poll : Poll σ) (s : Signal) :
    (poll.readSignal limit slot s).pad = (Pad.read poll.pad slot s).2 := rfl

end Poll

@[simp] theorem category_cleanAnswer (limit : Float32) (s : Signal) (answer : Answer s) :
    (cleanAnswer limit s answer).category = s.category := by
  cases answer with
  | error fault => exact Value.category_neutral _
  | ok r =>
    simp only [cleanAnswer]
    revert r
    cases s.category <;> intro r <;> rfl

end InputMap
