import InputMap.Value

/-! # Signals of a pad

A pad has fourteen buttons, two triggers and two sticks.  Face buttons are named by where they
are, since their labels differ between pads. -/

namespace InputMap

/-- A button of a pad. -/
inductive Button where
  | faceDown
  | faceRight
  | faceLeft
  | faceUp
  | bumperLeft
  | bumperRight
  | dpadUp
  | dpadDown
  | dpadLeft
  | dpadRight
  | stickLeft
  | stickRight
  | back
  | start
deriving DecidableEq, Repr

/-- A trigger of a pad, usually read between 0 and 1. -/
inductive Trigger where
  | left
  | right
deriving DecidableEq, Repr

/-- A stick of a pad, each axis usually read between -1 and 1, upwards positive. -/
inductive Stick where
  | left
  | right
deriving DecidableEq, Repr

/-- Something on a pad that can be read. -/
inductive Signal where
  | button (b : Button)
  | trigger (t : Trigger)
  | stick (s : Stick)
deriving DecidableEq, Repr

namespace Button

/-- All buttons in the order in which they are read. -/
def all : List Button :=
  [.faceDown, .faceRight, .faceLeft, .faceUp, .bumperLeft, .bumperRight, .dpadUp, .dpadDown,
    .dpadLeft, .dpadRight, .stickLeft, .stickRight, .back, .start]

theorem mem_all (b : Button) : b ∈ all := by cases b <;> decide

/-- The name of a button in messages. -/
def name : Button → String
  | .faceDown => "FaceDown"
  | .faceRight => "FaceRight"
  | .faceLeft => "FaceLeft"
  | .faceUp => "FaceUp"
  | .bumperLeft => "BumperLeft"
  | .bumperRight => "BumperRight"
  | .dpadUp => "DpadUp"
  | .dpadDown => "DpadDown"
  | .dpadLeft => "DpadLeft"
  | .dpadRight => "DpadRight"
  | .stickLeft => "StickLeftButton"
  | .stickRight => "StickRightButton"
  | .back => "SpecialBack"
  | .start => "SpecialStart"

/-- The name of a button in files. -/
def key : Button → String
  | .faceDown => "face_down"
  | .faceRight => "face_right"
  | .faceLeft => "face_left"
  | .faceUp => "face_up"
  | .bumperLeft => "bumper_left"
  | .bumperRight => "bumper_right"
  | .dpadUp => "dpad_up"
  | .dpadDown => "dpad_down"
  | .dpadLeft => "dpad_left"
  | .dpadRight => "dpad_right"
  | .stickLeft => "stick_left_button"
  | .stickRight => "stick_right_button"
  | .back => "special_back"
  | .start => "special_start"

end Button

namespace Trigger

/-- Both triggers in the order in which they are read. -/
def all : List Trigger := [.left, .right]

theorem mem_all (t : Trigger) : t ∈ all := by cases t <;> decide

/-- The name of a trigger in messages. -/
def name : Trigger → String
  | .left => "TriggerLeft"
  | .right => "TriggerRight"

/-- The name of a trigger in files. -/
def key : Trigger → String
  | .left => "trigger_left"
  | .right => "trigger_right"

end Trigger

namespace Stick

/-- Both sticks in the order in which they are read. -/
def all : List Stick := [.left, .right]

theorem mem_all (s : Stick) : s ∈ all := by cases s <;> decide

/-- The name of a stick in messages. -/
def name : Stick → String
  | .left => "StickLeft"
  | .right => "StickRight"

/-- The name of a stick in files. -/
def key : Stick → String
  | .left => "stick_left"
  | .right => "stick_right"

end Stick

namespace Signal

/-- All signals: buttons, triggers, sticks. -/
def all : List Signal :=
  Button.all.map .button ++ Trigger.all.map .trigger ++ Stick.all.map .stick

theorem mem_all (s : Signal) : s ∈ all := by
  cases s with
  | button b => simp [all, Button.mem_all]
  | trigger t => simp [all, Trigger.mem_all]
  | stick s => simp [all, Stick.mem_all]

/-- The shape of a signal's readings. -/
def category : Signal → Category
  | .button _ => .digital
  | .trigger _ => .analog1
  | .stick _ => .analog2

/-- The name of a signal in messages. -/
def name : Signal → String
  | .button b => b.name
  | .trigger t => t.name
  | .stick s => s.name

end Signal

end InputMap
