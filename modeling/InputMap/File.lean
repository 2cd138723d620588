/-! # Files

What the library needs of a file is its content as text.  A file may be missing, and its bytes may
be no text. -/

namespace InputMap

/-- Why a file has no text. -/
inductive FileFault where
  | missing
  | notText
deriving DecidableEq, Repr

/-- The message of a file without text. -/
def FileFault.message : FileFault → String
  | missing => "No such file or directory (os error 2)"
  | notText => "stream did not contain valid UTF-8"

/-- The text of a file, from its bytes if it is there. -/
def readText (content? : Option ByteArray) : Except FileFault String :=
  match content? with
  | none => .error .missing
  | some content =>
    match String.fromUTF8? content with
    | some text => .ok text
    | none => .error .notText

/-- The text that was written to a file is read back. -/
theorem readText_toUTF8 (text : String) : readText (some text.toUTF8) = .ok text := by
  have h : String.fromUTF8? text.toUTF8 = some text := by
    simp only [String.fromUTF8?]
    split
    · rfl
    · rename_i hinvalid
      exact absurd text.isValidUTF8 hinvalid
  simp only [readText, h]

end InputMap
