/-! # Reading characters

A `Reader` takes characters from the front of a text and may fail; it does not say why, since a
text that is no document is refused as a whole.  Here are the readers for the smallest parts of a
document: blanks, line ends, comments, and runs of digits. -/

namespace InputMap.Toml

/-- A reader takes characters from the front of a text, or fails. -/
abbrev Reader := StateT (List Char) Option

namespace Reader

variable {α : Type}

/-- The next character, which stays where it is. -/
def peek? : Reader (Option Char) := fun cs => some (cs.head?, cs)

/-- Takes the next character if it passes a test. -/
def satisfy (p : Char → Bool) : Reader Char
  | [] => none
  | c :: rest => if p c then some (c, rest) else none

/-- Takes one certain character. -/
def char (c : Char) : Reader Unit := do
  let _ ← satisfy (· == c)

/-- Takes the characters of `expected`. -/
def exactly : List Char → Reader Unit
  | [] => pure ()
  | c :: rest => do
    char c
    exactly rest

/-- Takes characters as long as they pass a test. -/
def takeWhile (p : Char → Bool) : Reader (List Char) := fun cs =>
  some (cs.takeWhile p, cs.dropWhile p)

/-- Takes exactly `n` characters that pass a test. -/
def count (p : Char → Bool) : Nat → Reader (List Char)
  | 0 => pure []
  | n + 1 => do
    let c ← satisfy p
    return c :: (← count p n)

/-- Repetitions of a reader up to the first that fails, at most one for each character of
    `bound`. -/
def repeatUpTo (r : Reader α) : (bound : List Char) → Reader (List α)
  | [] => pure []
  | _ :: bound => do
    match ← optional r with
    | none => return []
    | some a => return a :: (← repeatUpTo r bound)

/-- Repetitions of a reader up to the first that fails.  A reader that takes a character each time
    cannot succeed more often than there are characters, so the text bounds its own repetitions. -/
def many (r : Reader α) : Reader (List α) := fun cs => repeatUpTo r cs cs

/-- Succeeds at the end of the text. -/
def endOfText : Reader Unit
  | [] => some ((), [])
  | _ => none

end Reader

open Reader

/-- A blank inside a line. -/
def isBlank (c : Char) : Bool := c == ' ' || c == '\t'

/-- A character that may stand nowhere in a line. -/
def isControl (c : Char) : Bool := (c.toNat < 0x20 && c != '\t') || c.toNat == 0x7f

/-- A character of a key without quotes. -/
def isBareKeyChar (c : Char) : Bool := c.isAlphanum || c == '_' || c == '-'

/-- A hexadecimal digit. -/
def isHexDigit (c : Char) : Bool :=
  c.isDigit || ('a' ≤ c && c ≤ 'f') || ('A' ≤ c && c ≤ 'F')

/-- The value of a hexadecimal digit. -/
def digitValue (c : Char) : Nat :=
  if c.isDigit then c.toNat - '0'.toNat
  else if 'a' ≤ c then c.toNat - 'a'.toNat + 10
  else c.toNat - 'A'.toNat + 10

/-- The value of digits of a base. -/
def digitsValue (base : Nat) (digits : List Char) : Nat :=
  digits.foldl (fun n c => base * n + digitValue c) 0

/-- Skips blanks. -/
def blanks : Reader Unit := do
  let _ ← takeWhile isBlank

/-- A line end: a line feed, with or without a carriage return before it. -/
def newline : Reader Unit := char '\n' <|> exactly ['\r', '\n']

/-- A comment, up to the end of its line. -/
def comment : Reader Unit := do
  char '#'
  let _ ← takeWhile fun c => !isControl c

/-- What may follow a key with its value or a header in a line, and the end of the line. -/
def lineEnd : Reader Unit := do
  blanks
  let _ ← optional comment
  newline <|> endOfText

/-- Skips blanks, line ends and comments, as inside an array. -/
def spacing : Reader Unit := do
  let _ ← many do
    blanks
    let _ ← optional comment
    newline
  blanks

/-- The digits at the front of a text, where single underscores may stand between two of them. -/
def digitRun (p : Char → Bool) : List Char → List Char × List Char
  | [] => ([], [])
  | '_' :: rest =>
    match rest with
    | [] => ([], ['_'])
    | c :: rest =>
      if p c then
        let (digits, rest) := digitRun p rest
        (c :: digits, rest)
      else ([], '_' :: c :: rest)
  | c :: rest =>
    if p c then
      let (digits, rest) := digitRun p rest
      (c :: digits, rest)
    else ([], c :: rest)

/-- At least one digit, with single underscores between two of them. -/
def digits (p : Char → Bool) : Reader (List Char) := do
  let first ← satisfy p
  let rest ← fun cs => some (digitRun p cs)
  return first :: rest

end InputMap.Toml
