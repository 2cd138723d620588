import InputMap.Number
import InputMap.Toml.Lexeme
import InputMap.Toml.Tree

/-! # Scalars of a document

Readers for strings, numbers, truth values and moments.  Strings come in four forms, with one or
three quotes of either kind; only double-quoted ones have escapes. -/

namespace InputMap.Toml

open Reader

/-! ## Strings -/

/-- A character given by its number in `n` hexadecimal digits. -/
def numberedChar (n : Nat) : Reader Char := do
  let code := digitsValue 16 (← count isHexDigit n)
  if code.isValidChar then return Char.ofNat code else failure

/-- What stands for a character after a backslash. -/
def escapedChar : Reader Char := do
  match ← satisfy fun _ => true with
  | 'b' => return '\x08'
  | 't' => return '\t'
  | 'n' => return '\n'
  | 'f' => return '\x0c'
  | 'r' => return '\r'
  | '"' => return '"'
  | '\\' => return '\\'
  | 'u' => numberedChar 4
  | 'U' => numberedChar 8
  | _ => failure

/-- A character of a string in double quotes. -/
def basicChar : Reader Char := do
  let c ← satisfy fun c => !isControl c && c != '"'
  if c == '\\' then escapedChar else return c

/-- A string in double quotes. -/
def basicString : Reader String := do
  char '"'
  let cs ← many basicChar
  char '"'
  return String.ofList cs

/-- A string in single quotes. -/
def literalString : Reader String := do
  char '\''
  let cs ← takeWhile fun c => !isControl c && c != '\''
  char '\''
  return String.ofList cs

/-- A line end that a backslash hides, together with the blanks and line ends after it. -/
def hiddenLineEnd : Reader Unit := do
  blanks
  newline
  let _ ← many do
    (do let _ ← satisfy isBlank) <|> newline

/-- A part of a string in three double quotes that is not a quote. -/
def multilineBasicPart : Reader (List Char) :=
  (do newline; return ['\n']) <|> do
    let c ← satisfy fun c => !isControl c && c != '"'
    if c == '\\' then
      (do hiddenLineEnd; return []) <|> do return [← escapedChar]
    else return [c]

/-- A part of a string in three single quotes that is not a quote. -/
def multilineLiteralPart : Reader (List Char) :=
  (do newline; return ['\n']) <|> do
    return [← satisfy fun c => !isControl c && c != '\'']

/-- One or two quotes inside a string in three of them. -/
def innerQuotes (quote : Char) : Reader (List Char) := fun cs =>
  let quotes := cs.takeWhile (· == quote)
  if 0 < quotes.length && quotes.length ≤ 2 then some (quotes, cs.drop quotes.length) else none

/-- The end of a string in three quotes: up to two quotes before the last three belong to it. -/
def closingQuotes (quote : Char) : Reader (List Char) := fun cs =>
  let quotes := cs.takeWhile (· == quote)
  if 3 ≤ quotes.length && quotes.length ≤ 5 then some (quotes.drop 3, cs.drop quotes.length)
  else none

/-- A string in three quotes.  A line end right after the opening quotes does not belong to it. -/
def multilineString (quote : Char) (part : Reader (List Char)) : Reader String := do
  exactly [quote, quote, quote]
  let _ ← optional newline
  let parts ← many (part <|> innerQuotes quote)
  let last ← closingQuotes quote
  return String.ofList (parts.flatten ++ last)

/-- A string of any form. -/
def string : Reader String :=
  multilineString '"' multilineBasicPart <|> multilineString '\'' multilineLiteralPart <|>
    basicString <|> literalString

/-! ## Numbers -/

/-- A sign; whether it is a minus. -/
def sign : Reader Bool := do
  match ← optional (satisfy fun c => c == '+' || c == '-') with
  | some '-' => return true
  | _ => return false

/-- The digits of a decimal number without superfluous zeros in front. -/
def wholeDigits : Reader (List Char) := do
  match ← peek? with
  | some '0' =>
    char '0'
    return ['0']
  | _ => digits Char.isDigit

/-- A whole number in the base that its first two characters name. -/
def basedInteger (name : Char) (base : Nat) (p : Char → Bool) : Reader Int := do
  exactly ['0', name]
  return digitsValue base (← digits p)

/-- A whole decimal number. -/
def decimalInteger : Reader Int := do
  let negative ← sign
  let value := digitsValue 10 (← wholeDigits)
  return if negative then -value else value

/-- A whole number of 64 bits with a sign. -/
def integer : Reader Tree := do
  let n ← basedInteger 'x' 16 isHexDigit <|> basedInteger 'o' 8 (fun c => '0' ≤ c && c ≤ '7') <|>
    basedInteger 'b' 2 (fun c => c == '0' || c == '1') <|> decimalInteger
  if -9223372036854775808 ≤ n && n ≤ 9223372036854775807 then return .integer n else failure

/-- The digits behind a decimal point. -/
def fraction : Reader (List Char) := do
  char '.'
  digits Char.isDigit

/-- A power of ten. -/
def power : Reader Int := do
  let _ ← satisfy fun c => c == 'e' || c == 'E'
  let negative ← sign
  let value := digitsValue 10 (← digits Char.isDigit)
  return if negative then -value else value

/-- A number with a fraction, a power of ten or both.  One that is too large is refused, one that
    is too small is minus infinity. -/
def decimalFloat : Reader Tree := do
  let negative ← sign
  let whole ← wholeDigits
  let (places, exponent) ← (do return ([], ← power)) <|> do
    let places ← fraction
    return (places, (← optional power).getD 0)
  let x := Number.ofDecimal negative (digitsValue 10 (whole ++ places)) (exponent - places.length)
  if x.isInf && !negative then failure else return .float x

/-- Infinity or what is not a number. -/
def specialFloat : Reader Tree := do
  let negative ← sign
  (do exactly ['i', 'n', 'f']
      return .float (.ofModel (.pack (.infinity (if negative then .negative else .positive))))) <|>
    (do exactly ['n', 'a', 'n']
        return .float (.ofModel (.pack .notANumber)))

/-! ## Moments -/

/-- A decimal number of exactly `n` digits between two bounds. -/
def boundedNumber (n low high : Nat) : Reader Nat := do
  let value := digitsValue 10 (← count Char.isDigit n)
  if low ≤ value && value ≤ high then return value else failure

/-- The number of days of a month. -/
def daysIn (year month : Nat) : Nat :=
  if month == 2 then
    if year % 4 == 0 && (year % 100 != 0 || year % 400 == 0) then 29 else 28
  else if month == 4 || month == 6 || month == 9 || month == 11 then 30
  else 31

/-- A day of the calendar. -/
def date : Reader Unit := do
  let year ← boundedNumber 4 0 9999
  char '-'
  let month ← boundedNumber 2 1 12
  char '-'
  let _ ← boundedNumber 2 1 (daysIn year month)

/-- A time of the day. -/
def time : Reader Unit := do
  let _ ← boundedNumber 2 0 23
  char ':'
  let _ ← boundedNumber 2 0 59
  char ':'
  let _ ← boundedNumber 2 0 60
  let _ ← optional do
    char '.'
    let _ ← satisfy Char.isDigit
    takeWhile Char.isDigit

/-- A difference from universal time. -/
def offset : Reader Unit :=
  (do let _ ← satisfy fun c => c == 'Z' || c == 'z') <|> do
    let _ ← satisfy fun c => c == '+' || c == '-'
    let _ ← boundedNumber 2 0 23
    char ':'
    let _ ← boundedNumber 2 0 59

/-- A date, a time or both. -/
def moment : Reader Tree :=
  (do date
      let _ ← optional do
        let _ ← satisfy fun c => c == 'T' || c == 't' || c == ' '
        time
        optional offset
      return .moment) <|> do
    time
    return .moment

/-! ## Any scalar -/

/-- A truth value. -/
def boolean : Reader Tree :=
  (do exactly ['t', 'r', 'u', 'e']; return .boolean true) <|>
    (do exactly ['f', 'a', 'l', 's', 'e']; return .boolean false)

/-- Anything that is neither an array nor a table. -/
def scalar : Reader Tree :=
  (do return .string (← string)) <|> boolean <|> moment <|> decimalFloat <|> specialFloat <|>
    integer

end InputMap.Toml
