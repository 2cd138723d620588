import InputMap.Toml.Scalar
import InputMap.Toml.Section

/-! # Reading a document

A document is read line by line.  Arrays and inline tables may be nested below one another, and
keys may have dots, to a depth of less than `nestingLimit`. -/

namespace InputMap.Toml

open Reader

/-- The depth at which arrays, inline tables and dotted keys are refused. -/
def nestingLimit : Nat := 80

/-- A key without dots. -/
def simpleKey : Reader String :=
  basicString <|> literalString <|> do
    let first ← satisfy isBareKeyChar
    return String.ofList (first :: (← takeWhile isBareKeyChar))

/-- A key without dots, with the blanks around it. -/
def spacedKey : Reader String := do
  blanks
  let key ← simpleKey
  blanks
  return key

/-- A key with dots: the keys before the last one, and the last one. -/
def dottedKey : Reader (List String × String) := do
  let first ← spacedKey
  let others ← many do
    char '.'
    spacedKey
  let keys := first :: others
  if keys.length < nestingLimit then return (keys.dropLast, others.getLastD first) else failure

/-- The items of an array behind its opening bracket, at most one for each character of
    `bound`. -/
def arrayItems (item : Reader Tree) : (bound : List Char) → Reader (List Tree)
  | [] => failure
  | _ :: bound => do
    spacing
    match ← peek? with
    | some ']' =>
      char ']'
      return []
    | _ =>
      let first ← item
      spacing
      match ← satisfy fun c => c == ',' || c == ']' with
      | ',' => return first :: (← arrayItems item bound)
      | _ => return [first]

/-- An array of items.  Each item takes a character, and so does the closing bracket, so the text
    bounds the number of items. -/
def array (item : Reader Tree) : Reader Tree := do
  char '['
  let items ← fun cs => arrayItems item cs cs
  return .array items

/-- A key with its value. -/
def entry (item : Reader Tree) : Reader (List String × String × Tree) := do
  let (path, key) ← dottedKey
  char '='
  blanks
  let v ← item
  return (path, key, v)

/-- The entries of an inline table behind the first one. -/
def moreEntries (item : Reader Tree) : Reader (List (List String × String × Tree)) :=
  many do
    blanks
    char ','
    entry item

/-- An inline table. -/
def inlineTable (item : Reader Tree) : Reader Tree := do
  char '{'
  let first ← optional (entry item)
  let others ← match first with
    | some _ => moreEntries item
    | none => pure []
  blanks
  char '}'
  let v := Tree.ofEntries? (first.toList ++ others)
  match v with
  | some v => return v
  | none => failure

/-- A value in which arrays and inline tables are nested at most `depth` deep. -/
def value : (depth : Nat) → Reader Tree
  | 0 => scalar
  | depth + 1 => array (value depth) <|> inlineTable (value depth) <|> scalar

/-- A header: the keys between single or double brackets. -/
def headerLine : Reader Line :=
  (do exactly ['[', '[']
      let (path, key) ← dottedKey
      exactly [']', ']']
      return .row path key) <|> do
    char '['
    let (path, key) ← dottedKey
    char ']'
    return .header path key

/-- A line that says something, without its end. -/
def line : Reader Line :=
  headerLine <|> do
    let (path, key, v) ← entry (value (nestingLimit - 1))
    return .entry path key v

/-- A line with its end; a line that says nothing yields nothing. -/
def anyLine : Reader (Option Line) := do
  blanks
  match ← peek? with
  | none => failure
  | some '\n' | some '\r' | some '#' =>
    lineEnd
    return none
  | _ =>
    let l ← line
    lineEnd
    return some l

/-- A text without the mark that some programs put in front of it. -/
def dropByteOrderMark : List Char → List Char
  | '\ufeff' :: rest => rest
  | cs => cs

/-- The lines of a whole text. -/
def lines : Reader (List Line) := do
  let found ← many anyLine
  blanks
  endOfText
  return found.filterMap id

/-- The content of a text, if it is a document. -/
def Tree.ofText? (text : String) : Option Tree :=
  match lines (dropByteOrderMark text.toList) with
  | some (found, _) => Tree.ofLines? found
  | none => none

end InputMap.Toml
