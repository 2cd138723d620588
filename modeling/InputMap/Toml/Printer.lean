import InputMap.Number
import InputMap.Toml.Tree

/-! # Writing a document

A document is written in blocks.  The entries of a table that are plain values come first; a table
below it gets a block of its own under its full path, and so does each table of an array that
holds tables only.  Everything inside any other array is written inline. -/

namespace InputMap.Toml

/-! ## Strings -/

/-- The longest run of a character in a text. -/
def longestRun (c : Char) (cs : List Char) : Nat :=
  let (longest, last) := cs.foldl
    (fun (longest, run) d => if d == c then (max longest (run + 1), run + 1) else (longest, 0))
    (0, 0)
  max longest last

/-- A character that only an escape can stand for. -/
def needsEscape (c : Char) : Bool :=
  (c.toNat < 0x20 && c != '\t' && c != '\n') || c.toNat == 0x7f

/-- The escape of a character inside double quotes; line ends and quotes depend on their place. -/
def escape (c : Char) : List Char :=
  match c with
  | '\x08' => ['\\', 'b']
  | '\t' => ['\\', 't']
  | '\x0c' => ['\\', 'f']
  | '\r' => ['\\', 'r']
  | '\\' => ['\\', '\\']
  | c =>
    if needsEscape c then
      let code := (Nat.toDigits 16 c.toNat).map Char.toUpper
      ['\\', 'u'] ++ List.replicate (4 - code.length) '0' ++ code
    else [c]

/-- The inside of a string in double quotes. -/
def basicInside (cs : List Char) : List Char :=
  cs.flatMap fun c =>
    if c == '\n' then ['\\', 'n'] else if c == '"' then ['\\', '"'] else escape c

/-- The inside of a string in three double quotes, where every third quote of a run is escaped;
    `run` quotes stand before the rest. -/
def multilineInside (run : Nat) : List Char → List Char
  | [] => []
  | '"' :: rest =>
    if run == 2 then '\\' :: '"' :: multilineInside 0 rest
    else '"' :: multilineInside (run + 1) rest
  | '\n' :: rest => '\n' :: multilineInside 0 rest
  | c :: rest => escape c ++ multilineInside 0 rest

/-- A string in three quotes; a string of several lines starts in a line of its own. -/
def inThreeQuotes (quote : Char) (cs inside : List Char) : List Char :=
  let quotes := [quote, quote, quote]
  quotes ++ (if cs.contains '\n' then ['\n'] else []) ++ inside ++ quotes

/-- A string in the first form that it fits: double quotes without escapes, single quotes, three
    double quotes, three single quotes, and double quotes with escapes. -/
def stringText (s : String) : String :=
  let cs := s.toList
  let escapes := cs.any needsEscape
  let lines := cs.contains '\n'
  String.ofList <|
    if !escapes && !lines && !cs.contains '\\' && !cs.contains '"' then
      '"' :: basicInside cs ++ ['"']
    else if !escapes && !lines && !cs.contains '\'' then '\'' :: cs ++ ['\'']
    else if !escapes && !cs.contains '\\' && longestRun '"' cs < 3 then
      inThreeQuotes '"' cs (multilineInside 0 cs)
    else if !escapes && longestRun '\'' cs < 3 then inThreeQuotes '\'' cs cs
    else if lines then inThreeQuotes '"' cs (multilineInside 0 cs)
    else '"' :: basicInside cs ++ ['"']

/-- A key: without quotes if it can stand so. -/
def keyText (key : String) : String :=
  if !key.isEmpty && key.toList.all fun c => c.isAlphanum || c == '_' || c == '-' then key
  else stringText key

/-! ## Values -/

/-- The items of an array between its brackets: one item stays in the line, several get a line
    each. -/
def arrayText (items : List String) : String :=
  match items with
  | [] => "[]"
  | [item] => "[" ++ item ++ "]"
  | items => "[\n" ++ String.join (items.map fun item => "    " ++ item ++ ",\n") ++ "]"

/-- The entries of an inline table between its braces. -/
def inlineTableText (entries : List String) : String :=
  if entries.isEmpty then "\x7b\x7d" else "\x7b " ++ String.intercalate ", " entries ++ " \x7d"

mutual

/-- A tree as a value. -/
def valueText : Tree → String
  | .string s => stringText s
  | .integer n => toString n
  | .float x => Number.longText .file x
  | .boolean b => if b then "true" else "false"
  | .moment => "1970-01-01"
  | .array items => arrayText (valueTexts items)
  | .table fields => inlineTableText (entryTexts fields)

/-- The items of an array as values. -/
def valueTexts : List Tree → List String
  | [] => []
  | t :: rest => valueText t :: valueTexts rest

/-- The entries of a table with their values. -/
def entryTexts : List (String × Tree) → List String
  | [] => []
  | (key, t) :: rest => (keyText key ++ " = " ++ valueText t) :: entryTexts rest

end

/-! ## Blocks -/

/-- Whether a tree gets blocks of its own. -/
def hasBlock : Tree → Bool
  | .table _ => true
  | .array items => !items.isEmpty && items.all Tree.isTable
  | _ => false

/-- The entries of a table that are plain values, a line each. -/
def plainLines (fields : List (String × Tree)) : String :=
  String.join ((entryTexts (fields.filter fun field => !hasBlock field.2)).map (· ++ "\n"))

/-- The path of a block as its header names it. -/
def pathText (path : List String) : String := String.intercalate "." (path.map keyText)

/-- The block of a table; without plain values it needs no header. -/
def tableBlock (path : List String) (fields : List (String × Tree)) : List String :=
  let lines := plainLines fields
  if lines.isEmpty then [] else ["[" ++ pathText path ++ "]\n" ++ lines]

/-- The block of one table of an array. -/
def rowBlock (path : List String) (fields : List (String × Tree)) : String :=
  "[[" ++ pathText path ++ "]]\n" ++ plainLines fields

mutual

/-- The blocks of a tree under a path. -/
def blocks (path : List String) : Tree → List String
  | .table fields => tableBlock path fields ++ fieldBlocks path fields
  | .array items => if hasBlock (.array items) then rowBlocks path items else []
  | _ => []

/-- The blocks of the entries of a table. -/
def fieldBlocks (path : List String) : List (String × Tree) → List String
  | [] => []
  | (key, t) :: rest => blocks (path ++ [key]) t ++ fieldBlocks path rest

/-- The blocks of the tables of an array. -/
def rowBlocks (path : List String) : List Tree → List String
  | [] => []
  | .table fields :: rest =>
    (rowBlock path fields :: fieldBlocks path fields) ++ rowBlocks path rest
  | _ :: rest => rowBlocks path rest

end

/-- The text of a document with these entries: the plain values, then the blocks, with a blank
    line before each block that does not start the text. -/
def documentText (fields : List (String × Tree)) : String :=
  let lines := plainLines fields
  String.intercalate "\n" ((if lines.isEmpty then [] else [lines]) ++ fieldBlocks [] fields)

end InputMap.Toml
