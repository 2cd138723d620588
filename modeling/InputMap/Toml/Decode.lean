import InputMap.Text.Quoted
import InputMap.Toml.Parser

/-! # Data from documents

A document is read in two steps: its text becomes a tree, and data are taken from the tree.  This
module has the second step for numbers, strings, choices and records, together with everything
that can be wrong with a tree.

A choice is written as the name of an alternative, or as a table whose only key is that name.  A
record is written as a table, or as an array of its values in the order of its fields. -/

namespace InputMap.Toml

/-- What was found in place of something else. -/
inductive Found where
  | boolean (b : Bool)
  | integer (n : Int)
  | float (x : Float)
  | string (s : String)
  | sequence
  | map
  /-- The bare name of an alternative. -/
  | unitVariant
deriving DecidableEq

/-- The text of what was found. -/
def Found.text : Found → String
  | boolean b => "boolean `" ++ (if b then "true" else "false") ++ "`"
  | integer n => "integer `" ++ toString n ++ "`"
  | float x => "floating point `" ++ Number.longText .pointed x ++ "`"
  | string s => "string " ++ Text.quoted s
  | sequence => "sequence"
  | map => "map"
  | unitVariant => "unit variant"

/-- Why a tree does not hold the data that are wanted. -/
inductive DecodeError where
  | missingField (name : String)
  | unknownVariant (name : String) (expected : List String)
  | invalidType (found : Found) (expected : String)
  | invalidValue (found : Found) (expected : String)
  | invalidLength (length : Nat) (expected : String)
  /-- The table of a choice has no key, or more than one. -/
  | entryCount (count : Nat)
  /-- Neither a name nor a table stands where a choice is wanted. -/
  | noChoice
  /-- Something stands behind the name of an alternative that has no content. -/
  | superfluousContent
  /-- The values of an alternative are not as many as it has. -/
  | tupleLength (expected : Nat)
  /-- The values of an alternative are not numbered one after the other. -/
  | tupleKey (index : Nat) (key : String)
  /-- The values of an alternative are neither an array nor a table. -/
  | noTuple
  | unexpectedKey (key : String)
deriving DecidableEq

/-- The names of alternatives as a message lists them. -/
def alternativesText (names : List String) : String :=
  match names.map fun name => "`" ++ name ++ "`" with
  | [] => "there are no variants"
  | [a] => "expected " ++ a
  | [a, b] => "expected " ++ a ++ " or " ++ b
  | names => "expected one of " ++ String.intercalate ", " names

/-- The message of data that are not as wanted. -/
def DecodeError.message : DecodeError → String
  | missingField name => "missing field `" ++ name ++ "`"
  | unknownVariant name expected => "unknown variant `" ++ name ++ "`, " ++ alternativesText expected
  | invalidType found expected => "invalid type: " ++ found.text ++ ", expected " ++ expected
  | invalidValue found expected => "invalid value: " ++ found.text ++ ", expected " ++ expected
  | invalidLength length expected => "invalid length " ++ toString length ++ ", expected " ++ expected
  | entryCount count => "wanted exactly 1 element, found " ++ toString count ++ " elements"
  | noChoice => "wanted string or table"
  | superfluousContent => "expected empty table"
  | tupleLength expected => "expected tuple with length " ++ toString expected
  | tupleKey index key => "expected table key `" ++ toString index ++ "`, but was `" ++ key ++ "`"
  | noTuple => "expected table"
  | unexpectedKey key => "unexpected keys in table: `" ++ key ++ "`"

/-- What is taken from a tree, or why it cannot be. -/
abbrev Decoded := Except DecodeError

namespace Tree

/-- What a tree is when it is not what was wanted. -/
def found : Tree → Found
  | string s => .string s
  | integer n => .integer n
  | float x => .float x
  | boolean b => .boolean b
  | moment => .map
  | array _ => .sequence
  | table _ => .map

/-- The tree is not what was wanted. -/
def refuse {α : Type} (t : Tree) (expected : String) : Decoded α :=
  .error (.invalidType t.found expected)

/-- A string. -/
def decodeString : Tree → Decoded String
  | string s => .ok s
  | t => t.refuse "a string"

/-- A truth value. -/
def decodeBool : Tree → Decoded Bool
  | boolean b => .ok b
  | t => t.refuse "a boolean"

/-- A single-precision number, which may be written without a point. -/
def decodeSingle : Tree → Decoded Float32
  | float x => .ok (Number.narrow x)
  | integer n => .ok (Number.ofInt n)
  | t => t.refuse "f32"

/-- A whole number that is not negative. -/
def decodeNatural : Tree → Decoded Nat
  | integer n => if n < 0 then .error (.invalidValue (.integer n) "u64") else .ok n.toNat
  | t => t.refuse "u64"

/-- The items of an array. -/
def decodeItems : Tree → Decoded (List Tree)
  | array items => .ok items
  | t => t.refuse "a sequence"

end Tree

/-! ## Choices -/

/-- A choice that a tree makes: the name of the alternative and its content, if there is one. -/
structure Choice where
  name : String
  content? : Option Tree

/-- The choice that a tree makes between alternatives. -/
def Tree.decodeChoice (names : List String) : Tree → Decoded Choice
  | string s => if s ∈ names then .ok ⟨s, none⟩ else .error (.unknownVariant s names)
  | table [(key, t)] => if key ∈ names then .ok ⟨key, some t⟩ else .error (.unknownVariant key names)
  | table fields => .error (.entryCount fields.length)
  | _ => .error .noChoice

/-- Accepts the content of an alternative that has none. -/
def Choice.noContent (choice : Choice) : Decoded Unit :=
  match choice.content? with
  | none | some (.array []) | some (.table []) => .ok ()
  | some _ => .error .superfluousContent

/-- The content of an alternative that must have some, which `kind` describes. -/
def Choice.content (choice : Choice) (kind : String) : Decoded Tree :=
  match choice.content? with
  | some t => .ok t
  | none => .error (.invalidType .unitVariant kind)

/-- The content of an alternative with one value. -/
def Choice.single (choice : Choice) : Decoded Tree := choice.content "newtype variant"

/-- One of several things, by the name that each has. -/
def Tree.decodeOneOf {α : Type} (all : List α) (key : α → String) (t : Tree) : Decoded α := do
  let choice ← t.decodeChoice (all.map key)
  choice.noContent
  match all.find? fun a => key a == choice.name with
  | some a => return a
  | none => throw (.unknownVariant choice.name (all.map key))

/-! ## Values in a fixed order -/

/-- Whether a key is the number `index`; a plus sign and zeros may stand in front. -/
def isIndexKey (index : Nat) (key : String) : Bool :=
  let digits := match key.toList with
    | '+' :: rest => rest
    | cs => cs
  !digits.isEmpty && digits.all Char.isDigit && Nat.ofDigitChars 10 digits 0 == index

/-- The first key that is not its place in a table, counted from `index`. -/
def wrongIndexKey? (index : Nat) : List (String × Tree) → Option (Nat × String)
  | [] => none
  | (key, _) :: rest =>
    if isIndexKey index key then wrongIndexKey? (index + 1) rest else some (index, key)

/-- Checks that a tree holds `n` values, as an array or under the keys 0, 1 and so on. -/
def checkTuple (n : Nat) : Tree → Decoded Unit
  | .array items => if items.length = n then .ok () else .error (.tupleLength n)
  | .table fields =>
    match wrongIndexKey? 0 fields with
    | some (index, key) => .error (.tupleKey index key)
    | none => if fields.length = n then .ok () else .error (.tupleLength n)
  | _ => .error .noTuple

/-- The values of a tree as an array or a table. -/
def Tree.values : Tree → List Tree
  | .array items => items
  | .table fields => fields.map (·.2)
  | _ => []

/-- The `n` values of an alternative. -/
def Choice.tuple (choice : Choice) (n : Nat) : Decoded (List Tree) := do
  let t ← choice.content "tuple variant"
  checkTuple n t
  return t.values

/-! ## Records -/

/-- The values of a record by the names of its fields, in the order in which they are written.
    `byPlace` says that the record was written as an array. -/
structure Record where
  fields : List (String × Tree)
  byPlace : Bool

/-- The record that a tree holds, where `title` describes it and `names` are its fields.  Keys of
    a table that are no fields are left out, and so are surplus items of an array. -/
def Tree.decodeRecord (title : String) (names : List String) : Tree → Decoded Record
  | table fields => .ok ⟨fields.filter fun field => field.1 ∈ names, false⟩
  | array items => .ok ⟨names.zip items, true⟩
  | moment => .ok ⟨[], false⟩
  | t => t.refuse title

/-- The error of a field that a record does not have: as an array it is too short. -/
def Record.missing (record : Record) (title : String) (names : List String) (name : String) :
    DecodeError :=
  if record.byPlace then
    .invalidLength record.fields.length (title ++ " with " ++ toString names.length ++ " elements")
  else .missingField name

/-- A field that was read, or the error that it is missing. -/
def required {α : Type} (field? : Option α) (missing : DecodeError) : Decoded α :=
  match field? with
  | some a => .ok a
  | none => .error missing

/-- Refuses the keys of a table that are not in `names`. -/
def refuseKeys (names : List String) : Tree → Decoded Unit
  | .table fields =>
    match fields.find? fun field => field.1 ∉ names with
    | some (key, _) => .error (.unexpectedKey key)
    | none => .ok ()
  | _ => .ok ()

/-! ## Texts -/

/-- Why a text does not hold the data that are wanted. -/
inductive ParseError where
  /-- The text is no document. -/
  | malformed
  | decode (error : DecodeError)
deriving DecidableEq

/-- The message of a text that does not hold the data that are wanted. -/
def ParseError.message : ParseError → String
  | malformed => "TOML parse error: not a document"
  | decode error => "TOML parse error: " ++ error.message

/-- Takes data from a text. -/
def decodeText {α : Type} (decode : Tree → Decoded α) (text : String) : Except ParseError α :=
  match Tree.ofText? text with
  | none => .error .malformed
  | some t => (decode t).mapError .decode

end InputMap.Toml
