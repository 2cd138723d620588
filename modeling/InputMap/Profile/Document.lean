import InputMap.Profile
import InputMap.Toml.Decode
import InputMap.Toml.Printer

/-! # Profiles as documents

A profile is a document with a name and a list of bindings.  An expression is written as a table
with one key, the name of its node; the action's previous value is written as the bare name. -/

namespace InputMap

open Toml

/-! ## Writing -/

/-- A table with one entry. -/
def single (key : String) (t : Tree) : Tree := .table [(key, t)]

/-- A single-precision number in a document. -/
def floatTree (x : Float32) : Tree := .float (Number.widen x)

/-- A signal in a document: its category and its name. -/
def Signal.tree : Signal → Tree
  | .button b => single Category.digital.key (.string b.key)
  | .trigger t => single Category.analog1.key (.string t.key)
  | .stick s => single Category.analog2.key (.string s.key)

/-- A value in a document. -/
def Value.tree : Value → Tree
  | .bool b => single "bool" (.boolean b)
  | .scalar v => single "scalar" (floatTree v)
  | .vec2 x y => single "vec2" (.array [floatTree x, floatTree y])

/-- An expression in a document. -/
def Expr.tree : Expr → Tree
  | .input s => single Node.input.name s.tree
  | .constant v => single Node.constant.name v.tree
  | .add a b => single Node.add.name (.array [a.tree, b.tree])
  | .multiply a b => single Node.multiply.name (.array [a.tree, b.tree])
  | .branch c a b =>
    single Node.branch.name (.table [("cond", c.tree), ("then", a.tree), ("otherwise", b.tree)])
  | .xor a b => single Node.xor.name (.array [a.tree, b.tree])
  | .join x y => single Node.join.name (.table [("x", x.tree), ("y", y.tree)])
  | .split e axis => single Node.split.name (.array [e.tree, .string axis.key])
  | .threshold e limit => single Node.threshold.name (.array [e.tree, floatTree limit])
  | .previous => .string Node.previous.name

/-- A binding of a profile in a document. -/
def ProfileEntry.tree (entry : ProfileEntry) : Tree :=
  .table [("action", .string entry.action), ("category", .string entry.category.key),
    ("expr", entry.expr.tree)]

/-- The entries of a profile's document. -/
def Profile.fields (p : Profile) : List (String × Tree) :=
  [("name", .string p.name), ("bindings", .array (p.bindings.map (·.tree)))]

/-- The document of a profile. -/
def Profile.tree (p : Profile) : Tree := .table p.fields

/-- The text of a profile's document. -/
def Profile.text (p : Profile) : String := documentText p.fields

/-! ## Reading -/

/-- A signal from a document. -/
def decodeSignal (t : Tree) : Decoded Signal := do
  let choice ← t.decodeChoice (Category.all.map Category.key)
  let content ← choice.single
  match choice.name with
  | "digital" => return .button (← content.decodeOneOf Button.all Button.key)
  | "analog1" => return .trigger (← content.decodeOneOf Trigger.all Trigger.key)
  | _ => return .stick (← content.decodeOneOf Stick.all Stick.key)

/-- A value from a document. -/
def decodeValue (t : Tree) : Decoded Value := do
  let choice ← t.decodeChoice ["bool", "scalar", "vec2"]
  match choice.name with
  | "bool" => return .bool (← (← choice.single).decodeBool)
  | "scalar" => return .scalar (← (← choice.single).decodeSingle)
  | _ =>
    match ← choice.tuple 2 with
    | [x, y] => return .vec2 (← x.decodeSingle) (← y.decodeSingle)
    | _ => throw (.tupleLength 2)

/-- The names of the fields of a branch. -/
def branchFields : List String := ["cond", "then", "otherwise"]

/-- The names of the fields of a join. -/
def joinFields : List String := ["x", "y"]

/-- What a message calls the fields of a branch. -/
def branchTitle : String := "struct variant BindExpr::Branch"

/-- What a message calls the fields of a join. -/
def joinTitle : String := "struct variant BindExpr::Join"

/-- The expression of a field, or the error that it is missing. -/
def partOf (parts : List (String × Expr)) (missing : DecodeError) (name : String) : Decoded Expr :=
  match parts.find? fun part => part.1 == name with
  | some (_, e) => .ok e
  | none => .error missing

/-- The error of the field `name` of a node whose content has only the fields in `parts`. -/
def missingPart (title : String) (names : List String) (content : Tree)
    (parts : List (String × Expr)) (name : String) : DecodeError :=
  Record.missing ⟨parts.map fun (key, _) => (key, .moment), content.found == .sequence⟩
    title names name

mutual

/-- An expression from a document. -/
def decodeExpr : Tree → Decoded Expr
  | .string s => do
    let choice ← (Tree.string s).decodeChoice (Node.all.map Node.name)
    match choice.name with
    | "input" | "constant" => throw (.invalidType .unitVariant "newtype variant")
    | "branch" | "join" => throw (.invalidType .unitVariant "struct variant")
    | "previous_state" => return .previous
    | _ => throw (.invalidType .unitVariant "tuple variant")
  | .table [(key, content)] => do
    let choice ← (Tree.table [(key, content)]).decodeChoice (Node.all.map Node.name)
    match choice.name with
    | "input" => return .input (← decodeSignal content)
    | "constant" => return .constant (← decodeValue content)
    | "add" => do
      let (a, b) ← decodePair content
      return .add a b
    | "multiply" => do
      let (a, b) ← decodePair content
      return .multiply a b
    | "xor" => do
      let (a, b) ← decodePair content
      return .xor a b
    | "split" => do
      let (e, axis) ← decodeOperand content
      return .split e (← axis.decodeOneOf Axis.all Axis.key)
    | "threshold" => do
      let (e, limit) ← decodeOperand content
      return .threshold e (← limit.decodeSingle)
    | "branch" => do
      refuseKeys branchFields content
      let parts ← decodeParts branchTitle branchFields content
      let missing := missingPart branchTitle branchFields content parts
      return .branch (← partOf parts (missing "cond") "cond") (← partOf parts (missing "then") "then")
        (← partOf parts (missing "otherwise") "otherwise")
    | "join" => do
      refuseKeys joinFields content
      let parts ← decodeParts joinTitle joinFields content
      let missing := missingPart joinTitle joinFields content parts
      return .join (← partOf parts (missing "x") "x") (← partOf parts (missing "y") "y")
    | _ => do
      choice.noContent
      return .previous
  | t => do
    let _ ← t.decodeChoice (Node.all.map Node.name)
    throw .noChoice

/-- Two expressions, as an array or numbered. -/
def decodePair : Tree → Decoded (Expr × Expr)
  | .array [a, b] => do return (← decodeExpr a, ← decodeExpr b)
  | .table [(i, a), (j, b)] => do
    checkTuple 2 (.table [(i, a), (j, b)])
    return (← decodeExpr a, ← decodeExpr b)
  | t => do
    checkTuple 2 t
    throw .noTuple

/-- An expression and something else, as an array or numbered. -/
def decodeOperand : Tree → Decoded (Expr × Tree)
  | .array [e, other] => do return (← decodeExpr e, other)
  | .table [(i, e), (j, other)] => do
    checkTuple 2 (.table [(i, e), (j, other)])
    return (← decodeExpr e, other)
  | t => do
    checkTuple 2 t
    throw .noTuple

/-- The expressions of a node's fields, by name or in the order of `names`. -/
def decodeParts (title : String) (names : List String) : Tree → Decoded (List (String × Expr))
  | .table fields => decodeNamed fields
  | .array items => decodePlaced names items
  | .moment => .ok []
  | t => t.refuse title

/-- The expressions of the entries of a table. -/
def decodeNamed : List (String × Tree) → Decoded (List (String × Expr))
  | [] => .ok []
  | (key, t) :: rest => do
    let e ← decodeExpr t
    return (key, e) :: (← decodeNamed rest)

/-- The expressions of the items of an array, as far as there are names for them. -/
def decodePlaced : List String → List Tree → Decoded (List (String × Expr))
  | [], _ => .ok []
  | _, [] => .ok []
  | name :: names, t :: rest => do
    let e ← decodeExpr t
    return (name, e) :: (← decodePlaced names rest)

end

/-- What has been read of a binding. -/
structure EntryDraft where
  action? : Option String
  category? : Option Category
  expr? : Option Expr

/-- The names of the fields of a binding. -/
def ProfileEntry.fieldNames : List String := ["action", "category", "expr"]

/-- What a message calls a binding. -/
def ProfileEntry.title : String := "struct ProfileEntry"

/-- A binding with one more field. -/
def EntryDraft.add (draft : EntryDraft) : String × Tree → Decoded EntryDraft
  | ("action", t) => do return { draft with action? := some (← t.decodeString) }
  | ("category", t) => do
    return { draft with category? := some (← t.decodeOneOf Category.all Category.key) }
  | ("expr", t) => do return { draft with expr? := some (← decodeExpr t) }
  | _ => .ok draft

/-- A binding from a document. -/
def decodeEntry (t : Tree) : Decoded ProfileEntry := do
  let record ← t.decodeRecord ProfileEntry.title ProfileEntry.fieldNames
  let draft ← record.fields.foldlM EntryDraft.add ⟨none, none, none⟩
  let missing := record.missing ProfileEntry.title ProfileEntry.fieldNames
  let action ← required draft.action? (missing "action")
  let category ← required draft.category? (missing "category")
  let expr ← required draft.expr? (missing "expr")
  return ⟨action, category, expr⟩

/-- What has been read of a profile. -/
structure ProfileDraft where
  name? : Option String
  bindings : List ProfileEntry

/-- A profile with one more field. -/
def ProfileDraft.add (draft : ProfileDraft) : String × Tree → Decoded ProfileDraft
  | ("name", t) => do return { draft with name? := some (← t.decodeString) }
  | ("bindings", t) => do
    let bindings ← (← t.decodeItems).mapM decodeEntry
    return { draft with bindings }
  | _ => .ok draft

/-- The profile of a document.  Without a list of bindings it has none. -/
def Profile.ofTree (t : Tree) : Decoded Profile := do
  let record ← t.decodeRecord "struct BindProfile" ["name", "bindings"]
  let draft ← record.fields.foldlM ProfileDraft.add ⟨none, []⟩
  let name ← required draft.name? (.missingField "name")
  return ⟨name, draft.bindings⟩

/-- The profile that a text holds. -/
def Profile.ofText (text : String) : Except ParseError Profile := decodeText Profile.ofTree text

end InputMap
