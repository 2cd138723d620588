import InputMap.Toml.Tree

/-! # Tables in the making

The lines of a document put entries into tables one after the other, and which table a line may
still touch depends on how that table came about: by its own header, because a header or a dotted
key below it implied it, or as a value.  A `Section` is a part of a document while its lines are
read; when all of them are read it becomes a `Tree`. -/

namespace InputMap.Toml

/-- How a table came about. -/
inductive Origin where
  /-- By a header of its own; so did the document itself, an inline table and each row. -/
  | header
  /-- By a header of a table below it. -/
  | implied
  /-- By a dotted key. -/
  | dotted
deriving DecidableEq, Repr

/-- A part of a document while its lines are read. -/
inductive Section where
  /-- A value is complete. -/
  | value (v : Tree)
  | table (origin : Origin) (fields : List (String × Section))
  /-- The tables that headers in double brackets have made so far. -/
  | rows (tables : List (List (String × Section)))

/-- The entries of a table in the making. -/
abbrev Fields := List (String × Section)

/-- A line of a document that says something. -/
inductive Line where
  /-- A value under a key, below tables that the dots of the key name. -/
  | entry (path : List String) (key : String) (v : Tree)
  /-- The header of a table. -/
  | header (path : List String) (key : String)
  /-- The header of one more table of an array. -/
  | row (path : List String) (key : String)

namespace Fields

/-- The section under a key. -/
def get? (fields : Fields) (key : String) : Option Section :=
  (fields.find? fun field => field.1 == key).map (·.2)

/-- The fields with the section under a key replaced. -/
def replace (fields : Fields) (key : String) (s : Section) : Fields :=
  fields.map fun field => if field.1 == key then (key, s) else field

/-- The fields without the one under a key. -/
def erase (fields : Fields) (key : String) : Fields := fields.filter fun field => field.1 != key

/-- Changes the table at the end of a path, which `f` is told the origin of.  Tables that are not
    there yet are made on the way, with the origin `fresh`; of an array of tables the last one is
    meant.  A value is no table, and a dotted key cannot enter a table that has its own header. -/
def descend (fresh : Origin) (f : Origin → Fields → Option Fields) :
    List String → Origin → Fields → Option Fields
  | [], origin, fields => f origin fields
  | key :: path, _, fields =>
    match fields.get? key with
    | none => do
      let inner ← descend fresh f path fresh []
      return fields ++ [(key, .table fresh inner)]
    | some (.value _) => none
    | some (.rows tables) =>
      match tables.getLast? with
      | none => none
      | some last => do
        let inner ← descend fresh f path .header last
        return fields.replace key (.rows (tables.dropLast ++ [inner]))
    | some (.table origin inner) =>
      if fresh = .dotted ∧ origin = .header then none
      else do
        let changed ← descend fresh f path origin inner
        return fields.replace key (.table origin changed)

/-- Puts a value under a key that the table does not have yet.  Below dots the table must be one
    that dots have made. -/
def insertValue (dotted : Bool) (key : String) (v : Tree) (origin : Origin) (fields : Fields) :
    Option Fields :=
  if dotted != (origin == .dotted) then none
  else if (fields.get? key).isSome then none
  else some (fields ++ [(key, .value v)])

/-- Puts an entry into a table. -/
def insertEntry (path : List String) (key : String) (v : Tree) : Origin → Fields → Option Fields :=
  descend .dotted (insertValue (!path.isEmpty) key v) path

/-- Opens a table for its header.  A table that was only implied is opened again and moves to the
    end. -/
def openTable (key : String) (fields : Fields) : Option Fields :=
  match fields.get? key with
  | none => some (fields ++ [(key, .table .header [])])
  | some (.table .implied inner) => some (fields.erase key ++ [(key, .table .header inner)])
  | some _ => none

/-- Opens one more table of an array. -/
def openRow (key : String) (fields : Fields) : Option Fields :=
  match fields.get? key with
  | none => some (fields ++ [(key, .rows [[]])])
  | some (.rows tables) => some (fields.replace key (.rows (tables ++ [[]])))
  | some _ => none

end Fields

/-- The document so far, and the path of the table that its next entries go to. -/
structure Draft where
  fields : Fields
  current : List String

namespace Draft

/-- The document before its first line. -/
def empty : Draft := ⟨[], []⟩

/-- The document with one more line. -/
def add (draft : Draft) : Line → Option Draft
  | .entry path key v => do
    let fields ← draft.fields.descend .implied (Fields.insertEntry path key v) draft.current .header
    return { draft with fields }
  | .header path key => do
    let fields ← draft.fields.descend .implied (fun _ => Fields.openTable key) path .header
    return ⟨fields, path ++ [key]⟩
  | .row path key => do
    let fields ← draft.fields.descend .implied (fun _ => Fields.openRow key) path .header
    return ⟨fields, path ++ [key]⟩

end Draft

mutual

/-- The content of a section. -/
def Section.tree : Section → Tree
  | .value v => v
  | .table _ fields => .table (Section.fieldTrees fields)
  | .rows tables => .array (Section.rowTrees tables)

/-- The content of the entries of a table. -/
def Section.fieldTrees : List (String × Section) → List (String × Tree)
  | [] => []
  | (key, s) :: rest => (key, s.tree) :: Section.fieldTrees rest

/-- The content of the tables of an array. -/
def Section.rowTrees : List (List (String × Section)) → List Tree
  | [] => []
  | fields :: rest => .table (Section.fieldTrees fields) :: Section.rowTrees rest

end

/-- The content of a document. -/
def Tree.ofLines? (lines : List Line) : Option Tree := do
  let draft ← lines.foldlM Draft.add .empty
  return .table (Section.fieldTrees draft.fields)

/-- The content of an inline table. -/
def Tree.ofEntries? (entries : List (List String × String × Tree)) : Option Tree := do
  let fields ← entries.foldlM
    (fun fields (path, key, v) => Fields.insertEntry path key v .header fields) []
  return .table (Section.fieldTrees fields)

end InputMap.Toml
