/-! # Document trees

A TOML document is a tree: scalars, arrays, and tables whose entries keep their order.  How the
document spells its tables, as blocks or inline, is not part of the tree. -/

namespace InputMap.Toml

/-- The content of a TOML document or of a part of it. -/
inductive Tree where
  | string (s : String)
  | integer (n : Int)
  | float (x : Float)
  | boolean (b : Bool)
  /-- A date, a time or both; which one is of no interest here. -/
  | moment
  | array (items : List Tree)
  | table (fields : List (String × Tree))

namespace Tree

/-- Whether a tree is a table. -/
def isTable : Tree → Bool
  | table _ => true
  | _ => false

end Tree

end InputMap.Toml
