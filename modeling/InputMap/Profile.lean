import InputMap.BindingTable

/-! # Profiles

A profile binds actions by their names, so that it can be written by hand and does not belong to
one set of actions.  It is applied to a table by looking up all names first and then installing
all bindings at once. -/

namespace InputMap

/-- One binding of a profile. -/
structure ProfileEntry where
  action : String
  category : Category
  expr : Expr
deriving DecidableEq

/-- A named list of bindings by action name. -/
structure Profile where
  name : String
  bindings : List ProfileEntry
deriving DecidableEq

/-- Why a profile cannot be applied to a table. -/
inductive ApplyError where
  | unknownAction (category : Category) (name : String)
  | bind (error : BindError)
deriving DecidableEq, Repr

/-- The message of a profile that cannot be applied. -/
def ApplyError.message : ApplyError → String
  | unknownAction category name =>
    s!"Profile references undeclared {category.name} action {Text.quoted name}"
  | bind error => error.message

/-- Equality of entries, with numbers compared as the machine compares them. -/
protected def ProfileEntry.beq (a b : ProfileEntry) : Bool :=
  a.action == b.action && a.category == b.category && a.expr == b.expr

instance : BEq ProfileEntry := ⟨ProfileEntry.beq⟩

namespace Profile

/-- Equality of profiles, with numbers compared as the machine compares them. -/
protected def beq (a b : Profile) : Bool := a.name == b.name && a.bindings == b.bindings

instance : BEq Profile := ⟨Profile.beq⟩

/-- The action of an entry in a set, with the entry's expression. -/
def resolveEntry (actions : ActionSet) (entry : ProfileEntry) :
    Except ApplyError (ActionId × Expr) :=
  match actions.find? entry.category entry.action with
  | some a => .ok (a, entry.expr)
  | none => .error (.unknownAction entry.category entry.action)

/-- The actions of all entries in a set; the first name that the set does not have is an error. -/
def resolve (p : Profile) (actions : ActionSet) : Except ApplyError (List (ActionId × Expr)) :=
  p.bindings.mapM (resolveEntry actions)

/-- The table with the bindings of the profile in place of its own. -/
def apply (p : Profile) (t : BindingTable) : Except ApplyError BindingTable := do
  let list ← p.resolve t.actions
  let (answer, installed) := t.install list
  answer.mapError .bind
  return installed

/-- What `apply` tells. -/
def applyNotices (p : Profile) (t : BindingTable) : List Notice :=
  match p.resolve t.actions with
  | .ok list => t.installNotices list
  | .error _ => []

/-- The entry of a bound action; an action at rest has none. -/
def exported? (actions : ActionSet) : ActionId × Binding → Option ProfileEntry
  | (a, b) => if b.isNeutral then none else some ⟨actions.describe a, a.category, b.expr⟩

/-- The profile of all bindings of a table. -/
def ofTable (name : String) (t : BindingTable) : Profile :=
  ⟨name, t.entries.filterMap (exported? t.actions)⟩

end Profile

end InputMap
