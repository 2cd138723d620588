import Mathlib.Data.List.Nodup
import Mathlib.Data.List.Perm.Subperm
import InputMap.Proofs.ForStd
import InputMap.Toml.Tree

/-!
# The order of fields in a document

In a document the fields of a table have no order: what is printed as a block comes behind what is
printed as a line, wherever it stood before.  So the tree that is read from a text is compared to
the one that was written by `Tree.reorders`, which takes the fields of a table in any order.

## Key results

- `Tree.reorders_array`, `Tree.exists_perm_of_reorders`: what stands in a tree that is another one
  but for the order of fields
-/

namespace InputMap.Toml.Tree

mutual

/-- Whether a tree is another one but for the order of the fields of tables.  The keys of a table
    of the other one are taken to be different. -/
def reorders : Tree → Tree → Bool
  | string s, string t => s == t
  | integer m, integer n => m == n
  | float x, float y => decide (x = y)
  | boolean a, boolean b => a == b
  | moment, moment => true
  | array items, array others => reordersItems items others
  | table fields, table others =>
    fields.length == others.length && reordersFields fields others
  | _, _ => false

/-- Whether the items of an array are those of another one but for the order of fields. -/
def reordersItems : List Tree → List Tree → Bool
  | [], [] => true
  | t :: rest, u :: others => t.reorders u && reordersItems rest others
  | _, _ => false

/-- Whether the fields of a table have those of another one among them. -/
def reordersFields (fields : List (String × Tree)) : List (String × Tree) → Bool
  | [] => true
  | (key, u) :: others =>
    match fields.find? fun field => field.1 == key with
    | some (_, t) => t.reorders u && reordersFields fields others
    | none => false

end

variable {t u : Tree} {fields others : List (String × Tree)}

/-- A string is only its own reordering. -/
theorem reorders_string {s : String} : t.reorders (.string s) = true ↔ t = .string s := by
  cases t <;> simp [reorders]

theorem reorders_float {x : Float} : t.reorders (.float x) = true ↔ t = .float x := by
  cases t <;> simp [reorders]

theorem reorders_boolean {b : Bool} : t.reorders (.boolean b) = true ↔ t = .boolean b := by
  cases t <;> simp [reorders]

/-- The items of an array keep their places, and each is reordered by itself. -/
theorem reordersItems_iff {items others : List Tree} :
    reordersItems items others = true ↔
      List.Forall₂ (fun t u => t.reorders u = true) items others := by
  induction items generalizing others with
  | nil => cases others <;> simp [reordersItems]
  | cons t rest ih => cases others <;> simp [reordersItems, ih]

/-- An array keeps the order of its items. -/
theorem reorders_array {others : List Tree} :
    t.reorders (.array others) = true ↔
      ∃ items, t = .array items ∧ List.Forall₂ (fun t u => t.reorders u = true) items others := by
  cases t <;> simp [reorders, reordersItems_iff]

/-- The reorderings of an array of two items. -/
theorem reorders_pair {v : Tree} :
    t.reorders (.array [u, v]) = true ↔
      ∃ a b, t = .array [a, b] ∧ a.reorders u = true ∧ b.reorders v = true := by
  simp only [reorders_array, List.forall₂_cons_right_iff, List.forall₂_nil_right_iff]
  constructor
  · rintro ⟨_, rfl, a, _, ha, ⟨b, _, hb, rfl, rfl⟩, rfl⟩
    exact ⟨a, b, rfl, ha, hb⟩
  · rintro ⟨a, b, rfl, ha, hb⟩
    exact ⟨_, rfl, a, _, ha, ⟨b, _, hb, rfl, rfl⟩, rfl⟩

/-- The fields of the other table, one after the other. -/
theorem exists_of_reordersFields (h : reordersFields fields others = true) :
    ∃ found, (∀ field ∈ found, field ∈ fields) ∧
      List.Forall₂ (fun field other => field.1 = other.1 ∧ field.2.reorders other.2 = true)
        found others := by
  -- each field of the other table is looked up by its key among all the fields of this one
  induction others with
  | nil => exact ⟨[], fun _ hmem => absurd hmem List.not_mem_nil, .nil⟩
  | cons other rest ih =>
    obtain ⟨key, u⟩ := other
    rw [reordersFields] at h
    split at h
    · rename_i found t hfind
      obtain ⟨ht, hrest⟩ := Bool.and_eq_true_iff.1 h
      obtain ⟨later, hlater, hforall⟩ := ih hrest
      have hkey := List.find?_some hfind
      refine ⟨(found, t) :: later, ?_, .cons ⟨beq_iff_eq.1 hkey, ht⟩ hforall⟩
      intro field hmem
      rcases List.mem_cons.1 hmem with rfl | hmem
      · exact List.mem_of_find?_eq_some hfind
      · exact hlater field hmem
    · exact nomatch h

/-- A table has the fields of the other one in some order, if the keys of that are different. -/
theorem exists_perm_of_reorders (h : t.reorders (.table others) = true)
    (hkeys : (others.map (·.1)).Nodup) :
    ∃ fields found, t = .table fields ∧ fields.Perm found ∧
      List.Forall₂ (fun field other => field.1 = other.1 ∧ field.2.reorders other.2 = true)
        found others := by
  cases t with
  | table fields =>
    rw [reorders, Bool.and_eq_true_iff, beq_iff_eq] at h
    obtain ⟨found, hsubset, hforall⟩ := exists_of_reordersFields h.2
    have hsame : found.map (·.1) = others.map (·.1) := by
      rw [← List.forall₂_eq_eq_eq, List.forall₂_map_left_iff, List.forall₂_map_right_iff]
      exact hforall.imp fun _ _ hfield => hfield.1
    -- the fields that were found are different, and they are as many as there are
    have hnodup : found.Nodup := List.Nodup.of_map _ (hsame ▸ hkeys)
    have hlength : fields.length = found.length := h.1.trans hforall.length_eq.symm
    have hperm : found.Perm fields :=
      (List.subperm_of_subset hnodup hsubset).perm_of_length_le (Nat.le_of_eq hlength)
    exact ⟨fields, found, rfl, hperm.symm, hforall⟩
  | _ => exact nomatch h

end InputMap.Toml.Tree
