import InputMap.Proofs.BindingTable.WellFormed

/-!
# Checking the bindings of a table again

A table is moved to other signals without its bindings being checked again: it is enough to look for
the signals that they read.  The check of an expression meets these signals in the same order, and
all else that it asks for has been granted already.  So both come to the same thing, down to the
error.

## Key results

- `Expr.HasCategory.infer_eq_require`: a second check asks for the signals, and for nothing else
- `WellFormed.recheck_eq`: so does the check of a whole table
- `WellFormed.rebase_eq`: a table that is moved is one whose bindings are checked again
-/

namespace InputMap

variable {available others signals : SignalSet}

/-! ## Expressions -/

/-- A list is refused for the first signal that is missing. -/
theorem requireSignals_eq_error {read : List Signal} {error : BindError} :
    requireSignals available read = .error error ↔
      ∃ s, read.find? (fun s => decide (s ∉ available)) = some s ∧ error = .unknownSignal s := by
  rw [requireSignals]
  cases read.find? fun s => decide (s ∉ available) with
  | none => simp
  | some s => simp [eq_comm]

/-- The signals of two lists are asked for one after the other. -/
theorem requireSignals_append (available : SignalSet) (front back : List Signal) :
    requireSignals available (front ++ back) =
      requireSignals available front >>= fun _ => requireSignals available back := by
  rw [requireSignals, requireSignals, requireSignals, List.find?_append]
  cases front.find? fun s => decide (s ∉ available) with
  | none => rfl
  | some s => rfl

/-- A category that is as expected is let through. -/
theorem expectCategory_self (node : Node) (c : Category) : expectCategory node c c = .ok () :=
  expectCategory_eq_ok.2 rfl

theorem armCategory_self (c : Category) : armCategory c c = .ok c := armCategory_eq_ok.2 ⟨rfl, rfl⟩

/-- Operands of one category can be calculated with, unless it is digital. -/
theorem arithmeticCategory_self (node : Node) {c : Category} (hc : c ≠ .digital) :
    arithmeticCategory node c c = .ok c :=
  arithmeticCategory_eq_ok.2 ⟨rfl, rfl, hc⟩

/-- An expression that was accepted before is accepted with other signals if they include all that
    it reads.  The first one that is missing is the first thing that `infer` meets. -/
theorem Expr.HasCategory.infer_eq_require {own c : Category} {e : Expr}
    (h : e.HasCategory own available c) (others : SignalSet) :
    e.infer own others = (do requireSignals others e.signals; return c) := by
  -- on the rules: the operands are asked one after the other, and all other checks pass as before
  induction h with
  | @input s hs =>
    -- the only node that asks for a signal itself
    by_cases h : s ∈ others
    · simp [infer, requireSignals, Expr.signals, h]
    · simp [infer, requireSignals, Expr.signals, h]
  | constant hv =>
    rw [infer, if_pos hv]
    rfl
  | add _ _ hc iha ihb =>
    simp only [infer, iha, ihb, Expr.signals, requireSignals_append, bind_assoc, pure_bind,
      arithmeticCategory_self _ hc]
    rfl
  | multiply _ _ hc iha ihb =>
    simp only [infer, iha, ihb, Expr.signals, requireSignals_append, bind_assoc, pure_bind,
      arithmeticCategory_self _ hc]
    rfl
  | branch _ _ _ ihp iha ihb =>
    simp only [infer, ihp, iha, ihb, Expr.signals, requireSignals_append, bind_assoc, pure_bind,
      expectCategory_self, armCategory_self]
    rfl
  | xor _ _ iha ihb =>
    simp only [infer, iha, ihb, Expr.signals, requireSignals_append, bind_assoc, pure_bind,
      expectCategory_self]
    rfl
  | join _ _ ihx ihy =>
    simp only [infer, ihx, ihy, Expr.signals, requireSignals_append, bind_assoc, pure_bind,
      expectCategory_self]
    rfl
  | split _ ih =>
    simp only [infer, ih, Expr.signals, bind_assoc, pure_bind, expectCategory_self]
    rfl
  | threshold hlimit _ ih =>
    simp only [infer, if_pos hlimit, ih, Expr.signals, bind_assoc, pure_bind, expectCategory_self]
    rfl
  | previous => rfl

/-! ## Bindings and tables -/

/-- Checking a binding again asks for its signals only; its categories are not in doubt any more. -/
theorem Binding.Fits.check_eq_require {b : Binding} {a : ActionId} (h : b.Fits a available)
    (name : String) (others : SignalSet) :
    Binding.check name a.category b.expr others =
      (do requireSignals others b.expr.signals; return b) := by
  rw [Binding.check, ← h.category_eq, h.hasCategory.infer_eq_require others]
  simp only [bind_assoc, pure_bind, if_true]

namespace BindingTable

variable {t u : BindingTable}

/-- Checks the binding of an action again, with other signals. -/
def recheckEntry (t : BindingTable) (signals : SignalSet) :
    ActionId × Binding → Except BindError Binding
  | (a, b) => Binding.check (t.actions.describe a) a.category b.expr signals

/-- Checks all bindings of a table again, one after the other in evaluation order. -/
def recheck (t : BindingTable) (signals : SignalSet) : Except BindError (List Binding) :=
  t.entries.mapM (t.recheckEntry signals)

/-- Checking a list of bindings again asks for the signals of all of them, in one go. -/
theorem mapM_recheckEntry {list : List (ActionId × Binding)}
    (h : ∀ entry ∈ list, entry.2.Fits entry.1 available) (signals : SignalSet) :
    list.mapM (t.recheckEntry signals) =
      (do
        requireSignals signals ((list.map (·.2)).flatMap fun b => b.expr.signals)
        return list.map (·.2)) := by
  induction list with
  | nil => rfl
  | cons entry rest ih =>
    obtain ⟨a, b⟩ := entry
    obtain ⟨hfirst, hrest⟩ := List.forall_mem_cons.1 h
    have hcheck : t.recheckEntry signals (a, b) = _ := hfirst.check_eq_require _ signals
    rw [List.mapM_cons, hcheck, ih hrest]
    simp only [List.map_cons, List.flatMap_cons, requireSignals_append, bind_assoc, pure_bind]

/-- So it is with the bindings of a table. -/
theorem WellFormed.recheck_eq (h : t.WellFormed) (signals : SignalSet) :
    t.recheck signals =
      (do
        requireSignals signals (t.bindings.flatMap fun b => b.expr.signals)
        return t.bindings) := by
  have hfits : ∀ entry ∈ t.entries, entry.2.Fits entry.1 t.signals :=
    fun entry hentry => h.fits entry.1 entry.2 (mem_entries_iff.1 hentry)
  rw [recheck, mapM_recheckEntry hfits, h.map_snd_entries]

/-- A table that is moved has had its bindings checked again; one that is not is left as it was. -/
theorem WellFormed.rebase_eq (h : t.WellFormed) (signals : SignalSet) :
    t.rebase signals =
      settled t (t.recheck signals) fun bindings => { t with signals, bindings } := by
  rw [BindingTable.rebase_eq, h.recheck_eq]
  -- the bindings that are checked come out as they are
  cases requireSignals signals (t.bindings.flatMap fun b => b.expr.signals) <;> rfl

/-- With the signals that a table was made for, there is nothing to be refused. -/
theorem WellFormed.recheck_self (h : t.WellFormed) : t.recheck t.signals = .ok t.bindings := by
  have hrequire : requireSignals t.signals (t.bindings.flatMap fun b => b.expr.signals) =
      .ok () := by
    refine requireSignals_eq_ok.2 fun s hs => ?_
    obtain ⟨b, hb, hs⟩ := List.mem_flatMap.1 hs
    rw [← h.map_snd_entries] at hb
    obtain ⟨⟨a, b⟩, hentry, rfl⟩ := List.mem_map.1 hb
    exact (h.fits a b (mem_entries_iff.1 hentry)).hasCategory.mem_of_mem_signals hs
  rw [h.recheck_eq, hrequire]
  rfl

end BindingTable

end InputMap
