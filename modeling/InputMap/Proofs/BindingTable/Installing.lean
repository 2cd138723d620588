import InputMap.Proofs.BindingTable.Placing

/-!
# Installing at once and binding one after the other

A list of bindings can be installed as a whole, or its entries can be bound one after the other.
Installing looks at all entries before it changes anything, and starts with every action at rest.
Apart from that it comes to the same thing, and the order of the entries does not matter.

## Key results

- `install_congr`: what a table holds before does not matter
- `install_eq_bindAll`: different actions are installed as they are bound
- `ext_binding?`: a table is known by the bindings of its actions
- `install_of_perm`: the order of the entries does not matter
-/

namespace InputMap.BindingTable

variable {t u v : BindingTable} {seen : List ActionId} {list other : List (ActionId × Expr)}
  {a : ActionId} {e : Expr} {error : BindError}

/-! ## One after the other -/

/-- Whether an action can be bound to an expression does not depend on the bindings. -/
theorem check_congr (hactions : u.actions = t.actions) (hsignals : u.signals = t.signals)
    (a : ActionId) (e : Expr) : u.check a e = t.check a e := by
  rw [check, check, position, position, hactions, hsignals]

/-- Placing a list looks at the actions and the signals of the table only. -/
theorem place_congr (hactions : u.actions = t.actions) (hsignals : u.signals = t.signals)
    (seen : List ActionId) (bindings : List Binding) (list : List (ActionId × Expr)) :
    u.place seen bindings list = t.place seen bindings list := by
  induction list generalizing seen bindings with
  | nil => rfl
  | cons head rest ih =>
    obtain ⟨a, e⟩ := head
    simp only [place, hactions, check_congr hactions hsignals, ih]

/-- Installing a list replaces all bindings, so the ones before do not matter to a list that can be
    installed, and nor do they to the answer. -/
theorem install_congr (hactions : u.actions = t.actions) (hsignals : u.signals = t.signals)
    (list : List (ActionId × Expr)) :
    (u.install list).1 = (t.install list).1 ∧
      ((t.install list).1 = .ok () → u.install list = t.install list) := by
  rw [install_eq, install_eq, place_congr hactions hsignals, hactions, hsignals]
  cases t.place [] (neutralBindings t.actions) list with
  | ok bindings => exact ⟨rfl, fun _ => rfl⟩
  | error error => exact ⟨rfl, fun h => nomatch h⟩

/-- An action cannot be bound if its check fails, and then the table stays as it was. -/
theorem bind_eq_error : t.bind a e = (.error error, u) ↔ t.check a e = .error error ∧ u = t := by
  rw [bind_eq, settled_eq_error]

/-- Actions that are different and new are placed as they are bound. -/
theorem bindAll_eq_place (hnodup : (list.map (·.1)).Nodup)
    (hfresh : (list.map (·.1)).Disjoint seen) (bindings : List Binding) :
    bindAll { t with bindings } list =
      t.place seen bindings list >>= fun placed => .ok { t with bindings := placed } := by
  induction list generalizing seen bindings with
  | nil => rfl
  | cons head rest ih =>
    obtain ⟨a, e⟩ := head
    obtain ⟨hother, hnodup⟩ := List.nodup_cons.1 hnodup
    obtain ⟨hnew, hfresh⟩ := List.disjoint_cons_left.1 hfresh
    have hcheck : check { t with bindings } a e = t.check a e := check_congr rfl rfl a e
    rw [bindAll, bind_eq, place, if_neg hnew, hcheck]
    cases t.check a e with
    | error error => rfl
    | ok p =>
      -- both go on from the table with this action bound
      exact ih hnodup (List.disjoint_cons_right.2 ⟨hother, hfresh⟩) (bindings.set p.1 p.2)

/-- Different actions are installed as they are bound one after the other, from a table at rest. -/
theorem install_eq_bindAll (hnodup : (list.map (·.1)).Nodup) :
    t.install list = settled t ((neutral t.actions t.signals).bindAll list) id := by
  have hplace : (neutral t.actions t.signals).bindAll list =
      t.place [] (neutralBindings t.actions) list >>= fun placed =>
        .ok { t with bindings := placed } :=
    bindAll_eq_place hnodup (List.disjoint_nil_right _) (neutralBindings t.actions)
  rw [install_eq, hplace]
  cases t.place [] (neutralBindings t.actions) list <;> rfl

/-- A list of different actions can be installed exactly if it can be bound step by step. -/
theorem install_eq_ok_iff_bindAll (hnodup : (list.map (·.1)).Nodup) :
    t.install list = (.ok (), u) ↔ (neutral t.actions t.signals).bindAll list = .ok u := by
  rw [install_eq_bindAll hnodup, settled_eq_ok]
  exact ⟨fun ⟨v, hv, hu⟩ => hu ▸ hv, fun hu => ⟨u, hu, rfl⟩⟩

/-! ## The order of the entries -/

/-- Tables for the same actions and signals are the same if each action has the same binding. -/
theorem ext_binding? (hactions : u.actions = t.actions) (hsignals : u.signals = t.signals)
    (ht : t.bindings.length = t.actions.size) (hu : u.bindings.length = u.actions.size)
    (hbinding : ∀ a ∈ t.actions.order, u.binding? a = t.binding? a) : u = t := by
  -- the actions list the places of both tables, and the bindings there are the same
  have hbindings : u.bindings = t.bindings := by
    refine List.ext_getElem? fun i => ?_
    cases ha : t.actions.order[i]? with
    | none =>
      have hle := List.getElem?_eq_none_iff.1 ha
      rw [ActionSet.length_order] at hle
      rw [List.getElem?_eq_none (by rwa [hu, hactions]), List.getElem?_eq_none (by rwa [ht])]
    | some a =>
      have h := hbinding a (List.mem_of_getElem? ha)
      have hi : t.actions.position? a = some i := ActionSet.getElem?_order.1 ha
      rw [binding?, binding?, hactions, hi] at h
      exact h
  cases u
  cases t
  cases hactions
  cases hsignals
  cases hbindings
  rfl

/-- Whether a list can be installed does not depend on its order. -/
theorem Accepts.perm (h : t.Accepts list) (hperm : list.Perm other) : t.Accepts other where
  nodup := (hperm.map (·.1)).nodup h.nodup
  exists_check a e hmem := h.exists_check a e (hperm.mem_iff.2 hmem)

/-- Nor does the table that comes out. -/
theorem install_of_perm (hperm : list.Perm other) (hu : t.install list = (.ok (), u)) :
    t.install other = (.ok (), u) := by
  obtain ⟨v, hv⟩ := ((accepts_of_install hu).perm hperm).exists_install
  obtain ⟨hactions, hsignals, hlisted, hunlisted⟩ := binding?_install hu
  obtain ⟨hactions', hsignals', hlisted', hunlisted'⟩ := binding?_install hv
  -- both tables have the same look-ups, so it does not matter which list was installed
  have hsame : v = u := by
    refine ext_binding? (hactions'.trans hactions.symm) (hsignals'.trans hsignals.symm)
      (wellFormed_of_install hu).length_bindings (wellFormed_of_install hv).length_bindings
      fun a ha => ?_
    rw [hactions] at ha
    by_cases hmem : a ∈ list.map (·.1)
    · obtain ⟨⟨_, e⟩, hentry, rfl⟩ := List.mem_map.1 hmem
      rw [hlisted _ e hentry, hlisted' _ e (hperm.mem_iff.1 hentry)]
    · have hmem' : a ∉ other.map (·.1) := fun h => hmem ((hperm.map (·.1)).mem_iff.2 h)
      rw [hunlisted a ha hmem, hunlisted' a ha hmem']
  rw [hv, hsame]

/-- Installing a list.  It takes place exactly if no action stands twice in the list and its entries
    can be bound one after the other, starting with every action at rest, and both lead to the same
    table.  Otherwise the error is that of the first entry that offends: the action has come before,
    or else it is refused as `bind` refuses it; and the table is left as it was, however many
    entries stand in front.  What the table holds before does not matter, and nor does the order of
    the entries, unless there is an error to be chosen. -/
theorem install_iff_bindAll (t : BindingTable) (list : List (ActionId × Expr)) :
    (∀ u, t.install list = (.ok (), u) ↔
      (list.map (·.1)).Nodup ∧ (neutral t.actions t.signals).bindAll list = .ok u) ∧
    (∀ error u, t.install list = (.error error, u) ↔
      (∃ front a e back v, list = front ++ (a, e) :: back ∧
        (front.map (·.1)).Nodup ∧ (neutral t.actions t.signals).bindAll front = .ok v ∧
          if a ∈ front.map (·.1) then error = .duplicateAction a.category (t.actions.describe a)
          else t.bind a e = (.error error, t) ∧ v.bind a e = (.error error, v)) ∧ u = t) ∧
    ∀ other, list.Perm other → ∀ u, t.install other = (.ok (), u) ↔ t.install list = (.ok (), u) := by
  refine ⟨fun u => ⟨fun hu => ?_, fun ⟨hnodup, hu⟩ => ?_⟩,
    fun error u => Iff.trans install_eq_error (and_congr_left fun _ => ⟨?_, ?_⟩),
    fun other hperm u => ⟨install_of_perm hperm.symm, install_of_perm hperm⟩⟩
  · -- a list that is installed is one that can be bound from rest
    have hnodup := (accepts_of_install hu).nodup
    exact ⟨hnodup, (install_eq_ok_iff_bindAll hnodup).1 hu⟩
  · exact (install_eq_ok_iff_bindAll hnodup).2 hu
  · -- what stands in front can be bound, and leads to a table that refuses the entry as well
    rintro ⟨front, entry, back, hlist, hfront, hoffends⟩
    obtain ⟨v, hv⟩ := hfront.exists_install
    obtain ⟨hactions, hsignals, -⟩ := binding?_install hv
    rw [install_eq_ok_iff_bindAll hfront.nodup] at hv
    cases hoffends with
    | @again a e hseen =>
      exact ⟨front, a, e, back, v, hlist, hfront.nodup, hv, by rw [if_pos hseen]⟩
    | @refused a e _ hnew hcheck =>
      refine ⟨front, a, e, back, v, hlist, hfront.nodup, hv, ?_⟩
      rw [if_neg hnew, bind_eq_error, bind_eq_error, check_congr hactions hsignals]
      exact ⟨⟨hcheck, rfl⟩, hcheck, rfl⟩
  · -- a front that can be bound can be installed, so the entry is the first one that offends
    rintro ⟨front, a, e, back, v, hlist, hnodup, hv, herror⟩
    rw [← install_eq_ok_iff_bindAll hnodup] at hv
    refine ⟨front, (a, e), back, hlist, accepts_of_install hv, ?_⟩
    split at herror
    · rename_i hseen
      rw [herror]
      exact .again hseen
    · rename_i hnew
      exact .refused hnew (bind_eq_error.1 herror.1).1

/-- Two actions, one of which is bound to its own last value before.  Both can be installed in
    either order.  An action that comes again is refused as such, though its second expression does
    not fit it either; in front of it, an expression that does not fit comes first.  In both cases
    the table still has its old bindings. -/
theorem install_iff_bindAll_of_swap :
    let actions : ActionSet := ⟨0, ["jump"], [], ["aim"]⟩
    let jump : ActionId := ⟨.digital, 0, 0⟩
    let aim : ActionId := ⟨.analog2, 0, 0⟩
    let press : Expr := .input (.button .faceDown)
    let turn : Expr := .input (.stick .left)
    let t : BindingTable := ⟨actions, .all, [⟨.previous, .digital⟩, .neutral .analog2]⟩
    let u : BindingTable := ⟨actions, .all, [⟨press, .digital⟩, ⟨turn, .analog2⟩]⟩
    [(aim, turn), (jump, press)].Perm [(jump, press), (aim, turn)] ∧
      t.install [(aim, turn), (jump, press)] = (.ok (), u) ∧
      t.install [(jump, press), (aim, turn)] = (.ok (), u) ∧
      t.install [(aim, turn), (aim, press), (jump, turn)] =
        (.error (.duplicateAction .analog2 "aim"), t) ∧
      t.install [(aim, turn), (jump, turn), (aim, press)] =
        (.error (.typeMismatch "jump" .digital .analog2), t) := by
  intro actions jump aim press turn t u
  have hperm : [(aim, turn), (jump, press)].Perm [(jump, press), (aim, turn)] := .swap _ _ _
  obtain ⟨hok, -, horder⟩ := t.install_iff_bindAll [(aim, turn), (jump, press)]
  have hu : t.install [(aim, turn), (jump, press)] = (.ok (), u) := (hok u).2 ⟨by decide, rfl⟩
  have hfront : (neutral actions .all).bindAll [(aim, turn)] =
      .ok ⟨actions, .all, [.neutral .digital, ⟨turn, .analog2⟩]⟩ := rfl
  -- in both lists the second entry is the first one that offends
  refine ⟨hperm, hu, (horder _ hperm u).2 hu, ?_, ?_⟩
  · exact ((t.install_iff_bindAll _).2.1 _ _).2
      ⟨⟨[(aim, turn)], aim, press, [(jump, turn)], _, rfl, by decide, hfront, rfl⟩, rfl⟩
  · exact ((t.install_iff_bindAll _).2.1 _ _).2
      ⟨⟨[(aim, turn)], jump, turn, [(aim, press)], _, rfl, by decide, hfront, rfl, rfl⟩, rfl⟩

end InputMap.BindingTable
