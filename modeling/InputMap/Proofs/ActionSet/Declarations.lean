import InputMap.Proofs.ActionSet.Names

/-!
# Ids, places and names

Ids are handed out by one function, and listed, placed, compared and found by others.  All of them
follow from the names of the categories.  Here they are tied together for every set that a builder
makes, whatever it is asked to declare, and whichever of its calls are refused.

## Key results

- `ofCategory_declareAll`: the ids that a builder hands out, category by category
- `compare_eq_of_position?`: ids compare as their places do
- `enumerates_build`: the ids of a set, their places and their names
-/

namespace InputMap.ActionSet

variable {actions : ActionSet} {a b : ActionId} {c d : Category} {name other : String}
  {counter : SetCounter} {i j : Nat} {declarations : List (Category × String)}

/-! ## Calls of a builder -/

/-- The calls that come later find the set that the first ones leave. -/
theorem declareAll_append (actions : ActionSet) (front back : List (Category × String)) :
    actions.declareAll (front ++ back) =
      ((actions.declareAll front).1 ++ ((actions.declareAll front).2.declareAll back).1,
        ((actions.declareAll front).2.declareAll back).2) := by
  induction front generalizing actions with
  | nil => rfl
  | cons head rest ih => simp only [List.cons_append, declareAll, ih]

/-- The answer to one of the calls. -/
theorem getElem?_declareAll (actions : ActionSet) (front back : List (Category × String))
    (c : Category) (name : String) :
    (actions.declareAll (front ++ (c, name) :: back)).1[front.length]? =
      some ((actions.declareAll front).2.declare c name).1 := by
  have hlength := actions.length_declareAll front
  rw [declareAll_append, List.getElem?_append_right (Nat.le_of_eq hlength), hlength, Nat.sub_self]
  rfl

/-- A new name is in its own category only. -/
theorem mem_names_append :
    name ∈ (actions.append d other).names c ↔ name ∈ actions.names c ∨ c = d ∧ name = other := by
  by_cases h : c = d
  · subst h
    simp
  · simp [names_append_of_ne actions other h, h]

/-- A category holds what it has been asked to hold, be it once or more often. -/
theorem mem_names_declareAll :
    name ∈ (actions.declareAll declarations).2.names c ↔
      name ∈ actions.names c ∨ (c, name) ∈ declarations := by
  induction declarations generalizing actions with
  | nil => simp [declareAll]
  | cons head rest ih =>
    obtain ⟨d, other⟩ := head
    rw [List.mem_cons, Prod.mk.injEq]
    rw [declareAll, ih]
    by_cases h : other ∈ actions.names d
    · rw [declare_of_mem h]
      -- what is refused was there before
      have hheld : c = d ∧ name = other → name ∈ actions.names c := by
        rintro ⟨rfl, rfl⟩
        exact h
      tauto
    · rw [declare_of_notMem h, mem_names_append, or_assoc]

/-- A builder's set has the names that it has been asked for. -/
theorem mem_names_build :
    name ∈ (build counter declarations).names c ↔ (c, name) ∈ declarations := by
  rw [build, mem_names_declareAll]
  cases c <;> simp [builder, empty, names]

/-- One more call changes the set as a declaration does. -/
theorem build_concat (counter : SetCounter) (front : List (Category × String)) (c : Category)
    (name : String) :
    build counter (front ++ [(c, name)]) = ((build counter front).declare c name).2 := by
  rw [build, declareAll_append]
  rfl

/-- One call more may hand out one id more. -/
theorem handedOut_concat (counter : SetCounter) (declarations : List (Category × String))
    (c : Category) (name : String) :
    handedOut counter (declarations ++ [(c, name)]) =
      handedOut counter declarations ++
        ((build counter declarations).declare c name).1.toOption.toList := by
  rw [handedOut, declareAll_append, List.filterMap_append]
  refine congrArg (_ ++ ·) ?_
  show [((build counter declarations).declare c name).1].filterMap Except.toOption = _
  cases ((build counter declarations).declare c name).1 <;> rfl

/-! ## Ids, category by category -/

/-- The ids of a category are those of the set that have the category. -/
theorem mem_ofCategory_iff :
    a ∈ actions.ofCategory c ↔ a.category = c ∧ actions.contains a = true := by
  simp only [ofCategory, List.mem_map, List.mem_range, contains_eq_true_iff]
  constructor
  · rintro ⟨i, hi, rfl⟩
    exact ⟨rfl, rfl, hi⟩
  · rintro ⟨rfl, hset, hindex⟩
    exact ⟨a.index, hindex, by rw [← hset]⟩

/-- The actions of a category are distinct, since their indices are. -/
theorem nodup_ofCategory (actions : ActionSet) (c : Category) : (actions.ofCategory c).Nodup := by
  refine List.Nodup.map (fun i j hij => ?_) List.nodup_range
  exact congrArg ActionId.index hij

/-- A new name gives its category one id more, behind the others. -/
theorem ofCategory_append_self (actions : ActionSet) (c : Category) (name : String) :
    (actions.append c name).ofCategory c =
      actions.ofCategory c ++ [⟨c, (actions.names c).length, actions.id⟩] := by
  simp [ofCategory, List.range_succ]

/-- It gives the other categories nothing. -/
theorem ofCategory_append_of_ne (actions : ActionSet) (name : String) (h : d ≠ c) :
    (actions.append c name).ofCategory d = actions.ofCategory d := by
  simp only [ofCategory, names_append_of_ne actions name h, id_append]

/-- The ids of a category are handed out in their order. -/
theorem ofCategory_declareAll (actions : ActionSet) (declarations : List (Category × String))
    (c : Category) :
    (actions.declareAll declarations).2.ofCategory c =
      actions.ofCategory c ++
        ((actions.declareAll declarations).1.filterMap Except.toOption).filter
          fun a => a.category = c := by
  induction declarations generalizing actions with
  | nil => simp [declareAll]
  | cons head rest ih =>
    obtain ⟨d, name⟩ := head
    rw [declareAll, ih]
    -- a refused call hands out nothing; an accepted one hands out the last id of its category
    by_cases h : name ∈ actions.names d
    · rw [declare_of_mem h, List.filterMap_cons_none rfl]
    · rw [declare_of_notMem h, List.filterMap_cons_some (f := Except.toOption) rfl,
        List.filter_cons]
      by_cases hd : d = c
      · subst hd
        simp [ofCategory_append_self]
      · simp [ofCategory_append_of_ne actions name (Ne.symm hd), hd]

/-- What a builder has handed out for one category is what its set lists for it. -/
theorem filter_handedOut (counter : SetCounter) (declarations : List (Category × String))
    (c : Category) :
    ((handedOut counter declarations).filter fun a => a.category = c) =
      (build counter declarations).ofCategory c := by
  have h := ofCategory_declareAll (builder counter).1 declarations c
  have hempty : (builder counter).1.ofCategory c = [] := by cases c <;> rfl
  rw [hempty, List.nil_append] at h
  exact h.symm

/-- A set has the ids that were handed out for it, and no other. -/
theorem mem_handedOut_iff :
    a ∈ handedOut counter declarations ↔ (build counter declarations).contains a = true := by
  have h : a ∈ (handedOut counter declarations).filter (fun b => b.category = a.category) ↔
      a ∈ (build counter declarations).ofCategory a.category := by
    rw [filter_handedOut]
  simpa [mem_ofCategory_iff] using h

/-- No id is handed out twice. -/
theorem nodup_handedOut (counter : SetCounter) (declarations : List (Category × String)) :
    (handedOut counter declarations).Nodup := by
  refine List.nodup_iff_count_le_one.2 fun a => ?_
  -- it would be twice among the ids of its category
  have hsame : decide (a.category = a.category) = true := decide_eq_true rfl
  rw [← List.count_filter (p := fun b : ActionId => decide (b.category = a.category)) hsame,
    filter_handedOut]
  exact List.nodup_iff_count_le_one.1 (nodup_ofCategory _ _) a

/-! ## Places -/

/-- Categories are told apart by their ranks. -/
theorem eq_of_rank_eq (h : c.rank = d.rank) : c = d := by
  cases c <;> cases d <;> first | rfl | exact nomatch h

/-- A category ends where the ones after it have not begun yet. -/
theorem offset_add_length_le (actions : ActionSet) (h : c.rank < d.rank) :
    actions.offset c + (actions.names c).length ≤ actions.offset d := by
  cases c <;> cases d <;> simp_all [Category.rank, offset]

/-- Ids of one set compare as their places do. -/
theorem compare_eq_of_position? (ha : actions.position? a = some i)
    (hb : actions.position? b = some j) : compare a b = compare i j := by
  obtain ⟨haset, haindex, rfl⟩ := position?_eq_some_iff.1 ha
  obtain ⟨hbset, hbindex, rfl⟩ := position?_eq_some_iff.1 hb
  show (compare a.category.rank b.category.rank).then
    ((compare a.index b.index).then (compare a.set b.set)) = _
  -- the categories stand one behind the other, so that they decide about the places as well
  rcases Nat.lt_trichotomy a.category.rank b.category.rank with hlt | heq | hgt
  · have hle := actions.offset_add_length_le hlt
    have hplace : actions.offset a.category + a.index < actions.offset b.category + b.index := by
      omega
    rw [Nat.compare_eq_lt.2 hlt, Nat.compare_eq_lt.2 hplace]
    rfl
  · -- in one category the numbers decide
    have hset : compare a.set b.set = .eq := by rw [haset, hbset, Nat.compare_eq_eq]
    rw [eq_of_rank_eq heq, Nat.compare_eq_eq.2 rfl, hset, Ordering.then_eq]
    show compare a.index b.index = _
    simp only [Nat.compare_eq_ite_lt, Nat.add_lt_add_iff_left]
  · have hle := actions.offset_add_length_le hgt
    have hplace : actions.offset b.category + b.index < actions.offset a.category + a.index := by
      omega
    rw [Nat.compare_eq_gt.2 hgt, Nat.compare_eq_gt.2 hplace]
    rfl

/-- The list of all actions ascends. -/
theorem pairwise_order (actions : ActionSet) :
    actions.order.Pairwise fun a b => compare a b = .lt := by
  refine List.pairwise_iff_getElem.2 fun i j hi hj hij => ?_
  have hposition : actions.position? actions.order[i] = some i :=
    getElem?_order.1 (List.getElem?_eq_getElem hi)
  have hposition' : actions.position? actions.order[j] = some j :=
    getElem?_order.1 (List.getElem?_eq_getElem hj)
  rw [compare_eq_of_position? hposition hposition', Nat.compare_eq_lt]
  exact hij

/-- The ids of a set are those that have a place in it. -/
theorem contains_iff_position? :
    actions.contains a = true ↔ ∃ i < actions.size, actions.position? a = some i := by
  rw [← mem_order_iff, List.mem_iff_getElem?]
  simp only [getElem?_order]
  exact ⟨fun ⟨i, hi⟩ => ⟨i, position?_lt_size hi, hi⟩, fun ⟨i, _, hi⟩ => ⟨i, hi⟩⟩

/-- Each place is that of one id. -/
theorem existsUnique_position? (h : i < actions.size) : ∃! a, actions.position? a = some i := by
  have hlt : i < actions.order.length := by rwa [length_order]
  refine ⟨actions.order[i], getElem?_order.1 (List.getElem?_eq_getElem hlt), fun a ha => ?_⟩
  exact position?_inj ha (getElem?_order.1 (List.getElem?_eq_getElem hlt))

/-! ## Sets and their ids -/

/-- A set that has the ids of a list: it lists each of them once and in ascending order, the places
    are those in its list, and each id is found under its name and under no other. -/
structure Enumerates (actions : ActionSet) (ids : List ActionId) : Prop where
  nodup : ids.Nodup
  order_perm : actions.order.Perm ids
  order_ascending : actions.order.Pairwise fun a b => compare a b = .lt
  contains_iff : ∀ a, actions.contains a = true ↔ ∃ i < actions.size, actions.position? a = some i
  existsUnique_position : ∀ i < actions.size, ∃! a, actions.position? a = some i
  getElem?_order_iff : ∀ a i, actions.order[i]? = some a ↔ actions.position? a = some i
  compare_position : ∀ a b i j, actions.position? a = some i → actions.position? b = some j →
    compare a b = compare i j
  exists_name : ∀ a, actions.contains a = true →
    ∃ name, actions.name? a = some name ∧ actions.find? a.category name = some a
  of_find : ∀ c name a, actions.find? c name = some a →
    actions.contains a = true ∧ a.category = c ∧ actions.name? a = some name

/-- The set of a builder has the ids that the builder has handed out, and all views of them
    agree. -/
theorem enumerates_build (counter : SetCounter) (declarations : List (Category × String)) :
    (build counter declarations).Enumerates (handedOut counter declarations) where
  nodup := nodup_handedOut counter declarations
  order_perm := by
    -- both lists are without repetition and have the same members
    refine (List.perm_ext_iff_of_nodup (nodup_order _) (nodup_handedOut _ _)).2 fun a => ?_
    rw [mem_order_iff, mem_handedOut_iff]
  order_ascending := pairwise_order _
  contains_iff _ := contains_iff_position?
  existsUnique_position _ := existsUnique_position?
  getElem?_order_iff _ _ := getElem?_order
  compare_position _ _ _ _ := compare_eq_of_position?
  exists_name a ha :=
    ⟨_, name?_eq_some_describe ha, find?_describe (nodup_names_build counter declarations _) ha⟩
  of_find _ _ _ := of_find?

/-- The ids of a builder, whatever it is asked to declare.  They are the ids of the set that it
    makes, listed, placed and named as they should be; and in the course of its calls, a name is
    refused if its category has it already, which is if it was declared before, and this changes
    nothing; otherwise the number of the new id is the number of those that came before it in the
    category. -/
theorem declareAll_enumerates (counter : SetCounter) :
    (∀ declarations, (build counter declarations).Enumerates (handedOut counter declarations)) ∧
    ∀ front c name back,
      let before := build counter front
      let earlier := (handedOut counter front).filter fun a => a.category = c
      before.declare c name =
        (if name ∈ before.names c then (.error (.duplicateAction c name), before)
          else (.ok ⟨c, earlier.length, counter.next⟩, before.append c name)) ∧
      ((builder counter).1.declareAll (front ++ (c, name) :: back)).1[front.length]? =
        some (if name ∈ before.names c then .error (.duplicateAction c name)
          else .ok ⟨c, earlier.length, counter.next⟩) ∧
      build counter (front ++ [(c, name)]) =
        (if name ∈ before.names c then before else before.append c name) ∧
      (name ∈ before.names c ↔ (c, name) ∈ front) := by
  refine ⟨enumerates_build counter, fun front c name back => ?_⟩
  intro before earlier
  have hearlier : earlier.length = (before.names c).length := by
    rw [← length_ofCategory, ← filter_handedOut]
  -- one call decides both the answer that is listed for it and the set after it
  have hdeclare : before.declare c name =
      (if name ∈ before.names c then (.error (.duplicateAction c name), before)
        else (.ok ⟨c, earlier.length, counter.next⟩, before.append c name)) := by
    split
    · exact declare_of_mem ‹_›
    · rw [hearlier, ← id_build counter front]
      exact declare_of_notMem ‹_›
  refine ⟨hdeclare, ?_, ?_, mem_names_build⟩
  · rw [getElem?_declareAll]
    show some (before.declare c name).1 = _
    rw [hdeclare, apply_ite Prod.fst]
  · rw [build_concat, hdeclare, apply_ite Prod.snd]

/-- A builder that is asked for the same name twice.  The name is handed out once, and again in
    another category, and the category that was declared last comes first. -/
theorem declareAll_enumerates_of_repeated :
    let list : List (Category × String) :=
      [(.analog2, "aim"), (.digital, "jump"), (.analog2, "aim"), (.digital, "aim")]
    let aim : ActionId := ⟨.analog2, 0, 7⟩
    let jump : ActionId := ⟨.digital, 0, 7⟩
    let twin : ActionId := ⟨.digital, 1, 7⟩
    let fresh : ActionSet := (builder ⟨7⟩).1
    handedOut ⟨7⟩ list = [aim, jump, twin] ∧ (build ⟨7⟩ list).Enumerates [aim, jump, twin] ∧
      (build ⟨7⟩ list).order = [jump, twin, aim] ∧
      (fresh.declareAll list).1[2]? = some (.error (.duplicateAction .analog2 "aim")) ∧
      (fresh.declareAll list).1[3]? = some (.ok twin) := by
  intro list aim jump twin fresh
  obtain ⟨hsets, hcalls⟩ := declareAll_enumerates ⟨7⟩
  have hids : handedOut ⟨7⟩ list = [aim, jump, twin] := by decide
  have hset := hsets list
  rw [hids] at hset
  -- the third call repeats a name of its category, the fourth only one of another category
  exact ⟨hids, hset, by decide,
    (hcalls [(.analog2, "aim"), (.digital, "jump")] .analog2 "aim" [(.digital, "aim")]).2.1,
    (hcalls [(.analog2, "aim"), (.digital, "jump"), (.analog2, "aim")] .digital "aim" []).2.1⟩

end InputMap.ActionSet
