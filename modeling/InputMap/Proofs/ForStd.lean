import Mathlib.Data.List.Forall2
import Mathlib.Data.List.ReduceOption

/-!
# Facts about the standard library

General facts that the theory of the library needs and that belong to no part of it.
-/

namespace Option

variable {α β γ δ : Type} {R : α → β → Prop} {S : γ → δ → Prop}

/-- Related options stay related if the rest of a computation relates. -/
theorem Rel.bind {x : Option α} {y : Option β} {f : α → Option γ} {g : β → Option δ}
    (h : Rel R x y) (hf : ∀ a b, R a b → Rel S (f a) (g b)) : Rel S (x.bind f) (y.bind g) := by
  cases h with
  | some hab => exact hf _ _ hab
  | none => exact .none

/-- Related options are both empty, or both hold related values. -/
theorem Rel.none_or_some {x : Option α} {y : Option β} (h : Rel R x y) :
    (x = .none ∧ y = .none) ∨ ∃ a b, x = .some a ∧ y = .some b ∧ R a b := by
  cases h with
  | some hab => exact .inr ⟨_, _, rfl, rfl, hab⟩
  | none => exact .inl ⟨rfl, rfl⟩

end Option

namespace Except

variable {ε α β : Type}

/-- A step that succeeds as a whole has succeeded in both of its parts. -/
theorem bind_eq_ok {x : Except ε α} {f : α → Except ε β} {b : β} :
    (x >>= f) = .ok b ↔ ∃ a, x = .ok a ∧ f a = .ok b := by
  cases x with
  | error e => exact ⟨fun h => (nomatch h), fun ⟨_, h, _⟩ => (nomatch h)⟩
  | ok a =>
    constructor
    · exact fun h => ⟨a, rfl, h⟩
    · rintro ⟨_, ha, h⟩
      cases ha
      exact h

/-- A step that fails as a whole has failed in one of its parts. -/
theorem bind_eq_error {x : Except ε α} {f : α → Except ε β} {e : ε} :
    (x >>= f) = .error e ↔ x = .error e ∨ ∃ a, x = .ok a ∧ f a = .error e := by
  cases x with
  | error e' =>
    constructor
    · exact fun h => .inl (congrArg _ (Except.error.inj h))
    · rintro (h | ⟨a, h, -⟩)
      · exact congrArg _ (Except.error.inj h)
      · exact nomatch h
  | ok a =>
    constructor
    · exact fun h => .inr ⟨a, rfl, h⟩
    · rintro (h | ⟨_, ha, h⟩)
      · exact nomatch h
      · cases ha
        exact h

/-- A step for each element of a list, all of which succeed. -/
theorem mapM_eq_ok {f : α → Except ε β} {l : List α} {m : List β} :
    l.mapM f = .ok m ↔ List.Forall₂ (fun a b => f a = .ok b) l m := by
  -- on the list; the results of the rest are related by the hypothesis
  induction l generalizing m with
  | nil =>
    rw [List.mapM_nil, List.forall₂_nil_left_iff]
    exact ⟨fun h => (Except.ok.inj h).symm, fun h => h ▸ rfl⟩
  | cons a l ih =>
    rw [List.mapM_cons, bind_eq_ok, List.forall₂_cons_left_iff]
    constructor
    · rintro ⟨b, hb, hrest⟩
      obtain ⟨bs, hbs, hm⟩ := bind_eq_ok.1 hrest
      cases hm
      exact ⟨b, bs, hb, ih.1 hbs, rfl⟩
    · rintro ⟨b, bs, hb, hbs, rfl⟩
      exact ⟨b, hb, bind_eq_ok.2 ⟨bs, ih.2 hbs, rfl⟩⟩

end Except

namespace List

variable {α β : Type} {R : α → β → Prop}

/-- A `foldl` whose state after each step is known: it suffices to look at one step, which is told
    the place and the element that it works on. -/
theorem foldl_eq_of_step {f : β → α → β} {l : List α} (state : Nat → β)
    (hstep : ∀ i a, l[i]? = some a → f (state i) a = state (i + 1)) :
    l.foldl f (state 0) = state l.length := by
  induction l generalizing state with
  | nil => rfl
  | cons a rest ih =>
    rw [foldl_cons, hstep 0 a rfl]
    exact ih (fun i => state (i + 1)) fun i b hb => hstep (i + 1) b hb

/-- Changing the first element after a prefix leaves the prefix as it is. -/
theorem modify_append_cons {front back : List α} {i : Nat} (h : front.length = i) (a : α)
    (f : α → α) :
    (front ++ a :: back).modify i f = front ++ f a :: back := by
  induction front generalizing i with
  | nil =>
    subst h
    rfl
  | cons b front ih =>
    subst h
    simp only [cons_append, length_cons, modify_succ_cons, ih rfl]

/-- An element is found by a key that no other element has. -/
theorem find?_key [BEq β] [LawfulBEq β] {key : α → β} {l : List α} {a : α}
    (hinj : ∀ b ∈ l, ∀ c ∈ l, key b = key c → b = c) (ha : a ∈ l) :
    l.find? (fun b => key b == key a) = some a := by
  cases hb : l.find? (fun b => key b == key a) with
  | none =>
    have hnone := find?_eq_none.1 hb a ha
    exact absurd (beq_self_eq_true _) hnone
  | some b =>
    have hfound := find?_some hb
    have hkey : key b = key a := beq_iff_eq.1 hfound
    rw [hinj b (mem_of_find?_eq_some hb) a ha hkey]

/-- A `flatMap` to which one place of the list contributes, and no other. -/
theorem flatMap_eq_of_getElem? {f : α → List β} {l : List α} {i : Nat} {a : α}
    (ha : l[i]? = some a) (hother : ∀ j b, l[j]? = some b → j ≠ i → f b = []) :
    l.flatMap f = f a := by
  -- the one index that counts is the first or lies in the rest
  induction l generalizing i with
  | nil => exact nomatch ha
  | cons b l ih =>
    rw [flatMap_cons]
    cases i with
    | zero =>
      cases ha
      have hrest : l.flatMap f = [] := by
        refine flatMap_eq_nil_iff.2 fun c hc => ?_
        obtain ⟨j, hj⟩ := getElem?_of_mem hc
        exact hother (j + 1) c hj (Nat.succ_ne_zero j)
      rw [hrest, append_nil]
    | succ i =>
      have hfirst : f b = [] := hother 0 b rfl (Nat.succ_ne_zero i).symm
      rw [hfirst, nil_append]
      exact ih ha fun j c hj hne => hother (j + 1) c hj fun heq => hne (Nat.succ.inj heq)

/-- Where a list is cut at one of its elements: at the first one, or further on. -/
theorem exists_cons_eq_append_cons {P : List α → α → Prop} {a : α} {l : List α} :
    (∃ front b back, a :: l = front ++ b :: back ∧ P front b) ↔
      P [] a ∨ ∃ front b back, l = front ++ b :: back ∧ P (a :: front) b := by
  constructor
  · rintro ⟨front, b, back, heq, h⟩
    cases front with
    | nil =>
      cases heq
      exact .inl h
    | cons c front =>
      cases heq
      exact .inr ⟨front, b, back, rfl, h⟩
  · rintro (h | ⟨front, b, back, rfl, h⟩)
    · exact ⟨[], a, l, rfl, h⟩
    · exact ⟨a :: front, b, back, rfl, h⟩

/-- Where the image of a list is cut at one of its elements. -/
theorem exists_map_eq_append_cons {f : α → β} {P : List β → β → Prop} {l : List α} :
    (∃ front b back, l.map f = front ++ b :: back ∧ P front b) ↔
      ∃ front a back, l = front ++ a :: back ∧ P (front.map f) (f a) := by
  constructor
  · rintro ⟨front, b, back, heq, h⟩
    obtain ⟨front, rest, rfl, rfl, hrest⟩ := map_eq_append_iff.1 heq
    obtain ⟨a, back, rfl, rfl, rfl⟩ := map_eq_cons_iff.1 hrest
    exact ⟨front, a, back, rfl, h⟩
  · rintro ⟨front, a, back, rfl, h⟩
    exact ⟨front.map f, f a, back.map f, by rw [map_append, map_cons], h⟩

/-- Pairing what is there of each element with a fixed first part. -/
theorem map_snd_flatten_toList (a : α) (l : List (Option β)) :
    (l.map fun x => x.toList.map fun b => (a, b)).flatten.map Prod.snd = l.reduceOption := by
  induction l with
  | nil => rfl
  | cons x l ih =>
    rw [map_cons, flatten_cons, map_append, ih]
    cases x with
    | none => rfl
    | some b => rfl

/-! ## Related lists -/

/-- An element on the left has a related one on the right. -/
theorem Forall₂.exists_right {l : List α} {m : List β} {a : α} (h : Forall₂ R l m) (ha : a ∈ l) :
    ∃ b ∈ m, R a b := by
  induction h with
  | nil => exact absurd ha not_mem_nil
  | cons hab _ ih =>
    rcases mem_cons.1 ha with rfl | ha
    · exact ⟨_, mem_cons_self, hab⟩
    · obtain ⟨b, hb, hrel⟩ := ih ha
      exact ⟨b, mem_cons_of_mem _ hb, hrel⟩

/-- An element on the right has a related one on the left. -/
theorem Forall₂.exists_left {l : List α} {m : List β} {b : β} (h : Forall₂ R l m) (hb : b ∈ m) :
    ∃ a ∈ l, R a b := by
  have hflip : Forall₂ (fun b a => R a b) m l := Forall₂.flip h
  exact hflip.exists_right hb

/-- Relating what stands on the right in another way. -/
theorem Forall₂.imp_of_mem {S : α → β → Prop} {l : List α} {m : List β} (h : Forall₂ R l m)
    (hRS : ∀ a, ∀ b ∈ m, R a b → S a b) : Forall₂ S l m := by
  induction h with
  | nil => exact .nil
  | cons hab _ ih =>
    exact .cons (hRS _ _ mem_cons_self hab) (ih fun a b hb => hRS a b (mem_cons_of_mem _ hb))

/-- Related lists are related at each index. -/
theorem Forall₂.getElem? {l : List α} {m : List β} (h : Forall₂ R l m) (i : Nat) :
    Option.Rel R l[i]? m[i]? := by
  induction h generalizing i with
  | nil => exact .none
  | cons hab _ ih =>
    cases i with
    | zero => exact .some hab
    | succ i => exact ih i

/-- Replacing an element in both by related ones keeps lists related. -/
theorem Forall₂.set {l : List α} {m : List β} {a : α} {b : β} (h : Forall₂ R l m) (hab : R a b)
    (i : Nat) : Forall₂ R (l.set i a) (m.set i b) := by
  induction h generalizing i with
  | nil => exact .nil
  | cons hcd hrest ih =>
    cases i with
    | zero => exact .cons hab hrest
    | succ i => exact .cons hcd (ih i)

/-- Changing one element on both sides: only the elements at that place must stay related. -/
theorem Forall₂.modify {l : List α} {m : List β} {f : α → α} {g : β → β} {i : Nat}
    (h : Forall₂ R l m) (hfg : ∀ a b, l[i]? = some a → R a b → R (f a) (g b)) :
    Forall₂ R (l.modify i f) (m.modify i g) := by
  induction h generalizing i with
  | nil =>
    rw [modify_nil, modify_nil]
    exact .nil
  | cons hab hrest ih =>
    -- the place is the head or lies in the rest
    cases i with
    | zero => exact .cons (hfg _ _ rfl hab) hrest
    | succ i =>
      rw [modify_succ_cons, modify_succ_cons]
      exact .cons hab (ih hfg)

/-- Zipping related lists with the same list gives related lists, if the function relates its
    values. -/
theorem Forall₂.zipWith {γ δ ε : Type} {S : δ → ε → Prop} {f : α → γ → δ} {g : β → γ → ε}
    {l : List α} {m : List β} (h : Forall₂ R l m) (hfg : ∀ a b c, R a b → S (f a c) (g b c))
    (n : List γ) :
    Forall₂ S (l.zipWith f n) (m.zipWith g n) := by
  induction h generalizing n with
  | nil => exact .nil
  | cons hab _ ih =>
    cases n with
    | nil => exact .nil
    | cons c n => exact .cons (hfg _ _ c hab) (ih n)

end List

namespace Except

variable {ε α β : Type}

/-- An error after a change of errors is the change of an error before it. -/
theorem mapError_eq_error {γ : Type} {x : Except ε α} {f : ε → γ} {e : γ} :
    x.mapError f = .error e ↔ ∃ e', x = .error e' ∧ f e' = e := by
  cases x with
  | error e' =>
    constructor
    · exact fun h => ⟨e', rfl, Except.error.inj h⟩
    · rintro ⟨_, he, rfl⟩
      cases he
      rfl
  | ok a => exact ⟨fun h => (nomatch h), fun ⟨_, h, _⟩ => (nomatch h)⟩

/-- A step for each element of a list fails where the first of them fails. -/
theorem mapM_eq_error {f : α → Except ε β} {l : List α} {e : ε} :
    l.mapM f = .error e ↔
      ∃ front a back, l = front ++ a :: back ∧ (∀ x ∈ front, ∃ y, f x = .ok y) ∧
        f a = .error e := by
  induction l with
  | nil =>
    rw [List.mapM_nil]
    constructor
    · exact fun h => (nomatch h)
    · rintro ⟨front, a, back, h, -⟩
      exact absurd h (by simp)
  | cons a l ih =>
    rw [List.mapM_cons, bind_eq_error, List.exists_cons_eq_append_cons (P := fun front a =>
      (∀ x ∈ front, ∃ y, f x = .ok y) ∧ f a = .error e)]
    refine or_congr (by simp) ?_
    -- the first step has succeeded, and what is left to do is the rest
    simp only [bind_eq_error, ih, List.forall_mem_cons]
    constructor
    · rintro ⟨b, hb, ⟨front, a', back, rfl, hfront, h⟩ | ⟨_, _, h⟩⟩
      · exact ⟨front, a', back, rfl, ⟨⟨b, hb⟩, hfront⟩, h⟩
      · exact nomatch h
    · rintro ⟨front, a', back, rfl, ⟨⟨b, hb⟩, hfront⟩, h⟩
      exact ⟨b, hb, .inl ⟨front, a', back, rfl, hfront, h⟩⟩

/-- A step for each element of a list succeeds if it does so for each of them. -/
theorem exists_mapM_eq_ok {f : α → Except ε β} {l : List α} :
    (∃ m, l.mapM f = .ok m) ↔ ∀ a ∈ l, ∃ b, f a = .ok b := by
  constructor
  · rintro ⟨m, hm⟩ a ha
    obtain ⟨b, -, hb⟩ := (mapM_eq_ok.1 hm).exists_right ha
    exact ⟨b, hb⟩
  · intro h
    cases hm : l.mapM f with
    | ok m => exact ⟨m, rfl⟩
    -- an error would be that of an element, and no element has one
    | error e =>
      obtain ⟨front, a, back, rfl, -, ha⟩ := mapM_eq_error.1 hm
      obtain ⟨b, hb⟩ := h a (by simp)
      exact nomatch ha.symm.trans hb

end Except
