import InputMap.Demo
import InputMap.Proofs.Expr.Alike
import InputMap.Proofs.Host.Following
import InputMap.Proofs.Profile.Resolution

/-!
# The direction of the demo

The demo's own profile moves up or down by the directional pad, and keeps the last direction while
the pad is idle or pressed both ways.  The direction is kept in the stored value of `movement` and
nowhere else: each tick takes it out of the value that the tick before has stored.  Meanwhile the
other component may overflow, a stored value may be kept for an equal one, and readings may fail.
None of this disturbs the direction, which can be followed from the readings alone.

## Key results

- `Demo.exists_apply_defaultProfile`: where the profile can be applied
- `Demo.evaluate?_movement`: what `movement` comes to from the value stored before
- `Host.WellFormed.shows_update`: one tick
- `Host.WellFormed.shows_tickStarts`: the ticks of a session
-/

namespace InputMap

namespace Demo

/-! ## Directions -/

/-- The direction after a tick: up or down if just that button of the directional pad was down, and
    as before otherwise. -/
def direction (before : Float32) (r : Snapshot) : Float32 :=
  if r.get (.button .dpadUp) = .bool true ∧ r.get (.button .dpadDown) = .bool false then 1.0
  else if r.get (.button .dpadUp) = .bool false ∧ r.get (.button .dpadDown) = .bool true then -1.0
  else before

/-- The direction after some ticks from rest, by what was read at each of them. -/
def lastDirection (polls : List Snapshot) : Float32 := polls.foldl direction 0.0

/-- No direction, up or down. -/
def IsDirection (y : Float32) : Prop := y = 0.0 ∨ y = 1.0 ∨ y = -1.0

/-- A poll gives a new direction, or keeps the one before. -/
theorem direction_cases (before : Float32) (r : Snapshot) :
    direction before r = 1.0 ∨ direction before r = -1.0 ∨ direction before r = before := by
  unfold direction
  split
  · exact .inl rfl
  · split
    · exact .inr (.inl rfl)
    · exact .inr (.inr rfl)

/-- A direction is never anything but up, down or none. -/
theorem IsDirection.direction {before : Float32} (h : IsDirection before) (r : Snapshot) :
    IsDirection (direction before r) := by
  rcases direction_cases before r with heq | heq | heq
  · exact .inr (.inl heq)
  · exact .inr (.inr heq)
  · rwa [heq]

/-- A direction is finite, so that it is stored as it is. -/
theorem IsDirection.finiteComponent_eq {y : Float32} (h : IsDirection y) :
    finiteComponent y = y := by
  rcases h with rfl | rfl | rfl <;> rfl

theorem isDirection_lastDirection (polls : List Snapshot) : IsDirection (lastDirection polls) :=
  List.foldlRecOn polls direction (.inl rfl) fun _ hbefore r _ => hbefore.direction r

/-- Once there is a direction, there always is one. -/
theorem lastDirection_append_ne_zero {before : List Snapshot} (h : lastDirection before ≠ 0.0)
    (after : List Snapshot) : lastDirection (before ++ after) ≠ 0.0 := by
  rw [lastDirection, List.foldl_append]
  refine List.foldlRecOn (motive := (· ≠ 0.0)) after direction h fun y hy r _ => ?_
  rcases direction_cases y r with heq | heq | heq
  · rw [heq]
    decide
  · rw [heq]
    decide
  · rwa [heq]

/-! ## The profile -/

/-- The expression of `movement` in the demo's own profile. -/
def movement : Expr :=
  let up := Expr.input (.button .dpadUp)
  let down := Expr.input (.button .dpadDown)
  .join (.add (.input (.trigger .right)) (.negate (.input (.trigger .left))))
    (.branch (.xor up down)
      (.branch up (.constant (.scalar 1.0)) (.constant (.scalar (-1.0)))) (.split .previous .y))

/-- The two entries of the profile. -/
theorem bindings_defaultProfile :
    defaultProfile.bindings =
      [⟨"fire", .digital, .input (.button .faceDown)⟩, ⟨"movement", .analog2, movement⟩] := rfl

/-- The demo's own profile can be applied wherever its two actions are declared and all signals are
    there. -/
theorem exists_apply_defaultProfile {t : BindingTable} (hsignals : t.signals = .all)
    (hfire : "fire" ∈ t.actions.names .digital)
    (hmovement : "movement" ∈ t.actions.names .analog2) :
    ∃ u, defaultProfile.apply t = .ok u := by
  refine Profile.exists_apply.2 ⟨?_, by decide, ?_⟩
  · rw [bindings_defaultProfile, List.forall_mem_cons, List.forall_mem_singleton]
    exact ⟨hfire, hmovement⟩
  · rw [bindings_defaultProfile, List.forall_mem_cons, List.forall_mem_singleton, hsignals]
    exact ⟨⟨_, rfl⟩, ⟨_, rfl⟩⟩

variable {r : Snapshot} {right left x y : Float32} {v : Value}

/-- The pull of the triggers, and the direction. -/
theorem evaluate?_movement (hr : r.Fits) (hright : r.get (.trigger .right) = .scalar right)
    (hleft : r.get (.trigger .left) = .scalar left) (x y : Float32) :
    movement.evaluate? r (.vec2 x y) = some (.vec2 (right + left * (-1.0)) (direction y r)) := by
  obtain ⟨up, hup⟩ := Value.eq_bool_of_category (hr.category_get (.button .dpadUp))
  obtain ⟨down, hdown⟩ := Value.eq_bool_of_category (hr.category_get (.button .dpadDown))
  rw [direction, hup, hdown, movement, Expr.negate]
  simp only [Expr.evaluate?, hright, hleft, hup, hdown]
  cases up <;> cases down <;> rfl

/-- What is stored for `movement`, if the value stored before is equal to a pair with a
    direction. -/
theorem next_movement (hr : r.Fits) (hright : r.get (.trigger .right) = .scalar right)
    (hleft : r.get (.trigger .left) = .scalar left) (hy : IsDirection y)
    (hv : (v == .vec2 x y) = true) :
    (Binding.next ⟨movement, .analog2⟩ r v ==
      .vec2 (finiteComponent (right + left * (-1.0))) (direction y r)) = true := by
  have hpair : Binding.evaluate ⟨movement, .analog2⟩ r (.vec2 x y) =
      .vec2 (finiteComponent (right + left * (-1.0))) (direction y r) := by
    rw [Binding.evaluate_eq (evaluate?_movement hr hright hleft x y), Value.sanitized,
      (hy.direction r).finiteComponent_eq]
  -- the stored value may differ from the pair in the sign of a zero, which does not matter
  have halike := Binding.evaluate_alike (.refl r) (Value.beq_iff.1 hv).1 ⟨movement, .analog2⟩
  rw [hpair] at halike
  exact PartialEquivBEq.trans (Binding.next_beq _ r v) halike

/-- What the two actions show after a tick that has read `r` and has led to the direction `y`. -/
structure Shows (r : Snapshot) (y : Float32) (fire? movement? : Option Value) : Prop where
  fire_eq : fire? = some (r.get (.button .faceDown))
  /-- The pull of the right trigger less that of the left one, and the direction. -/
  movement_beq : ∃ right left v, r.get (.trigger .right) = .scalar right ∧
    r.get (.trigger .left) = .scalar left ∧ movement? = some v ∧
      (v == .vec2 (finiteComponent (right + left * (-1.0))) y) = true

end Demo

namespace Host

open Demo

variable {σ L : Type} [Pad σ] {h start : Host σ L} {front back : List (Host σ L)}
  {session : List (Operation σ L)} {slot : Nat} {fire movement : ActionId} {x y : Float32}
  {v : Value}

/-- The two actions of the demo are bound as the demo's own profile says. -/
structure Steered (h : Host σ L) (slot : Nat) (fire movement : ActionId) : Prop where
  fire_eq : h.binding? slot fire = some ⟨.input (.button .faceDown), .digital⟩
  movement_eq : h.binding? slot movement = some ⟨Demo.movement, .analog2⟩

omit [Pad σ] in
/-- A host that follows the profile steers both actions by it. -/
theorem Follows.steered (hfollows : h.Follows slot defaultProfile)
    (hfire : h.actions.find? .digital "fire" = some fire)
    (hmovement : h.actions.find? .analog2 "movement" = some movement) :
    h.Steered slot fire movement where
  fire_eq := hfollows.binding? (.head _) hfire
  movement_eq := hfollows.binding? (.tail _ (.head _)) hmovement

/-! ## Ticks -/

/-- One tick. -/
theorem WellFormed.shows_update (h₀ : h.WellFormed) (hsteered : h.Steered slot fire movement)
    (hy : IsDirection y) (hv : h.state? slot movement = some v) (hvy : (v == .vec2 x y) = true) :
    ∃ r, h.readings[slot]? = some r ∧
      Shows r (direction y r) (h.update.host.state? slot fire)
        (h.update.host.state? slot movement) := by
  obtain ⟨r, hr, hmovement⟩ := h₀.state?_update hsteered.movement_eq hv
  obtain ⟨w, hw⟩ := h₀.exists_state? hsteered.fire_eq
  obtain ⟨r', hr', hfire⟩ := h₀.state?_update hsteered.fire_eq hw
  cases hr.symm.trans hr'
  have hfits : r.Fits := fits_of_mem_readings (List.mem_of_getElem? hr)
  obtain ⟨pressed, hpressed⟩ := Value.eq_bool_of_category (hfits.category_get (.button .faceDown))
  obtain ⟨right, hright⟩ := Value.eq_scalar_of_category (hfits.category_get (.trigger .right))
  obtain ⟨left, hleft⟩ := Value.eq_scalar_of_category (hfits.category_get (.trigger .left))
  -- the reading of a button is stored as it is, whatever was stored before
  have hvalue : Binding.evaluate ⟨.input (.button .faceDown), .digital⟩ r w = .bool pressed := by
    rw [Binding.evaluate, Expr.evaluate?, hpressed]
    rfl
  refine ⟨r, hr, ?_, right, left, _, hright, hleft, hmovement, ?_⟩
  · rw [hfire, Binding.next_eq_of_bool hvalue, hpressed]
  · exact next_movement hfits hright hleft hy hvy

/-- The ticks of a session: each of them finds the direction that the ticks before have led to. -/
theorem WellFormed.shows_tickStarts (h₀ : h.WellFormed)
    (hsession : ∀ operation ∈ session, operation.Admissible)
    (hsteered : ∀ start ∈ h.tickStarts session, start.Steered slot fire movement)
    (hy : IsDirection y) (hv : h.state? slot movement = some v) (hvy : (v == .vec2 x y) = true)
    (hstarts : h.tickStarts session = front ++ start :: back) :
    ∃ polls r, front.map (·.readings[slot]?) = polls.map some ∧ start.readings[slot]? = some r ∧
      Shows r ((polls ++ [r]).foldl direction y) (start.update.host.state? slot fire)
        (start.update.host.state? slot movement) := by
  rw [hstarts] at hsteered
  -- on the ticks before; each of them stores a value that is equal to a pair with a direction
  induction front generalizing h session v x y with
  | nil =>
    obtain ⟨hstart, hstate, -⟩ := exists_of_tickStarts h₀ hsession hstarts
    rw [← hstate] at hv
    obtain ⟨r, hr, hshows⟩ := hstart.shows_update (hsteered start (.head _)) hy hv hvy
    exact ⟨[], r, rfl, hr, hshows⟩
  | cons first front ih =>
    obtain ⟨hfirst, hstate, later, hlater, hrest⟩ := exists_of_tickStarts h₀ hsession hstarts
    rw [← hstate] at hv
    obtain ⟨r, hr, hshows⟩ := hfirst.shows_update (hsteered first (.head _)) hy hv hvy
    obtain ⟨right, left, w, -, -, hw, hwy⟩ := hshows.movement_beq
    obtain ⟨polls, r', hpolls, hr', hshows'⟩ := ih hfirst.update hlater
      (fun start hmem => hsteered start (.tail _ hmem)) (hy.direction r) hw hwy hrest
    exact ⟨r :: polls, r', by rw [List.map_cons, List.map_cons, hr, hpolls], hr', hshows'⟩

/-- The demo's own profile.  It can be applied to every table of a set with the two actions `fire`
    and `movement` and of all signals, so that every host with these actions and signals takes it
    for each of its players, and it is followed until somebody changes the player's table.  Take a
    host whose `movement` is at rest, and a session with the profile in force at each tick, whatever
    else is done in between and whatever the pad answers.  After each tick `fire` is the reading of
    the lower face button.  `movement` is equal to a pair of the pull of the triggers, made finite,
    and of the direction: up or down if just that button of the directional pad is read as down, and
    the direction of the tick before otherwise, with none at first.  So the direction is none, up or
    down, and once there is one it never gets lost. -/
theorem keeps_lastDirection :
    (∀ t : BindingTable, t.signals = .all → "fire" ∈ t.actions.names .digital →
      "movement" ∈ t.actions.names .analog2 → ∃ u, defaultProfile.apply t = .ok u) ∧
    (∀ (h : Host σ L) (slot : Nat), h.Reachable → h.signals = .all → slot < h.players.length →
      "fire" ∈ h.actions.names .digital → "movement" ∈ h.actions.names .analog2 →
        let applied := h.perform (.applyProfile slot defaultProfile)
        applied.outcome = .changed (.ok ()) ∧
          ∀ session : List (Operation σ L), (∀ operation ∈ session, operation.Admissible) →
            (∀ operation ∈ session, operation.tableSlot? ≠ some slot) →
              ∀ start ∈ applied.host.tickStarts session, start.Follows slot defaultProfile) ∧
    (∀ (h : Host σ L) (session : List (Operation σ L)) (slot : Nat) (fire movement : ActionId),
      h.Reachable → (∀ operation ∈ session, operation.Admissible) →
      h.actions.find? .digital "fire" = some fire →
      h.actions.find? .analog2 "movement" = some movement →
      h.state? slot movement = some Category.analog2.neutral →
      (∀ start ∈ h.tickStarts session, start.Follows slot defaultProfile) →
        ∀ front start back, h.tickStarts session = front ++ start :: back →
          ∃ polls r, front.map (·.readings[slot]?) = polls.map some ∧
            start.readings[slot]? = some r ∧
              Shows r (lastDirection (polls ++ [r])) (start.update.host.state? slot fire)
                (start.update.host.state? slot movement)) ∧
    (∀ polls, IsDirection (lastDirection polls)) ∧
    ∀ before after, lastDirection before ≠ 0.0 → lastDirection (before ++ after) ≠ 0.0 := by
  refine ⟨fun t => exists_apply_defaultProfile,
    fun h slot hreach hsignals hslot hfire hmovement => ?_,
    fun h session slot fire movement hreach hsession hfire hmovement hrest hfollows => ?_,
    isDirection_lastDirection,
    fun before after hbefore => lastDirection_append_ne_zero hbefore after⟩
  · -- the profile is in force from the beginning, and no operation of the session takes it away
    have hp : h.player? slot = some h.players[slot] := List.getElem?_eq_getElem hslot
    obtain ⟨t, ht⟩ := exists_apply_defaultProfile (t := h.neutralTable) hsignals hfire hmovement
    obtain ⟨houtcome, hfollows⟩ := hreach.wellFormed.perform_applyProfile hp ht
    have hafter : (h.perform (.applyProfile slot defaultProfile)).host.WellFormed :=
      hreach.wellFormed.perform trivial
    exact ⟨houtcome, fun session hsession htables start hstart =>
      hfollows.of_mem_tickStarts hafter hsession htables hstart⟩
  · -- at each tick both actions are bound as the profile says, and the direction starts at rest
    have hsteered : ∀ start ∈ h.tickStarts session, start.Steered slot fire movement := by
      intro start hstart
      have hactions := actions_of_mem_tickStarts hsession hstart
      exact (hfollows start hstart).steered (hactions ▸ hfire) (hactions ▸ hmovement)
    have hneutral : (Category.analog2.neutral == .vec2 0.0 0.0) = true := by decide
    exact fun front start back =>
      hreach.wellFormed.shows_tickStarts hsession hsteered (.inl rfl) hrest hneutral

/-- Up is kept while the button is released, and then while the pad is away. -/
theorem keeps_lastDirection_of_release :
    let press (s : Signal) (reading : s.category.Reading) : Operation SimulatedPad String :=
      .modifyPad (·.set 0 s reading)
    let session : List (Operation SimulatedPad String) :=
      [press (.button .dpadUp) true, press (.trigger .right) (0.75 : Float32), .update,
        press (.button .dpadUp) false, .update, .modifyPad (·.setConnected 0 false), .update]
    let fresh : Host SimulatedPad String :=
      create ⟨0, ["fire"], [], ["movement"]⟩ (.create 1 .all) .default
    let applied := fresh.perform (.applyProfile 0 defaultProfile)
    let first := applied.host.run (session.take 2)
    let last := applied.host.run session.dropLast
    fresh.Reachable ∧ (∃ t, defaultProfile.apply fresh.neutralTable = .ok t) ∧
      applied.outcome = .changed (.ok ()) ∧
      (∀ operation ∈ session, operation.Admissible ∧ operation.tableSlot? ≠ some 0) ∧
      (∀ start ∈ applied.host.tickStarts session, start.Follows 0 defaultProfile) ∧
      (applied.host.tickStarts session).map (·.state? 0 ⟨.analog2, 0, 0⟩) =
        [some (.vec2 0.0 0.0), some (.vec2 0.75 1.0), some (.vec2 0.75 1.0)] ∧
      (∃ polls r, polls.length = 2 ∧ last.readings[0]? = some r ∧
        Shows r (lastDirection (polls ++ [r])) (last.update.host.state? 0 ⟨.digital, 0, 0⟩)
          (last.update.host.state? 0 ⟨.analog2, 0, 0⟩)) ∧
      last.update.host.state? 0 ⟨.analog2, 0, 0⟩ = some (.vec2 0.0 1.0) ∧
      ∃ up, first.readings[0]? = some up ∧ ∀ after, lastDirection (up :: after) ≠ 0.0 := by
  intro press session fresh applied first last
  obtain ⟨happly, happlied, hshows, -, hkept⟩ :=
    keeps_lastDirection (σ := SimulatedPad) (L := String)
  have hsession : ∀ operation ∈ session, operation.Admissible := by
    simp [session, press, Operation.Admissible]
  have htables : ∀ operation ∈ session, operation.tableSlot? ≠ some 0 := by
    simp [session, press, Operation.tableSlot?]
  have hfresh : fresh.Reachable := .create _ _ _
  have hfire : "fire" ∈ fresh.actions.names .digital := .head _
  have hmovement : "movement" ∈ fresh.actions.names .analog2 := .head _
  obtain ⟨houtcome, hfollowed⟩ := happlied fresh 0 hfresh rfl (by decide) hfire hmovement
  have hfollows : ∀ start ∈ applied.host.tickStarts session, start.Follows 0 defaultProfile :=
    hfollowed session hsession htables
  have hstarts : applied.host.tickStarts session =
      [first, applied.host.run (session.take 4)] ++ last :: [] := rfl
  -- the last tick has two others in front of it
  obtain ⟨polls, r, hpolls, hr, hlast⟩ :=
    hshows applied.host session 0 ⟨.digital, 0, 0⟩ ⟨.analog2, 0, 0⟩ (.perform hfresh trivial)
      hsession (by decide) (by decide) (by decide +kernel) hfollows _ _ _ hstarts
  have hlength : polls.length = 2 := by
    have hmap := congrArg List.length hpolls
    simpa using hmap.symm
  -- with the button held, the first poll turns the direction upwards
  have hpressed : first.readings[0]?.map (fun up => lastDirection [up]) = some 1.0 := by
    decide +kernel
  obtain ⟨up, hup, hdirection⟩ := Option.map_eq_some_iff.1 hpressed
  have hne : lastDirection [up] ≠ 0.0 := by
    rw [hdirection]
    decide
  exact ⟨hfresh, happly _ rfl hfire hmovement, houtcome,
    fun operation hmem => ⟨hsession operation hmem, htables operation hmem⟩, hfollows,
    by decide +kernel, ⟨polls, r, hlength, hr, hlast⟩, by decide +kernel, up, hup,
    fun after => hkept [up] after hne⟩

end Host

end InputMap
