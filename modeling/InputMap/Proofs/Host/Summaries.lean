import Mathlib
import InputMap.Proofs.Host.Stages
import InputMap.Proofs.Host.Trace

/-!
# Summaries

A host can be set to tell a summary after every `n` ticks.  Its totals are counted tick by tick, and
begin again with each summary.  So the ticks of a session are cut into windows of `n`: the totals
are those of the ticks after the last full window, and there is one summary for each full window,
told by the last tick of it.

## Key results

- `flatMap_window_append_remainder`: full windows and what is left over are all there is
- `Host.summariesOf_update`, `Host.totals_update`: one tick
- `Host.Summarized.run`: the totals of a session and the summaries that it has told
- `Host.summarizes_windows`: the windows of a session
-/

namespace InputMap

/-! ## Windows of a list -/

section

variable {α : Type} {n j : Nat} {l : List α}

/-- The items at `j * n` and after, up to `n` of them. -/
def window (n : Nat) (l : List α) (j : Nat) : List α := (l.drop (j * n)).take n

/-- The items after the last full window. -/
def remainder (n : Nat) (l : List α) : List α := l.drop (l.length / n * n)

/-- What is left over after the last full window is less than a window. -/
theorem length_remainder (n : Nat) (l : List α) : (remainder n l).length = l.length % n := by
  have hdiv := Nat.div_add_mod' l.length n
  rw [remainder, List.length_drop]
  omega

/-- A full window ends within the list. -/
theorem mul_add_le_length (hj : j < l.length / n) : j * n + n ≤ l.length := by
  rw [← Nat.succ_mul]
  exact Nat.le_trans (Nat.mul_le_mul_right n hj) (Nat.div_mul_le_self l.length n)

/-- A full window stays as it is when items are added. -/
theorem window_append (hj : j < l.length / n) (m : List α) :
    window n (l ++ m) j = window n l j := by
  have hle := mul_add_le_length hj
  rw [window, window, List.drop_append_of_le_length (by omega),
    List.take_append_of_le_length (by rw [List.length_drop]; omega)]

/-- A full window has `n` entries. -/
theorem length_window (hj : j < l.length / n) : (window n l j).length = n := by
  have hle := mul_add_le_length hj
  rw [window, List.length_take, List.length_drop]
  omega

/-- One more item completes a window if with it as many are left over as a window has. -/
theorem dvd_succ_iff {k : Nat} : n ∣ k + 1 ↔ n ≠ 0 ∧ n ≤ k % n + 1 := by
  -- the items left over are `k % n`, so one more of them fills a window or does not
  have hdiv : n * (k / n) + k % n = k := Nat.div_add_mod k n
  constructor
  · intro hdvd
    have hpos : 0 < n := Nat.pos_of_dvd_of_pos hdvd (by omega)
    have hrest : n ∣ k % n + 1 := by
      rw [← hdiv, Nat.add_assoc] at hdvd
      exact (Nat.dvd_add_right (Nat.dvd_mul_right n (k / n))).1 hdvd
    exact ⟨by omega, Nat.le_of_dvd (by omega) hrest⟩
  · rintro ⟨hne, hle⟩
    have hlt : k % n < n := Nat.mod_lt k (by omega)
    exact ⟨k / n + 1, by rw [Nat.mul_succ]; omega⟩

/-- An item that completes no window is left over with the others. -/
theorem remainder_concat (h : ¬ n ∣ l.length + 1) (a : α) :
    remainder n (l ++ [a]) = remainder n l ++ [a] := by
  rw [remainder, List.length_append, List.length_singleton, Nat.succ_div_of_not_dvd h,
    List.drop_append_of_le_length (Nat.div_mul_le_self l.length n), remainder]

/-- An item that completes a window leaves nothing over. -/
theorem remainder_concat_of_dvd (h : n ∣ l.length + 1) (a : α) : remainder n (l ++ [a]) = [] := by
  rw [remainder, List.length_append, List.length_singleton, Nat.div_mul_cancel h]
  exact List.drop_of_length_le (by simp)

/-- The window that is completed has what was left over before. -/
theorem window_concat_of_dvd (h : n ∣ l.length + 1) (a : α) :
    window n (l ++ [a]) (l.length / n) = remainder n l ++ [a] := by
  -- what is left over is shorter than a window, so that with one more item it still fits in
  have hpos : 0 < n := Nat.pos_of_dvd_of_pos h (by omega)
  have hlt : l.length % n < n := Nat.mod_lt _ hpos
  rw [window, List.drop_append_of_le_length (Nat.div_mul_le_self l.length n), ← remainder,
    List.take_of_length_le]
  rw [List.length_append, length_remainder, List.length_singleton]
  omega

/-- Each item is in one full window, or left over. -/
theorem flatMap_window_append_remainder (n : Nat) (l : List α) :
    (List.range (l.length / n)).flatMap (window n l) ++ remainder n l = l := by
  have htake (count : Nat) : (List.range count).flatMap (window n l) = l.take (count * n) := by
    induction count with
    | zero => simp
    | succ count ih =>
      rw [List.range_succ, List.flatMap_append, List.flatMap_singleton, ih, Nat.succ_mul,
        List.take_add, window]
  rw [htake, remainder, List.take_append_drop]

end

variable {σ L : Type}

/-! ## What changes of tables tell -/

section

variable (totals : TickTotals)

/-- Binding tells no summary. -/
theorem BindingTable.summary_notMem_bindNotices (t : BindingTable) (a : ActionId) (e : Expr) :
    .summary totals ∉ t.bindNotices a e := by
  unfold bindNotices
  split <;> simp

/-- Installing tells no summary. -/
theorem BindingTable.summary_notMem_installNotices (t : BindingTable)
    (list : List (ActionId × Expr)) : .summary totals ∉ t.installNotices list := by
  unfold installNotices
  split <;> simp

/-- Moving to other signals tells no summary. -/
theorem BindingTable.summary_notMem_rebaseNotices (t : BindingTable) (signals : SignalSet) :
    .summary totals ∉ t.rebaseNotices signals := by
  unfold rebaseNotices
  split <;> simp

/-- No change of a table tells a summary. -/
theorem Player.summary_notMem_setTableNotices (p : Player L) (t : BindingTable) :
    .summary totals ∉ p.setTableNotices t := by
  unfold setTableNotices
  split
  · simp
  · rw [List.mem_append, not_or]
    constructor
    · split
      · exact t.summary_notMem_rebaseNotices totals _
      · exact List.not_mem_nil
    · split <;> simp

namespace Host

variable (h : Host σ L)

/-- Binding by way of a host tells none either, whether the slot is there or not. -/
theorem summary_notMem_bindNotices (slot : Nat) (a : ActionId) (e : Expr) :
    .summary totals ∉ h.bindNotices slot a e := by
  unfold bindNotices
  split
  · exact BindingTable.summary_notMem_bindNotices totals _ a e
  · exact List.not_mem_nil

/-- Nor does giving a player a table. -/
theorem summary_notMem_configureNotices (slot : Nat) (t : BindingTable) :
    .summary totals ∉ h.configureNotices slot t := by
  unfold configureNotices
  split
  · exact Player.summary_notMem_setTableNotices totals _ t
  · exact List.not_mem_nil

/-- Nor does applying a profile, wherever it fails. -/
theorem summary_notMem_applyProfileNotices (slot : Nat) (profile : Profile) :
    .summary totals ∉ h.applyProfileNotices slot profile := by
  unfold applyProfileNotices Profile.applyNotices
  rw [List.mem_append, not_or]
  constructor
  · split
    · exact BindingTable.summary_notMem_installNotices totals _ _
    · exact List.not_mem_nil
  · split
    · exact List.not_mem_nil
    · rw [List.mem_append, not_or]
      refine ⟨h.summary_notMem_configureNotices totals slot _, ?_⟩
      split <;> simp

end Host

end

/-- Notices without a summary are events without one. -/
theorem Event.filterMap_summary?_notices {notices : List Notice}
    (h : ∀ totals, .summary totals ∉ notices) :
    (notices.map (Event.notice (L := L))).filterMap summary? = [] := by
  rw [List.filterMap_eq_nil_iff]
  intro e he
  obtain ⟨n, hn, rfl⟩ := List.mem_map.1 he
  cases n with
  | summary totals => exact absurd hn (h totals)
  | _ => rfl

/-! ## Reports and summaries -/

/-- What the reports of several ticks come to, if each tick makes `perTick` evaluations. -/
def TickTotals.ofReports (perTick : Nat) (reports : List TickReport) : TickTotals :=
  ⟨reports.length, reports.length * perTick, (reports.map (·.changes)).sum,
    (reports.map (·.calls)).sum⟩

theorem TickTotals.ofReports_nil (perTick : Nat) : ofReports perTick [] = .zero := by
  simp [ofReports, zero]

/-- The totals of one more report are those of the others with one more tick. -/
theorem TickTotals.ofReports_concat (perTick : Nat) (reports : List TickReport)
    (report : TickReport) :
    ofReports perTick (reports ++ [report]) =
      (ofReports perTick reports).add perTick report.changes report.calls := by
  simp [ofReports, add, Nat.succ_mul]

/-- The report of a tick. -/
def Outcome.report? : Outcome → Option TickReport
  | ticked report => some report
  | _ => none

namespace Host

section

variable [Pad σ]

/-- The reports of the ticks of a session. -/
def reports (h : Host σ L) (session : List (Operation σ L)) : List TickReport :=
  (h.steps session).filterMap fun (x, operation) => (x.perform operation).outcome.report?

/-- The summaries that an operation tells. -/
def summariesOf (h : Host σ L) (operation : Operation σ L) : List TickTotals :=
  (h.perform operation).events.filterMap Event.summary?

/-- The summaries that a session tells. -/
def summaries (h : Host σ L) (session : List (Operation σ L)) : List TickTotals :=
  (h.steps session).flatMap fun (x, operation) => x.summariesOf operation

variable (h : Host σ L) (before : List (Operation σ L)) (operation : Operation σ L)

/-- The reports of a session are those of its first part, and then those of the rest. -/
theorem reports_append (after : List (Operation σ L)) :
    h.reports (before ++ after) = h.reports before ++ (h.run before).reports after := by
  rw [reports, steps_append, List.filterMap_append]
  rfl

/-- One operation more gives a report more if it is a tick. -/
theorem reports_concat :
    h.reports (before ++ [operation]) =
      h.reports before ++ ((h.run before).perform operation).outcome.report?.toList := by
  rw [reports_append]
  refine congrArg _ ?_
  cases hreport : ((h.run before).perform operation).outcome.report? <;>
    simp [reports, steps, hreport]

/-- One operation more tells the summaries that it tells after the others. -/
theorem summaries_concat :
    h.summaries (before ++ [operation]) =
      h.summaries before ++ (h.run before).summariesOf operation := by
  rw [summaries, steps_append, List.flatMap_append, summaries, steps, steps, List.flatMap_singleton]

/-- The host after one operation more. -/
theorem run_concat : h.run (before ++ [operation]) = ((h.run before).perform operation).host := by
  rw [run_append, run_cons, run_nil]

end

/-! ## Operations other than ticks -/

section

variable {h h' : Host σ L}

/-- Nothing but a tick changes the totals. -/
theorem Changed.totals_eq (hchanged : h.Changed h') : h'.totals = h.totals := by
  cases hchanged <;> rfl

/-- An outcome that is not the report of a tick, beside events without a summary. -/
def Uncounted (performed : Performed σ L) : Prop :=
  performed.outcome.report? = none ∧ performed.events.filterMap Event.summary? = []

/-- A change through the host is not counted, whatever its answer is. -/
theorem uncounted_changed {notices : List Notice} (hnotices : ∀ totals, .summary totals ∉ notices)
    (done : Except HostError Unit × Host σ L) : Uncounted (Host.changed notices done) :=
  ⟨rfl, Event.filterMap_summary?_notices (L := L) hnotices⟩

/-- Nor is one through a player. -/
theorem uncounted_changePlayer {notices : Player L → List Notice}
    (hnotices : ∀ p totals, .summary totals ∉ notices p) (h : Host σ L) (slot : Nat)
    (f : Player L → Except BindError Unit × Player L) :
    Uncounted (h.changePlayer slot notices f) := by
  cases hp : h.player? slot with
  | none =>
    rw [changePlayer_of_none hp]
    exact ⟨rfl, rfl⟩
  | some p =>
    rw [changePlayer_of_some hp]
    exact ⟨rfl, Event.filterMap_summary?_notices (L := L) (hnotices p)⟩

/-- An operation other than a tick is not counted, and tells no summary. -/
theorem uncounted_perform [Pad σ] {operation : Operation σ L} (hother : operation.isUpdate = false)
    (h : Host σ L) : Uncounted (h.perform operation) := by
  cases operation with
  | update => cases hother
  | modifyPad f => exact ⟨rfl, rfl⟩
  -- changes of a table have notices, but none of them is a summary
  | bind slot a e => exact uncounted_changed (h.summary_notMem_bindNotices · slot a e) _
  | configure slot t => exact uncounted_changed (h.summary_notMem_configureNotices · slot t) _
  | applyProfile slot profile =>
    exact uncounted_changed (h.summary_notMem_applyProfileNotices · slot profile) _
  | bindPlayer slot a e =>
    exact uncounted_changePlayer (fun p totals => p.table.summary_notMem_bindNotices totals a e) ..
  | configurePlayer slot t =>
    exact uncounted_changePlayer (fun p totals => p.summary_notMem_setTableNotices totals t) ..
  -- changes of listeners tell nothing
  | listen slot? a listener =>
    cases slot? with
    | none => exact ⟨rfl, rfl⟩
    | some slot =>
      unfold perform
      dsimp only
      split <;> exact ⟨rfl, rfl⟩
  | unlisten slot? a id =>
    cases slot? with
    | none => exact ⟨rfl, rfl⟩
    | some slot =>
      unfold perform
      dsimp only
      split <;> exact ⟨rfl, rfl⟩

end

/-! ## Ticks -/

section

variable [Pad σ] {h : Host σ L}

omit [Pad σ] in
/-- A total over passes that all count the same. -/
theorem total_eq_mul {count : Pass L → Nat} {passes : List (Pass L)} {c : Nat}
    (hcount : ∀ pass ∈ passes, count pass = c) : total count passes = passes.length * c := by
  induction passes with
  | nil => exact (Nat.zero_mul c).symm
  | cons pass rest ih =>
    have hrest := ih fun later hlater => hcount later (List.mem_cons_of_mem _ hlater)
    show count pass + total count rest = _
    rw [hrest, hcount pass List.mem_cons_self, List.length_cons, Nat.succ_mul, Nat.add_comm]

/-- A tick evaluates each action of each player once. -/
theorem WellFormed.nextTotals_eq (h₀ : h.WellFormed) :
    h.nextTotals =
      h.totals.add (h.players.length * h.actions.size) h.update.report.changes
        h.update.report.calls := by
  have hevaluated : ∀ pass ∈ h.passes, pass.evaluated = h.actions.size := by
    intro pass hpass
    obtain ⟨slot, hslot⟩ := List.getElem?_of_mem hpass
    obtain ⟨p, readings, hp, -, rfl⟩ := getElem?_passes.1 hslot
    have howns := h₀.owns slot p hp
    rw [howns.wellFormed.evaluated_update, howns.actions_eq]
  rw [nextTotals, total_eq_mul hevaluated, length_passes]

/-- The totals start anew after a tick that tells a summary. -/
theorem totals_update (h : Host σ L) :
    h.update.host.totals = if summaryDue h.settings h.nextTotals then .zero else h.nextTotals := rfl

/-- A tick tells one summary if it is due, and none otherwise. -/
theorem summariesOf_update (h : Host σ L) :
    h.summariesOf .update = if summaryDue h.settings h.nextTotals then [h.nextTotals] else [] := by
  -- a summary is neither from the first stage nor from the second one
  have hpoll : (h.pollNotices.map Event.notice).filterMap (Event.summary? (L := L)) = [] := by
    refine Event.filterMap_summary?_notices fun totals hmem => ?_
    simpa using isReading_of_mem_pollNotices hmem
  have hpasses : (h.passes.flatMap (·.events)).filterMap Event.summary? = [] := by
    rw [List.filterMap_eq_nil_iff]
    exact fun e he => Event.summary?_eq_none (isEvaluation_of_mem_passes he)
  have hchanges : ((changeNotices h.update.report).map Event.notice).filterMap
      (Event.summary? (L := L)) = [] := by
    refine Event.filterMap_summary?_notices fun totals => ?_
    unfold changeNotices
    split <;> simp
  show h.update.events.filterMap Event.summary? = _
  rw [events_update_eq, List.filterMap_append, List.filterMap_append, hpoll, hpasses,
    List.map_append, List.filterMap_append, hchanges, List.nil_append, List.nil_append]
  unfold summaryNotices
  split <;> rfl

end

/-! ## Sessions -/

section

variable [Pad σ] {start : Host σ L} {session : List (Operation σ L)}

/-- There is one report for each tick of a session. -/
theorem length_reports (h : Host σ L) (session : List (Operation σ L)) :
    (h.reports session).length = session.countP (·.isUpdate) := by
  -- on the session from its end; only a tick adds a report
  induction session using List.reverseRecOn with
  | nil => rfl
  | append_singleton before operation ih =>
    rw [reports_concat, List.length_append, List.countP_append, ih, List.countP_singleton]
    cases hupdate : operation.isUpdate with
    | true =>
      obtain rfl := operation.eq_update hupdate
      rfl
    | false =>
      rw [(uncounted_perform hupdate _).1]
      rfl

/-- The reports have the numbers of the ticks, one after the other. -/
theorem map_tick_reports (h : Host σ L) (hsession : ∀ operation ∈ session, operation.Admissible) :
    (h.reports session).map (·.tick) =
      (List.range (session.countP (·.isUpdate))).map (h.tick + · + 1) := by
  -- on the last operation, which finds as many ticks as there were before it
  induction session using List.reverseRecOn with
  | nil => rfl
  | append_singleton before operation ih =>
    obtain ⟨hbefore, -⟩ := List.forall_mem_append.1 hsession
    rw [reports_concat, List.map_append, ih hbefore, List.countP_append, List.countP_singleton]
    cases hupdate : operation.isUpdate with
    | true =>
      obtain rfl := operation.eq_update hupdate
      have hreport : ((h.run before).perform .update).outcome.report?.toList.map (·.tick) =
          [(h.run before).tick + 1] := rfl
      rw [hreport, tick_run hbefore, if_pos rfl, List.range_succ, List.map_append,
        List.map_singleton]
    | false =>
      rw [(uncounted_perform hupdate _).1, if_neg Bool.false_ne_true, Nat.add_zero]
      exact List.append_nil _

/-- A summary is due when a window is full. -/
theorem summaryDue_iff {settings : Settings} {perTick changes calls : Nat}
    {reports : List TickReport} :
    summaryDue settings
        ((TickTotals.ofReports perTick (remainder settings.statsInterval reports)).add
          perTick changes calls) = true ↔
      settings.statsInterval ∣ reports.length + 1 := by
  have hticks : ((TickTotals.ofReports perTick (remainder settings.statsInterval reports)).add
      perTick changes calls).ticks = reports.length % settings.statsInterval + 1 :=
    congrArg (· + 1) (length_remainder _ _)
  rw [summaryDue, hticks, Bool.and_eq_true, bne_iff_ne, decide_eq_true_iff, dvd_succ_iff]

/-- The evaluations of one tick. -/
def perTick (h : Host σ L) : Nat := h.players.length * h.actions.size

/-- A host counts the ticks that are left over after the last full window, and has told a summary
    for each full window. -/
structure Counted (start : Host σ L) (session : List (Operation σ L)) : Prop where
  totals_eq : (start.run session).totals =
    .ofReports start.perTick (remainder start.settings.statsInterval (start.reports session))
  summaries_eq : start.summaries session =
    (List.range ((start.reports session).length / start.settings.statsInterval)).map fun j =>
      .ofReports start.perTick (window start.settings.statsInterval (start.reports session) j)

variable {before : List (Operation σ L)} {operation : Operation σ L}

/-- What a tick after a session is counted in: the ticks left over, and itself. -/
theorem Counted.nextTotals_eq (hcounted : start.Counted before) (h₀ : start.WellFormed)
    (hbefore : ∀ operation ∈ before, operation.Admissible) :
    (start.run before).nextTotals =
      (TickTotals.ofReports start.perTick
        (remainder start.settings.statsInterval (start.reports before))).add start.perTick
          (start.run before).update.report.changes (start.run before).update.report.calls := by
  have hframe := SameFrame.run hbefore start
  rw [(h₀.run hbefore).nextTotals_eq, hcounted.totals_eq, hframe.length_players, hframe.actions_eq,
    ← perTick]

/-- A summary is due when the tick fills a window. -/
theorem Counted.summaryDue_iff (hcounted : start.Counted before) (h₀ : start.WellFormed)
    (hbefore : ∀ operation ∈ before, operation.Admissible) :
    summaryDue (start.run before).settings (start.run before).nextTotals = true ↔
      start.settings.statsInterval ∣ (start.reports before).length + 1 := by
  rw [hcounted.nextTotals_eq h₀ hbefore, (SameFrame.run hbefore start).settings_eq,
    Host.summaryDue_iff]

/-- A tick that fills a window tells the summary of it, and any other tick tells none. -/
theorem Counted.summariesOf_update (hcounted : start.Counted before) (h₀ : start.WellFormed)
    (hbefore : ∀ operation ∈ before, operation.Admissible) :
    let n := start.settings.statsInterval
    let reports := start.reports (before ++ [.update])
    (start.run before).summariesOf .update =
      if n ∣ (start.reports before).length + 1 then
        [.ofReports start.perTick (window n reports ((start.reports before).length / n))]
      else [] := by
  intro n reports
  have hreports : reports = start.reports before ++ [(start.run before).update.report] :=
    start.reports_concat before .update
  rw [Host.summariesOf_update]
  by_cases hdvd : n ∣ (start.reports before).length + 1
  · rw [if_pos ((hcounted.summaryDue_iff h₀ hbefore).2 hdvd), if_pos hdvd, hreports,
      window_concat_of_dvd hdvd, TickTotals.ofReports_concat, hcounted.nextTotals_eq h₀ hbefore]
  · rw [if_neg (mt (hcounted.summaryDue_iff h₀ hbefore).1 hdvd), if_neg hdvd]

/-- A tick adds its report to the last window. If this is full then, there is one summary more and
    the totals begin again; or else they have one more tick in them. -/
theorem Counted.update (hcounted : start.Counted before) (h₀ : start.WellFormed)
    (hbefore : ∀ operation ∈ before, operation.Admissible) :
    start.Counted (before ++ [.update]) := by
  have hreports : start.reports (before ++ [.update]) =
      start.reports before ++ [(start.run before).update.report] :=
    start.reports_concat before .update
  have hwindow : ∀ j < (start.reports before).length / start.settings.statsInterval,
      window start.settings.statsInterval (start.reports (before ++ [.update])) j =
        window start.settings.statsInterval (start.reports before) j := by
    intro j hj
    rw [hreports, window_append hj]
  have hsummaries := hcounted.summariesOf_update h₀ hbefore
  constructor
  · -- the totals begin again, or have one more tick in them
    rw [run_concat]
    show (start.run before).update.host.totals = _
    rw [totals_update, hreports]
    by_cases hdvd : start.settings.statsInterval ∣ (start.reports before).length + 1
    · rw [if_pos ((hcounted.summaryDue_iff h₀ hbefore).2 hdvd), remainder_concat_of_dvd hdvd,
        TickTotals.ofReports_nil]
    · rw [if_neg (mt (hcounted.summaryDue_iff h₀ hbefore).1 hdvd), remainder_concat hdvd,
        TickTotals.ofReports_concat, hcounted.nextTotals_eq h₀ hbefore]
  · -- there is one more full window, or as many as before
    have hlength : (start.reports (before ++ [.update])).length =
        (start.reports before).length + 1 := by
      rw [hreports, List.length_append, List.length_singleton]
    have hold : (List.range ((start.reports before).length / start.settings.statsInterval)).map
          (fun j => TickTotals.ofReports start.perTick
            (window start.settings.statsInterval (start.reports (before ++ [.update])) j)) =
        start.summaries before := by
      rw [hcounted.summaries_eq]
      refine List.map_congr_left fun j hj => ?_
      rw [hwindow j (List.mem_range.1 hj)]
    rw [summaries_concat, hsummaries, hlength]
    by_cases hdvd : start.settings.statsInterval ∣ (start.reports before).length + 1
    · rw [if_pos hdvd, Nat.succ_div_of_dvd hdvd, List.range_succ, List.map_append, hold,
        List.map_singleton]
    · rw [if_neg hdvd, Nat.succ_div_of_not_dvd hdvd, List.append_nil, hold]

/-- Other operations change neither the reports, nor the summaries, nor the totals. -/
theorem Counted.of_not_update (hcounted : start.Counted before)
    (hother : operation.isUpdate = false) (hadmissible : operation.Admissible) :
    start.Counted (before ++ [operation]) := by
  obtain ⟨hreport, hsummaries⟩ := uncounted_perform hother (start.run before)
  have hreports : start.reports (before ++ [operation]) = start.reports before := by
    rw [reports_concat, hreport, Option.toList_none, List.append_nil]
  -- what is not a tick leaves the totals
  have hchanged : (start.run before).Changed ((start.run before).perform operation).host := by
    rcases (start.run before).perform_cases hadmissible with rfl | ⟨-, hchanged⟩
    · cases hother
    · exact hchanged
  constructor
  · rw [run_concat, hchanged.totals_eq, hreports, hcounted.totals_eq]
  · rw [summaries_concat, summariesOf, hsummaries, List.append_nil, hreports, hcounted.summaries_eq]

/-- A session that starts with empty totals counts its ticks. -/
theorem Counted.run (h₀ : start.WellFormed) (hzero : start.totals = .zero)
    (hsession : ∀ operation ∈ session, operation.Admissible) : start.Counted session := by
  -- on the session from its end, since each summary looks back at the ticks before it
  induction session using List.reverseRecOn with
  | nil =>
    have hnone : remainder start.settings.statsInterval (start.reports []) = [] := by
      simp [remainder, reports, steps]
    constructor
    · rw [run_nil, hzero, hnone, TickTotals.ofReports_nil]
    · simp [summaries, reports, steps]
  | append_singleton before operation ih =>
    obtain ⟨hbefore, hlast⟩ := List.forall_mem_append.1 hsession
    have hcounted := ih hbefore
    cases hupdate : operation.isUpdate with
    | true =>
      obtain rfl := operation.eq_update hupdate
      exact hcounted.update h₀ hbefore
    | false => exact hcounted.of_not_update hupdate (hlast operation List.mem_cons_self)

/-- An operation in the middle of a session tells a summary if it is a tick that fills a window. -/
theorem summariesOf_eq (h₀ : start.WellFormed) (hzero : start.totals = .zero)
    {after : List (Operation σ L)}
    (hsession : ∀ o ∈ before ++ operation :: after, o.Admissible) :
    let n := start.settings.statsInterval
    let i := before.countP (·.isUpdate)
    (start.run before).summariesOf operation =
      if operation.isUpdate = true ∧ n ∣ i + 1 then
        [.ofReports start.perTick (window n (start.reports (before ++ operation :: after)) (i / n))]
      else [] := by
  intro n i
  obtain ⟨hbefore, -⟩ := List.forall_mem_append.1 hsession
  -- only a tick can tell a summary, and then the last window must be full
  cases hupdate : operation.isUpdate with
  | false =>
    rw [if_neg fun h => Bool.false_ne_true h.1]
    exact (uncounted_perform hupdate _).2
  | true =>
    obtain rfl := operation.eq_update hupdate
    have hlength : (start.reports before).length = i := length_reports start before
    rw [(Counted.run h₀ hzero hbefore).summariesOf_update h₀ hbefore, hlength]
    by_cases hdvd : n ∣ i + 1
    · -- what comes after does not change a window that is full
      have hlt : i / n < (start.reports (before ++ [.update])).length / n := by
        rw [length_reports, List.countP_append, List.countP_singleton, if_pos hupdate,
          Nat.succ_div_of_dvd hdvd]
        exact Nat.lt_succ_self _
      have hwindow : window n (start.reports (before ++ .update :: after)) (i / n) =
          window n (start.reports (before ++ [.update])) (i / n) := by
        rw [List.append_cons before .update after,
          start.reports_append (before ++ [Operation.update]), window_append hlt]
      rw [if_pos hdvd, if_pos ⟨rfl, hdvd⟩, hwindow]
    · rw [if_neg hdvd, if_neg fun h => hdvd h.2]

/-- The summaries of a session.  The ticks are cut into windows of `n`, where `n` is what the
    settings say, and a few that are left over.  The last tick of a full window tells a summary, and
    nothing else tells one: it has the number of ticks, an evaluation of each action of each player
    for each of them, and the sums of the changes and the listener calls that were reported.  If `n`
    is zero, no summary is told.  Each tick is in one window, whatever is done between them, and
    those that are left over are what the host has counted since the last summary. -/
theorem summarizes_windows (actions : ActionSet) (pad : σ) (settings : Settings)
    (hsession : ∀ operation ∈ session, operation.Admissible) :
    let start : Host σ L := create actions pad settings
    let n := settings.statsInterval
    let k := session.countP (·.isUpdate)
    let reports := start.reports session
    let summary (j : Nat) : TickTotals :=
      ⟨n, n * (Pad.slotCount pad * actions.size), ((window n reports j).map (·.changes)).sum,
        ((window n reports j).map (·.calls)).sum⟩
    (start.summaries session = (List.range (k / n)).map summary ∧
      (n = 0 → start.summaries session = [])) ∧
    (∀ before operation after, session = before ++ operation :: after →
      let i := before.countP (·.isUpdate)
      (start.run before).summariesOf operation =
        if operation.isUpdate = true ∧ n ∣ i + 1 then [summary (i / n)] else []) ∧
    (reports.map (·.tick) = (List.range k).map (· + 1) ∧
      (List.range (k / n)).flatMap (window n reports) ++ remainder n reports = reports ∧
      ∀ j < k / n, (window n reports j).length = n) ∧
    (start.run session).totals =
      .ofReports (Pad.slotCount pad * actions.size) (remainder n reports) := by
  intro start n k reports summary
  have h₀ : start.WellFormed := wellFormed_create actions pad settings
  -- each tick evaluates every action of every player
  have hperTick : start.perTick = Pad.slotCount pad * actions.size := by
    show (List.map _ _).length * _ = _
    rw [List.length_map, List.length_range]
    rfl
  have hlength : reports.length = k := length_reports start session
  have hfull : ∀ j < k / n,
      TickTotals.ofReports start.perTick (window n reports j) = summary j := by
    intro j hj
    rw [TickTotals.ofReports, length_window (by rwa [hlength]), hperTick]
  have hcounted : start.Counted session := Counted.run h₀ rfl hsession
  -- the summaries of the whole session are those of its full windows
  have hsummaries : start.summaries session = (List.range (k / n)).map summary := by
    rw [hcounted.summaries_eq, ← hlength]
    refine List.map_congr_left fun j hj => hfull j ?_
    rw [← hlength]
    exact List.mem_range.1 hj
  refine ⟨⟨hsummaries, fun hn => ?_⟩, ?_,
    ⟨?_, ?_, fun j hj => length_window (by rwa [hlength])⟩, ?_⟩
  · rw [hsummaries, hn, Nat.div_zero, List.range_zero, List.map_nil]
  · rintro before operation after rfl i
    have hsummary : (start.run before).summariesOf operation =
        if operation.isUpdate = true ∧ n ∣ i + 1 then
          [.ofReports start.perTick (window n reports (i / n))]
        else [] := summariesOf_eq h₀ rfl hsession
    rw [hsummary]
    by_cases hlast : operation.isUpdate = true ∧ n ∣ i + 1
    · -- the window that the tick fills is one of the whole session
      have hlt : i / n < k / n := by
        have hle : i + 1 ≤ k := by
          show _ ≤ List.countP _ _
          rw [List.countP_append, List.countP_cons_of_pos hlast.1]
          omega
        have hnext : (i + 1) / n = i / n + 1 := Nat.succ_div_of_dvd hlast.2
        have hmono : (i + 1) / n ≤ k / n := Nat.div_le_div_right hle
        omega
      rw [if_pos hlast, if_pos hlast]
      exact congrArg ([·]) (hfull (i / n) hlt)
    · rw [if_neg hlast, if_neg hlast]
  · refine (map_tick_reports start hsession).trans (List.map_congr_left fun j _ => ?_)
    show 0 + j + 1 = j + 1
    omega
  · rw [← hlength, flatMap_window_append_remainder]
  · rw [hcounted.totals_eq, hperTick]
    rfl

end

/-- A summary after every second tick.  A button is pressed before the first tick, let go before the
    third one and pressed again before the fourth one, and is not listened to from then on.  There
    are five ticks, so the last one is left over. -/
theorem summarizes_windows_of_button :
    let jump : ActionId := ⟨.digital, 0, 0⟩
    let press (down : Bool) : Operation SimulatedPad String :=
      .modifyPad (·.set 0 (.button .faceDown) down)
    let session : List (Operation SimulatedPad String) :=
      [.bind 0 jump (.input (.button .faceDown)), .listen (some 0) jump "own", press true, .update,
        .update, press false, .update, press true, .unlisten (some 0) jump ⟨0⟩, .update, .update]
    let start : Host SimulatedPad String :=
      create ⟨0, ["jump", "fire"], [], []⟩ (.create 1 .all)
        { Settings.default with statsInterval := 2 }
    (∀ operation ∈ session, operation.Admissible) ∧
      start.summaries session = [⟨2, 4, 1, 1⟩, ⟨2, 4, 2, 1⟩] ∧
      (start.run session).totals = ⟨1, 2, 0, 0⟩ := by
  intro jump press session start
  have hsession : ∀ operation ∈ session, operation.Admissible := by
    simp [session, press, Operation.Admissible]
  -- four ticks, two windows; a fifth is left over
  obtain ⟨⟨hsummaries, -⟩, -, -, htotals⟩ := summarizes_windows _ _ _ hsession
  exact ⟨hsession, hsummaries.trans (by decide +kernel), htotals.trans (by decide +kernel)⟩

end Host

end InputMap
