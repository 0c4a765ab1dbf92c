import ServiceWatch.Proofs.Correlation.Simultaneity

/-! Nothing is left of a fact once it is over: no report, no outage, and no tracker past its window. -/
namespace ServiceWatch

theorem Table.size_eq_zero {κ α : Type} [DecidableEq κ] {t : Table κ α}
    (h : ∀ k, t.get? k = none) : t.size = 0 := by
  rw [t.size_eq_ncard]
  simp [h]

/-- Without reports there are no entries of services either, since none of them is empty. -/
theorem Afflictions.size_eq_zero {a : Afflictions} (h : ∀ s, a.get? s = none) : a.size = 0 := by
  have hservices : a.byService.entries = [] := by
    rw [List.eq_nil_iff_forall_not_mem]
    rintro ⟨service, reports⟩ he
    have hreports : reports.entries = [] := by
      rw [List.eq_nil_iff_forall_not_mem]
      rintro ⟨monitor, created⟩ hm
      have hnone := h ⟨service, monitor⟩
      unfold Afflictions.get? Afflictions.monitors at hnone
      rw [Table.mem_entries.1 he, Option.getD_some, Table.mem_entries.1 hm] at hnone
      contradiction
    have hoccupied := a.occupied _ he
    unfold Table.isEmpty at hoccupied
    rw [hreports] at hoccupied
    contradiction
  unfold Afflictions.size Table.values
  rw [hservices]
  rfl

namespace WorkingMemory

theorem get?_eq_none_of_not_afflicted {m : WorkingMemory} {s : Sighting}
    (h : m.isAfflicted s = false) : m.afflictions.get? s = none := by
  unfold isAfflicted at h
  rwa [Option.isSome_eq_false_iff, Option.isNone_iff_eq_none] at h

/-- No tracker has a transition later than an instant. -/
def Dated (m : WorkingMemory) (now : Nat) : Prop :=
  ∀ s t, m.trackers.get? s = some t → t.last ≤ now

end WorkingMemory

namespace Engine

theorem isAfflicted_of_expire {e : Engine} {now : Nat} {s : Sighting}
    (h : (e.expire now).memory.isAfflicted s = true) : e.memory.isAfflicted s = true := by
  unfold WorkingMemory.isAfflicted at h ⊢
  rw [get?_afflictions_expire, Option.isSome_iff_exists] at h
  obtain ⟨created, hc⟩ := h
  rw [Option.filter_eq_some_iff] at hc
  rw [hc.1]
  rfl

/-- What is dropped at an instant is dropped later, too. -/
theorem isAfflicted_expire_mono {e : Engine} {now t : Nat} (ht : now ≤ t) {s : Sighting}
    (h : (e.expire t).memory.isAfflicted s = true) :
    (e.expire now).memory.isAfflicted s = true := by
  unfold WorkingMemory.isAfflicted at h ⊢
  rw [get?_afflictions_expire, Option.isSome_iff_exists] at h
  obtain ⟨created, hc⟩ := h
  rw [Option.filter_eq_some_iff] at hc
  have hfresh : isStale e.config now created = false := by
    by_contra hs
    have hs' := isStale_mono ht (Bool.eq_true_of_not_eq_false hs)
    simp [hs'] at hc
  rw [get?_afflictions_expire, hc.1]
  simp [hfresh]

/-! ### Trackers -/

theorem dated_expire {e : Engine} {now : Nat} (h : e.memory.Dated now) (t : Nat) :
    (e.expire t).memory.Dated now := by
  intro s tracker ht
  rw [get?_trackers_expire, Option.filter_eq_some_iff] at ht
  exact h s tracker ht.1

theorem dated_apply {e : Engine} {now t : Nat} (h : e.memory.Dated now) (ht : t ≤ now)
    (operation : Operation) : (e.apply operation t).2.memory.Dated now := by
  have hx := dated_expire h t
  rcases e.apply_cases operation t with ha | ha | ⟨signal, m, -, ho, ha⟩
  · rw [ha]
    exact hx
  · rw [ha]
    exact hx
  · rw [ha]
    intro s tracker hg
    rw [get?_trackers_evaluate] at hg
    by_cases hs : s = signal.sighting
    · rw [if_pos hs, hs] at hg
      obtain ⟨tracker, hm, rfl⟩ := Option.map_eq_some_iff.1 hg
      rw [last_settle, last_of_observe ho hm]
      exact ht
    · obtain ⟨-, -, -, htr⟩ := observe_eq_some ho
      rw [if_neg hs, htr, if_neg hs] at hg
      exact hx s tracker hg

theorem dated_run {e : Engine} {now : Nat} (h : e.memory.Dated now) {ops : List (Operation × Nat)}
    (hops : ∀ op ∈ ops, op.2 ≤ now) : (e.run ops).2.memory.Dated now := by
  induction ops generalizing e with
  | nil => exact h
  | cons op ops ih =>
    rw [List.forall_mem_cons] at hops
    exact ih (dated_apply h hops.1 op.1) hops.2

/-! ### Returns -/

/-- The return of a sighting ends its affliction and begins none. -/
theorem isAfflicted_of_return {e : Engine} {signal : Signal} (hk : signal.kind = .regained)
    {now : Nat} {s : Sighting} (h : (e.correlate signal now).2.memory.isAfflicted s = true) :
    signal.sighting ≠ s ∧ (e.expire now).memory.isAfflicted s = true := by
  cases ho : observe (e.expire now).config (e.expire now).memory signal now with
  | none =>
    have hn := isNews_of_observe_eq_none ho
    unfold isNews at hn
    rw [hk] at hn
    simp only [correlate, ho] at h
    refine ⟨?_, h⟩
    rintro rfl
    exact absurd (hn.symm.trans h) Bool.false_ne_true
  | some m =>
    obtain ⟨-, -, haff, -⟩ := observe_eq_some ho
    have hm : m.isAfflicted s = true := by
      simpa only [correlate, ho, evaluate, WorkingMemory.isAfflicted,
        evaluateWideSpread_afflictions, evaluateFlapping_afflictions] using h
    unfold WorkingMemory.isAfflicted at hm
    rw [haff, hk] at hm
    by_cases hs : s = signal.sighting
    · rw [if_pos hs] at hm
      contradiction
    · rw [if_neg hs] at hm
      exact ⟨Ne.symm hs, hm⟩

/-- What is still afflicted behind some returns was so before, and returned with none of them. -/
theorem isAfflicted_of_returns {e : Engine} {signals : List Signal}
    (hk : ∀ signal ∈ signals, signal.kind = .regained) {now : Nat} {s : Sighting}
    (h : ((e.run (arriving signals now)).2.expire now).memory.isAfflicted s = true) :
    (e.expire now).memory.isAfflicted s = true ∧ ∀ signal ∈ signals, signal.sighting ≠ s := by
  induction signals generalizing e with
  | nil => exact ⟨h, by simp⟩
  | cons signal signals ih =>
    rw [List.forall_mem_cons] at hk
    obtain ⟨hrest, hne⟩ := ih hk.2 (e := (e.correlate signal now).2) h
    obtain ⟨hsignal, hbefore⟩ := isAfflicted_of_return hk.1 (isAfflicted_of_expire hrest)
    exact ⟨hbefore, List.forall_mem_cons.2 ⟨hsignal, hne⟩⟩

/-! ### Nothing left -/

section Empty

variable {e : Engine} {now : Nat} (hm : OutagesMatch e.config e.memory)
  (ha : ∀ s, (e.expire now).memory.isAfflicted s = false)

include ha

theorem afflictions_stats_eq_zero : (e.stats now).1.afflictions = 0 :=
  Afflictions.size_eq_zero fun s => WorkingMemory.get?_eq_none_of_not_afflicted (ha s)

include hm

theorem outages_stats_eq_zero : (e.stats now).1.outages = 0 := by
  have hx : OutagesMatch e.config (e.expire now).memory := hm.expire now
  apply Table.size_eq_zero
  intro service
  have hcount : (e.expire now).memory.afflictedMonitors service = 0 :=
    Table.size_eq_zero fun monitor =>
      WorkingMemory.get?_eq_none_of_not_afflicted (ha ⟨service, monitor⟩)
  have hclosed := hx service
  rw [hcount] at hclosed
  unfold WorkingMemory.hasOutage Table.contains isWideSpread at hclosed
  simpa using hclosed

/-- Once no affliction is left and the window of every transition is over, there are no facts. -/
theorem memorySize_eq_zero (hd : e.memory.Dated now) {t : Nat}
    (ht : now + e.config.flapInterval ≤ t) : (e.memorySize t).1 = 0 := by
  have hlater : ∀ s, (e.expire t).memory.isAfflicted s = false := by
    intro s
    by_contra hs
    have hnow := isAfflicted_expire_mono (show now ≤ t by omega) (Bool.eq_true_of_not_eq_false hs)
    rw [ha s] at hnow
    contradiction
  have htrackers : (e.expire t).memory.trackers.size = 0 := by
    apply Table.size_eq_zero
    intro s
    rw [get?_trackers_expire, Option.filter_eq_none_iff]
    intro tracker hg
    have hlast := hd s tracker hg
    unfold FlapTracker.isExpired FlapTracker.elapsed
    simp only [Bool.not_eq_true', decide_eq_false_iff_not, not_not]
    omega
  have hafflictions : (e.expire t).memory.afflictions.size = 0 := afflictions_stats_eq_zero hlater
  have houtages : (e.expire t).memory.outages.size = 0 := outages_stats_eq_zero hm hlater
  show (e.expire t).memory.afflictions.size + (e.expire t).memory.trackers.size +
    (e.expire t).memory.outages.size = 0
  omega

end Empty

/-- Let the operations of a run come in order of time, none later than `now`. A tracker is counted at
`now` just if the latest transition of its sighting lies in the window and there was a return in the
chain that it ends. -/
theorem tracked_iff_recent (config : CorrelationConfig) (hw : 0 < config.flapInterval)
    (ops : List (Operation × Nat)) (now : Nat)
    (hs : (ops.map Prod.snd ++ [now]).Pairwise (· ≤ ·)) (s : Sighting) :
    let history := (new config).transitions s ops
    (((((new config).run ops).2.expire now).memory.trackers.get? s).isSome = true ↔
      (∃ x ∈ history.getLast?, FlapTracker.elapsed x.instant now < config.flapInterval) ∧
        ∃ x ∈ Transition.chain config.flapInterval history, x.kind = .regained) := by
  intro history
  have hc : ((new config).run ops).2.config = config := run_config ..
  have ht : Tracks config s history ((new config).run ops).2.memory now :=
    tracks_run config hw s ops now hs
  rw [get?_trackers_expire, hc]
  constructor
  · intro h
    obtain ⟨tracker, hg⟩ := Option.isSome_iff_exists.1 h
    rw [Option.filter_eq_some_iff] at hg
    have hf := ht.tracked tracker hg.1
    obtain ⟨x, hx, hi⟩ := hf.last
    have hlive : FlapTracker.elapsed tracker.last now < config.flapInterval := by
      simpa [FlapTracker.isExpired] using hg.2
    rw [← hi] at hlive
    exact ⟨⟨x, hx, hlive⟩, hf.returned⟩
  · rintro ⟨⟨x, hx, hlive⟩, y, hy, hk⟩
    cases hg : ((new config).run ops).2.memory.trackers.get? s with
    | none =>
      rcases ht.untracked hg with hu | ⟨z, hz, hover⟩
      · rw [(hu y hy).1] at hk
        contradiction
      · rw [Option.mem_unique hz hx] at hover
        omega
    | some tracker =>
      obtain ⟨z, hz, hi⟩ := (ht.tracked tracker hg).last
      rw [Option.mem_unique hz hx] at hi
      have hfresh : tracker.isExpired now config.flapInterval = false := by
        unfold FlapTracker.isExpired
        rw [← hi, decide_eq_false_iff_not]
        omega
      simp [hfresh]

/-- Let the operations of a run come in order of time, none later than `now`, and then, in any order,
at least one return for each sighting that is lost. No affliction and no outage is left, and once the
flap interval is over, nothing at all. Until then a tracker stays: those that are counted are the ones
of the sightings with a transition in the window and a return in the chain that it ends. -/
theorem memory_drains (config : CorrelationConfig) (ops : List (Operation × Nat)) (now : Nat)
    (hs : (ops.map Prod.snd ++ [now]).Pairwise (· ≤ ·)) :
    let e := ((new config).run ops).2
    (∀ signals : List Signal, (∀ signal ∈ signals, signal.kind = .regained) →
      (∀ s, (e.expire now).memory.isAfflicted s = true → ∃ signal ∈ signals, signal.sighting = s) →
      let drained := (e.run (arriving signals now)).2
      let (stats, counted) := drained.stats now
      stats.afflictions = 0 ∧ stats.outages = 0 ∧ ∀ t, now + config.flapInterval ≤ t →
        (drained.memorySize t).1 = 0 ∧ (counted.memorySize t).1 = 0) ∧
    (0 < config.flapInterval →
      let (stats, counted) := e.stats now
      let tracked := {s | (counted.memory.trackers.get? s).isSome = true}
      stats.trackers = tracked.ncard ∧ ∀ s,
        let history := (new config).transitions s ops
        s ∈ tracked ↔
          (∃ x ∈ history.getLast?, FlapTracker.elapsed x.instant now < config.flapInterval) ∧
            ∃ x ∈ Transition.chain config.flapInterval history, x.kind = .regained) := by
  intro e
  constructor
  · intro signals hk hcover drained
    have hrun : drained = ((new config).run (ops ++ arriving signals now)).2 := by
      rw [run_append]
    have hc : drained.config = config := by
      rw [hrun]
      exact run_config ..
    have hm : OutagesMatch drained.config drained.memory := by
      rw [hc, hrun]
      exact outagesMatch_run config _
    have hops : ∀ op ∈ ops ++ arriving signals now, op.2 ≤ now := by
      rw [List.pairwise_append] at hs
      intro op hop
      rcases List.mem_append.1 hop with hop | hop
      · exact hs.2.2 op.2 (List.mem_map_of_mem hop) now (List.mem_singleton_self now)
      · obtain ⟨signal, -, rfl⟩ := List.mem_map.1 hop
        exact Nat.le_refl now
    have hd : drained.memory.Dated now := by
      rw [hrun]
      exact dated_run (fun s t h => by simp [new, WorkingMemory.empty] at h) hops
    have ha : ∀ s, (drained.expire now).memory.isAfflicted s = false := by
      intro s
      by_contra hs
      obtain ⟨hbefore, hnone⟩ := isAfflicted_of_returns hk (Bool.eq_true_of_not_eq_false hs)
      obtain ⟨signal, hsignal, heq⟩ := hcover s hbefore
      exact hnone signal hsignal heq
    have hagain : ∀ s, ((drained.expire now).expire now).memory.isAfflicted s = false := by
      intro s
      by_contra hs
      have hone := isAfflicted_of_expire (Bool.eq_true_of_not_eq_false hs)
      rw [ha s] at hone
      contradiction
    have hx : OutagesMatch (drained.expire now).config (drained.expire now).memory := by
      rw [expire_config]
      exact hm.expire now
    refine ⟨afflictions_stats_eq_zero ha, outages_stats_eq_zero hm ha, fun t ht => ⟨?_, ?_⟩⟩
    · rw [← hc] at ht
      exact memorySize_eq_zero hm ha hd ht
    · rw [← hc, ← expire_config drained now] at ht
      exact memorySize_eq_zero hx hagain (dated_expire hd now) ht
  · intro hw
    exact ⟨Table.size_eq_ncard _, tracked_iff_recent config hw ops now hs⟩

theorem exists_signal_of_latestReport? {ops : List (Operation × Nat)} {s : Sighting}
    {kind : SignalKind} (h : latestReport? ops s = some kind) :
    ∃ op ∈ ops, ∃ signal, op.1 = .correlate signal ∧ signal.sighting = s := by
  obtain ⟨op, hop, hreport⟩ := List.mem_filterMap.1 (List.mem_of_getLast? h)
  refine ⟨op, hop, ?_⟩
  unfold Operation.report? at hreport
  split at hreport
  · rename_i signal ho
    rw [Option.ite_none_right_eq_some] at hreport
    exact ⟨signal, ho, hreport.1⟩
  · contradiction

theorem memory_drains_sample :
    let config : CorrelationConfig := { wideSpreadThreshold := 2, flapIntervalMs := 10 }
    let ops : List (Operation × Nat) :=
      [(.correlate (.sample .lost 7), 0), (.correlate (.sample .lost 8), 1),
        (.correlate (.sample .regained 8), 2), (.correlate (.sample .lost 8), 3), (.stats, 4)]
    let e := ((new config).run ops).2
    let signals := [Signal.sample .regained 8, .sample .regained 7]
    let drained := (e.run (arriving signals 5)).2
    (ops.map Prod.snd ++ [5]).Pairwise (· ≤ ·) ∧ (e.stats 5).1 = ⟨2, 1, 1⟩ ∧
      (drained.stats 5).1 = ⟨0, 2, 0⟩ ∧ (drained.memorySize 15).1 = 0 ∧
      ∃ x ∈ ((new config).transitions (Signal.sample .lost 8).sighting ops).getLast?,
        FlapTracker.elapsed x.instant 5 < config.flapInterval := by
  intro config ops e signals drained
  have hs : (ops.map Prod.snd ++ [5]).Pairwise (· ≤ ·) := by decide
  obtain ⟨hdrain, htracked⟩ := memory_drains config ops 5 hs
  have hreports : ∀ op ∈ ops, ∀ signal, op.1 = .correlate signal →
      ∃ signal' ∈ signals, signal'.sighting = signal.sighting := by
    intro op hop signal he
    simp only [ops, List.mem_cons, List.not_mem_nil, or_false] at hop
    rcases hop with rfl | rfl | rfl | rfl | rfl <;> cases he <;> decide
  have hcover : ∀ s, (e.expire 5).memory.isAfflicted s = true →
      ∃ signal ∈ signals, signal.sighting = s := by
    intro s hlost
    have hlatest := @isAfflicted_run config rfl ops s
    rw [isAfflicted_of_expire hlost, eq_comm, decide_eq_true_iff] at hlatest
    obtain ⟨op, hop, signal, ho, rfl⟩ := exists_signal_of_latestReport? hlatest
    exact hreports op hop signal ho
  obtain ⟨-, -, hover⟩ := hdrain signals (by decide) hcover
  obtain ⟨-, hlive⟩ := htracked (by decide)
  refine ⟨hs, by decide, by decide, (hover 15 (by decide)).1, ?_⟩
  exact ((hlive _).1 (by decide)).1

end Engine

end ServiceWatch
