import ServiceWatch.Proofs.Correlation.Engine

/-! A service has an outage of wide spread just while enough monitors report it lost. -/
namespace ServiceWatch

def WorkingMemory.afflictedBy (m : WorkingMemory) (service : ServiceId) : Set MonitorId :=
  {monitor | m.isAfflicted ⟨service, monitor⟩}

theorem WorkingMemory.afflictedMonitors_eq_ncard (m : WorkingMemory) (service : ServiceId) :
    m.afflictedMonitors service = (m.afflictedBy service).ncard :=
  m.afflictions.count_eq_ncard service

namespace Engine

/-- Every outage is one that the monitors ask for, and every one that they ask for is there. -/
def OutagesMatch (config : CorrelationConfig) (m : WorkingMemory) : Prop :=
  ∀ service, m.hasOutage service = isWideSpread config (m.afflictedMonitors service)

theorem OutagesMatch.empty (config : CorrelationConfig) : OutagesMatch config .empty :=
  fun _ => rfl

theorem OutagesMatch.expire {e : Engine} (h : OutagesMatch e.config e.memory) (now : Nat) :
    OutagesMatch e.config (e.expire now).memory := by
  intro service
  unfold Engine.expire
  split
  · exact h service
  · rename_i timeout _
    let m := (e.memory.expireTrackers now e.config.flapInterval).2
    have hc : (evaluateServices e.config now (.expiry now) (m.expireAfflictions now timeout).1
        (m.expireAfflictions now timeout).2).2.afflictedMonitors service =
          (m.expireAfflictions now timeout).2.afflictedMonitors service := by
      simp [WorkingMemory.afflictedMonitors]
    dsimp only
    rw [hasOutage_evaluateServices, hc]
    split
    · rfl
    · rename_i hs
      rw [m.afflictedMonitors_expire now timeout hs]
      exact h service

/-- A signal changes the monitors of its own service only, and that one is evaluated. -/
theorem OutagesMatch.news {config : CorrelationConfig} {m m' : WorkingMemory} {signal : Signal}
    {now : Nat} (h : OutagesMatch config m) (ho : observe config m signal now = some m') :
    OutagesMatch config (evaluate config m' signal now).2 := by
  intro service
  obtain ⟨-, hout, haff, -⟩ := observe_eq_some ho
  let m'' := (evaluateFlapping config m' signal.sighting (.signal signal.time)).2
  have hc : ∀ s, (evaluate config m' signal now).2.afflictedMonitors s = m'.afflictedMonitors s := by
    intro s
    simp [evaluate, WorkingMemory.afflictedMonitors]
  have hc' : m''.afflictedMonitors signal.service = m'.afflictedMonitors signal.service := by
    simp [m'', WorkingMemory.afflictedMonitors]
  have hf : m''.hasOutage service = m.hasOutage service := by
    simp [m'', WorkingMemory.hasOutage, hout]
  rw [hc]
  unfold evaluate
  dsimp only
  rw [hasOutage_evaluateWideSpread, hc', hf]
  by_cases hs : service = signal.service
  · simp [hs]
  · have hm : m'.afflictedMonitors service = m.afflictedMonitors service := by
      apply Afflictions.count_congr
      intro monitor
      rw [haff, if_neg]
      intro he
      exact hs (congrArg Sighting.service he)
    rw [if_neg hs, hm]
    exact h service

theorem outagesMatch_run (config : CorrelationConfig) (ops : List (Operation × Nat)) :
    OutagesMatch config ((new config).run ops).2.memory := by
  refine run_induction config (P := fun _ e => OutagesMatch config e.memory) ?_ ?_ ?_
    (.empty config) ops
  · rintro _ e now rfl h
    exact h.expire now
  · intro _ _ h
    exact h
  · rintro _ e signal now m rfl - h ho
    exact h.news ho

def Operation.report? (s : Sighting) : Operation → Option SignalKind
  | .correlate signal => if signal.sighting = s then some signal.kind else none
  | _ => none

def latestReport? (ops : List (Operation × Nat)) (s : Sighting) : Option SignalKind :=
  (ops.filterMap fun op => op.1.report? s).getLast?

theorem isAfflicted_expire {e : Engine} (h : e.config.afflictionTimeoutSecs = none) (now : Nat)
    (s : Sighting) : (e.expire now).memory.isAfflicted s = e.memory.isAfflicted s := by
  have ht : e.config.afflictionTimeout = none := by simp [CorrelationConfig.afflictionTimeout, h]
  unfold expire
  simp [ht, WorkingMemory.expireTrackers, WorkingMemory.isAfflicted]

/-- Without a timeout, an operation changes the afflictions that it reports on only. -/
theorem isAfflicted_apply {e : Engine} (h : e.config.afflictionTimeoutSecs = none)
    (operation : Operation) (now : Nat) (s : Sighting) :
    (e.apply operation now).2.memory.isAfflicted s =
      match operation.report? s with
      | some kind => decide (kind = .lost)
      | none => e.memory.isAfflicted s := by
  cases operation with
  | correlate signal =>
    rw [← isAfflicted_expire h now]
    simp only [apply, correlate, Operation.report?]
    cases ho : observe (e.expire now).config (e.expire now).memory signal now with
    | none =>
      have hn := isNews_of_observe_eq_none ho
      unfold isNews at hn
      by_cases hs : signal.sighting = s
      · subst hs
        cases hk : signal.kind <;> simp_all
      · simp [hs]
    | some m =>
      obtain ⟨-, -, haff, -⟩ := observe_eq_some ho
      by_cases hs : signal.sighting = s
      · subst hs
        cases hk : signal.kind <;> simp [evaluate, WorkingMemory.isAfflicted, haff, hk]
      · simp [evaluate, WorkingMemory.isAfflicted, haff, hs, Ne.symm hs]
  | sweep => exact isAfflicted_expire h now s
  | memorySize => exact isAfflicted_expire h now s
  | stats => exact isAfflicted_expire h now s

/-- Without a timeout, what is lost is what was reported lost last. -/
theorem isAfflicted_run {config : CorrelationConfig} (h : config.afflictionTimeoutSecs = none)
    (ops : List (Operation × Nat)) (s : Sighting) :
    ((new config).run ops).2.memory.isAfflicted s = decide (latestReport? ops s = some .lost) := by
  induction ops using List.reverseRecOn with
  | nil => rfl
  | append_singleton ops op ih =>
    obtain ⟨operation, now⟩ := op
    have hc : ((new config).run ops).2.config.afflictionTimeoutSecs = none := by
      rw [run_config]
      exact h
    rw [run_concat]
    simp only [isAfflicted_apply hc]
    unfold latestReport? at ih ⊢
    cases hr : operation.report? s <;> simp [hr, ih]

/-- In every state that operations can lead to, at any instants, a service has an outage of wide
spread just if at least one monitor and as many as the threshold asks for report it lost. If
afflictions never time out, these are the monitors whose latest report was of a loss. -/
theorem hasOutage_iff_threshold_reached (config : CorrelationConfig)
    (ops : List (Operation × Nat)) (service : ServiceId) :
    let m := ((new config).run ops).2.memory
    (m.hasOutage service = true ↔
      1 ≤ (m.afflictedBy service).ncard ∧ config.threshold ≤ (m.afflictedBy service).ncard) ∧
    (config.afflictionTimeoutSecs = none →
      m.afflictedBy service =
        {monitor | latestReport? ops ⟨service, monitor⟩ = some .lost}) := by
  intro m
  constructor
  · rw [outagesMatch_run config ops service, m.afflictedMonitors_eq_ncard, isWideSpread]
    simp [m, Nat.one_le_iff_ne_zero, Nat.pos_iff_ne_zero]
  · intro h
    ext monitor
    simp [m, WorkingMemory.afflictedBy, isAfflicted_run h]

theorem hasOutage_iff_threshold_reached_sample :
    let config : CorrelationConfig := { wideSpreadThreshold := 2 }
    let service := (Signal.sample .lost 7).service
    let ops : List (Operation × Nat) :=
      [(.correlate (.sample .regained 9), 8), (.correlate (.sample .lost 7), 5),
        (.correlate (.sample .lost 8), 3), (.correlate (.sample .lost 8), 4), (.stats, 0),
        (.correlate (.sample .lost 9), 2), (.correlate (.sample .regained 7), 1)]
    config.afflictionTimeoutSecs = none ∧
      ((new config).run ops).2.memory.hasOutage service = true ∧
      ((new config).run ops).2.memory.afflictedBy service =
        {monitor | latestReport? ops ⟨service, monitor⟩ = some .lost} :=
  ⟨rfl, by decide, (hasOutage_iff_threshold_reached _ _ _).2 rfl⟩

end Engine

end ServiceWatch
