import ServiceWatch.Proofs.Correlation.Freshness

/-! The latest transition of a tracker, and the affliction of the same sighting, are one event. -/
namespace ServiceWatch

namespace FlapTracker

theorem getLast?_dropWhile_concat {α : Type} {drops : α → Bool} {a : α} (ha : drops a = false)
    (l : List α) : ((l ++ [a]).dropWhile drops).getLast? = some a := by
  induction l with
  | nil => simp [ha]
  | cons first rest ih =>
    by_cases hf : drops first = true
    · rw [List.cons_append, List.dropWhile_cons_of_pos hf]
      exact ih
    · rw [List.cons_append, List.dropWhile_cons_of_neg hf, ← List.cons_append]
      exact List.getLast?_concat

theorem getLast?_transitions_ofCycle (lost regained window : Nat) :
    (ofCycle lost regained window).transitions.getLast? = some regained := by
  unfold ofCycle
  dsimp only
  split <;> rfl

/-- A window of some length never loses the transition that it ends with. -/
theorem getLast?_transitions_record (t : FlapTracker) (now : Nat) {window : Nat} (hw : 0 < window) :
    (t.record now window).transitions.getLast? = some now := by
  apply getLast?_dropWhile_concat
  unfold elapsed
  rw [decide_eq_false_iff_not]
  omega

theorem transitions_settle_retain {config : CorrelationConfig} (hp : config.flapPolicy = .retain)
    (t : FlapTracker) : (t.settle config).transitions = t.transitions := by
  unfold settle
  rw [hp]
  split <;> rfl

end FlapTracker

namespace Engine

/-- A sighting with both facts is lost since the latest transition of its tracker. A retained tracker
counts that transition, behind all others. -/
structure InStep (config : CorrelationConfig) (m : WorkingMemory) : Prop where
  last_eq : ∀ s created t, m.afflictions.get? s = some created → m.trackers.get? s = some t →
    t.last = created
  counted : config.flapPolicy = .retain → 0 < config.flapInterval →
    ∀ s t, m.trackers.get? s = some t → t.transitions.getLast? = some t.last

variable {config : CorrelationConfig} {m m' : WorkingMemory}

theorem inStep_empty (config : CorrelationConfig) : InStep config .empty := by
  constructor
  · intro s created t _ ht
    contradiction
  · intro _ _ s t ht
    contradiction

/-- Facts that are dropped leave the others in step. -/
theorem InStep.of_fewer (h : InStep config m)
    (ha : ∀ s created, m'.afflictions.get? s = some created → m.afflictions.get? s = some created)
    (ht : ∀ s t, m'.trackers.get? s = some t → m.trackers.get? s = some t) : InStep config m' := by
  constructor
  · intro s created t hc hg
    exact h.last_eq s created t (ha s created hc) (ht s t hg)
  · intro hp hw s t hg
    exact h.counted hp hw s t (ht s t hg)

theorem InStep.expire {e : Engine} (h : InStep config e.memory) (now : Nat) :
    InStep config (e.expire now).memory := by
  apply h.of_fewer
  · intro s created hc
    rw [get?_afflictions_expire, Option.filter_eq_some_iff] at hc
    exact hc.1
  · intro s t ht
    rw [get?_trackers_expire, Option.filter_eq_some_iff] at ht
    exact ht.1

/-- The tracker of a sighting that has news counts them last. -/
theorem counted_of_observe (hw : 0 < config.flapInterval) {signal : Signal} {now : Nat}
    (ho : observe config m signal now = some m') {t : FlapTracker}
    (ht : m'.trackers.get? signal.sighting = some t) : t.transitions.getLast? = some now := by
  obtain ⟨-, -, -, htr⟩ := observe_eq_some ho
  rw [htr, if_pos rfl] at ht
  cases hk : signal.kind with
  | lost =>
    rw [hk] at ht
    obtain ⟨t', -, rfl⟩ := Option.map_eq_some_iff.1 ht
    exact t'.getLast?_transitions_record now hw
  | regained =>
    rw [hk] at ht
    cases hm : m.trackers.get? signal.sighting with
    | some t' =>
      rw [hm] at ht
      obtain rfl := Option.some.inj ht
      exact t'.getLast?_transitions_record now hw
    | none =>
      rw [hm] at ht
      obtain ⟨created, -, rfl⟩ := Option.map_eq_some_iff.1 ht
      exact FlapTracker.getLast?_transitions_ofCycle created now config.flapInterval

/-- News change the affliction and the tracker of their own sighting alone, both at their instant. -/
theorem InStep.news (h : InStep config m) {signal : Signal} {now : Nat}
    (ho : observe config m signal now = some m') :
    InStep config (evaluate config m' signal now).2 := by
  obtain ⟨-, -, haff, htr⟩ := observe_eq_some ho
  constructor
  · intro s created t hc ht
    have hm : m'.afflictions.get? s = some created := by simpa [evaluate] using hc
    rw [get?_trackers_evaluate] at ht
    by_cases hs : s = signal.sighting
    · subst hs
      rw [if_pos rfl] at ht
      obtain ⟨t', ht', rfl⟩ := Option.map_eq_some_iff.1 ht
      have hnow : created = now := by
        rw [haff, if_pos rfl] at hm
        cases hk : signal.kind <;> rw [hk] at hm
        · exact (Option.some.inj hm).symm
        · contradiction
      rw [last_settle, last_of_observe ho ht', hnow]
    · rw [if_neg hs, htr, if_neg hs] at ht
      rw [haff, if_neg hs] at hm
      exact h.last_eq s created t hm ht
  · intro hp hw s t ht
    rw [get?_trackers_evaluate] at ht
    by_cases hs : s = signal.sighting
    · subst hs
      rw [if_pos rfl] at ht
      obtain ⟨t', ht', rfl⟩ := Option.map_eq_some_iff.1 ht
      rw [FlapTracker.transitions_settle_retain hp, last_settle, last_of_observe ho ht']
      exact counted_of_observe hw ho ht'
    · rw [if_neg hs, htr, if_neg hs] at ht
      exact h.counted hp hw s t ht

theorem InStep.apply {e : Engine} (h : InStep e.config e.memory) (operation : Operation)
    (now : Nat) : InStep e.config (e.apply operation now).2.memory := by
  have hx := h.expire now
  rcases e.apply_cases operation now with h | h | ⟨signal, m, -, ho, h⟩
  · rw [h]
    exact hx
  · rw [h]
    exact hx
  · rw [h]
    exact hx.news ho

theorem inStep_run (config : CorrelationConfig) (ops : List (Operation × Nat)) :
    InStep config ((new config).run ops).2.memory := by
  induction ops using List.reverseRecOn with
  | nil => exact inStep_empty config
  | append_singleton ops op ih =>
    obtain ⟨operation, now⟩ := op
    have hc : ((new config).run ops).2.config = config := run_config ..
    rw [run_concat]
    have happlied : InStep ((new config).run ops).2.config _ :=
      InStep.apply (by rwa [hc]) operation now
    rwa [hc] at happlied

/-- In every state that operations can lead to, at any instants: where a sighting has an affliction
and a tracker, the tracker's latest transition is the loss that made the affliction. If trackers are
retained and the flap interval is not zero, every tracker counts its latest transition, behind all
others. -/
theorem latest_transition_is_the_loss (config : CorrelationConfig) (ops : List (Operation × Nat)) :
    let m := ((new config).run ops).2.memory
    (∀ s created t, m.afflictions.get? s = some created → m.trackers.get? s = some t →
      t.last = created) ∧
    (config.flapPolicy = .retain → 0 < config.flapInterval → ∀ s t, m.trackers.get? s = some t →
      t.transitions ≠ [] ∧ t.transitions.getLast? = some t.last) := by
  intro m
  have hm : InStep config m := inStep_run config ops
  refine ⟨hm.last_eq, ?_⟩
  intro hp hw s t ht
  have hlast := hm.counted hp hw s t ht
  refine ⟨?_, hlast⟩
  intro hnil
  rw [hnil] at hlast
  contradiction

/-- The clock goes back between the loss and the return, and the affliction of the first loss times
out while the tracker lives on. -/
theorem latest_transition_is_the_loss_sample :
    let config : CorrelationConfig := { flapIntervalMs := 9000, afflictionTimeoutSecs := some 1 }
    let s := (Signal.sample .lost 7).sighting
    let ops : List (Operation × Nat) :=
      [(.correlate (.sample .lost 7), 500), (.correlate (.sample .regained 7), 400),
        (.correlate (.sample .lost 7), 600), (.sweep, 1600), (.correlate (.sample .lost 7), 1700),
        (.correlate (.sample .lost 7), 1800)]
    let m := ((new config).run ops).2.memory
    let t : FlapTracker := ⟨[500, 400, 600, 1700], 1700, true⟩
    m.afflictions.get? s = some 1700 ∧ m.trackers.get? s = some t ∧ t.last = 1700 ∧
      t.transitions.getLast? = some t.last := by
  intro config s ops m t
  have ha : m.afflictions.get? s = some 1700 := by decide +kernel
  have ht : m.trackers.get? s = some t := by decide +kernel
  obtain ⟨hlast, hcounted⟩ := latest_transition_is_the_loss config ops
  exact ⟨ha, ht, hlast s 1700 t ha ht, (hcounted rfl (by decide) s t ht).2⟩

end Engine

end ServiceWatch
