import ServiceWatch.Proofs.Correlation.Flapping

/-! Behind an operation no fact is too old at its instant, and where none is, expiry changes nothing. -/
namespace ServiceWatch.Engine

/-- No fact is so old that expiry would drop it. -/
structure Fresh (config : CorrelationConfig) (m : WorkingMemory) (now : Nat) : Prop where
  trackers : ∀ s t, m.trackers.get? s = some t → t.isExpired now config.flapInterval = false
  afflictions : ∀ s created, m.afflictions.get? s = some created →
    isStale config now created = false

theorem expire_of_fresh {e : Engine} {now : Nat} (h : Fresh e.config e.memory now) :
    e.expire now = e := by
  have hf : (e.memory.trackers.filter fun _ t => !t.isExpired now e.config.flapInterval) =
      e.memory.trackers := by
    apply Table.filter_eq_self
    intro s t hg
    rw [h.trackers s t hg]
    rfl
  have hm : (e.memory.expireTrackers now e.config.flapInterval).2 = e.memory := by
    unfold WorkingMemory.expireTrackers
    simp only [hf]
  unfold expire
  cases hc : e.config.afflictionTimeout with
  | none => simp only [hm]
  | some timeout =>
    have ha : e.memory.afflictions.expire now timeout = ([], e.memory.afflictions) := by
      apply Afflictions.expire_of_fresh
      intro s created hg
      have hs := h.afflictions s created hg
      simpa [isStale, hc] using hs
    simp only [hm, WorkingMemory.expireAfflictions, ha, evaluateServices, List.append_nil]

theorem fresh_expire (e : Engine) (now : Nat) : Fresh e.config (e.expire now).memory now := by
  constructor
  · intro s t hg
    rw [get?_trackers_expire, Option.filter_eq_some_iff] at hg
    simpa using hg.2
  · intro s created hg
    rw [get?_afflictions_expire, Option.filter_eq_some_iff] at hg
    simpa using hg.2

theorem last_settle (config : CorrelationConfig) (t : FlapTracker) :
    (t.settle config).last = t.last := by
  unfold FlapTracker.settle
  split
  · split <;> rfl
  · rfl

/-- The tracker of a sighting that has news ends with them. -/
theorem last_of_observe {config : CorrelationConfig} {m m' : WorkingMemory} {signal : Signal}
    {now : Nat} (ho : observe config m signal now = some m') {t : FlapTracker}
    (ht : m'.trackers.get? signal.sighting = some t) : t.last = now := by
  obtain ⟨-, -, -, htr⟩ := observe_eq_some ho
  rw [htr, if_pos rfl] at ht
  cases hk : signal.kind with
  | lost =>
    rw [hk] at ht
    obtain ⟨t', -, rfl⟩ := Option.map_eq_some_iff.1 ht
    rfl
  | regained =>
    rw [hk] at ht
    cases hm : m.trackers.get? signal.sighting with
    | some t' =>
      rw [hm] at ht
      exact Option.some.inj ht ▸ rfl
    | none =>
      rw [hm] at ht
      obtain ⟨created, -, rfl⟩ := Option.map_eq_some_iff.1 ht
      rfl

section Lasting

variable {config : CorrelationConfig} (hw : 0 < config.flapInterval)
  (ht : config.afflictionTimeoutSecs ≠ some 0)

include ht in
theorem isStale_self (now : Nat) : isStale config now now = false := by
  unfold isStale CorrelationConfig.afflictionTimeout
  cases hc : config.afflictionTimeoutSecs with
  | none => rfl
  | some secs =>
    have hn : secs.toNat ≠ 0 := by
      intro hz
      exact ht (by rw [hc, UInt64.toNat_inj.1 (by rw [hz]; rfl : secs.toNat = (0 : UInt64).toNat)])
    show Afflictions.isStale now (secs.toNat * 1000) now = false
    unfold Afflictions.isStale FlapTracker.elapsed
    rw [decide_eq_false_iff_not]
    omega

include hw ht

/-- What news bring in is fresh, since neither span of time is zero. -/
theorem Fresh.news {m m' : WorkingMemory} {signal : Signal} {now : Nat} (h : Fresh config m now)
    (ho : observe config m signal now = some m') :
    Fresh config (evaluate config m' signal now).2 now := by
  obtain ⟨-, -, haff, htr⟩ := observe_eq_some ho
  constructor
  · intro s t hg
    rw [get?_trackers_evaluate] at hg
    by_cases hs : s = signal.sighting
    · subst hs
      rw [if_pos rfl] at hg
      obtain ⟨t', hg', rfl⟩ := Option.map_eq_some_iff.1 hg
      have hl : (t'.settle config).last = now := by
        rw [last_settle, last_of_observe ho hg']
      unfold FlapTracker.isExpired FlapTracker.elapsed
      rw [hl, decide_eq_false_iff_not]
      omega
    · rw [if_neg hs, htr, if_neg hs] at hg
      exact h.trackers s t hg
  · intro s created hg
    have hm : m'.afflictions.get? s = some created := by
      simpa [evaluate] using hg
    rw [haff] at hm
    by_cases hs : s = signal.sighting
    · rw [if_pos hs] at hm
      cases hk : signal.kind with
      | lost =>
        rw [hk] at hm
        rw [← Option.some.inj hm]
        exact isStale_self ht now
      | regained =>
        rw [hk] at hm
        contradiction
    · rw [if_neg hs] at hm
      exact h.afflictions s created hm

end Lasting

theorem fresh_apply {e : Engine} (hw : 0 < e.config.flapInterval)
    (ht : e.config.afflictionTimeoutSecs ≠ some 0) (operation : Operation) (now : Nat) :
    Fresh e.config (e.apply operation now).2.memory now := by
  have hx := e.fresh_expire now
  rcases e.apply_cases operation now with h | h | ⟨signal, m, -, ho, h⟩
  · rw [h]
    exact hx
  · rw [h]
    exact hx
  · rw [h]
    exact hx.news hw ht ho

end ServiceWatch.Engine
