import ServiceWatch.Proofs.Correlation.Serialization

/-! A correlator whose handles are all closed stays at work: its timer goes on to tick, nothing else
can come up any more, and so nothing ever stops it. -/
namespace ServiceWatch.Correlator

/-- The correlator runs, but nobody can send it a command any more, and none waits. -/
structure Abandoned (c : Correlator) : Prop where
  running : c.running = true
  handles : c.handles = 0
  queue : c.queue = []

section Step

variable {c d : Correlator} {o : Occurrence}

theorem Abandoned.of_turn_tick (h : c.Abandoned) {now : Nat} {outcome : Outcome}
    (ht : c.turn .tick now = some (outcome, d)) : d.Abandoned := by
  obtain ⟨-, hf⟩ := turn_tick_eq_some.1 ht
  obtain ⟨-, hq, hr⟩ := c.flush_spec now
  have hh : (c.flush now).2.handles = c.handles := rfl
  rw [hf] at hq hr hh
  exact ⟨hr.trans h.running, hh.trans h.handles, hq.trans h.queue⟩

/-- The timer can tick at any time. -/
theorem Abandoned.exists_tick (h : c.Abandoned) (now : Nat) :
    ∃ outcome d, c.Step (.ticked now outcome) d ∧ d.Abandoned := by
  have ht : c.turn .tick now = some (c.flush now) := turn_tick_eq_some.2 ⟨h.running, rfl⟩
  exact ⟨_, _, .tick ht, h.of_turn_tick ht⟩

/-- Only a tick can come up, and it does not end the correlator. -/
theorem Abandoned.step (h : c.Abandoned) (hs : c.Step o d) :
    d.Abandoned ∧ ∃ now outcome, o = .ticked now outcome := by
  have hn : ¬0 < c.handles := by
    rw [h.handles]
    exact Nat.lt_irrefl 0
  cases hs with
  | openHandle hp => exact absurd hp hn
  | closeHandle hp => exact absurd hp hn
  | send hp command => exact absurd hp hn
  | refuse hp _ command => exact absurd hp hn
  | @tick _ now outcome ht => exact ⟨h.of_turn_tick ht, now, outcome, rfl⟩
  | carryOut hq _ =>
    rw [h.queue] at hq
    contradiction
  | ending ht =>
    rw [turn_closed] at ht
    contradiction

end Step

/-- Once all handles are closed and the queue is empty, a correlator that still runs never stops:
however it goes on, only its timer ticks, and it can tick at any instants and any number of times,
each time with a sweep. -/
theorem ticks_forever {c : Correlator} (h : c.Abandoned) :
    (∀ os d, c.Run os d → d.Abandoned ∧ ∀ o ∈ os, ∃ now outcome, o = .ticked now outcome) ∧
      ∀ instants : List Nat, ∃ os d, c.Run os d ∧ operations os = instants.map (.sweep, ·) := by
  constructor
  · intro os d hr
    induction hr with
    | refl c => exact ⟨h, by simp⟩
    | @step c d e o os hs _ ih =>
      obtain ⟨hd, ho⟩ := h.step hs
      obtain ⟨he, hos⟩ := ih hd
      exact ⟨he, List.forall_mem_cons.2 ⟨ho, hos⟩⟩
  · intro instants
    induction instants generalizing c with
    | nil => exact ⟨[], c, .refl c, rfl⟩
    | cons now rest ih =>
      obtain ⟨outcome, d, hs, hd⟩ := h.exists_tick now
      obtain ⟨os, e, hr, ho⟩ := ih hd
      refine ⟨_, e, .step hs hr, ?_⟩
      rw [operations_cons, ho]
      rfl

/-- The correlator goes on also behind its only handle, which was closed while an outage was open. -/
theorem ticks_forever_sample :
    let config : CorrelationConfig := { wideSpreadThreshold := 1 }
    ∃ os c, (new config).Run os c ∧ c.Abandoned ∧
      (stream os).map Finding.kind = [.wideSpreadOutage] ∧
      (∃ outcome d, c.Step (.ticked 1000 outcome) d) ∧
      ∀ os' d, c.Run os' d → d.running = true := by
  intro config
  obtain ⟨os, c, hr, ha, hk⟩ : ∃ os c, (new config).Run os c ∧ c.Abandoned ∧
      (stream os).map Finding.kind = [.wideSpreadOutage] :=
    ⟨_, _,
      .step (.send (by decide) (.submit (.sample .lost 7))) <|
      .step (@Step.carryOut _ _ _ _ 5 _ rfl rfl) <|
      .step (.closeHandle (by decide)) <|
      .refl _,
      ⟨rfl, rfl, rfl⟩, by decide⟩
  obtain ⟨outcome, d, hs, -⟩ := ha.exists_tick 1000
  exact ⟨os, c, hr, ha, hk, ⟨outcome, d, hs⟩,
    fun os' d hd => ((ticks_forever ha).1 os' d hd).1.running⟩

end ServiceWatch.Correlator
