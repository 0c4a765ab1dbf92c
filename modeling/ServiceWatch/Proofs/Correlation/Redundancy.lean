import ServiceWatch.Proofs.Correlation.Freshness

/-! A signal that tells nothing new does what a sweep does, and one that comes again does nothing. -/
namespace ServiceWatch

theorem Afflictions.remove_of_none {a : Afflictions} {s : Sighting} (h : a.get? s = none) :
    (a.remove s).1 = none ∧ ∀ s', (a.remove s).2.get? s' = a.get? s' := by
  refine ⟨by rw [remove_fst, h], fun s' => ?_⟩
  rw [get?_remove]
  by_cases hs : s' = s
  · rw [if_pos hs, hs, h]
  · rw [if_neg hs]

namespace Engine

/-- Operations, each of them carried out so many times again right behind the first time. -/
def repeated (plan : List ((Operation × Nat) × Nat)) : List (Operation × Nat) :=
  plan.flatMap fun step => List.replicate (step.2 + 1) step.1

theorem correlate_of_not_isNews {e : Engine} {signal : Signal} {now : Nat}
    (h : isNews (e.expire now).memory signal = false) : e.correlate signal now = e.sweep now := by
  have ho : observe e.config (e.expire now).memory signal now = none := by
    rw [← Option.isNone_iff_eq_none, ← Option.isSome_eq_false_iff, observe_isSome, h]
  unfold correlate sweep
  simp only [expire_config, ho]

/-- A signal is no news any more once it was applied. -/
theorem isNews_correlate (e : Engine) (signal : Signal) (now : Nat) :
    isNews (e.correlate signal now).2.memory signal = false := by
  unfold correlate
  simp only [expire_config]
  cases ho : observe e.config (e.expire now).memory signal now with
  | none => exact isNews_of_observe_eq_none ho
  | some m =>
    obtain ⟨-, -, haff, -⟩ := observe_eq_some ho
    have ha : (evaluate e.config m signal now).2.afflictions = m.afflictions := by
      simp [evaluate]
    dsimp only
    unfold isNews WorkingMemory.isAfflicted
    rw [ha, haff, if_pos rfl]
    cases signal.kind <;> rfl

theorem pending_correlate (e : Engine) (signal : Signal) (now : Nat) :
    (e.correlate signal now).2.pending = [] := by
  unfold correlate
  dsimp only
  split <;> rfl

section Again

variable {e : Engine} (hw : 0 < e.config.flapInterval)
  (ht : e.config.afflictionTimeoutSecs ≠ some 0)

include hw ht

theorem expire_apply (operation : Operation) (now : Nat) :
    (e.apply operation now).2.expire now = (e.apply operation now).2 := by
  apply expire_of_fresh
  rw [apply_config]
  exact fresh_apply hw ht operation now

/-- The same operation at the same instant finds and changes nothing more. -/
theorem apply_apply (operation : Operation) (now : Nat) :
    (e.apply operation now).2.apply operation now = ([], (e.apply operation now).2) := by
  have hx := expire_apply hw ht operation now
  have hsweep : ∀ e' : Engine, e'.expire now = e' → e'.pending = [] → e'.sweep now = ([], e') := by
    intro e' he hp
    unfold sweep
    simp only [he, hp]
    rw [← hp]
  cases operation with
  | correlate signal =>
    have hn : isNews ((e.correlate signal now).2.expire now).memory signal = false := by
      rw [show (e.correlate signal now).2.expire now = (e.correlate signal now).2 from hx]
      exact isNews_correlate e signal now
    exact (correlate_of_not_isNews hn).trans (hsweep _ hx (pending_correlate e signal now))
  | sweep => exact hsweep _ hx rfl
  | memorySize => exact congrArg (([] : List Finding), ·) hx
  | stats => exact congrArg (([] : List Finding), ·) hx

theorem run_replicate (operation : Operation) (now n : Nat) :
    (e.apply operation now).2.run (List.replicate n (operation, now)) =
      (List.replicate n [], (e.apply operation now).2) := by
  induction n with
  | zero => rfl
  | succ n ih =>
    rw [List.replicate_succ, List.replicate_succ]
    unfold run
    simp only [apply_apply hw ht operation now, ih]

end Again

/-- A run finds the same, and ends the same, if its operations are repeated. -/
theorem run_repeated {e : Engine} (hw : 0 < e.config.flapInterval)
    (ht : e.config.afflictionTimeoutSecs ≠ some 0) (plan : List ((Operation × Nat) × Nat)) :
    (e.run (repeated plan)).1.flatten = (e.run (plan.map Prod.fst)).1.flatten ∧
      (e.run (repeated plan)).2 = (e.run (plan.map Prod.fst)).2 := by
  induction plan generalizing e with
  | nil => exact ⟨rfl, rfl⟩
  | cons step plan ih =>
    obtain ⟨⟨operation, now⟩, n⟩ := step
    have hc : (e.apply operation now).2.config = e.config := apply_config ..
    obtain ⟨hfound, hend⟩ := ih (e := (e.apply operation now).2) (by rwa [hc]) (by rwa [hc])
    have hr : e.run (repeated (((operation, now), n) :: plan)) =
        ((e.apply operation now).1 :: (List.replicate n [] ++
          ((e.apply operation now).2.run (repeated plan)).1),
          ((e.apply operation now).2.run (repeated plan)).2) := by
      unfold repeated
      rw [List.flatMap_cons, List.replicate_succ, List.cons_append, run]
      simp only [run_append, run_replicate hw ht]
    rw [hr, List.map_cons, run]
    constructor
    · simp [hfound]
    · exact hend

/-- A signal that tells nothing new finds the affliction that it reports in place, or nothing to take
back, and then does what a sweep does. Let neither the flap interval nor the timeout be zero: a
signal that comes again at the same instant finds and changes nothing, however often; and a run whose
operations are repeated finds the same, in the same order, and leaves the same facts. -/
theorem redundant_signals_invisible (e : Engine) :
    (∀ (signal : Signal) (now : Nat), isNews (e.expire now).memory signal = false →
      let m := (e.expire now).memory
      e.correlate signal now = e.sweep now ∧
        match signal.kind with
        | .lost => m.insertAffliction signal.sighting now = (false, m)
        | .regained => (m.removeAffliction signal.sighting).1 = none ∧
          ∀ s, (m.removeAffliction signal.sighting).2.afflictions.get? s = m.afflictions.get? s) ∧
    (0 < e.config.flapInterval → e.config.afflictionTimeoutSecs ≠ some 0 →
      (∀ (signal : Signal) (now n : Nat),
        (e.correlate signal now).2.run (List.replicate n (.correlate signal, now)) =
          (List.replicate n [], (e.correlate signal now).2)) ∧
      ∀ plan : List ((Operation × Nat) × Nat),
        (e.run (repeated plan)).1.flatten = (e.run (plan.map Prod.fst)).1.flatten ∧
          (e.run (repeated plan)).2 = (e.run (plan.map Prod.fst)).2) := by
  constructor
  · intro signal now hn m
    refine ⟨correlate_of_not_isNews hn, ?_⟩
    unfold isNews WorkingMemory.isAfflicted at hn
    cases hk : signal.kind with
    | lost =>
      obtain ⟨created, hc⟩ : ∃ created, m.afflictions.get? signal.sighting = some created := by
        rw [← Option.isSome_iff_exists]
        simpa [hk] using hn
      show m.insertAffliction signal.sighting now = (false, m)
      unfold WorkingMemory.insertAffliction
      rw [Afflictions.insert_of_some hc]
    | regained =>
      have hc : m.afflictions.get? signal.sighting = none := by simpa [hk] using hn
      exact Afflictions.remove_of_none hc
  · intro hw ht
    exact ⟨fun signal now n => run_replicate hw ht (.correlate signal) now n,
      fun plan => run_repeated hw ht plan⟩

theorem redundant_signals_invisible_sample :
    let config : CorrelationConfig :=
      { wideSpreadThreshold := 2, flapIntervalMs := 100, afflictionTimeoutSecs := some 1 }
    let ops : List (Operation × Nat) :=
      [(.correlate (.sample .lost 7), 0), (.correlate (.sample .lost 8), 100), (.stats, 1000)]
    let e := ((new config).run ops).2
    let signal := Signal.sample .regained 7
    let plan : List ((Operation × Nat) × Nat) :=
      [((.correlate (.sample .lost 7), 1010), 2), ((.correlate (.sample .regained 7), 1020), 3),
        ((.sweep, 1020), 0), ((.correlate (.sample .regained 8), 1030), 1)]
    isNews (e.expire 1005).memory signal = false ∧ (e.sweep 1005).1.length = 1 ∧
      e.correlate signal 1005 = e.sweep 1005 ∧
      0 < e.config.flapInterval ∧ e.config.afflictionTimeoutSecs ≠ some 0 ∧
      (repeated plan).length = 10 ∧
      (e.run (repeated plan)).2 = (e.run (plan.map Prod.fst)).2 := by
  intro config ops e signal plan
  obtain ⟨hsweep, hagain⟩ := redundant_signals_invisible e
  have hn : isNews (e.expire 1005).memory signal = false := by decide +kernel
  have hc : e.config = config := run_config ..
  have hw : 0 < e.config.flapInterval := by rw [hc]; decide
  have ht : e.config.afflictionTimeoutSecs ≠ some 0 := by rw [hc]; decide
  exact ⟨hn, by decide +kernel, (hsweep signal 1005 hn).1, hw, ht, rfl, ((hagain hw ht).2 plan).2⟩

end Engine

end ServiceWatch
