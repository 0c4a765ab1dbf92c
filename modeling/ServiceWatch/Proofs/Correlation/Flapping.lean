import ServiceWatch.Proofs.Correlation.FlapTracker
import ServiceWatch.Proofs.Correlation.OutageHistory

/-! Flapping is reported just when counting over the whole history of a sighting asks for it. -/
namespace ServiceWatch.Engine

def reportsFlapping (found : List Finding) (s : Sighting) : Bool :=
  found.any fun f => f.kind = .serviceFlapping ∧ f.service = s.service ∧ f.monitor = some s.monitor

/-- The transition of a sighting that an operation makes, if its signal tells something new. -/
def transition? (e : Engine) (s : Sighting) (operation : Operation) (now : Nat) :
    Option Transition :=
  match operation with
  | .correlate signal =>
    if signal.sighting = s ∧ isNews (e.expire now).memory signal then
      some ⟨signal.kind, now, reportsFlapping (e.correlate signal now).1 s⟩
    else none
  | _ => none

/-- The transitions of a sighting in a run, oldest first. -/
def transitions (e : Engine) (s : Sighting) : List (Operation × Nat) → List Transition
  | [] => []
  | (operation, now) :: rest =>
    (e.transition? s operation now).toList ++ (e.apply operation now).2.transitions s rest

theorem transitions_concat (e : Engine) (s : Sighting) (ops : List (Operation × Nat))
    (operation : Operation) (now : Nat) :
    e.transitions s (ops ++ [(operation, now)]) =
      e.transitions s ops ++ ((e.run ops).2.transition? s operation now).toList := by
  induction ops generalizing e with
  | nil => simp [transitions, run]
  | cons op rest ih => simp [transitions, run, ih]

/-- What the rule of flapping finds and leaves behind follows from the tracker of the sighting. -/
theorem evaluateFlapping_spec (config : CorrelationConfig) (m : WorkingMemory) (s : Sighting)
    (cause : Cause) :
    (evaluateFlapping config m s cause).1 =
        (if (m.trackers.get? s).any (·.isFlapping config) then
          [⟨.serviceFlapping, s.service, some s.monitor, cause⟩]
        else []) ∧
      ∀ s', (evaluateFlapping config m s cause).2.trackers.get? s' =
        if s' = s then (m.trackers.get? s).map (·.settle config) else m.trackers.get? s' := by
  unfold evaluateFlapping
  cases ht : m.trackers.get? s with
  | none =>
    refine ⟨rfl, fun s' => ?_⟩
    by_cases hs : s' = s <;> simp [hs, ht]
  | some t =>
    have hf : t.isFlapping config = true ↔ ¬(config.flapCount = 0 ∨ t.reported = true ∨
        t.count < config.flapCount.toNat) := by
      simp [FlapTracker.isFlapping]
    dsimp only [Option.any_some, Option.map_some]
    by_cases hn : t.isFlapping config = true
    · rw [if_neg (hf.1 hn), if_pos hn]
      refine ⟨rfl, fun s' => ?_⟩
      unfold FlapTracker.settle
      rw [if_pos hn]
      exact Table.get?_insert ..
    · rw [if_pos (not_not.1 (mt hf.2 hn)), if_neg hn]
      refine ⟨rfl, fun s' => ?_⟩
      by_cases hs : s' = s <;> simp [hs, ht, FlapTracker.settle, hn]

/-- The trackers behind the rules: the one of the sighting has settled. -/
theorem get?_trackers_evaluate (config : CorrelationConfig) (m : WorkingMemory) (signal : Signal)
    (now : Nat) (s : Sighting) :
    (evaluate config m signal now).2.trackers.get? s =
      if s = signal.sighting then (m.trackers.get? s).map (·.settle config)
      else m.trackers.get? s := by
  unfold evaluate
  dsimp only
  rw [evaluateWideSpread_trackers, (evaluateFlapping_spec ..).2]
  by_cases hs : s = signal.sighting <;> simp [hs]

theorem reportsFlapping_append (found found' : List Finding) (s : Sighting) :
    reportsFlapping (found ++ found') s = (reportsFlapping found s || reportsFlapping found' s) := by
  simp [reportsFlapping]

/-- A signal that tells something new reports flapping just if the tracker of its sighting gives
reason to. -/
theorem reportsFlapping_correlate {e : Engine} {signal : Signal} {now : Nat} {m : WorkingMemory}
    (ho : observe e.config (e.expire now).memory signal now = some m)
    (hp : ∀ f ∈ (e.expire now).pending, f.kind = .wideSpreadOutageResolved) :
    reportsFlapping (e.correlate signal now).1 signal.sighting =
      (m.trackers.get? signal.sighting).any (·.isFlapping e.config) := by
  have hq : reportsFlapping (e.expire now).pending signal.sighting = false := by
    unfold reportsFlapping
    rw [List.any_eq_false]
    intro f hf
    simp [hp f hf]
  have hw : ∀ m', reportsFlapping
      (evaluateWideSpread e.config m' signal.service now (.signal signal.time)).1
        signal.sighting = false := by
    intro m'
    unfold evaluateWideSpread
    split <;> rfl
  unfold correlate
  simp only [expire_config, ho, evaluate, reportsFlapping_append, hq, hw,
    (evaluateFlapping_spec ..).1, Bool.false_or, Bool.or_false]
  split
  · rename_i h
    rw [h]
    simp [reportsFlapping]
  · rename_i h
    rw [Bool.not_eq_true] at h
    rw [h]
    rfl

/-- What a sighting's facts say of its history. While there is no tracker, the chain has seen no
return, or is over. -/
structure Tracks (config : CorrelationConfig) (s : Sighting) (history : List Transition)
    (m : WorkingMemory) (now : Nat) : Prop where
  ordered : history.Pairwise fun a b => a.instant ≤ b.instant
  past : ∀ t ∈ history, t.instant ≤ now
  lost : ∀ created, m.afflictions.get? s = some created →
    ∃ t ∈ history.getLast?, t.kind = .lost ∧ t.instant = created
  tracked : ∀ t, m.trackers.get? s = some t → t.Follows config history
  untracked : m.trackers.get? s = none →
    (∀ t ∈ Transition.chain config.flapInterval history, t.kind = .lost ∧ t.reported = false) ∨
      ∃ t ∈ history.getLast?, config.flapInterval ≤ FlapTracker.elapsed t.instant now

/-- What the facts of a sighting say right behind a signal that tells something new, before the rules
are evaluated. -/
structure Weighs (config : CorrelationConfig) (s : Sighting) (history : List Transition)
    (m : WorkingMemory) : Prop where
  tracked : ∀ t, m.trackers.get? s = some t → t.Counts config history
  untracked : m.trackers.get? s = none →
    (∀ t ∈ Transition.chain config.flapInterval history, t.kind = .lost) ∧
      ∀ t ∈ (Transition.chain config.flapInterval history).dropLast, t.reported = false

theorem Weighs.get?_eq_none {config : CorrelationConfig} {s : Sighting} {history : List Transition}
    {m : WorkingMemory} (h : Weighs config s history m)
    (hl : ∀ t ∈ Transition.chain config.flapInterval history, t.kind = .lost) :
    m.trackers.get? s = none := by
  cases hm : m.trackers.get? s with
  | none => rfl
  | some t =>
    obtain ⟨x, hx, hk⟩ := (h.tracked t hm).returned
    rw [hl x hx] at hk
    contradiction

theorem Weighs.exists_counts {config : CorrelationConfig} {s : Sighting} {history : List Transition}
    {m : WorkingMemory} (h : Weighs config s history m)
    (hr : ∃ t ∈ Transition.chain config.flapInterval history, t.kind = .regained) :
    ∃ t, m.trackers.get? s = some t ∧ t.Counts config history := by
  cases hm : m.trackers.get? s with
  | none =>
    obtain ⟨x, hx, hk⟩ := hr
    rw [(h.untracked hm).1 x hx] at hk
    contradiction
  | some t => exact ⟨t, rfl, h.tracked t hm⟩

theorem Tracks.start (config : CorrelationConfig) (s : Sighting) (now : Nat) :
    Tracks config s [] .empty now :=
  ⟨.nil, by simp, by simp [WorkingMemory.empty], by simp [WorkingMemory.empty],
    fun _ => .inl (by simp [Transition.chain])⟩

section Step

variable {config : CorrelationConfig} {s : Sighting} {history : List Transition}
  {m m' : WorkingMemory} {now : Nat}

theorem Tracks.congr (h : Tracks config s history m now)
    (ha : m'.afflictions.get? s = m.afflictions.get? s)
    (ht : m'.trackers.get? s = m.trackers.get? s) : Tracks config s history m' now :=
  ⟨h.ordered, h.past, by rw [ha]; exact h.lost, by rw [ht]; exact h.tracked,
    by rw [ht]; exact h.untracked⟩

theorem Tracks.expire {e : Engine} (h : Tracks e.config s history e.memory now) :
    Tracks e.config s history (e.expire now).memory now := by
  refine ⟨h.ordered, h.past, fun created hc => ?_, fun t ht => ?_, fun hn => ?_⟩
  · rw [get?_afflictions_expire, Option.filter_eq_some_iff] at hc
    exact h.lost created hc.1
  · rw [get?_trackers_expire, Option.filter_eq_some_iff] at ht
    exact h.tracked t ht.1
  · rw [get?_trackers_expire, Option.filter_eq_none_iff] at hn
    cases ht : e.memory.trackers.get? s with
    | none => exact h.untracked ht
    | some t =>
      obtain ⟨l, hl, hi⟩ := (h.tracked t ht).last
      have hx := hn t ht
      simp only [FlapTracker.isExpired, Bool.not_eq_true', decide_eq_false_iff_not, not_not] at hx
      exact .inr ⟨l, hl, hi ▸ hx⟩

theorem Tracks.ordered_concat {x : Transition} (h : Tracks config s history m x.instant) :
    (history ++ [x]).Pairwise fun a b => a.instant ≤ b.instant :=
  List.pairwise_append.2 ⟨h.ordered, List.pairwise_singleton _ x, by simpa using h.past⟩

/-- A signal that tells something new is counted, unless the chain still is without a return. -/
theorem Tracks.observe {signal : Signal} {x : Transition}
    (h : Tracks config signal.sighting history m x.instant) (hw : 0 < config.flapInterval)
    (hf : ∀ t, m.trackers.get? signal.sighting = some t →
      FlapTracker.elapsed t.last x.instant < config.flapInterval)
    (ho : observe config m signal x.instant = some m') (hk : x.kind = signal.kind) :
    Weighs config signal.sighting (history ++ [x]) m' := by
  obtain ⟨hn, -, -, htr⟩ := observe_eq_some ho
  have ht := htr signal.sighting
  rw [if_pos rfl, ← hk] at ht
  cases hm : m.trackers.get? signal.sighting with
  | some t =>
    have hr : m'.trackers.get? signal.sighting =
        some (t.record x.instant config.flapInterval) := by
      rw [ht, hm]
      cases x.kind <;> rfl
    refine ⟨fun t' ht' => ?_, fun hn => ?_⟩
    · rw [hr] at ht'
      exact Option.some.inj ht' ▸ (h.tracked t hm).record h.ordered_concat (hf t hm)
    · rw [hr] at hn
      contradiction
  | none =>
    have hu : ∀ l ∈ history.getLast?, FlapTracker.elapsed l.instant x.instant <
        config.flapInterval → ∀ y ∈ Transition.chain config.flapInterval history,
          y.kind = .lost ∧ y.reported = false := by
      intro l hl hn
      rcases h.untracked hm with hu | ⟨l', hl', hx⟩
      · exact hu
      · rw [Option.mem_unique hl' hl] at hx
        omega
    cases hx : x.kind with
    | lost =>
      have hr : m'.trackers.get? signal.sighting = none := by
        rw [ht, hm, hx]
        rfl
      refine ⟨by simp [hr], fun _ => ?_⟩
      rw [Transition.chain_concat]
      split
      · rename_i hc
        cases hl : history.getLast? with
        | none =>
          rw [List.getLast?_eq_none_iff] at hl
          simp [hl, Transition.chain, hx]
        | some l =>
          have ha := hu l hl (hc l hl)
          rw [List.dropLast_concat]
          refine ⟨fun y hy => ?_, fun y hy => (ha y hy).2⟩
          rcases List.mem_append.1 hy with hy | hy
          · exact (ha y hy).1
          · rw [List.mem_singleton.1 hy, hx]
      · simp [hx]
    | regained =>
      obtain ⟨created, hc⟩ : ∃ created, m.afflictions.get? signal.sighting = some created := by
        rw [← Option.isSome_iff_exists]
        simpa [isNews, ← hk, hx, WorkingMemory.isAfflicted] using hn
      obtain ⟨l, hl, -, rfl⟩ := h.lost created hc
      have hr : m'.trackers.get? signal.sighting =
          some (.ofCycle l.instant x.instant config.flapInterval) := by
        rw [ht, hm, hx, hc]
        rfl
      obtain ⟨history', rfl⟩ := List.getLast?_eq_some_iff.1 hl
      refine ⟨fun t' ht' => ?_, fun hn => ?_⟩
      · rw [hr] at ht'
        exact Option.some.inj ht' ▸ FlapTracker.counts_ofCycle hw hx (hu l hl)
      · rw [hr] at hn
        contradiction

/-- Once the rules were evaluated, the facts of the sighting follow its longer history. -/
theorem Tracks.news {signal : Signal} {x : Transition}
    (h : Tracks config signal.sighting history m x.instant)
    (hc : Weighs config signal.sighting (history ++ [x]) m')
    (ho : Engine.observe config m signal x.instant = some m') (hk : x.kind = signal.kind)
    (hr : x.reported = (m'.trackers.get? signal.sighting).any (·.isFlapping config)) :
    Tracks config signal.sighting (history ++ [x]) (evaluate config m' signal x.instant).2
      x.instant := by
  have ht := get?_trackers_evaluate config m' signal x.instant signal.sighting
  rw [if_pos rfl] at ht
  refine ⟨h.ordered_concat, fun t ht => ?_, fun created ha => ⟨x, by simp, ?_⟩, fun t hm => ?_,
    fun hm => .inl fun y hy => ?_⟩
  · rcases List.mem_append.1 ht with ht | ht
    · exact h.past t ht
    · rw [List.mem_singleton.1 ht]
  · have haff := (observe_eq_some ho).2.2.1 signal.sighting
    rw [if_pos rfl, ← hk] at haff
    simp only [evaluate, evaluateWideSpread_afflictions, evaluateFlapping_afflictions, haff] at ha
    cases hx : x.kind with
    | lost =>
      rw [hx] at ha
      exact ⟨rfl, Option.some.inj ha⟩
    | regained =>
      rw [hx] at ha
      contradiction
  · rw [ht, Option.map_eq_some_iff] at hm
    obtain ⟨t', ht', rfl⟩ := hm
    exact (hc.tracked t' ht').settle (by rw [hr, ht']; rfl)
  · rw [ht, Option.map_eq_none_iff] at hm
    obtain ⟨hlost, hsilent⟩ := hc.untracked hm
    refine ⟨hlost y hy, ?_⟩
    obtain ⟨c, hch⟩ := Transition.exists_chain_eq_concat config.flapInterval history x
    rw [hch, List.dropLast_concat] at hsilent
    rw [hch] at hy
    rcases List.mem_append.1 hy with hy | hy
    · exact hsilent y hy
    · rw [List.mem_singleton.1 hy, hr, hm]
      rfl

end Step

theorem elapsed_of_get?_trackers_expire {e : Engine} {s : Sighting} {now : Nat} {t : FlapTracker}
    (h : (e.expire now).memory.trackers.get? s = some t) :
    FlapTracker.elapsed t.last now < e.config.flapInterval := by
  rw [get?_trackers_expire, Option.filter_eq_some_iff] at h
  simpa [FlapTracker.isExpired] using h.2

/-- An operation adds its transition to the history that the facts of a sighting follow. -/
theorem Tracks.apply {e : Engine} {s : Sighting} {history : List Transition} {now : Nat}
    (h : Tracks e.config s history e.memory now) (hw : 0 < e.config.flapInterval)
    (hp : ∀ f ∈ (e.expire now).pending, f.kind = .wideSpreadOutageResolved)
    (operation : Operation) :
    Tracks e.config s (history ++ (e.transition? s operation now).toList)
      (e.apply operation now).2.memory now := by
  have hx := h.expire
  cases operation with
  | correlate signal =>
    cases ho : Engine.observe e.config (e.expire now).memory signal now with
    | none =>
      have hn := isNews_of_observe_eq_none ho
      simpa [transition?, Engine.apply, correlate, ho, hn] using hx
    | some m =>
      have hn := (observe_eq_some ho).1
      by_cases hs : signal.sighting = s
      · subst hs
        have hc := hx.observe (x := ⟨signal.kind, now,
          reportsFlapping (e.correlate signal now).1 signal.sighting⟩) hw
            (fun t ht => elapsed_of_get?_trackers_expire ht) ho rfl
        have hr := hx.news hc ho rfl (reportsFlapping_correlate ho hp)
        simpa [transition?, Engine.apply, correlate, ho, hn] using hr
      · have hr : Tracks e.config s history (evaluate e.config m signal now).2 now := by
          obtain ⟨-, -, ha, ht⟩ := observe_eq_some ho
          refine hx.congr ?_ ?_
          · simp [evaluate, ha, Ne.symm hs]
          · rw [get?_trackers_evaluate, if_neg (Ne.symm hs), ht, if_neg (Ne.symm hs)]
        simpa [transition?, Engine.apply, correlate, ho, hs] using hr
  | sweep => simpa [transition?, Engine.apply, sweep] using hx
  | memorySize => simpa [transition?, Engine.apply, memorySize] using hx
  | stats => simpa [transition?, Engine.apply, stats] using hx

theorem Tracks.mono {config : CorrelationConfig} {s : Sighting} {history : List Transition}
    {m : WorkingMemory} {now now' : Nat} (h : Tracks config s history m now) (hn : now ≤ now') :
    Tracks config s history m now' := by
  refine ⟨h.ordered, fun t ht => (h.past t ht).trans hn, h.lost, h.tracked, fun hm => ?_⟩
  rcases h.untracked hm with hu | ⟨t, ht, hl⟩
  · exact .inl hu
  · refine .inr ⟨t, ht, ?_⟩
    unfold FlapTracker.elapsed at hl ⊢
    omega

theorem pending_expire_run (config : CorrelationConfig) (ops : List (Operation × Nat)) (now : Nat) :
    ∀ f ∈ (((new config).run ops).2.expire now).pending, f.kind = .wideSpreadOutageResolved := by
  have hm : OutagesMatch ((new config).run ops).2.config ((new config).run ops).2.memory := by
    rw [run_config]
    exact outagesMatch_run config ops
  exact ((tells_run config ops).2.expire hm now).resolved

theorem tracks_run (config : CorrelationConfig) (hw : 0 < config.flapInterval) (s : Sighting)
    (ops : List (Operation × Nat)) (now : Nat)
    (hs : (ops.map Prod.snd ++ [now]).Pairwise (· ≤ ·)) :
    Tracks config s ((new config).transitions s ops) ((new config).run ops).2.memory now := by
  induction ops using List.reverseRecOn generalizing now with
  | nil => exact .start config s now
  | append_singleton ops op ih =>
    obtain ⟨operation, t⟩ := op
    rw [List.map_append, List.pairwise_append] at hs
    have hc : ((new config).run ops).2.config = config := run_config ..
    have ht : Tracks ((new config).run ops).2.config s ((new config).transitions s ops)
        ((new config).run ops).2.memory t := by
      rw [hc]
      exact ih t hs.1
    have ha := ht.apply (by rwa [hc]) (pending_expire_run config ops t) operation
    rw [hc] at ha
    rw [transitions_concat, run_concat]
    exact ha.mono (hs.2.2 t (by simp) now (by simp))

theorem weighs_run (config : CorrelationConfig) (hw : 0 < config.flapInterval)
    (ops : List (Operation × Nat)) (signal : Signal) (now : Nat)
    (hs : (ops.map Prod.snd ++ [now]).Pairwise (· ≤ ·)) {m : WorkingMemory}
    (ho : observe config (((new config).run ops).2.expire now).memory signal now = some m)
    (reported : Bool) :
    Weighs config signal.sighting
      ((new config).transitions signal.sighting ops ++ [⟨signal.kind, now, reported⟩]) m := by
  have hc : ((new config).run ops).2.config = config := run_config ..
  have ht : Tracks ((new config).run ops).2.config signal.sighting
      ((new config).transitions signal.sighting ops) ((new config).run ops).2.memory now := by
    rw [hc]
    exact tracks_run config hw signal.sighting ops now hs
  have hx := ht.expire
  rw [hc] at hx
  refine hx.observe (x := ⟨signal.kind, now, reported⟩) hw (fun t htr => ?_) ho rfl
  have hel := elapsed_of_get?_trackers_expire htr
  rwa [hc] at hel

/-- Let the operations of a run come in order of time, and behind them a signal that tells something
new of its sighting. If the chain of the transitions up to it has no return, the sighting has no
tracker, and no flapping is reported. Otherwise the tracker counts, when the rule is evaluated, what
plain counting over all transitions does, and flapping is reported just if there are enough of them
and, if trackers are retained, it was not reported earlier in the chain. -/
theorem flapping_iff_counted (config : CorrelationConfig) (hw : 0 < config.flapInterval)
    (ops : List (Operation × Nat)) (signal : Signal) (now : Nat)
    (hs : (ops.map Prod.snd ++ [now]).Pairwise (· ≤ ·))
    (hn : isNews (((new config).run ops).2.expire now).memory signal = true) :
    let e := ((new config).run ops).2
    let s := signal.sighting
    let history := (new config).transitions s (ops ++ [(.correlate signal, now)])
    let chain := Transition.chain config.flapInterval history
    let counted := Transition.counted config history now
    ∃ m, observe config (e.expire now).memory signal now = some m ∧
      ((∀ t ∈ chain, t.kind = .lost) →
        m.trackers.get? s = none ∧ (e.correlate signal now).2.memory.trackers.get? s = none ∧
          reportsFlapping (e.correlate signal now).1 s = false) ∧
      ((∃ t ∈ chain, t.kind = .regained) →
        ∃ tracker, m.trackers.get? s = some tracker ∧
          tracker.transitions = counted.map Transition.instant ∧
          (reportsFlapping (e.correlate signal now).1 s = true ↔
            config.flapCount ≠ 0 ∧ config.flapCount.toNat ≤ counted.length ∧
              (config.flapPolicy = .retain → ∀ t ∈ chain.dropLast, t.reported = false))) := by
  intro e s history chain counted
  have hc : e.config = config := run_config ..
  obtain ⟨m, ho⟩ : ∃ m, observe config (e.expire now).memory signal now = some m := by
    rw [← Option.isSome_iff_exists, observe_isSome]
    exact hn
  have ho' : observe e.config (e.expire now).memory signal now = some m := by rwa [hc]
  have hr := reportsFlapping_correlate ho' (pending_expire_run config ops now)
  have hh : history = (new config).transitions s ops ++
      [⟨signal.kind, now, reportsFlapping (e.correlate signal now).1 s⟩] := by
    unfold history
    rw [transitions_concat]
    simp [transition?, s, e, hn]
  have hq : Weighs config s history m := by
    rw [hh]
    exact weighs_run config hw ops signal now hs ho _
  refine ⟨m, ho, fun hl => ?_, fun hreturn => ?_⟩
  · have hm : m.trackers.get? s = none := hq.get?_eq_none hl
    refine ⟨hm, ?_, ?_⟩
    · simp [correlate, ho', get?_trackers_evaluate, hm, s]
    · rw [hr, hm]
      rfl
  · obtain ⟨t, hm, ht⟩ := hq.exists_counts hreturn
    have hlast : t.last = now := by
      rw [hh] at ht
      exact ht.last_eq
    have htr := ht.transitions
    have hf := ht.isFlapping_iff
    rw [hlast] at htr hf
    refine ⟨t, hm, htr, ?_⟩
    rw [hr, hm, hc]
    exact hf

theorem flapping_iff_counted_sample :
    let config : CorrelationConfig := { flapIntervalMs := 10, flapPolicy := .reset }
    let ops : List (Operation × Nat) :=
      [(.correlate (.sample .lost 7), 1), (.correlate (.sample .regained 7), 4),
        (.correlate (.sample .lost 8), 5), (.stats, 6), (.correlate (.sample .lost 7), 9),
        (.correlate (.sample .lost 7), 10), (.correlate (.sample .regained 7), 12),
        (.correlate (.sample .lost 7), 20)]
    let signal := Signal.sample .regained 7
    let e := ((new config).run ops).2
    let history := (new config).transitions signal.sighting (ops ++ [(.correlate signal, 21)])
    0 < config.flapInterval ∧ (ops.map Prod.snd ++ [21]).Pairwise (· ≤ ·) ∧
      isNews (e.expire 21).memory signal = true ∧
      (Transition.counted config history 21).map Transition.instant = [12, 20, 21] ∧
      reportsFlapping (e.correlate signal 21).1 signal.sighting = true := by
  intro config ops signal e history
  have hs : (ops.map Prod.snd ++ [21]).Pairwise (· ≤ ·) := by decide
  have hn : isNews (e.expire 21).memory signal = true := by decide
  obtain ⟨m, -, -, h⟩ := flapping_iff_counted config (by decide) ops signal 21 hs hn
  obtain ⟨tracker, -, -, hr⟩ := h (by decide)
  exact ⟨by decide, hs, hn, by decide, hr.2 (by decide)⟩

end ServiceWatch.Engine
