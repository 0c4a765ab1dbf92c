import ServiceWatch.Proofs.Correlation.FlapBacking

/-! How many returns stand behind a report of flapping. -/
namespace ServiceWatch

namespace Transition

/-- A transition turns what the one before it did, unless it is a loss behind one that timed out. -/
def Succeeds (config : CorrelationConfig) (a b : Transition) : Prop :=
  a.kind = b.kind → b.kind = .lost ∧ Engine.isStale config b.instant a.instant = true

/-- The number of losses right behind a loss. -/
def lapses : List Transition → Nat
  | a :: b :: rest => (if a.kind = .lost ∧ b.kind = .lost then 1 else 0) + lapses (b :: rest)
  | _ => 0

theorem lapses_le_cons (t : Transition) (l : List Transition) : lapses l ≤ lapses (t :: l) := by
  cases l with
  | nil => exact Nat.zero_le _
  | cons b rest => exact Nat.le_add_left ..

theorem lapses_le_of_suffix {l l' : List Transition} (h : l <:+ l') : lapses l ≤ lapses l' := by
  obtain ⟨front, rfl⟩ := h
  induction front with
  | nil => exact Nat.le_refl _
  | cons t front ih => exact ih.trans (lapses_le_cons t (front ++ l))

/-- Losses and returns take turns but for the lapses. So there are at most as many losses as returns
and lapses, and the one that may come first. -/
theorem length_le_of_isChain {config : CorrelationConfig} {l : List Transition}
    (h : l.IsChain (Succeeds config)) :
    l.length + (if ∃ t ∈ l.head?, t.kind = .regained then 1 else 0) ≤
      2 * l.countP (·.kind = .regained) + 1 + lapses l := by
  induction l with
  | nil => simp
  | cons a rest ih =>
    cases rest with
    | nil => cases ha : a.kind <;> simp [ha, lapses]
    | cons b rest =>
      obtain ⟨hab, hrest⟩ := List.isChain_cons_cons.1 h
      have hle := ih hrest
      have hcount : (a :: b :: rest).countP (·.kind = .regained) =
          (b :: rest).countP (·.kind = .regained) + if a.kind = .regained then 1 else 0 := by
        rw [List.countP_cons]
        simp
      have hlapses : lapses (a :: b :: rest) =
          (if a.kind = .lost ∧ b.kind = .lost then 1 else 0) + lapses (b :: rest) := rfl
      rw [hcount, hlapses, List.length_cons]
      cases ha : a.kind with
      | lost => cases hb : b.kind <;> simp [ha, hb] at hle ⊢ <;> omega
      | regained =>
        have hb : b.kind = .lost := by
          cases hb : b.kind with
          | lost => rfl
          | regained =>
            rw [← hb]
            exact (hab (ha.trans hb.symm)).1
        simp [ha, hb] at hle ⊢
        omega

/-- Within less than the timeout no loss follows another. -/
theorem lapses_eq_zero {config : CorrelationConfig} {l : List Transition}
    (h : l.IsChain (Succeeds config)) (hs : l.Pairwise fun a b => a.instant ≤ b.instant) {now : Nat}
    (hp : ∀ t ∈ l, t.instant ≤ now)
    (hw : ∀ t ∈ l, FlapTracker.elapsed t.instant now < config.flapInterval)
    (ht : ∀ timeout ∈ config.afflictionTimeout, config.flapInterval ≤ timeout) : lapses l = 0 := by
  induction l with
  | nil => rfl
  | cons a rest ih =>
    cases rest with
    | nil => rfl
    | cons b rest =>
      obtain ⟨hab, hrest⟩ := List.isChain_cons_cons.1 h
      have hz := ih hrest (List.pairwise_cons.1 hs).2 (fun t ht => hp t (List.mem_cons_of_mem a ht))
        fun t ht => hw t (List.mem_cons_of_mem a ht)
      have hno : ¬(a.kind = .lost ∧ b.kind = .lost) := by
        rintro ⟨ha, hb⟩
        have hstale := (hab (ha.trans hb.symm)).2
        obtain ⟨timeout, hto, hage⟩ := (Option.any_eq_true ..).1 hstale
        have hle := ht timeout hto
        have hb' := hp b (by simp)
        have ha' := hw a (by simp)
        unfold Afflictions.isStale at hage
        unfold FlapTracker.elapsed at hage ha'
        rw [decide_eq_true_eq] at hage
        omega
      show (if a.kind = .lost ∧ b.kind = .lost then 1 else 0) + lapses (b :: rest) = 0
      rw [if_neg hno, hz]

end Transition

namespace Engine

/-- The reports about a sighting in a run, with their instants. -/
def reports (ops : List (Operation × Nat)) (s : Sighting) : List (SignalKind × Nat) :=
  ops.filterMap fun op => (op.1.report? s).map (·, op.2)

/-- The number of reports that a sighting was regained within the window that ends at `now`. -/
def returnsWithin (ops : List (Operation × Nat)) (s : Sighting) (now window : Nat) : Nat :=
  (reports ops s).countP fun r => r.1 = .regained ∧ FlapTracker.elapsed r.2 now < window

/-- The transitions of a sighting are reports about it that told something new. -/
theorem transitions_sublist_reports (e : Engine) (s : Sighting) (ops : List (Operation × Nat)) :
    ((e.transitions s ops).map fun t => (t.kind, t.instant)).Sublist (reports ops s) := by
  induction ops generalizing e with
  | nil => exact List.Sublist.refl []
  | cons op rest ih =>
    obtain ⟨operation, now⟩ := op
    have hcons : reports ((operation, now) :: rest) s =
        ((operation.report? s).map (·, now)).toList ++ reports rest s := by
      unfold reports
      rw [List.filterMap_cons]
      cases operation.report? s <;> rfl
    rw [transitions, List.map_append, hcons]
    refine List.Sublist.append ?_ (ih _)
    cases hx : e.transition? s operation now with
    | none => exact List.nil_sublist _
    | some x =>
      obtain ⟨signal, rfl, hs, -, rfl⟩ := transition?_eq_some hx
      simp [Operation.report?, hs]

theorem countP_transitions_le (e : Engine) (s : Sighting) (ops : List (Operation × Nat))
    (now window : Nat) :
    (e.transitions s ops).countP
        (fun t => t.kind = .regained ∧ FlapTracker.elapsed t.instant now < window) ≤
      returnsWithin ops s now window := by
  have hle := (e.transitions_sublist_reports s ops).countP_le
    (p := fun r => r.1 = .regained ∧ FlapTracker.elapsed r.2 now < window)
  rwa [List.countP_map] at hle

theorem exists_report_of_mem {e : Engine} {s : Sighting} {ops : List (Operation × Nat)}
    {t : Transition} (ht : t ∈ e.transitions s ops) :
    ∃ op ∈ ops, op.1.report? s = some t.kind := by
  have hreport := (e.transitions_sublist_reports s ops).subset (List.mem_map_of_mem ht)
  obtain ⟨op, hop, heq⟩ := List.mem_filterMap.1 hreport
  obtain ⟨kind, hkind, hpair⟩ := Option.map_eq_some_iff.1 heq
  obtain ⟨rfl, -⟩ := Prod.mk.inj hpair
  exact ⟨op, hop, hkind⟩

/-- Transitions take turns but for losses that timed out, and a loss that has no affliction any more
did time out. -/
structure Accounts (config : CorrelationConfig) (s : Sighting) (history : List Transition)
    (m : WorkingMemory) (now : Nat) : Prop where
  turns : history.IsChain (Transition.Succeeds config)
  gone : m.afflictions.get? s = none → ∀ t ∈ history.getLast?, t.kind = .lost →
    isStale config now t.instant = true

section Accounts

variable {config : CorrelationConfig} {s : Sighting} {history : List Transition}
  {m m' : WorkingMemory} {now now' : Nat}

theorem Accounts.mono (h : Accounts config s history m now) (hn : now ≤ now') :
    Accounts config s history m now' :=
  ⟨h.turns, fun ha t ht hk => isStale_mono hn (h.gone ha t ht hk)⟩

theorem Accounts.congr (h : Accounts config s history m now)
    (ha : m'.afflictions.get? s = m.afflictions.get? s) : Accounts config s history m' now :=
  ⟨h.turns, by rw [ha]; exact h.gone⟩

theorem Accounts.expire {e : Engine} (h : Accounts e.config s history e.memory now)
    (ht : Tracks e.config s history e.memory now) :
    Accounts e.config s history (e.expire now).memory now := by
  refine ⟨h.turns, fun hn t hl hk => ?_⟩
  rw [get?_afflictions_expire] at hn
  cases ha : e.memory.afflictions.get? s with
  | none => exact h.gone ha t hl hk
  | some created =>
    obtain ⟨l, hl', -, hi⟩ := ht.lost created ha
    obtain rfl := Option.mem_unique hl hl'
    rw [ha, Option.filter_eq_none_iff] at hn
    simpa [hi] using hn created rfl

/-- News come behind a transition of the other kind, or tell once more of a loss that timed out. -/
theorem Accounts.news {signal : Signal} {x : Transition}
    (h : Accounts config signal.sighting history m x.instant)
    (ht : Tracks config signal.sighting history m x.instant)
    (ho : observe config m signal x.instant = some m') (hk : x.kind = signal.kind) :
    Accounts config signal.sighting (history ++ [x]) (evaluate config m' signal x.instant).2
      x.instant := by
  obtain ⟨hn, -, haff, -⟩ := observe_eq_some ho
  unfold isNews WorkingMemory.isAfflicted at hn
  constructor
  · rw [List.isChain_append]
    refine ⟨h.turns, List.isChain_singleton x, fun l hl y hy heq => ?_⟩
    obtain rfl : x = y := by simpa using hy
    cases hkind : signal.kind with
    | lost =>
      have hgone : m.afflictions.get? signal.sighting = none := by simpa [hkind] using hn
      exact ⟨hk.trans hkind, h.gone hgone l hl (heq.trans (hk.trans hkind))⟩
    | regained =>
      obtain ⟨created, hc⟩ := Option.isSome_iff_exists.1 (by simpa [hkind] using hn)
      obtain ⟨l', hl', hlost, -⟩ := ht.lost created hc
      obtain rfl := Option.mem_unique hl hl'
      rw [hlost, hk, hkind] at heq
      contradiction
  · intro hnone t hlast hlost
    obtain rfl : x = t := by simpa using hlast
    have ha : m'.afflictions.get? signal.sighting = none := by simpa [evaluate] using hnone
    rw [haff, if_pos rfl, ← hk, hlost] at ha
    contradiction

theorem Accounts.apply {e : Engine} (h : Accounts e.config s history e.memory now)
    (ht : Tracks e.config s history e.memory now) (operation : Operation) :
    Accounts e.config s (history ++ (e.transition? s operation now).toList)
      (e.apply operation now).2.memory now := by
  have hx := h.expire ht
  cases operation with
  | correlate signal =>
    cases ho : Engine.observe e.config (e.expire now).memory signal now with
    | none =>
      have hn := isNews_of_observe_eq_none ho
      simpa [transition?, Engine.apply, correlate, ho, hn] using hx
    | some m =>
      have hn := (observe_eq_some ho).1
      by_cases hs : signal.sighting = s
      · subst hs
        have hr := hx.news (x := ⟨signal.kind, now,
          reportsFlapping (e.correlate signal now).1 signal.sighting⟩) ht.expire ho rfl
        simpa [transition?, Engine.apply, correlate, ho, hn] using hr
      · have hr : Accounts e.config s history (evaluate e.config m signal now).2 now := by
          obtain ⟨-, -, ha, -⟩ := observe_eq_some ho
          apply hx.congr
          simp [evaluate, ha, Ne.symm hs]
        simpa [transition?, Engine.apply, correlate, ho, hs] using hr
  | sweep => simpa [transition?, Engine.apply, sweep] using hx
  | memorySize => simpa [transition?, Engine.apply, memorySize] using hx
  | stats => simpa [transition?, Engine.apply, stats] using hx

end Accounts

theorem accounts_run (config : CorrelationConfig) (hw : 0 < config.flapInterval) (s : Sighting)
    (ops : List (Operation × Nat)) (now : Nat)
    (hs : (ops.map Prod.snd ++ [now]).Pairwise (· ≤ ·)) :
    Accounts config s ((new config).transitions s ops) ((new config).run ops).2.memory now := by
  induction ops using List.reverseRecOn generalizing now with
  | nil => exact ⟨List.isChain_nil, by simp [transitions]⟩
  | append_singleton ops op ih =>
    obtain ⟨operation, t⟩ := op
    rw [List.map_append, List.pairwise_append] at hs
    have hc : ((new config).run ops).2.config = config := run_config ..
    have ht : Tracks ((new config).run ops).2.config s ((new config).transitions s ops)
        ((new config).run ops).2.memory t := by
      rw [hc]
      exact tracks_run config hw s ops t hs.1
    have ha : Accounts ((new config).run ops).2.config s ((new config).transitions s ops)
        ((new config).run ops).2.memory t := by
      rw [hc]
      exact ih t hs.1
    have hstep := ha.apply ht operation
    rw [hc] at hstep
    rw [transitions_concat, run_concat]
    exact hstep.mono (hs.2.2 t (by simp) now (by simp))

/-- Where the flap interval is zero, no transition is counted beside another one. -/
theorem flapCount_le_one {config : CorrelationConfig} (hw : config.flapInterval = 0) {s : Sighting}
    {ops : List (Operation × Nat)} {operation : Operation} {now : Nat} {x : Transition}
    (hx : ((new config).run ops).2.transition? s operation now = some x)
    (hr : x.reported = true) : config.flapCount.toNat ≤ 1 := by
  obtain ⟨signal, m, t, rfl, -, ho, ht, hf⟩ := exists_tracker_of_reported hx hr
  obtain ⟨-, -, -, htr⟩ := observe_eq_some ho
  have hnone : (((new config).run ops).2.expire now).memory.trackers.get? signal.sighting =
      none := by
    have hc : ((new config).run ops).2.config = config := run_config ..
    rw [get?_trackers_expire, hc, hw, Option.filter_eq_none_iff]
    simp [FlapTracker.isExpired]
  rw [htr, if_pos rfl, hnone, hw] at ht
  cases hk : signal.kind with
  | lost =>
    rw [hk] at ht
    contradiction
  | regained =>
    rw [hk] at ht
    obtain ⟨created, -, rfl⟩ := Option.map_eq_some_iff.1 ht
    simp only [FlapTracker.isFlapping, decide_eq_true_eq] at hf
    simpa [FlapTracker.count, FlapTracker.ofCycle] using hf.2.2

section Reported

variable {config : CorrelationConfig} (hw : 0 < config.flapInterval) {s : Sighting}
  {ops : List (Operation × Nat)} {operation : Operation} {now : Nat}
  (hs : (ops.map Prod.snd ++ [now]).Pairwise (· ≤ ·)) {x : Transition}
  (hx : ((new config).run ops).2.transition? s operation now = some x) (hr : x.reported = true)

include hw hs hx hr

/-- The transitions that a report counts end the history. -/
theorem exists_counted_of_reported :
    ∃ counted, counted <:+ (new config).transitions s (ops ++ [(operation, now)]) ∧
      config.flapCount.toNat ≤ counted.length ∧
        ∀ t ∈ counted, FlapTracker.elapsed t.instant now < config.flapInterval := by
  obtain ⟨t, ht, hflap⟩ := exists_counts_of_reported hw hs hx hr
  obtain ⟨earlier, block, hblock, hlen, hwindow⟩ :=
    ht.exists_block hflap hw (ordered_transitions_concat hw hs hx)
  obtain rfl : x.instant = now := by
    obtain ⟨_, -, -, -, rfl⟩ := transition?_eq_some hx
    rfl
  refine ⟨block ++ [x], ⟨earlier, ?_⟩, ?_, fun t ht => ?_⟩
  · rw [transitions_concat, hx, hblock, List.append_assoc]
    rfl
  · rwa [List.length_append, List.length_singleton]
  · rcases List.mem_append.1 ht with ht | ht
    · exact (hwindow t ht).2
    · rw [List.mem_singleton.1 ht]
      unfold FlapTracker.elapsed
      omega

theorem exists_return_of_reported :
    ∃ t ∈ (new config).transitions s (ops ++ [(operation, now)]), t.kind = .regained := by
  obtain ⟨t, ht, -⟩ := exists_counts_of_reported hw hs hx hr
  obtain ⟨r, hmem, hk⟩ := ht.returned
  refine ⟨r, ?_, hk⟩
  rw [transitions_concat, hx]
  exact (Transition.chain_suffix ..).subset hmem

end Reported

/-- Let the operations of a run come in order of time, and let the last one, a signal, report flapping
of a sighting. Then the reports of its return within the flap interval, each of them taken with a loss,
make up what flapping takes, but for one more loss and those that followed a loss directly, since that
had timed out. Where no affliction times out within the flap interval, there are half as many returns
as flapping takes. And a sighting whose return was never reported is never flapping. -/
theorem returns_behind_flapping (config : CorrelationConfig) (hf : 2 ≤ config.flapCount.toNat)
    (ops : List (Operation × Nat)) (signal : Signal) (now : Nat) (s : Sighting)
    (hs : (ops.map Prod.snd ++ [now]).Pairwise (· ≤ ·))
    (hr : reportsFlapping (((new config).run ops).2.correlate signal now).1 s = true) :
    let received := ops ++ [(.correlate signal, now)]
    let returns := returnsWithin received s now config.flapInterval
    let recent := ((new config).transitions s received).filter fun t =>
      FlapTracker.elapsed t.instant now < config.flapInterval
    config.flapCount.toNat ≤ 2 * returns + 1 + Transition.lapses recent ∧
      ((∀ timeout ∈ config.afflictionTimeout, config.flapInterval ≤ timeout) →
        config.flapCount.toNat / 2 ≤ returns) ∧
      ∃ op ∈ received, op.1.report? s = some .regained := by
  intro received returns recent
  have hp := (flapping_names_monitor config ops).2
  obtain ⟨x, hx, hreported⟩ : ∃ x, ((new config).run ops).2.transition? s (.correlate signal) now =
      some x ∧ x.reported = true := exists_transition_of_reportsFlapping hp hr
  have hw : 0 < config.flapInterval := by
    by_contra hz
    have hle := flapCount_le_one (by omega) hx hreported
    omega
  have hreceived : (received.map Prod.snd ++ [now]).Pairwise (· ≤ ·) := by
    unfold received
    rw [List.map_append, List.pairwise_append]
    refine ⟨hs, List.pairwise_singleton _ _, fun a ha b hb => ?_⟩
    rw [List.mem_singleton.1 hb]
    rcases List.mem_append.1 ha with ha | ha
    · exact (List.pairwise_append.1 hs).2.2 a ha _ (by simp)
    · exact (List.mem_singleton.1 ha).le
  have htracks := tracks_run config hw s received now hreceived
  -- the counted transitions, all within the flap interval, take turns but for the lapses
  obtain ⟨counted, hend, hlen, hwindow⟩ := exists_counted_of_reported hw hs hx hreported
  have hturns := (accounts_run config hw s received now hreceived).turns.suffix hend
  have hlength := (Nat.le_add_right ..).trans (Transition.length_le_of_isChain hturns)
  have hrecent : counted <:+ recent := by
    have hfilter := hend.filter fun t => FlapTracker.elapsed t.instant now < config.flapInterval
    rwa [List.filter_eq_self.2 fun t ht => decide_eq_true (hwindow t ht)] at hfilter
  have hreturns : counted.countP (·.kind = .regained) ≤ returns := by
    have hle := hrecent.sublist.countP_le (p := fun t => t.kind = .regained)
    have hcount := (new config).countP_transitions_le s received now config.flapInterval
    unfold recent at hle
    rw [List.countP_filter] at hle
    refine (hle.trans ?_).trans hcount
    simp
  have hlapses := Transition.lapses_le_of_suffix hrecent
  refine ⟨by omega, fun hto => ?_, ?_⟩
  · have hzero := Transition.lapses_eq_zero hturns (htracks.ordered.sublist hend.sublist)
      (fun t ht => htracks.past t (hend.subset ht)) hwindow hto
    omega
  · obtain ⟨t, ht, hk⟩ := exists_return_of_reported hw hs hx hreported
    obtain ⟨op, hop, hreport⟩ := exists_report_of_mem ht
    exact ⟨op, hop, hk ▸ hreport⟩

/-- The return here is too old to count, and two of the three losses behind it timed out. -/
theorem returns_behind_flapping_sample :
    let config : CorrelationConfig := { flapIntervalMs := 3000, afflictionTimeoutSecs := some 1 }
    let ops : List (Operation × Nat) :=
      [(.correlate (.sample .lost 7), 2000), (.correlate (.sample .regained 7), 2500),
        (.correlate (.sample .lost 7), 5400), (.correlate (.sample .lost 7), 6400)]
    let signal := Signal.sample .lost 7
    let received := ops ++ [(.correlate signal, 7400)]
    let recent := ((new config).transitions signal.sighting received).filter fun t =>
      FlapTracker.elapsed t.instant 7400 < config.flapInterval
    2 ≤ config.flapCount.toNat ∧ (ops.map Prod.snd ++ [7400]).Pairwise (· ≤ ·) ∧
      reportsFlapping (((new config).run ops).2.correlate signal 7400).1 signal.sighting = true ∧
      returnsWithin received signal.sighting 7400 config.flapInterval = 0 ∧
      Transition.lapses recent = 2 ∧
      config.flapCount.toNat ≤ 2 * returnsWithin received signal.sighting 7400 config.flapInterval +
        1 + Transition.lapses recent ∧
      ∃ op ∈ received, op.1.report? signal.sighting = some .regained := by
  intro config ops signal received recent
  have hf : 2 ≤ config.flapCount.toNat := by decide
  have hs : (ops.map Prod.snd ++ [7400]).Pairwise (· ≤ ·) := by decide
  have hr : reportsFlapping (((new config).run ops).2.correlate signal 7400).1
      signal.sighting = true := by decide +kernel
  obtain ⟨hle, -, hreturned⟩ :=
    returns_behind_flapping config hf ops signal 7400 signal.sighting hs hr
  exact ⟨hf, hs, hr, by decide +kernel, by decide +kernel, hle, hreturned⟩

/-- Where an affliction times out within the flap interval, losses alone are reported as flapping: half
as many returns as flapping takes need not be there. -/
theorem losses_reported_as_flapping :
    ¬∀ (config : CorrelationConfig) (ops : List (Operation × Nat)) (signal : Signal) (now : Nat)
      (s : Sighting), 2 ≤ config.flapCount.toNat → (ops.map Prod.snd ++ [now]).Pairwise (· ≤ ·) →
      reportsFlapping (((new config).run ops).2.correlate signal now).1 s = true →
      config.flapCount.toNat / 2 ≤
        returnsWithin (ops ++ [(.correlate signal, now)]) s now config.flapInterval := by
  intro h
  have hle := h { flapIntervalMs := 3000, afflictionTimeoutSecs := some 1 }
    [(.correlate (.sample .lost 7), 2000), (.correlate (.sample .regained 7), 2500),
      (.correlate (.sample .lost 7), 5400), (.correlate (.sample .lost 7), 6400)]
    (.sample .lost 7) 7400 (Signal.sample .lost 7).sighting (by decide) (by decide)
    (by decide +kernel)
  revert hle
  decide +kernel

end Engine

end ServiceWatch
