import ServiceWatch.Proofs.Correlation.FlapReports

/-!
Retained trackers tell what reset trackers do, less the repeats. Both engines run side by side; their
trackers agree until the first report, and then on all that expiry looks at.
-/
namespace ServiceWatch

def CorrelationConfig.withPolicy (config : CorrelationConfig) (policy : FlapPolicy) :
    CorrelationConfig :=
  { config with flapPolicy := policy }

/-- A retained tracker beside a reset one. -/
structure FlapTracker.Shadows (t t' : FlapTracker) : Prop where
  last : t.last = t'.last
  unreported : t'.reported = false
  same : t.reported = false → t = t'

namespace FlapTracker.Shadows

variable {t t' : FlapTracker}

theorem self (h : t.reported = false) : t.Shadows t := ⟨rfl, h, fun _ => rfl⟩

theorem of_reported (hl : t.last = t'.last) (hu : t'.reported = false) (hr : t.reported = true) :
    t.Shadows t' := by
  constructor
  · exact hl
  · exact hu
  · intro hn
    rw [hr] at hn
    contradiction

theorem record (h : t.Shadows t') (now window : Nat) :
    (t.record now window).Shadows (t'.record now window) := by
  constructor
  · rfl
  · exact h.unreported
  · intro hr
    rw [h.same hr]

theorem isExpired_eq (h : t.Shadows t') (now window : Nat) :
    t.isExpired now window = t'.isExpired now window := by
  unfold isExpired
  rw [h.last]

/-- The retained tracker gives reason to report where the reset one does, unless it has reported. -/
theorem isFlapping_eq (h : t.Shadows t') (config : CorrelationConfig) :
    t.isFlapping (config.withPolicy .retain) =
      (!t.reported && t'.isFlapping (config.withPolicy .reset)) := by
  cases hr : t.reported with
  | true => simp [isFlapping, hr]
  | false =>
    rw [h.same hr]
    rfl

/-- Once both rules were evaluated, the trackers either are the same still or one has reported. -/
theorem settle (h : t.Shadows t') (config : CorrelationConfig) :
    (t.settle (config.withPolicy .retain)).Shadows (t'.settle (config.withPolicy .reset)) := by
  unfold FlapTracker.settle
  rw [h.isFlapping_eq config]
  cases hr : t.reported with
  | true =>
    rw [if_neg (by simp)]
    split
    · exact of_reported h.last rfl hr
    · exact of_reported h.last h.unreported hr
  | false =>
    rw [Bool.not_false, Bool.true_and]
    split
    · exact of_reported h.last rfl rfl
    · exact h

end FlapTracker.Shadows

theorem rel_cases {α β : Type} {r : α → β → Prop} {a : Option α} {b : Option β}
    (h : Option.Rel r a b) : a = none ∧ b = none ∨ ∃ x y, a = some x ∧ b = some y ∧ r x y := by
  cases h with
  | none => exact .inl ⟨rfl, rfl⟩
  | some h => exact .inr ⟨_, _, rfl, rfl, h⟩

/-- Facts under retained trackers beside those under reset ones. -/
structure WorkingMemory.Shadows (m m' : WorkingMemory) : Prop where
  afflictions : m.afflictions = m'.afflictions
  outages : m.outages = m'.outages
  trackers : ∀ s, Option.Rel FlapTracker.Shadows (m.trackers.get? s) (m'.trackers.get? s)

namespace WorkingMemory.Shadows

variable {m m' : WorkingMemory}

theorem start : empty.Shadows empty := ⟨rfl, rfl, fun _ => .none⟩

theorem last_eq (h : m.Shadows m') (s : Sighting) :
    (m.trackers.get? s).map FlapTracker.last = (m'.trackers.get? s).map FlapTracker.last := by
  rcases rel_cases (h.trackers s) with ⟨hn, hn'⟩ | ⟨t, t', ht, ht', hs⟩
  · rw [hn, hn']
  · rw [ht, ht', Option.map_some, Option.map_some, hs.last]

theorem insertTracker (h : m.Shadows m') (s : Sighting) {t t' : FlapTracker} (ht : t.Shadows t') :
    (m.insertTracker s t).Shadows (m'.insertTracker s t') := by
  constructor
  · exact h.afflictions
  · exact h.outages
  · intro s'
    simp only [WorkingMemory.insertTracker, Table.get?_insert]
    split
    · exact .some ht
    · exact h.trackers s'

theorem modifyTracker (h : m.Shadows m') (s : Sighting) {f : FlapTracker → FlapTracker}
    (hf : ∀ t t', FlapTracker.Shadows t t' → (f t).Shadows (f t')) :
    (m.modifyTracker s f).Shadows (m'.modifyTracker s f) := by
  unfold WorkingMemory.modifyTracker
  rcases rel_cases (h.trackers s) with ⟨hn, hn'⟩ | ⟨t, t', ht, ht', hs⟩
  · rw [hn, hn']
    exact h
  · rw [ht, ht']
    exact h.insertTracker s (hf t t' hs)

theorem expireTrackers (h : m.Shadows m') (now window : Nat) :
    (m.expireTrackers now window).2.Shadows (m'.expireTrackers now window).2 := by
  constructor
  · exact h.afflictions
  · exact h.outages
  · intro s
    simp only [WorkingMemory.expireTrackers, Table.get?_filter]
    rcases rel_cases (h.trackers s) with ⟨hn, hn'⟩ | ⟨t, t', ht, ht', hs⟩
    · rw [hn, hn']
      exact .none
    · rw [ht, ht', Option.filter_some, Option.filter_some, hs.isExpired_eq]
      split
      · exact .some hs
      · exact .none

theorem withAfflictions (h : m.Shadows m') (afflictions : Afflictions) :
    WorkingMemory.Shadows { m with afflictions } { m' with afflictions } :=
  ⟨rfl, h.outages, h.trackers⟩

theorem expireAfflictions (h : m.Shadows m') (now timeout : Nat) :
    (m.expireAfflictions now timeout).1 = (m'.expireAfflictions now timeout).1 ∧
      (m.expireAfflictions now timeout).2.Shadows (m'.expireAfflictions now timeout).2 := by
  unfold WorkingMemory.expireAfflictions
  rw [← h.afflictions]
  exact ⟨rfl, h.withAfflictions _⟩

end WorkingMemory.Shadows

namespace Engine

section Rules

variable (config : CorrelationConfig) {m m' : WorkingMemory} (h : m.Shadows m')

include h

/-- The rule of outages looks at nothing in which the two memories differ. -/
theorem shadows_evaluateWideSpread (service : ServiceId) (now : Nat) (cause : Cause) :
    let retain := evaluateWideSpread (config.withPolicy .retain) m service now cause
    let reset := evaluateWideSpread (config.withPolicy .reset) m' service now cause
    retain.1 = reset.1 ∧ retain.2.Shadows reset.2 := by
  have hcount : m.afflictedMonitors service = m'.afflictedMonitors service := by
    unfold WorkingMemory.afflictedMonitors
    rw [h.afflictions]
  have hopen : m.hasOutage service = m'.hasOutage service := by
    unfold WorkingMemory.hasOutage
    rw [h.outages]
  have hwide : isWideSpread (config.withPolicy .retain) (m.afflictedMonitors service) =
      isWideSpread (config.withPolicy .reset) (m'.afflictedMonitors service) := by
    rw [hcount]
    rfl
  unfold evaluateWideSpread
  rw [hwide, hopen]
  split
  · exact ⟨rfl, h.afflictions, congrArg (Table.insert · service now) h.outages, h.trackers⟩
  · exact ⟨rfl, h.afflictions, congrArg (Table.erase · service) h.outages, h.trackers⟩
  · exact ⟨rfl, h⟩

theorem shadows_evaluateServices (services : List ServiceId) (now : Nat) (cause : Cause) :
    let retain := evaluateServices (config.withPolicy .retain) now cause services m
    let reset := evaluateServices (config.withPolicy .reset) now cause services m'
    retain.1 = reset.1 ∧ retain.2.Shadows reset.2 := by
  induction services generalizing m m' with
  | nil => exact ⟨rfl, h⟩
  | cons service services ih =>
    obtain ⟨hfound, hm⟩ := shadows_evaluateWideSpread config h service now cause
    obtain ⟨hmore, hrest⟩ := ih hm
    exact ⟨congrArg₂ (· ++ ·) hfound hmore, hrest⟩

theorem shadows_observe (signal : Signal) (now : Nat) :
    Option.Rel WorkingMemory.Shadows (observe (config.withPolicy .retain) m signal now)
      (observe (config.withPolicy .reset) m' signal now) := by
  have hw : (config.withPolicy .retain).flapInterval = (config.withPolicy .reset).flapInterval := rfl
  unfold observe
  rw [hw]
  cases signal.kind with
  | lost =>
    unfold WorkingMemory.insertAffliction
    rw [← h.afflictions]
    dsimp only
    split
    · exact .some ((h.withAfflictions _).modifyTracker _ fun _ _ ht => ht.record now _)
    · exact .none
  | regained =>
    unfold WorkingMemory.removeAffliction
    rw [← h.afflictions]
    dsimp only
    cases (m.afflictions.remove signal.sighting).1 with
    | none => exact .none
    | some created =>
      have hm := h.withAfflictions (m.afflictions.remove signal.sighting).2
      dsimp only
      rcases rel_cases (h.trackers signal.sighting) with ⟨hn, hn'⟩ | ⟨t, t', ht, ht', hs⟩
      · rw [hn, hn']
        exact .some (hm.insertTracker _ (.self rfl))
      · rw [ht, ht']
        exact .some (hm.insertTracker _ (hs.record now _))

theorem shadows_evaluateFlapping (s : Sighting) (cause : Cause) :
    (evaluateFlapping (config.withPolicy .retain) m s cause).2.Shadows
      (evaluateFlapping (config.withPolicy .reset) m' s cause).2 := by
  constructor
  · simpa using h.afflictions
  · simpa using h.outages
  · intro s'
    rw [(evaluateFlapping_spec ..).2, (evaluateFlapping_spec ..).2]
    split
    · rcases rel_cases (h.trackers s) with ⟨hn, hn'⟩ | ⟨t, t', ht, ht', hs⟩
      · rw [hn, hn']
        exact .none
      · rw [ht, ht']
        exact .some (hs.settle config)
    · exact h.trackers s'

end Rules

def outageReports (found : List Finding) : List Finding :=
  found.filter fun f => f.kind ≠ .serviceFlapping

def hasReported (m : WorkingMemory) (s : Sighting) : Bool := (m.trackers.get? s).any (·.reported)

theorem outageReports_append (found found' : List Finding) :
    outageReports (found ++ found') = outageReports found ++ outageReports found' :=
  List.filter_append ..

theorem outageReports_evaluateFlapping (config : CorrelationConfig) (m : WorkingMemory)
    (s : Sighting) (cause : Cause) : outageReports (evaluateFlapping config m s cause).1 = [] := by
  rcases evaluateFlapping_found config m cause s with h | h <;> rw [h] <;> rfl

section News

variable (config : CorrelationConfig) {m m' : WorkingMemory} (signal : Signal) (now : Nat)

/-- What two engines find out about news, and what they keep. -/
theorem shadows_evaluate (h : m.Shadows m') :
    let retain := evaluate (config.withPolicy .retain) m signal now
    let reset := evaluate (config.withPolicy .reset) m' signal now
    retain.2.Shadows reset.2 ∧ outageReports retain.1 = outageReports reset.1 ∧
      ∀ s, flapReports retain.1 s = if hasReported m s then [] else flapReports reset.1 s := by
  have hf := shadows_evaluateFlapping config h signal.sighting (.signal signal.time)
  obtain ⟨hfound, hm⟩ :=
    shadows_evaluateWideSpread config hf signal.service now (.signal signal.time)
  refine ⟨hm, ?_, ?_⟩
  · unfold evaluate
    dsimp only
    rw [outageReports_append, outageReports_append, outageReports_evaluateFlapping,
      outageReports_evaluateFlapping, hfound]
  · intro s
    rw [flapReports_evaluate, flapReports_evaluate]
    unfold hasReported
    rcases rel_cases (h.trackers s) with ⟨hn, hn'⟩ | ⟨t, t', ht, ht', hs⟩
    · simp [hn, hn']
    · rw [ht, ht', Option.any_some, Option.any_some, Option.any_some, hs.isFlapping_eq config]
      cases t.reported <;> simp

/-- News do not touch what their tracker has reported. -/
theorem hasReported_observe {config : CorrelationConfig} {signal : Signal} {now : Nat}
    (ho : observe config m signal now = some m') (s : Sighting) :
    hasReported m' s = hasReported m s := by
  obtain ⟨-, -, -, ht⟩ := observe_eq_some ho
  unfold hasReported
  rw [ht]
  split
  · cases signal.kind <;> cases m.trackers.get? s <;> try rfl
    cases m.afflictions.get? s <;> rfl
  · rfl

theorem reported_settle_retain (t : FlapTracker) :
    (t.settle (config.withPolicy .retain)).reported =
      (t.reported || t.isFlapping (config.withPolicy .retain)) := by
  unfold FlapTracker.settle
  split
  · rename_i hf
    rw [hf, Bool.or_true]
    rfl
  · rename_i hf
    rw [Bool.eq_false_of_not_eq_true hf, Bool.or_false]

theorem hasReported_evaluate (s : Sighting) :
    hasReported (evaluate (config.withPolicy .retain) m signal now).2 s =
      (hasReported m s ||
        reportsFlapping (evaluate (config.withPolicy .retain) m signal now).1 s) := by
  have hr : reportsFlapping (evaluate (config.withPolicy .retain) m signal now).1 s = true ↔
      s = signal.sighting ∧
        (m.trackers.get? s).any (·.isFlapping (config.withPolicy .retain)) = true := by
    rw [reportsFlapping_eq_true_iff, flapReports_evaluate]
    simp
  rw [Bool.eq_iff_iff, Bool.or_eq_true, hr]
  unfold hasReported
  rw [get?_trackers_evaluate]
  by_cases hs : s = signal.sighting
  · subst hs
    cases m.trackers.get? signal.sighting <;> simp [reported_settle_retain]
  · simp [hs]

end News

/-- An engine that retains trackers beside one that resets them. -/
structure Shadows (config : CorrelationConfig) (e e' : Engine) : Prop where
  retains : e.config = config.withPolicy .retain
  resets : e'.config = config.withPolicy .reset
  memory : e.memory.Shadows e'.memory
  pending : e.pending = e'.pending
  silent : ∀ f ∈ e.pending, f.kind ≠ .serviceFlapping

namespace Shadows

variable {config : CorrelationConfig} {e e' : Engine}

theorem start (config : CorrelationConfig) :
    Shadows config (new (config.withPolicy .retain)) (new (config.withPolicy .reset)) :=
  ⟨rfl, rfl, .start, rfl, by simp [new]⟩

theorem expire (h : Shadows config e e') (now : Nat) :
    Shadows config (e.expire now) (e'.expire now) := by
  have hboth : (e.expire now).memory.Shadows (e'.expire now).memory ∧
      (e.expire now).pending = (e'.expire now).pending := by
    have ht := h.memory.expireTrackers now config.flapInterval
    have hw : (config.withPolicy .retain).flapInterval = config.flapInterval := rfl
    have hw' : (config.withPolicy .reset).flapInterval = config.flapInterval := rfl
    have ha : (config.withPolicy .retain).afflictionTimeout = config.afflictionTimeout := rfl
    have ha' : (config.withPolicy .reset).afflictionTimeout = config.afflictionTimeout := rfl
    unfold Engine.expire
    rw [h.retains, h.resets, hw, hw', ha, ha']
    cases config.afflictionTimeout with
    | none => exact ⟨ht, h.pending⟩
    | some timeout =>
      obtain ⟨haffected, hx⟩ := ht.expireAfflictions now timeout
      dsimp only
      rw [← haffected]
      obtain ⟨hfound, hm⟩ := shadows_evaluateServices config hx _ now (.expiry now)
      exact ⟨hm, congrArg₂ (· ++ ·) h.pending hfound⟩
  constructor
  · rw [expire_config, h.retains]
  · rw [expire_config, h.resets]
  · exact hboth.1
  · exact hboth.2
  · exact kind_pending_expire h.silent now

/-- What an operation finds out with retained trackers, and with reset ones. -/
theorem apply (h : Shadows config e e') (operation : Operation) (now : Nat) :
    Shadows config (e.apply operation now).2 (e'.apply operation now).2 ∧
      outageReports (e.apply operation now).1 = outageReports (e'.apply operation now).1 ∧
      ∀ s, flapReports (e.apply operation now).1 s =
        if hasReported (e.expire now).memory s then []
        else flapReports (e'.apply operation now).1 s := by
  have hx := h.expire now
  have hquiet : ∀ s, flapReports (e.expire now).pending s = [] :=
    fun s => flapReports_of_kind_ne hx.silent s
  have hout : Shadows config { e.expire now with pending := [] }
      { e'.expire now with pending := [] } :=
    ⟨hx.retains, hx.resets, hx.memory, rfl, by simp⟩
  have hsweep : Shadows config { e.expire now with pending := [] }
        { e'.expire now with pending := [] } ∧
      outageReports (e.expire now).pending = outageReports (e'.expire now).pending ∧
      ∀ s, flapReports (e.expire now).pending s =
        if hasReported (e.expire now).memory s then []
        else flapReports (e'.expire now).pending s := by
    refine ⟨hout, congrArg outageReports hx.pending, fun s => ?_⟩
    rw [← hx.pending, hquiet s, ite_self]
  cases operation with
  | correlate signal =>
    rcases rel_cases (shadows_observe config hx.memory signal now) with
      ⟨hn, hn'⟩ | ⟨n, n', hn, hn', hs⟩
    · simpa only [Engine.apply, correlate, hx.retains, hx.resets, hn, hn'] using hsweep
    · obtain ⟨hm, hreports, hflap⟩ := shadows_evaluate config signal now hs
      simp only [Engine.apply, correlate, hx.retains, hx.resets, hn, hn']
      refine ⟨⟨rfl, rfl, hm, rfl, by simp⟩, ?_, fun s => ?_⟩
      · rw [outageReports_append, outageReports_append, hx.pending, hreports]
      · rw [flapReports_append, flapReports_append, ← hx.pending, hquiet s, List.nil_append,
          List.nil_append, hflap s, hasReported_observe hn]
  | sweep => exact hsweep
  | memorySize => exact ⟨hx, rfl, fun s => (ite_self _).symm⟩
  | stats => exact ⟨hx, rfl, fun s => (ite_self _).symm⟩

theorem run (config : CorrelationConfig) (ops : List (Operation × Nat)) :
    Shadows config ((new (config.withPolicy .retain)).run ops).2
      ((new (config.withPolicy .reset)).run ops).2 := by
  induction ops using List.reverseRecOn with
  | nil => exact start config
  | append_singleton ops op ih =>
    rw [run_concat, run_concat]
    exact (ih.apply op.1 op.2).1

end Shadows

/-! ### The life of a tracker -/

/-- The tracker of a sighting outlives some operations and the expiry at an instant behind them. -/
def outlives (e : Engine) (s : Sighting) : List (Operation × Nat) → Nat → Bool
  | [], now => ((e.expire now).memory.trackers.get? s).isSome
  | (operation, t) :: rest, now =>
    ((e.expire t).memory.trackers.get? s).isSome && (e.apply operation t).2.outlives s rest now

/-- The tracker that a sighting has at an instant behind a run has lived since an operation of the
run that reported flapping. -/
def ReportedInLife (e : Engine) (s : Sighting) (ops : List (Operation × Nat)) (now : Nat) : Prop :=
  ∃ before operation t after, ops = before ++ (operation, t) :: after ∧
    reportsFlapping ((e.run before).2.apply operation t).1 s = true ∧
    ((e.run before).2.apply operation t).2.outlives s after now = true

theorem outlives_concat (e : Engine) (s : Sighting) (ops : List (Operation × Nat))
    (operation : Operation) (t now : Nat) :
    e.outlives s (ops ++ [(operation, t)]) now =
      (e.outlives s ops t &&
        (((e.run (ops ++ [(operation, t)])).2.expire now).memory.trackers.get? s).isSome) := by
  induction ops generalizing e with
  | nil => rfl
  | cons op ops ih => simp [outlives, run, ih, Bool.and_assoc]

theorem reportedInLife_concat (e : Engine) (s : Sighting) (ops : List (Operation × Nat))
    (operation : Operation) (t now : Nat) :
    e.ReportedInLife s (ops ++ [(operation, t)]) now ↔
      (e.ReportedInLife s ops t ∨
          reportsFlapping ((e.run ops).2.apply operation t).1 s = true) ∧
        (((e.run (ops ++ [(operation, t)])).2.expire now).memory.trackers.get? s).isSome := by
  constructor
  · rintro ⟨before, op, t', after, hops, hr, hl⟩
    rcases List.eq_nil_or_concat' after with rfl | ⟨after, last, rfl⟩
    · obtain ⟨rfl, hop⟩ := List.append_inj' hops rfl
      obtain ⟨rfl, rfl⟩ := Prod.mk.inj (List.singleton_inj.1 hop)
      rw [run_concat]
      exact ⟨.inr hr, hl⟩
    · have hcut : ops ++ [(operation, t)] = (before ++ (op, t') :: after) ++ [last] := by simp [hops]
      obtain ⟨rfl, hop⟩ := List.append_inj' hcut rfl
      cases List.singleton_inj.1 hop
      rw [outlives_concat, Bool.and_eq_true] at hl
      refine ⟨.inl ⟨before, op, t', after, rfl, hr, hl.1⟩, ?_⟩
      simpa [run_append, run] using hl.2
  · rintro ⟨⟨before, op, t', after, rfl, hr, hl⟩ | hr, hlast⟩
    · refine ⟨before, op, t', after ++ [(operation, t)], by simp, hr, ?_⟩
      rw [outlives_concat, hl, Bool.true_and]
      simpa [run_append, run] using hlast
    · refine ⟨ops, operation, t, [], rfl, hr, ?_⟩
      rwa [run_concat] at hlast

theorem hasReported_expire (e : Engine) (s : Sighting) (now : Nat) :
    hasReported (e.expire now).memory s =
      (((e.expire now).memory.trackers.get? s).isSome && hasReported e.memory s) := by
  unfold hasReported
  rw [get?_trackers_expire]
  cases e.memory.trackers.get? s with
  | none => rfl
  | some t => cases hx : t.isExpired now e.config.flapInterval <;> simp [hx]

/-- An operation notes on the tracker what it reports. -/
theorem hasReported_apply {config : CorrelationConfig} {e : Engine}
    (hc : e.config = config.withPolicy .retain)
    (hp : ∀ f ∈ e.pending, f.kind ≠ .serviceFlapping) (s : Sighting) (operation : Operation)
    (now : Nat) :
    hasReported (e.apply operation now).2.memory s =
      (hasReported (e.expire now).memory s ||
        reportsFlapping (e.apply operation now).1 s) := by
  have hquiet : reportsFlapping (e.expire now).pending s = false := by
    rw [← Bool.not_eq_true, reportsFlapping_eq_true_iff, not_not]
    exact flapReports_of_kind_ne (kind_pending_expire hp now) s
  rcases e.apply_cases operation now with h | h | ⟨signal, m, -, ho, h⟩
  · rw [h]
    exact (Bool.or_false _).symm
  · rw [h, hquiet]
    exact (Bool.or_false _).symm
  · rw [h, reportsFlapping_append, hquiet, Bool.false_or, hc, hasReported_evaluate,
      hasReported_observe ho]

/-- A retained tracker knows whether flapping was reported since it lives. -/
theorem hasReported_run (config : CorrelationConfig) (s : Sighting) (ops : List (Operation × Nat))
    (now : Nat) :
    let start := new (config.withPolicy .retain)
    hasReported ((start.run ops).2.expire now).memory s = true ↔ start.ReportedInLife s ops now := by
  intro start
  induction ops using List.reverseRecOn generalizing now with
  | nil =>
    constructor
    · intro h
      rw [hasReported_expire, Bool.and_eq_true] at h
      exact absurd h.2 Bool.false_ne_true
    · rintro ⟨before, operation, t, after, hops, -⟩
      simp at hops
  | append_singleton ops op ih =>
    obtain ⟨operation, t⟩ := op
    have hside := Shadows.run config ops
    rw [reportedInLife_concat, ← ih, hasReported_expire, Bool.and_eq_true, and_comm, run_concat,
      hasReported_apply hside.retains hside.silent, Bool.or_eq_true]

/-- Whatever the operations and their instants, an engine that retains its trackers finds the same
outages as one that resets them, and keeps the same afflictions, outages and trackers with the same
latest transitions. What it reports as flapping the other one reports too, and what it leaves out is
what repeats a report in the life of a tracker. -/
theorem retain_suppresses_repeats (config : CorrelationConfig) (ops : List (Operation × Nat))
    (operation : Operation) (now : Nat) :
    let start := new (config.withPolicy .retain)
    let retain := (start.run ops).2.apply operation now
    let reset := ((new (config.withPolicy .reset)).run ops).2.apply operation now
    outageReports retain.1 = outageReports reset.1 ∧
      retain.2.memory.afflictions = reset.2.memory.afflictions ∧
      retain.2.memory.outages = reset.2.memory.outages ∧
      (∀ s, (retain.2.memory.trackers.get? s).map FlapTracker.last =
        (reset.2.memory.trackers.get? s).map FlapTracker.last) ∧
      ∀ s, (flapReports retain.1 s ≠ [] → flapReports retain.1 s = flapReports reset.1 s) ∧
        (flapReports reset.1 s ≠ [] →
          (flapReports retain.1 s = [] ↔ start.ReportedInLife s ops now)) := by
  intro start retain reset
  obtain ⟨hside, hreports, hflap⟩ := (Shadows.run config ops).apply operation now
  refine ⟨hreports, hside.memory.afflictions, hside.memory.outages, hside.memory.last_eq,
    fun s => ?_⟩
  have hlife : hasReported ((start.run ops).2.expire now).memory s = true ↔
      start.ReportedInLife s ops now := hasReported_run config s ops now
  have hs : flapReports retain.1 s = if hasReported ((start.run ops).2.expire now).memory s then []
      else flapReports reset.1 s := hflap s
  rw [← hlife, hs]
  constructor
  · intro hne
    split at hne
    · contradiction
    · rename_i hr
      rw [if_neg hr]
  · intro hne
    split
    · rename_i hr
      exact iff_of_true rfl hr
    · rename_i hr
      exact iff_of_false hne hr

example :
    let config : CorrelationConfig := { flapIntervalMs := 10 }
    let signal := Signal.sample .regained 7
    let ops : List (Operation × Nat) :=
      [(.correlate (.sample .lost 7), 0), (.correlate signal, 1),
        (.correlate (.sample .lost 7), 2), (.correlate signal, 3), (.correlate (.sample .lost 7), 4)]
    let found (policy : FlapPolicy) :=
      (((new (config.withPolicy policy)).run ops).2.correlate signal 5).1
    reportsFlapping (found .retain) signal.sighting = false ∧
      reportsFlapping (found .reset) signal.sighting = true := by
  decide

end Engine

end ServiceWatch
