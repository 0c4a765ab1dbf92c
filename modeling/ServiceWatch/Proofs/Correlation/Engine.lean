import ServiceWatch.Correlation.Engine
import ServiceWatch.Proofs.Correlation.Afflictions

/-! What each rule of the engine changes, and how runs of operations compose. -/
namespace ServiceWatch

namespace WorkingMemory

@[simp] theorem hasOutage_empty (service : ServiceId) : empty.hasOutage service = false := rfl

@[simp] theorem isAfflicted_empty (s : Sighting) : empty.isAfflicted s = false := rfl

theorem hasOutage_insertOutage (m : WorkingMemory) (service service' : ServiceId) (now : Nat) :
    (m.insertOutage service now).hasOutage service' =
      if service' = service then true else m.hasOutage service' := by
  unfold hasOutage insertOutage Table.contains
  rw [Table.get?_insert]
  split <;> rfl

theorem hasOutage_removeOutage (m : WorkingMemory) (service service' : ServiceId) :
    (m.removeOutage service).2.hasOutage service' =
      if service' = service then false else m.hasOutage service' := by
  unfold hasOutage removeOutage Table.contains
  rw [Table.get?_erase]
  split <;> rfl

theorem get?_modifyTracker (m : WorkingMemory) (s s' : Sighting) (f : FlapTracker → FlapTracker) :
    (m.modifyTracker s f).trackers.get? s' =
      if s' = s then (m.trackers.get? s).map f else m.trackers.get? s' := by
  unfold modifyTracker
  cases h : m.trackers.get? s with
  | none => by_cases hs : s' = s <;> simp [hs, h]
  | some t => simp [insertTracker, Table.get?_insert]

@[simp] theorem modifyTracker_afflictions (m : WorkingMemory) (s : Sighting)
    (f : FlapTracker → FlapTracker) : (m.modifyTracker s f).afflictions = m.afflictions := by
  unfold modifyTracker
  split <;> rfl

@[simp] theorem modifyTracker_outages (m : WorkingMemory) (s : Sighting)
    (f : FlapTracker → FlapTracker) : (m.modifyTracker s f).outages = m.outages := by
  unfold modifyTracker
  split <;> rfl

theorem get?_expireAfflictions (m : WorkingMemory) (now timeout : Nat) (s : Sighting) :
    (m.expireAfflictions now timeout).2.afflictions.get? s =
      (m.afflictions.get? s).filter fun created => !Afflictions.isStale now timeout created :=
  m.afflictions.get?_expire now timeout s

/-- Expiry never adds to the monitors that report a service. -/
theorem afflictedMonitors_expire_le (m : WorkingMemory) (now timeout : Nat) (service : ServiceId) :
    (m.expireAfflictions now timeout).2.afflictedMonitors service ≤ m.afflictedMonitors service := by
  apply Afflictions.count_le_of_imp
  intro monitor h
  rw [get?_expireAfflictions] at h
  cases hg : m.afflictions.get? ⟨service, monitor⟩ <;> simp_all

/-- Expiry leaves alone the number of monitors of a service that it does not name. -/
theorem afflictedMonitors_expire (m : WorkingMemory) (now timeout : Nat) {service : ServiceId}
    (h : service ∉ (m.expireAfflictions now timeout).1) :
    (m.expireAfflictions now timeout).2.afflictedMonitors service = m.afflictedMonitors service := by
  apply Afflictions.count_congr
  intro monitor
  rw [get?_expireAfflictions]
  cases hg : m.afflictions.get? ⟨service, monitor⟩ with
  | none => rfl
  | some created =>
    have hs : Afflictions.isStale now timeout created = false := by
      by_contra hs
      exact h (Afflictions.mem_affected.2 ⟨monitor, created, hg, by simpa using hs⟩)
    simp [hs]

end WorkingMemory

namespace Engine

section Rules

variable (config : CorrelationConfig) (m : WorkingMemory) (now : Nat) (cause : Cause)

@[simp] theorem evaluateWideSpread_afflictions (service : ServiceId) :
    (evaluateWideSpread config m service now cause).2.afflictions = m.afflictions := by
  unfold evaluateWideSpread
  split <;> rfl

@[simp] theorem evaluateWideSpread_trackers (service : ServiceId) :
    (evaluateWideSpread config m service now cause).2.trackers = m.trackers := by
  unfold evaluateWideSpread
  split <;> rfl

/-- Afterwards the service has an outage just if its monitors ask for one. -/
theorem hasOutage_evaluateWideSpread (service service' : ServiceId) :
    (evaluateWideSpread config m service now cause).2.hasOutage service' =
      if service' = service then isWideSpread config (m.afflictedMonitors service)
      else m.hasOutage service' := by
  unfold evaluateWideSpread
  split
  · rename_i hw _
    rw [WorkingMemory.hasOutage_insertOutage, hw]
  · rename_i hw _
    rw [WorkingMemory.hasOutage_removeOutage, hw]
  · rename_i hopen hclose
    by_cases hs : service' = service
    · subst hs
      cases hw : isWideSpread config (m.afflictedMonitors service') <;>
        cases ho : m.hasOutage service' <;> simp_all
    · simp [hs]

/-- An outage that goes on keeps the instant at which it began. -/
theorem get?_outages_evaluateWideSpread (service service' : ServiceId) :
    (evaluateWideSpread config m service now cause).2.outages.get? service' =
      if service' = service then
        if isWideSpread config (m.afflictedMonitors service) then
          some ((m.outages.get? service).getD now)
        else none
      else m.outages.get? service' := by
  have ho : m.hasOutage service = (m.outages.get? service).isSome := rfl
  unfold evaluateWideSpread
  cases hw : isWideSpread config (m.afflictedMonitors service) <;>
    cases hg : m.outages.get? service <;> rw [hg] at ho <;> simp only [ho, Option.isSome]
  · by_cases hs : service' = service <;> simp [hs, hg]
  · simp only [WorkingMemory.removeOutage, Table.get?_erase]
    simp
  · simp only [WorkingMemory.insertOutage, Table.get?_insert]
    simp
  · by_cases hs : service' = service <;> simp [hs, hg]

/-- Nothing is found out unless the monitors of the service disagree with its outage; then that is
opened or resolved. -/
theorem evaluateWideSpread_cases (service : ServiceId) :
    isWideSpread config (m.afflictedMonitors service) = m.hasOutage service ∧
        evaluateWideSpread config m service now cause = ([], m) ∨
      isWideSpread config (m.afflictedMonitors service) = (!m.hasOutage service) ∧
        (evaluateWideSpread config m service now cause).1 =
          [⟨if m.hasOutage service then .wideSpreadOutageResolved else .wideSpreadOutage,
            service, none, cause⟩] := by
  unfold evaluateWideSpread
  cases isWideSpread config (m.afflictedMonitors service) <;> cases m.hasOutage service <;> simp

@[simp] theorem evaluateServices_afflictions (services : List ServiceId) :
    (evaluateServices config now cause services m).2.afflictions = m.afflictions := by
  induction services generalizing m with
  | nil => rfl
  | cons service services ih => simp [evaluateServices, ih]

@[simp] theorem evaluateServices_trackers (services : List ServiceId) :
    (evaluateServices config now cause services m).2.trackers = m.trackers := by
  induction services generalizing m with
  | nil => rfl
  | cons service services ih => simp [evaluateServices, ih]

theorem hasOutage_evaluateServices (services : List ServiceId) (service' : ServiceId) :
    (evaluateServices config now cause services m).2.hasOutage service' =
      if service' ∈ services then isWideSpread config (m.afflictedMonitors service')
      else m.hasOutage service' := by
  induction services generalizing m with
  | nil => simp [evaluateServices]
  | cons service services ih =>
    have hc : ∀ s, (evaluateWideSpread config m service now cause).2.afflictedMonitors s =
        m.afflictedMonitors s := by
      intro s
      simp [WorkingMemory.afflictedMonitors]
    simp only [evaluateServices, ih, hc, hasOutage_evaluateWideSpread, List.mem_cons]
    by_cases hs : service' = service
    · subst hs
      simp
    · simp [hs]

theorem get?_outages_evaluateServices (services : List ServiceId) (service' : ServiceId) :
    (evaluateServices config now cause services m).2.outages.get? service' =
      if service' ∈ services then
        if isWideSpread config (m.afflictedMonitors service') then
          some ((m.outages.get? service').getD now)
        else none
      else m.outages.get? service' := by
  induction services generalizing m with
  | nil => simp [evaluateServices]
  | cons service services ih =>
    have hc : ∀ s, (evaluateWideSpread config m service now cause).2.afflictedMonitors s =
        m.afflictedMonitors s := by
      intro s
      simp [WorkingMemory.afflictedMonitors]
    simp only [evaluateServices, ih, hc, get?_outages_evaluateWideSpread, List.mem_cons]
    by_cases hs : service' = service
    · subst hs
      cases isWideSpread config (m.afflictedMonitors service') <;> simp
    · simp [hs]

@[simp] theorem evaluateFlapping_afflictions (s : Sighting) :
    (evaluateFlapping config m s cause).2.afflictions = m.afflictions := by
  unfold evaluateFlapping
  split
  · rfl
  · split <;> rfl

/-- Flapping is reported of the sighting that is evaluated, at most once. -/
theorem evaluateFlapping_found (s : Sighting) :
    (evaluateFlapping config m s cause).1 = [] ∨
      (evaluateFlapping config m s cause).1 =
        [⟨.serviceFlapping, s.service, some s.monitor, cause⟩] := by
  unfold evaluateFlapping
  split
  · exact .inl rfl
  · split
    · exact .inl rfl
    · exact .inr rfl

@[simp] theorem evaluateFlapping_outages (s : Sighting) :
    (evaluateFlapping config m s cause).2.outages = m.outages := by
  unfold evaluateFlapping
  split
  · rfl
  · split <;> rfl

end Rules

/-- A signal reports something new: a loss of what is not lost, or the return of what is. -/
def isNews (m : WorkingMemory) (signal : Signal) : Bool :=
  match signal.kind with
  | .lost => !m.isAfflicted signal.sighting
  | .regained => m.isAfflicted signal.sighting

theorem observe_isSome (config : CorrelationConfig) (m : WorkingMemory) (signal : Signal)
    (now : Nat) : (observe config m signal now).isSome = isNews m signal := by
  unfold observe isNews WorkingMemory.isAfflicted
  cases signal.kind with
  | lost =>
    simp only [WorkingMemory.insertAffliction, Afflictions.insert_fst]
    cases m.afflictions.get? signal.sighting <;> rfl
  | regained =>
    simp only [WorkingMemory.removeAffliction, Afflictions.remove_fst]
    cases m.afflictions.get? signal.sighting with
    | none => rfl
    | some created => dsimp only; split <;> rfl

theorem isNews_of_observe_eq_none {config : CorrelationConfig} {m : WorkingMemory}
    {signal : Signal} {now : Nat} (h : observe config m signal now = none) :
    isNews m signal = false := by
  rw [← observe_isSome config m signal now, h]
  rfl

/-- What news leave behind: the memory with the affliction put in or taken out, and the transition
counted by the tracker of the sighting. -/
theorem observe_eq_some {config : CorrelationConfig} {m m' : WorkingMemory} {signal : Signal}
    {now : Nat} (h : observe config m signal now = some m') :
    isNews m signal = true ∧ m'.outages = m.outages ∧
      (∀ s, m'.afflictions.get? s =
        if s = signal.sighting then
          match signal.kind with
          | .lost => some now
          | .regained => none
        else m.afflictions.get? s) ∧
      ∀ s, m'.trackers.get? s =
        if s = signal.sighting then
          match signal.kind, m.trackers.get? s with
          | .lost, t => t.map (·.record now config.flapInterval)
          | .regained, some t => some (t.record now config.flapInterval)
          | .regained, none =>
            (m.afflictions.get? s).map (FlapTracker.ofCycle · now config.flapInterval)
        else m.trackers.get? s := by
  have hn : isNews m signal = true := by
    rw [← observe_isSome config m signal now, h]
    rfl
  refine ⟨hn, ?_⟩
  unfold isNews WorkingMemory.isAfflicted at hn
  unfold observe at h
  cases hk : signal.kind with
  | lost =>
    have ha : m.afflictions.get? signal.sighting = none := by simpa [hk] using hn
    simp only [hk, WorkingMemory.insertAffliction, Afflictions.insert_fst, ha, Option.isNone_none,
      if_true, Option.some.injEq] at h
    subst h
    refine ⟨by simp, fun s => ?_, fun s => ?_⟩
    · simp only [WorkingMemory.modifyTracker_afflictions, Afflictions.get?_insert, ha,
        Option.getD_none]
    · rw [WorkingMemory.get?_modifyTracker]
      by_cases hs : s = signal.sighting <;> simp [hs]
  | regained =>
    obtain ⟨created, ha⟩ : ∃ created, m.afflictions.get? signal.sighting = some created := by
      simpa [hk, Option.isSome_iff_exists] using hn
    simp only [hk, WorkingMemory.removeAffliction, Afflictions.remove_fst, ha] at h
    cases ht : m.trackers.get? signal.sighting with
    | none =>
      simp only [ht, Option.some.injEq] at h
      subst h
      refine ⟨rfl, fun s => Afflictions.get?_remove .., fun s => ?_⟩
      simp only [WorkingMemory.insertTracker, Table.get?_insert]
      by_cases hs : s = signal.sighting <;> simp [hs, ht, ha]
    | some t =>
      simp only [ht, Option.some.injEq] at h
      subst h
      refine ⟨rfl, fun s => Afflictions.get?_remove .., fun s => ?_⟩
      simp only [WorkingMemory.insertTracker, Table.get?_insert]
      by_cases hs : s = signal.sighting <;> simp [hs, ht]

/-! ### Operations and runs -/

@[simp] theorem expire_config (e : Engine) (now : Nat) : (e.expire now).config = e.config := by
  unfold expire
  split <;> rfl

/-- The age at which the rules drop an affliction is reached. -/
def isStale (config : CorrelationConfig) (now created : Nat) : Bool :=
  config.afflictionTimeout.any (Afflictions.isStale now · created)

theorem isStale_mono {config : CorrelationConfig} {now now' created : Nat} (h : now ≤ now')
    (hs : isStale config now created = true) : isStale config now' created = true := by
  unfold isStale at hs ⊢
  cases ht : config.afflictionTimeout with
  | none => simp [ht] at hs
  | some timeout =>
    simp only [ht, Option.any_some, Afflictions.isStale, decide_eq_true_eq] at hs ⊢
    unfold FlapTracker.elapsed at hs ⊢
    omega

theorem get?_afflictions_expire (e : Engine) (now : Nat) (s : Sighting) :
    (e.expire now).memory.afflictions.get? s =
      (e.memory.afflictions.get? s).filter fun created => !isStale e.config now created := by
  unfold expire isStale
  cases ht : e.config.afflictionTimeout with
  | none =>
    cases h : e.memory.afflictions.get? s <;>
      simp [WorkingMemory.expireTrackers, h, Option.filter]
  | some timeout =>
    simp only [evaluateServices_afflictions, WorkingMemory.get?_expireAfflictions, Option.any_some]
    rfl

theorem get?_trackers_expire (e : Engine) (now : Nat) (s : Sighting) :
    (e.expire now).memory.trackers.get? s =
      (e.memory.trackers.get? s).filter fun t => !t.isExpired now e.config.flapInterval := by
  unfold expire
  split
  · simp [WorkingMemory.expireTrackers]
  · simp [WorkingMemory.expireTrackers, WorkingMemory.expireAfflictions]

/-- An operation expires facts, and then hands out what waits, unless it only asks for numbers. A
signal that reports something new is evaluated behind that. -/
theorem apply_cases (e : Engine) (operation : Operation) (now : Nat) :
    e.apply operation now = ([], e.expire now) ∨
      e.apply operation now = ((e.expire now).pending, { e.expire now with pending := [] }) ∨
      ∃ signal m, operation = .correlate signal ∧
        observe e.config (e.expire now).memory signal now = some m ∧
        e.apply operation now =
          ((e.expire now).pending ++ (evaluate e.config m signal now).1,
            { e.expire now with memory := (evaluate e.config m signal now).2, pending := [] }) := by
  cases operation with
  | correlate signal =>
    right
    cases h : observe e.config (e.expire now).memory signal now with
    | none =>
      left
      simp [apply, correlate, h]
    | some m =>
      right
      exact ⟨signal, m, rfl, h, by simp [apply, correlate, h]⟩
  | sweep => exact .inr (.inl rfl)
  | memorySize => exact .inl rfl
  | stats => exact .inl rfl

@[simp] theorem apply_config (e : Engine) (operation : Operation) (now : Nat) :
    (e.apply operation now).2.config = e.config := by
  rcases e.apply_cases operation now with h | h | ⟨signal, m, -, -, h⟩ <;> rw [h] <;> simp

theorem run_append (e : Engine) (ops ops' : List (Operation × Nat)) :
    e.run (ops ++ ops') =
      ((e.run ops).1 ++ ((e.run ops).2.run ops').1, ((e.run ops).2.run ops').2) := by
  induction ops generalizing e with
  | nil => rfl
  | cons op ops ih => simp [run, ih]

theorem run_concat (e : Engine) (ops : List (Operation × Nat)) (operation : Operation) (now : Nat) :
    e.run (ops ++ [(operation, now)]) =
      ((e.run ops).1 ++ [((e.run ops).2.apply operation now).1],
        ((e.run ops).2.apply operation now).2) := by
  rw [run_append]
  rfl

@[simp] theorem run_config (e : Engine) (ops : List (Operation × Nat)) :
    (e.run ops).2.config = e.config := by
  induction ops generalizing e with
  | nil => rfl
  | cons op ops ih => simp [run, ih]

/-- What holds of the findings handed out so far and the engine behind them, if expiry, handing out
and the evaluation of news keep it. -/
theorem run_induction (config : CorrelationConfig) {P : List Finding → Engine → Prop}
    (expire : ∀ found e now, e.config = config → P found e → P found (e.expire now))
    (handOut : ∀ found e, P found e → P (found ++ e.pending) { e with pending := [] })
    (news : ∀ found e signal now m, e.config = config → e.pending = [] → P found e →
      observe e.config e.memory signal now = some m →
      P (found ++ (evaluate e.config m signal now).1)
        { e with memory := (evaluate e.config m signal now).2 })
    (start : P [] (new config)) (ops : List (Operation × Nat)) :
    P ((new config).run ops).1.flatten ((new config).run ops).2 := by
  induction ops using List.reverseRecOn with
  | nil => exact start
  | append_singleton ops op ih =>
    obtain ⟨operation, now⟩ := op
    have hc : ((new config).run ops).2.config = config := run_config ..
    have he := expire _ _ now hc ih
    have hd := handOut _ _ he
    rw [run_concat, List.flatten_append, List.flatten_singleton]
    rcases ((new config).run ops).2.apply_cases operation now with h | h | ⟨signal, m, -, ho, h⟩
    · simpa [h] using he
    · simpa [h] using hd
    · rw [← expire_config _ now] at ho
      have hn := news _ _ signal now m (by simpa using hc) rfl hd ho
      rw [h]
      simpa [List.append_assoc] using hn

end Engine

/-- A report by one of several monitors on one service, for runs on fixed inputs. -/
def Signal.sample (kind : SignalKind) (monitor : MonitorId) : Signal where
  kind := kind
  service := ⟨1, .v4 10 0 0 1, "HTTP"⟩
  monitor := monitor
  time := ⟨1970, 1, 1, 0, 0, 0, 0, by decide, by decide, by decide, by decide, by decide, by decide,
    by decide⟩

end ServiceWatch
