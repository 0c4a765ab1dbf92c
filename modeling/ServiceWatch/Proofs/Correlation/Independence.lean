import Mathlib
import ServiceWatch.Proofs.Correlation.Flapping

/-! Every service is correlated as if it were the only one, whenever expiry happens to run. -/
namespace ServiceWatch

/-- What a finding tells of its service. The instant of an expiry is left out: it only says which
operation happened to come by. -/
structure Gist where
  kind : EventKind
  monitor : Option MonitorId
  time : Option Timestamp
  deriving DecidableEq

def Finding.gist (f : Finding) : Gist where
  kind := f.kind
  monitor := f.monitor
  time :=
    match f.cause with
    | .signal time => some time
    | .expiry _ => none

/-- What findings tell of one service, in their order. -/
def gists (found : List Finding) (service : ServiceId) : List Gist :=
  (found.filter fun f => f.service = service).map Finding.gist

theorem gists_append (found found' : List Finding) (service : ServiceId) :
    gists (found ++ found') service = gists found service ++ gists found' service := by
  simp [gists]

@[ext] structure ServiceFacts where
  lostSince : MonitorId → Option Nat
  tracker : MonitorId → Option FlapTracker
  outageSince : Option Nat

namespace ServiceFacts

noncomputable def monitors (lostSince : MonitorId → Option Nat) : Nat :=
  {monitor | (lostSince monitor).isSome}.ncard

def fresh (config : CorrelationConfig) (now : Nat) (lostSince : MonitorId → Option Nat) :
    MonitorId → Option Nat :=
  fun monitor => (lostSince monitor).filter (!Engine.isStale config now ·)

/-- The facts less what is too old, and less an outage that too few monitors are left for. -/
noncomputable def expire (config : CorrelationConfig) (now : Nat) (f : ServiceFacts) :
    ServiceFacts where
  lostSince := fresh config now f.lostSince
  tracker monitor := (f.tracker monitor).filter (!·.isExpired now config.flapInterval)
  outageSince :=
    if Engine.isWideSpread config (monitors (fresh config now f.lostSince)) then f.outageSince
    else none

/-- What expiry finds out: nothing, or that the outage is over. -/
noncomputable def resolution (config : CorrelationConfig) (now : Nat) (f : ServiceFacts) :
    List Gist :=
  if f.outageSince.isSome ∧ (f.expire config now).outageSince = none then
    [⟨.wideSpreadOutageResolved, none, none⟩]
  else []

variable {config : CorrelationConfig} {t t' : Nat}

theorem isExpired_mono (h : t ≤ t') {tracker : FlapTracker} {window : Nat}
    (hs : tracker.isExpired t window = true) : tracker.isExpired t' window = true := by
  simp only [FlapTracker.isExpired, decide_eq_true_eq] at hs ⊢
  unfold FlapTracker.elapsed at hs ⊢
  omega

theorem filter_not_filter_not {α : Type} {p q : α → Bool} (h : ∀ a, p a = true → q a = true)
    (o : Option α) : (o.filter (!p ·)).filter (!q ·) = o.filter (!q ·) := by
  rw [Option.filter_filter]
  congr 1
  funext a
  cases hp : p a with
  | false => rfl
  | true => simp [h a hp]

theorem fresh_fresh (h : t ≤ t') (lostSince : MonitorId → Option Nat) :
    fresh config t' (fresh config t lostSince) = fresh config t' lostSince := by
  funext monitor
  exact filter_not_filter_not (fun _ => Engine.isStale_mono h) _

theorem monitors_fresh_le (lostSince : MonitorId → Option Nat) :
    monitors (fresh config t lostSince) ≤ monitors lostSince := by
  refine Set.ncard_le_ncard (fun monitor hm => ?_) (Set.toFinite _)
  change (fresh config t lostSince monitor).isSome = true at hm
  change (lostSince monitor).isSome = true
  cases hl : lostSince monitor with
  | none => simp [fresh, hl] at hm
  | some created => rfl

/-- Expiry in two portions is expiry at the later instant. -/
theorem expire_expire (h : t ≤ t') (f : ServiceFacts) :
    (f.expire config t).expire config t' = f.expire config t' := by
  have hle : monitors (fresh config t' f.lostSince) ≤ monitors (fresh config t f.lostSince) := by
    rw [← fresh_fresh h]
    exact monitors_fresh_le _
  unfold expire
  ext1
  · exact fresh_fresh h f.lostSince
  · funext monitor
    exact filter_not_filter_not (fun _ => isExpired_mono h) _
  · dsimp only
    rw [fresh_fresh h]
    by_cases hw : Engine.isWideSpread config (monitors (fresh config t' f.lostSince)) = true
    · rw [if_pos hw, if_pos (Engine.isWideSpread_mono hle hw), if_pos hw]
    · rw [if_neg hw, if_neg hw]

theorem outageSince_expire (config : CorrelationConfig) (now : Nat) (f : ServiceFacts) :
    (f.expire config now).outageSince = f.outageSince ∨
      (f.expire config now).outageSince = none := by
  unfold expire
  dsimp only
  split
  · exact .inl rfl
  · exact .inr rfl

/-- An outage that expiry ends is told of once, by the portion that ends it. -/
theorem resolution_expire (h : t ≤ t') (f : ServiceFacts) :
    f.resolution config t ++ (f.expire config t).resolution config t' =
      f.resolution config t' := by
  have he : ((f.expire config t).expire config t').outageSince =
      (f.expire config t').outageSince := by rw [expire_expire h]
  unfold resolution
  rw [he]
  rcases outageSince_expire config t f with ho | ho
  · cases hf : f.outageSince <;> simp [ho, hf]
  · have hn : (f.expire config t').outageSince = none := by
      rcases outageSince_expire config t' (f.expire config t) with hx | hx
      · rw [← he, hx, ho]
      · rw [← he, hx]
    simp [ho, hn]

end ServiceFacts

def WorkingMemory.about (m : WorkingMemory) (service : ServiceId) : ServiceFacts where
  lostSince monitor := m.afflictions.get? ⟨service, monitor⟩
  tracker monitor := m.trackers.get? ⟨service, monitor⟩
  outageSince := m.outages.get? service

theorem WorkingMemory.afflictedMonitors_eq (m : WorkingMemory) (service : ServiceId) :
    m.afflictedMonitors service = ServiceFacts.monitors (m.about service).lostSince :=
  m.afflictions.count_eq_ncard service

theorem WorkingMemory.hasOutage_eq (m : WorkingMemory) (service : ServiceId) :
    m.hasOutage service = (m.about service).outageSince.isSome :=
  rfl

namespace Engine

/-! ### Expiry -/

theorem gists_evaluateWideSpread_of_ne (config : CorrelationConfig) (m : WorkingMemory) (now : Nat)
    (cause : Cause) {service service' : ServiceId} (h : service ≠ service') :
    gists (evaluateWideSpread config m service now cause).1 service' = [] := by
  rcases evaluateWideSpread_cases config m now cause service with ⟨-, he⟩ | ⟨-, he⟩
  · rw [he]
    rfl
  · rw [he]
    simp [gists, h]

theorem about_evaluateWideSpread_of_ne (config : CorrelationConfig) (m : WorkingMemory) (now : Nat)
    (cause : Cause) {service service' : ServiceId} (h : service ≠ service') :
    (evaluateWideSpread config m service now cause).2.about service' = m.about service' := by
  unfold WorkingMemory.about
  rw [evaluateWideSpread_afflictions, evaluateWideSpread_trackers,
    get?_outages_evaluateWideSpread, if_neg h.symm]

/-- What the rule of outages of wide spread finds and leaves behind depends on the facts of the
service only. -/
theorem evaluateWideSpread_congr (config : CorrelationConfig) {m m' : WorkingMemory} (now : Nat)
    (cause : Cause) {service : ServiceId} (h : m.about service = m'.about service) :
    (evaluateWideSpread config m service now cause).1 =
        (evaluateWideSpread config m' service now cause).1 ∧
      (evaluateWideSpread config m service now cause).2.about service =
        (evaluateWideSpread config m' service now cause).2.about service := by
  have hn : m.afflictedMonitors service = m'.afflictedMonitors service := by
    rw [m.afflictedMonitors_eq, m'.afflictedMonitors_eq, h]
  have ho : m.hasOutage service = m'.hasOutage service := by
    rw [m.hasOutage_eq, m'.hasOutage_eq, h]
  constructor
  · unfold evaluateWideSpread
    rw [hn, ho]
    split <;> rfl
  · ext1
    · have hl := congrArg ServiceFacts.lostSince h
      simpa [WorkingMemory.about] using hl
    · have ht := congrArg ServiceFacts.tracker h
      simpa [WorkingMemory.about] using ht
    · have hs : m.outages.get? service = m'.outages.get? service :=
        congrArg ServiceFacts.outageSince h
      simp only [WorkingMemory.about, get?_outages_evaluateWideSpread, hn, hs]

/-- Of several services that are evaluated, one is told of as if it were evaluated alone. -/
theorem gists_evaluateServices (config : CorrelationConfig) (m : WorkingMemory) (now : Nat)
    (cause : Cause) {services : List ServiceId} (hn : services.Nodup) (service : ServiceId) :
    gists (evaluateServices config now cause services m).1 service =
      if service ∈ services then gists (evaluateWideSpread config m service now cause).1 service
      else [] := by
  induction services generalizing m with
  | nil => rfl
  | cons first services ih =>
    obtain ⟨hf, hn⟩ := List.nodup_cons.1 hn
    simp only [evaluateServices, gists_append, ih _ hn, List.mem_cons]
    by_cases hs : service = first
    · subst hs
      simp [hf]
    · have ha := about_evaluateWideSpread_of_ne config m now cause (Ne.symm hs)
      rw [gists_evaluateWideSpread_of_ne config m now cause (Ne.symm hs), List.nil_append,
        (evaluateWideSpread_congr config now cause ha).1]
      simp [hs]

/-- Where no outage is due, an evaluation behind expiry tells just of the one that it ends. -/
theorem gists_evaluateServices_expiry {config : CorrelationConfig} {m : WorkingMemory}
    {service : ServiceId} (now : Nat)
    (hd : isWideSpread config (m.afflictedMonitors service) = true → m.hasOutage service = true)
    {services : List ServiceId} (hn : services.Nodup) :
    gists (evaluateServices config now (.expiry now) services m).1 service =
      if m.hasOutage service = true ∧
          (evaluateServices config now (.expiry now) services m).2.hasOutage service = false then
        [⟨.wideSpreadOutageResolved, none, none⟩]
      else [] := by
  rw [gists_evaluateServices config m now (.expiry now) hn, hasOutage_evaluateServices]
  by_cases hs : service ∈ services
  · rw [if_pos hs, if_pos hs]
    rcases evaluateWideSpread_cases config m now (.expiry now) service with ⟨hw, he⟩ | ⟨hw, he⟩
    · rw [he, hw]
      cases m.hasOutage service <;> rfl
    · rw [he, hw]
      cases ho : m.hasOutage service with
      | true => simp [gists, Finding.gist]
      | false => simp [ho, hw] at hd
  · rw [if_neg hs, if_neg hs]
    cases m.hasOutage service <;> rfl

theorem lostSince_about_expire (e : Engine) (now : Nat) (service : ServiceId) :
    ((e.expire now).memory.about service).lostSince =
      ServiceFacts.fresh e.config now (e.memory.about service).lostSince := by
  funext monitor
  exact get?_afflictions_expire e now ⟨service, monitor⟩

theorem afflictedMonitors_expire_le (e : Engine) (now : Nat) (service : ServiceId) :
    (e.expire now).memory.afflictedMonitors service ≤ e.memory.afflictedMonitors service := by
  rw [WorkingMemory.afflictedMonitors_eq, WorkingMemory.afflictedMonitors_eq,
    lostSince_about_expire]
  exact ServiceFacts.monitors_fresh_le _

section Expire

variable {e : Engine} (h : OutagesMatch e.config e.memory) (now : Nat) (service : ServiceId)

include h

/-- Expiry opens no outage. -/
theorem hasOutage_of_expire (ho : (e.expire now).memory.hasOutage service = true) :
    e.memory.hasOutage service = true := by
  have hw := h.expire now service
  rw [h service]
  rw [ho] at hw
  exact isWideSpread_mono (afflictedMonitors_expire_le e now service) hw.symm

/-- An outage that expiry does not end keeps the instant at which it began. -/
theorem get?_outages_expire :
    (e.expire now).memory.outages.get? service =
      if (e.expire now).memory.hasOutage service then e.memory.outages.get? service else none := by
  have hback := hasOutage_of_expire h now service
  cases ho : (e.expire now).memory.hasOutage service with
  | false => simpa [WorkingMemory.hasOutage, Table.contains] using ho
  | true =>
    obtain ⟨since, hg⟩ := Option.isSome_iff_exists.1 (hback ho)
    have hx : (e.expire now).memory.outages.get? service ≠ none :=
      Option.isSome_iff_ne_none.1 ho
    rw [if_pos rfl, hg]
    unfold expire at hx ⊢
    split
    · exact hg
    · rename_i timeout ht
      let m := ((e.memory.expireTrackers now e.config.flapInterval).2.expireAfflictions now timeout).2
      have hm : m.outages.get? service = some since := hg
      simp only [ht, get?_outages_evaluateServices] at hx ⊢
      rw [show ((e.memory.expireTrackers now e.config.flapInterval).2.expireAfflictions now
        timeout).2 = m from rfl, hm, Option.getD_some] at hx ⊢
      split at hx <;> simp_all

/-- Expiry treats a service as if it were the only one. -/
theorem about_expire :
    (e.expire now).memory.about service = (e.memory.about service).expire e.config now := by
  have hw : (e.expire now).memory.hasOutage service = isWideSpread e.config
      (ServiceFacts.monitors (ServiceFacts.fresh e.config now
        (e.memory.about service).lostSince)) := by
    rw [h.expire now service, WorkingMemory.afflictedMonitors_eq, lostSince_about_expire]
  ext1
  · exact lostSince_about_expire e now service
  · funext monitor
    exact get?_trackers_expire e now ⟨service, monitor⟩
  · have ho := get?_outages_expire h now service
    rw [hw] at ho
    exact ho

/-- Expiry finds out of a service what it would find out if that were the only one. -/
theorem gists_pending_expire :
    gists (e.expire now).pending service =
      gists e.pending service ++ (e.memory.about service).resolution e.config now := by
  have hr : (e.memory.about service).resolution e.config now =
      if e.memory.hasOutage service = true ∧ (e.expire now).memory.hasOutage service = false then
        [⟨.wideSpreadOutageResolved, none, none⟩]
      else [] := by
    unfold ServiceFacts.resolution
    rw [← about_expire h now service]
    simp [WorkingMemory.hasOutage_eq]
  rw [hr]
  unfold expire
  split
  · simp [WorkingMemory.hasOutage, WorkingMemory.expireTrackers]
  · rename_i timeout _
    let m := (e.memory.expireTrackers now e.config.flapInterval).2
    have hd : isWideSpread e.config ((m.expireAfflictions now timeout).2.afflictedMonitors service)
        = true → (m.expireAfflictions now timeout).2.hasOutage service = true := by
      intro hw
      exact (h service).trans (isWideSpread_mono (m.afflictedMonitors_expire_le now timeout service) hw)
    have hg := gists_evaluateServices_expiry now hd (m.afflictions.nodup_affected now timeout)
    rw [gists_append]
    exact congrArg (gists e.pending service ++ ·) hg

end Expire

/-! ### Signals -/

section Signal

variable (config : CorrelationConfig) {m m' : WorkingMemory} (signal : Signal) (now : Nat)
  {service : ServiceId}

/-- Whether a signal tells something new, and what it leaves behind, follows from the facts of its
service. -/
theorem observe_congr (h : m.about signal.service = m'.about signal.service) :
    (observe config m signal now).map (·.about signal.service) =
      (observe config m' signal now).map (·.about signal.service) := by
  have ha : ∀ monitor, m.afflictions.get? ⟨signal.service, monitor⟩ =
      m'.afflictions.get? ⟨signal.service, monitor⟩ :=
    fun monitor => congrFun (congrArg ServiceFacts.lostSince h) monitor
  have ht : ∀ monitor, m.trackers.get? ⟨signal.service, monitor⟩ =
      m'.trackers.get? ⟨signal.service, monitor⟩ :=
    fun monitor => congrFun (congrArg ServiceFacts.tracker h) monitor
  have hs : (observe config m signal now).isSome = (observe config m' signal now).isSome := by
    rw [observe_isSome, observe_isSome]
    unfold isNews WorkingMemory.isAfflicted Signal.sighting
    rw [ha]
  cases ho : observe config m signal now with
  | none =>
    rw [ho, eq_comm, Option.isSome_none, Option.isSome_eq_false_iff, Option.isNone_iff_eq_none] at hs
    rw [hs]
  | some n =>
    rw [ho, eq_comm, Option.isSome_some, Option.isSome_iff_exists] at hs
    obtain ⟨n', ho'⟩ := hs
    obtain ⟨-, hout, haff, htr⟩ := observe_eq_some ho
    obtain ⟨-, hout', haff', htr'⟩ := observe_eq_some ho'
    have hsince : m.outages.get? signal.service = m'.outages.get? signal.service :=
      congrArg ServiceFacts.outageSince h
    rw [ho', Option.map_some, Option.map_some, Option.some.injEq]
    ext1
    · funext monitor
      simp only [WorkingMemory.about, haff, haff', ha]
    · funext monitor
      simp only [WorkingMemory.about, htr, htr', ha, ht]
    · simp only [WorkingMemory.about, hout, hout', hsince]

theorem about_observe_of_ne (hs : service ≠ signal.service)
    (ho : observe config m signal now = some m') : m'.about service = m.about service := by
  obtain ⟨-, hout, haff, htr⟩ := observe_eq_some ho
  have hne : ∀ monitor, (⟨service, monitor⟩ : Sighting) ≠ signal.sighting :=
    fun _ he => hs (congrArg Sighting.service he)
  unfold WorkingMemory.about
  simp only [hout, haff, htr, hne, if_false]

/-- What the rules find and leave behind follows from the facts of the service. -/
theorem evaluate_congr (h : m.about signal.service = m'.about signal.service) :
    (evaluate config m signal now).1 = (evaluate config m' signal now).1 ∧
      (evaluate config m signal now).2.about signal.service =
        (evaluate config m' signal now).2.about signal.service := by
  let cause := Cause.signal signal.time
  have ht : ∀ monitor, m.trackers.get? ⟨signal.service, monitor⟩ =
      m'.trackers.get? ⟨signal.service, monitor⟩ :=
    fun monitor => congrFun (congrArg ServiceFacts.tracker h) monitor
  obtain ⟨hf, hr⟩ := evaluateFlapping_spec config m signal.sighting cause
  obtain ⟨hf', hr'⟩ := evaluateFlapping_spec config m' signal.sighting cause
  have hfound : (evaluateFlapping config m signal.sighting cause).1 =
      (evaluateFlapping config m' signal.sighting cause).1 := by
    rw [hf, hf', Signal.sighting, ht]
  have habout : (evaluateFlapping config m signal.sighting cause).2.about signal.service =
      (evaluateFlapping config m' signal.sighting cause).2.about signal.service := by
    ext1
    · have hl := congrArg ServiceFacts.lostSince h
      simpa [WorkingMemory.about] using hl
    · funext monitor
      have hx := ht signal.monitor
      simp only [WorkingMemory.about, hr, hr', ht]
      rw [Signal.sighting, hx]
    · have ho := congrArg ServiceFacts.outageSince h
      simpa [WorkingMemory.about] using ho
  obtain ⟨hw, ha⟩ := evaluateWideSpread_congr config now cause habout
  exact ⟨congrArg₂ (· ++ ·) hfound hw, ha⟩

theorem about_evaluate_of_ne (hs : service ≠ signal.service) :
    (evaluate config m signal now).2.about service = m.about service := by
  have hne : ∀ monitor, (⟨service, monitor⟩ : Sighting) ≠ signal.sighting :=
    fun _ he => hs (congrArg Sighting.service he)
  unfold evaluate
  dsimp only
  rw [about_evaluateWideSpread_of_ne _ _ _ _ hs.symm]
  unfold WorkingMemory.about
  simp only [evaluateFlapping_afflictions, evaluateFlapping_outages, (evaluateFlapping_spec ..).2,
    hne, if_false]

theorem gists_evaluate_of_ne (hs : service ≠ signal.service) :
    gists (evaluate config m signal now).1 service = [] := by
  have hf : gists (evaluateFlapping config m signal.sighting (.signal signal.time)).1 service =
      [] := by
    rcases evaluateFlapping_found config m (.signal signal.time) signal.sighting with he | he
    · rw [he]
      rfl
    · rw [he]
      simp [gists, Signal.sighting, hs.symm]
  unfold evaluate
  dsimp only
  rw [gists_append, hf, gists_evaluateWideSpread_of_ne _ _ _ _ hs.symm]
  rfl

end Signal

/-! ### Runs -/

/-- An operation applies a signal about a service. -/
def Operation.concerns (service : ServiceId) : Operation → Bool
  | .correlate signal => signal.service = service
  | _ => false

/-- What was told of a service, and what is known about it, once the engine behind the findings is
expired at an instant. -/
def outlook (found : List Finding) (e : Engine) (service : ServiceId) (now : Nat) :
    List Gist × ServiceFacts :=
  (gists (found ++ (e.expire now).pending) service, (e.expire now).memory.about service)

section Outlook

variable {found : List Finding} {e : Engine} {service : ServiceId} {now t : Nat}

theorem outlook_eq (h : OutagesMatch e.config e.memory) :
    outlook found e service t =
      (gists (found ++ e.pending) service ++ (e.memory.about service).resolution e.config t,
        (e.memory.about service).expire e.config t) := by
  unfold outlook
  rw [gists_append, gists_append, gists_pending_expire h, about_expire h, List.append_assoc]

/-- An earlier expiry makes no difference. -/
theorem outlook_expire (h : OutagesMatch e.config e.memory) (ht : now ≤ t) :
    outlook found (e.expire now) service t = outlook found e service t := by
  have hx : OutagesMatch (e.expire now).config (e.expire now).memory := by
    rw [expire_config]
    exact h.expire now
  rw [outlook_eq hx, outlook_eq h, gists_append, gists_append, gists_pending_expire h,
    about_expire h, expire_config, ServiceFacts.expire_expire ht,
    ← ServiceFacts.resolution_expire ht (e.memory.about service)]
  simp only [List.append_assoc]

/-- An operation that applies no signal about the service makes no difference. -/
theorem outlook_apply (h : OutagesMatch e.config e.memory) {operation : Operation}
    (hop : operation.concerns service = false) (ht : now ≤ t) :
    outlook (found ++ (e.apply operation now).1) (e.apply operation now).2 service t =
      outlook found e service t := by
  have hx : OutagesMatch (e.expire now).config (e.expire now).memory := by
    rw [expire_config]
    exact h.expire now
  rw [← outlook_expire h ht]
  rcases e.apply_cases operation now with ha | ha | ⟨signal, m, rfl, ho, ha⟩
  · rw [ha, List.append_nil]
  · rw [ha, outlook_eq hx, outlook_eq (by exact hx)]
    simp
  · have hs : service ≠ signal.service := by
      rintro rfl
      simp [Operation.concerns] at hop
    rw [← expire_config e now] at ho
    have hn : OutagesMatch (e.expire now).config (evaluate e.config m signal now).2 := by
      have hn := hx.news ho
      rwa [expire_config e now] at hn ⊢
    have hm : (evaluate e.config m signal now).2.about service =
        (e.expire now).memory.about service := by
      rw [about_evaluate_of_ne _ _ _ hs, about_observe_of_ne _ _ _ hs ho]
    rw [ha, outlook_eq hx, outlook_eq (by exact hn)]
    simp [gists_append, gists_evaluate_of_ne _ _ _ hs, hm]

theorem outlook_of_pending_eq_nil (h : OutagesMatch e.config e.memory) (hp : e.pending = []) :
    outlook found e service t =
      (gists found service ++ (e.memory.about service).resolution e.config t,
        (e.memory.about service).expire e.config t) := by
  rw [outlook_eq h, hp, List.append_nil]

/-- Two engines that agree on a service at an instant still agree once both apply a signal about it. -/
theorem outlook_correlate {found' : List Finding} {e' : Engine} {signal : Signal}
    (hc : e.config = e'.config) (h : OutagesMatch e.config e.memory)
    (h' : OutagesMatch e'.config e'.memory)
    (ho : outlook found e signal.service now = outlook found' e' signal.service now) :
    outlook (found ++ (e.correlate signal now).1) (e.correlate signal now).2 signal.service t =
      outlook (found' ++ (e'.correlate signal now).1) (e'.correlate signal now).2
        signal.service t := by
  obtain ⟨hg, ha⟩ := Prod.mk.inj ho
  have hx : OutagesMatch e.config (e.expire now).memory := h.expire now
  have hx' : OutagesMatch e.config (e'.expire now).memory := by
    rw [hc]
    exact h'.expire now
  have hobs := observe_congr e.config signal now ha
  unfold correlate
  simp only [expire_config, ← hc]
  cases hm : observe e.config (e.expire now).memory signal now with
  | none =>
    rw [hm, Option.map_none, eq_comm, Option.map_eq_none_iff] at hobs
    simp only [hobs]
    rw [outlook_of_pending_eq_nil (by simpa using hx) rfl,
      outlook_of_pending_eq_nil (by simpa [← hc] using hx') rfl]
    simp only [hg, ha]
  | some m =>
    rw [hm, Option.map_some, eq_comm, Option.map_eq_some_iff] at hobs
    obtain ⟨m', hm', hma⟩ := hobs
    obtain ⟨hf, hea⟩ := evaluate_congr e.config signal now hma.symm
    have hn := hx.news hm
    have hn' := hx'.news hm'
    simp only [hm']
    rw [outlook_of_pending_eq_nil (by simpa using hn) rfl,
      outlook_of_pending_eq_nil (by simpa [← hc] using hn') rfl]
    simp only [← List.append_assoc, gists_append _ (evaluate _ _ _ _).1, hg, hf, hea]

end Outlook

/-- Behind a run, a service is what it would be had only its own signals been applied. -/
theorem outlook_run (config : CorrelationConfig) (service : ServiceId)
    (ops : List (Operation × Nat)) (t : Nat) (hs : (ops.map Prod.snd ++ [t]).Pairwise (· ≤ ·)) :
    let full := (new config).run ops
    let alone := (new config).run (ops.filter fun op => op.1.concerns service)
    outlook full.1.flatten full.2 service t = outlook alone.1.flatten alone.2 service t := by
  induction ops using List.reverseRecOn generalizing t with
  | nil => rfl
  | append_singleton ops op ih =>
    obtain ⟨operation, now⟩ := op
    have hmatch : ∀ ops' : List (Operation × Nat),
        OutagesMatch ((new config).run ops').2.config ((new config).run ops').2.memory := by
      intro ops'
      rw [run_config]
      exact outagesMatch_run config ops'
    rw [List.map_append, List.pairwise_append] at hs
    obtain ⟨hb, -, hle⟩ := hs
    have ht : now ≤ t := hle now (by simp) t (by simp)
    dsimp only at ih ⊢
    rw [List.filter_append, run_concat, List.flatten_append, List.flatten_singleton]
    cases hop : operation.concerns service with
    | false =>
      have hbt : (ops.map Prod.snd ++ [t]).Pairwise (· ≤ ·) :=
        List.pairwise_append.2 ⟨(List.pairwise_append.1 hb).1, List.pairwise_singleton _ t,
          fun a hm b hbm => hle a (List.mem_append_left _ hm) b hbm⟩
      rw [List.filter_cons_of_neg (by simp [hop]), List.filter_nil, List.append_nil,
        outlook_apply (hmatch ops) hop ht]
      exact ih t hbt
    | true =>
      obtain ⟨signal, rfl, rfl⟩ : ∃ signal, operation = .correlate signal ∧
          signal.service = service := by
        cases operation <;> simp_all [Operation.concerns]
      rw [List.filter_cons_of_pos (by simp [hop]), List.filter_nil, run_concat, List.flatten_append,
        List.flatten_singleton]
      exact outlook_correlate (by simp) (hmatch ops) (hmatch _) (ih now hb)

/-- Let the operations of a run come in order of time, with a sweep behind them, and take out of it
all operations but the signals about one service and that sweep. What is found out about the service
is the same, and so are, afterwards, its afflictions with their instants, its trackers and its
outage. -/
theorem services_correlated_apart (config : CorrelationConfig) (service : ServiceId)
    (ops : List (Operation × Nat)) (now : Nat)
    (hs : (ops.map Prod.snd ++ [now]).Pairwise (· ≤ ·)) :
    let full := (new config).run (ops ++ [(.sweep, now)])
    let alone :=
      (new config).run (ops.filter (fun op => op.1.concerns service) ++ [(.sweep, now)])
    gists full.1.flatten service = gists alone.1.flatten service ∧
      full.2.memory.about service = alone.2.memory.about service := by
  have ho := outlook_run config service ops now hs
  have hsweep : ∀ ops' : List (Operation × Nat),
      (gists ((new config).run (ops' ++ [(.sweep, now)])).1.flatten service,
        ((new config).run (ops' ++ [(.sweep, now)])).2.memory.about service) =
      outlook ((new config).run ops').1.flatten ((new config).run ops').2 service now := by
    intro ops'
    rw [run_concat, List.flatten_append, List.flatten_singleton]
    rfl
  dsimp only at ho ⊢
  rw [← hsweep, ← hsweep] at ho
  exact Prod.mk.inj ho

theorem services_correlated_apart_sample :
    let config : CorrelationConfig := { wideSpreadThreshold := 2, afflictionTimeoutSecs := some 1 }
    let service := (Signal.sample .lost 7).service
    let time := (Signal.sample .lost 7).time
    let other (kind : SignalKind) (monitor : MonitorId) : Signal :=
      { Signal.sample kind monitor with service := ⟨2, .v4 10 0 0 2, "DNS"⟩ }
    let ops : List (Operation × Nat) :=
      [(.correlate (.sample .lost 7), 0), (.correlate (other .lost 7), 10),
        (.correlate (.sample .lost 8), 400), (.correlate (other .lost 8), 900), (.stats, 1000),
        (.sweep, 1300), (.correlate (other .regained 7), 1400), (.correlate (.sample .lost 7), 1500)]
    let full := (new config).run (ops ++ [(.sweep, 2500)])
    let alone := (new config).run
      (ops.filter (fun op => op.1.concerns service) ++ [(.sweep, 2500)])
    (ops.map Prod.snd ++ [2500]).Pairwise (· ≤ ·) ∧
      gists full.1.flatten service =
        [⟨.wideSpreadOutage, none, some time⟩, ⟨.wideSpreadOutageResolved, none, none⟩] ∧
      gists full.1.flatten service = gists alone.1.flatten service ∧
      full.2.memory.about service = alone.2.memory.about service := by
  intro config service time other ops
  have hs : (ops.map Prod.snd ++ [2500]).Pairwise (· ≤ ·) := by decide
  exact ⟨hs, by cbv, services_correlated_apart config service ops 2500 hs⟩

end Engine

end ServiceWatch
