import Mathlib.Data.List.Perm.Basic
import ServiceWatch.Proofs.Correlation.FlapReports
import ServiceWatch.Proofs.Correlation.Redundancy

/-! Of signals that arrive at one instant, only the order of those about one sighting matters. -/
namespace ServiceWatch

/-- What is known of a sighting: since when it is lost, and its tracker. -/
def WorkingMemory.seen (m : WorkingMemory) (s : Sighting) : Option Nat × Option FlapTracker :=
  (m.afflictions.get? s, m.trackers.get? s)

theorem perm_of_forall_filter_eq {α κ : Type} [DecidableEq α] [DecidableEq κ] (key : α → κ)
    {l l' : List α} (h : ∀ k, l.filter (key · = k) = l'.filter (key · = k)) : l.Perm l' := by
  rw [List.perm_iff_count]
  intro a
  have hc := congrArg (List.count a) (h (key a))
  rwa [List.count_filter (by simp), List.count_filter (by simp)] at hc

namespace Engine

/-! ### One signal -/

section Signal

variable {config : CorrelationConfig} {m m' : WorkingMemory} {signal : Signal} {now : Nat}

theorem seen_observe_of_ne (ho : observe config m signal now = some m') {s : Sighting}
    (hs : s ≠ signal.sighting) : m'.seen s = m.seen s := by
  obtain ⟨-, -, haff, htr⟩ := observe_eq_some ho
  unfold WorkingMemory.seen
  rw [haff, htr, if_neg hs, if_neg hs]

/-- Whether a signal tells something new, and what it leaves of its sighting, follows from what is
known of the sighting. -/
theorem seen_observe_congr (h : m.seen signal.sighting = m'.seen signal.sighting) :
    (observe config m signal now).map (·.seen signal.sighting) =
      (observe config m' signal now).map (·.seen signal.sighting) := by
  obtain ⟨ha, ht⟩ := Prod.mk.inj h
  have hn : (observe config m signal now).isSome = (observe config m' signal now).isSome := by
    rw [observe_isSome, observe_isSome]
    unfold isNews WorkingMemory.isAfflicted
    rw [ha]
  cases ho : observe config m signal now with
  | none =>
    rw [ho, Option.isSome_none, eq_comm, Option.isSome_eq_false_iff,
      Option.isNone_iff_eq_none] at hn
    rw [hn]
  | some n =>
    rw [ho, Option.isSome_some, eq_comm, Option.isSome_iff_exists] at hn
    obtain ⟨n', ho'⟩ := hn
    obtain ⟨-, -, haff, htr⟩ := observe_eq_some ho
    obtain ⟨-, -, haff', htr'⟩ := observe_eq_some ho'
    rw [ho', Option.map_some, Option.map_some]
    unfold WorkingMemory.seen
    simp only [haff, haff', htr, htr', if_pos, ha, ht]

theorem seen_evaluate (s : Sighting) :
    (evaluate config m signal now).2.seen s =
      if s = signal.sighting then ((m.seen s).1, (m.seen s).2.map (·.settle config))
      else m.seen s := by
  have ha : (evaluate config m signal now).2.afflictions = m.afflictions := by
    simp [evaluate]
  unfold WorkingMemory.seen
  rw [get?_trackers_evaluate, ha]
  by_cases hs : s = signal.sighting
  · rw [if_pos hs, if_pos hs, hs]
  · rw [if_neg hs, if_neg hs]

end Signal

/-- An engine whose facts are all fresh, with no flapping left to be told. -/
structure Ready (e : Engine) (now : Nat) : Prop where
  fresh : Fresh e.config e.memory now
  pending : ∀ f ∈ e.pending, f.kind ≠ .serviceFlapping

section Ready

variable {e e' : Engine} {now : Nat}

theorem ready_correlate (hw : 0 < e.config.flapInterval)
    (ht : e.config.afflictionTimeoutSecs ≠ some 0) (signal : Signal) :
    (e.correlate signal now).2.Ready now := by
  have hc : (e.correlate signal now).2.config = e.config :=
    apply_config e (.correlate signal) now
  constructor
  · rw [hc]
    exact fresh_apply hw ht (.correlate signal) now
  · rw [pending_correlate]
    simp

theorem Ready.correlate_eq (h : e.Ready now) (signal : Signal) :
    e.correlate signal now =
      match observe e.config e.memory signal now with
      | none => (e.pending, { e with pending := [] })
      | some m => (e.pending ++ (evaluate e.config m signal now).1,
          { e with memory := (evaluate e.config m signal now).2, pending := [] }) := by
  have he : e.expire now = e := expire_of_fresh h.fresh
  unfold Engine.correlate
  cases ho : observe e.config e.memory signal now <;> simp only [he, ho]

/-- A signal leaves the other sightings alone. -/
theorem Ready.correlate_of_ne (h : e.Ready now) {signal : Signal} {s : Sighting}
    (hs : s ≠ signal.sighting) :
    (e.correlate signal now).2.memory.seen s = e.memory.seen s ∧
      flapReports (e.correlate signal now).1 s = [] := by
  have hp := flapReports_of_kind_ne h.pending s
  rw [h.correlate_eq]
  cases ho : observe e.config e.memory signal now with
  | none => exact ⟨rfl, hp⟩
  | some m =>
    dsimp only
    rw [seen_evaluate, if_neg hs, seen_observe_of_ne ho hs, flapReports_append, hp,
      flapReports_evaluate, if_neg (fun hr => hs hr.1)]
    exact ⟨rfl, rfl⟩

/-- What a signal does to its sighting follows from what is known of the sighting. -/
theorem Ready.correlate_congr (h : e.Ready now) (h' : e'.Ready now) (hc : e.config = e'.config)
    {signal : Signal}
    (hs : e.memory.seen signal.sighting = e'.memory.seen signal.sighting) :
    (e.correlate signal now).2.memory.seen signal.sighting =
        (e'.correlate signal now).2.memory.seen signal.sighting ∧
      flapReports (e.correlate signal now).1 signal.sighting =
        flapReports (e'.correlate signal now).1 signal.sighting := by
  have hp := flapReports_of_kind_ne h.pending signal.sighting
  have hp' := flapReports_of_kind_ne h'.pending signal.sighting
  have ho : (observe e.config e.memory signal now).map (·.seen signal.sighting) =
      (observe e.config e'.memory signal now).map (·.seen signal.sighting) := seen_observe_congr hs
  rw [h.correlate_eq, h'.correlate_eq, ← hc]
  cases hm : observe e.config e.memory signal now with
  | none =>
    rw [hm, Option.map_none, eq_comm, Option.map_eq_none_iff] at ho
    rw [ho]
    exact ⟨hs, hp.trans hp'.symm⟩
  | some m =>
    rw [hm, Option.map_some, eq_comm, Option.map_eq_some_iff] at ho
    obtain ⟨m', hm', hseen⟩ := ho
    have ht : m'.trackers.get? signal.sighting = m.trackers.get? signal.sighting :=
      congrArg Prod.snd hseen
    rw [hm']
    dsimp only
    rw [seen_evaluate, seen_evaluate, hseen, flapReports_append, flapReports_append, hp, hp',
      flapReports_evaluate, flapReports_evaluate, ht]
    exact ⟨rfl, rfl⟩

end Ready

/-! ### Batches -/

def arriving (batch : List Signal) (now : Nat) : List (Operation × Nat) :=
  batch.map fun signal => (.correlate signal, now)

/-- Two batches hold the same signals, and those about one sighting in the same order. -/
def SameTurns (batch batch' : List Signal) : Prop :=
  ∀ s : Sighting, batch.filter (·.sighting = s) = batch'.filter (·.sighting = s)

theorem SameTurns.perm {batch batch' : List Signal} (h : SameTurns batch batch') :
    batch.Perm batch' :=
  perm_of_forall_filter_eq Signal.sighting h

/-- Neighbours about different sightings may change places. -/
theorem SameTurns.swap {signal signal' : Signal} (h : signal.sighting ≠ signal'.sighting)
    (before behind : List Signal) :
    SameTurns (before ++ signal :: signal' :: behind) (before ++ signal' :: signal :: behind) := by
  intro s
  rw [List.filter_append, List.filter_append]
  by_cases hs : signal.sighting = s
  · have hs' : signal'.sighting ≠ s := fun hs' => h (hs.trans hs'.symm)
    simp [hs, hs']
  · simp [List.filter_cons, hs]

/-- A sighting behind a batch is what it would be behind the signals about it alone. -/
theorem Ready.run_arriving {e e' : Engine} {now : Nat} (h : e.Ready now) (h' : e'.Ready now)
    (hc : e.config = e'.config) (hw : 0 < e.config.flapInterval)
    (ht : e.config.afflictionTimeoutSecs ≠ some 0) {s : Sighting}
    (hs : e.memory.seen s = e'.memory.seen s) (batch : List Signal) :
    let full := e.run (arriving batch now)
    let own := e'.run (arriving (batch.filter (·.sighting = s)) now)
    full.2.memory.seen s = own.2.memory.seen s ∧
      flapReports full.1.flatten s = flapReports own.1.flatten s := by
  induction batch generalizing e e' with
  | nil => exact ⟨hs, rfl⟩
  | cons signal rest ih =>
    have hcfg : (e.correlate signal now).2.config = e.config :=
      apply_config e (.correlate signal) now
    have hcfg' : (e'.correlate signal now).2.config = e'.config :=
      apply_config e' (.correlate signal) now
    have hr : (e.correlate signal now).2.Ready now := ready_correlate hw ht signal
    have hrun : ∀ (e : Engine) (rest : List Signal), e.run (arriving (signal :: rest) now) =
        ((e.correlate signal now).1 :: ((e.correlate signal now).2.run (arriving rest now)).1,
          ((e.correlate signal now).2.run (arriving rest now)).2) := fun _ _ => rfl
    by_cases hsig : signal.sighting = s
    · subst hsig
      obtain ⟨hseen, hfound⟩ := h.correlate_congr h' hc hs
      have hr' : (e'.correlate signal now).2.Ready now :=
        ready_correlate (by rwa [← hc]) (by rwa [← hc]) signal
      obtain ⟨hend, hmore⟩ := ih hr hr' (by rw [hcfg, hcfg', hc]) (by rwa [hcfg])
        (by rwa [hcfg]) hseen
      rw [List.filter_cons_of_pos (by simp), hrun, hrun]
      dsimp only
      rw [List.flatten_cons, List.flatten_cons, flapReports_append, flapReports_append, hfound,
        hmore]
      exact ⟨hend, rfl⟩
    · obtain ⟨hseen, hfound⟩ := h.correlate_of_ne (Ne.symm hsig)
      obtain ⟨hend, hmore⟩ := ih hr h' (by rw [hcfg, hc]) (by rwa [hcfg]) (by rwa [hcfg])
        (hseen.trans hs)
      rw [List.filter_cons_of_neg (by simpa using hsig), hrun]
      dsimp only
      rw [List.flatten_cons, flapReports_append, hfound, List.nil_append]
      exact ⟨hend, hmore⟩

theorem pending_run_arriving (e : Engine) {batch : List Signal} (hb : batch ≠ []) (now : Nat) :
    (e.run (arriving batch now)).2.pending = [] := by
  obtain ⟨front, signal, rfl⟩ := (List.eq_nil_or_concat batch).resolve_left hb
  have ha : arriving (front.concat signal) now =
      arriving front now ++ [(.correlate signal, now)] := by
    simp [arriving]
  rw [ha, run_concat]
  exact pending_correlate _ signal now

/-- An engine that expires before the first signal of a batch is none the wiser. -/
theorem run_arriving_expire (e : Engine) {batch : List Signal} (hb : batch ≠ []) (now : Nat) :
    (e.expire now).run (arriving batch now) = e.run (arriving batch now) := by
  have hx : (e.expire now).expire now = e.expire now := by
    apply expire_of_fresh
    rw [expire_config]
    exact e.fresh_expire now
  cases batch with
  | nil => contradiction
  | cons signal rest =>
    have hs : (e.expire now).correlate signal now = e.correlate signal now := by
      unfold correlate
      rw [hx]
    show ((((e.expire now).correlate signal now).1 ::
        (((e.expire now).correlate signal now).2.run (arriving rest now)).1),
      (((e.expire now).correlate signal now).2.run (arriving rest now)).2) = _
    rw [hs]
    rfl

/-- Findings of flapping are the same ones if they are the same for each sighting. -/
theorem perm_flapping {found found' : List Finding}
    (h : ∀ s, flapReports found s = flapReports found' s)
    (hm : ∀ f ∈ found, f.kind = .serviceFlapping → ∃ monitor, f.monitor = some monitor)
    (hm' : ∀ f ∈ found', f.kind = .serviceFlapping → ∃ monitor, f.monitor = some monitor) :
    (found.filter (·.kind = .serviceFlapping)).Perm
      (found'.filter (·.kind = .serviceFlapping)) := by
  apply perm_of_forall_filter_eq fun f => (f.service, f.monitor)
  rintro ⟨service, _ | monitor⟩
  · have hnone : ∀ {l : List Finding},
        (∀ f ∈ l, f.kind = .serviceFlapping → ∃ monitor, f.monitor = some monitor) →
          (l.filter (·.kind = .serviceFlapping)).filter
            (fun f => (f.service, f.monitor) = (service, none)) = [] := by
      intro l hl
      rw [List.filter_eq_nil_iff]
      intro f hf
      obtain ⟨hf, hk⟩ := List.mem_filter.1 hf
      obtain ⟨monitor, hmon⟩ := hl f hf (by simpa using hk)
      simp [hmon]
    rw [hnone hm, hnone hm']
  · have hsome : ∀ l : List Finding,
        (l.filter (·.kind = .serviceFlapping)).filter
          (fun f => (f.service, f.monitor) = (service, some monitor)) =
            flapReports l ⟨service, monitor⟩ := by
      intro l
      rw [List.filter_filter]
      apply List.filter_congr
      intro f _
      simp [Bool.and_comm]
    rw [hsome, hsome, h]

/-! ### Outages -/

/-- How many more outages of a service were found to begin than to end. -/
def outageBalance (found : List Finding) (service : ServiceId) : Int :=
  (outageKinds found service).count .wideSpreadOutage -
    (outageKinds found service).count .wideSpreadOutageResolved

theorem outageBalance_append (found found' : List Finding) (service : ServiceId) :
    outageBalance (found ++ found') service =
      outageBalance found service + outageBalance found' service := by
  unfold outageBalance
  rw [outageKinds_append, List.count_append, List.count_append]
  omega

theorem Alternates.count_sub_count {kinds : List EventKind} (h : Alternates kinds) :
    (kinds.count .wideSpreadOutage : Int) - kinds.count .wideSpreadOutageResolved =
      (kinds.length % 2 : Nat) := by
  induction kinds using List.reverseRecOn with
  | nil => rfl
  | append_singleton kinds kind ih =>
    obtain ⟨hkinds, hkind⟩ := alternates_concat.1 h
    have hk := ih hkinds
    rw [List.count_append, List.count_append, List.length_append, List.length_singleton]
    by_cases hl : kinds.length % 2 = 0
    · rw [if_pos hl] at hkind
      have h1 : [kind].count .wideSpreadOutage = 1 := by rw [hkind]; rfl
      have h2 : [kind].count .wideSpreadOutageResolved = 0 := by rw [hkind]; rfl
      omega
    · rw [if_neg hl] at hkind
      have h1 : [kind].count .wideSpreadOutage = 0 := by rw [hkind]; rfl
      have h2 : [kind].count .wideSpreadOutageResolved = 1 := by rw [hkind]; rfl
      omega

theorem Tells.outageBalance_eq {found : List Finding} {m : WorkingMemory} (h : Tells found m)
    (service : ServiceId) :
    outageBalance found service = if m.hasOutage service = true then 1 else 0 := by
  obtain ⟨ha, hl⟩ := h service
  rw [ha.getLast?_eq_iff] at hl
  unfold outageBalance
  rw [ha.count_sub_count]
  split
  · have := hl.2 ‹_›
    omega
  · have := mt hl.1 ‹_›
    omega

/-- What a batch adds to the balance brings it up to the outage that there is behind it. -/
theorem outageBalance_arriving (config : CorrelationConfig) (ops : List (Operation × Nat))
    {batch : List Signal} (hb : batch ≠ []) (now : Nat) (service : ServiceId) :
    let before := (new config).run ops
    let behind := before.2.run (arriving batch now)
    outageBalance before.1.flatten service + outageBalance behind.1.flatten service =
      if behind.2.memory.hasOutage service = true then 1 else 0 := by
  intro before behind
  have ht := (tells_run config (ops ++ arriving batch now)).1
  rw [run_append] at ht
  have hp : behind.2.pending = [] := pending_run_arriving before.2 hb now
  have hbal := ht.outageBalance_eq service
  rw [List.flatten_append, outageBalance_append, outageBalance_append] at hbal
  rw [← hbal]
  show _ = _ + _ + outageBalance behind.2.pending service
  rw [hp]
  exact (add_zero _).symm

/-- Let neither the flap interval nor the timeout be zero, and let some signals arrive at one instant,
behind any run, in two orders that agree on those about one sighting. Either way the afflictions, the
trackers and the services with an outage are the same afterwards; the same findings of flapping are
made, though not in one order; and of each service the same number of outages more began than ended,
though in one order an outage may have come and gone that never was in the other. -/
theorem simultaneous_signals_commute (config : CorrelationConfig) (hw : 0 < config.flapInterval)
    (ht : config.afflictionTimeoutSecs ≠ some 0) (ops : List (Operation × Nat)) (now : Nat)
    {batch batch' : List Signal} (hb : SameTurns batch batch') :
    let e := ((new config).run ops).2
    let one := e.run (arriving batch now)
    let other := e.run (arriving batch' now)
    (∀ s, one.2.memory.afflictions.get? s = other.2.memory.afflictions.get? s) ∧
      (∀ s, one.2.memory.trackers.get? s = other.2.memory.trackers.get? s) ∧
      (∀ service, one.2.memory.hasOutage service = other.2.memory.hasOutage service) ∧
      (one.1.flatten.filter (·.kind = .serviceFlapping)).Perm
        (other.1.flatten.filter (·.kind = .serviceFlapping)) ∧
      ∀ service, outageBalance one.1.flatten service = outageBalance other.1.flatten service := by
  intro e one other
  by_cases hn : batch = []
  · have hn' : batch' = [] := by
      subst hn
      exact hb.perm.nil_eq.symm
    have he : one = other := by
      unfold one other
      rw [hn, hn']
    simp [he]
  have hn' : batch' ≠ [] := fun h => hn (h ▸ hb.perm).eq_nil
  have hc : e.config = config := run_config ..
  have hready : (e.expire now).Ready now := by
    constructor
    · rw [expire_config]
      exact e.fresh_expire now
    · exact kind_pending_expire (flapping_names_monitor config ops).2 now
  have hw' : 0 < (e.expire now).config.flapInterval := by rwa [expire_config, hc]
  have ht' : (e.expire now).config.afflictionTimeoutSecs ≠ some 0 := by rwa [expire_config, hc]
  -- both orders leave of a sighting what its own signals do, and these come in one order
  have hs : ∀ s, one.2.memory.seen s = other.2.memory.seen s ∧
      flapReports one.1.flatten s = flapReports other.1.flatten s := by
    intro s
    obtain ⟨hseen, hfound⟩ := hready.run_arriving hready rfl hw' ht' (s := s) rfl batch
    obtain ⟨hseen', hfound'⟩ := hready.run_arriving hready rfl hw' ht' (s := s) rfl batch'
    rw [run_arriving_expire e hn] at hseen hfound
    rw [run_arriving_expire e hn', ← hb s] at hseen' hfound'
    exact ⟨hseen.trans hseen'.symm, hfound.trans hfound'.symm⟩
  have ha : ∀ s, one.2.memory.afflictions.get? s = other.2.memory.afflictions.get? s :=
    fun s => congrArg Prod.fst (hs s).1
  have hmatch : ∀ batch : List Signal,
      OutagesMatch config (e.run (arriving batch now)).2.memory := by
    intro batch
    have h := outagesMatch_run config (ops ++ arriving batch now)
    rwa [run_append] at h
  have ho : ∀ service, one.2.memory.hasOutage service = other.2.memory.hasOutage service := by
    intro service
    rw [hmatch batch service, hmatch batch' service]
    unfold WorkingMemory.afflictedMonitors
    rw [Afflictions.count_congr fun monitor => congrArg Option.isSome (ha ⟨service, monitor⟩)]
  have hnames : ∀ batch : List Signal, ∀ f ∈ (e.run (arriving batch now)).1.flatten,
      f.kind = .serviceFlapping → ∃ monitor, f.monitor = some monitor := by
    intro batch f hf
    have h := (flapping_names_monitor config (ops ++ arriving batch now)).1
    rw [run_append, List.flatten_append] at h
    exact h f (List.mem_append_right _ hf)
  refine ⟨ha, fun s => congrArg Prod.snd (hs s).1, ho, ?_, fun service => ?_⟩
  · exact perm_flapping (fun s => (hs s).2) (hnames batch) (hnames batch')
  · have hbal := outageBalance_arriving config ops hn now service
    have hbal' := outageBalance_arriving config ops hn' now service
    dsimp only at hbal hbal'
    have hos := ho service
    unfold one other at hos ⊢
    unfold e at hos ⊢
    rw [hos] at hbal
    omega

theorem simultaneous_signals_commute_sample :
    let config : CorrelationConfig :=
      { wideSpreadThreshold := 2, flapCount := 2, afflictionTimeoutSecs := some 60 }
    let ops : List (Operation × Nat) :=
      [(.correlate (.sample .lost 7), 1), (.correlate (.sample .lost 8), 2)]
    let e := ((new config).run ops).2
    let one := e.run (arriving [.sample .regained 7, .sample .lost 9] 3)
    let other := e.run (arriving [.sample .lost 9, .sample .regained 7] 3)
    0 < config.flapInterval ∧ config.afflictionTimeoutSecs ≠ some 0 ∧
      SameTurns [.sample .regained 7, .sample .lost 9] [.sample .lost 9, .sample .regained 7] ∧
      one.1.flatten.map Finding.kind =
        [.serviceFlapping, .wideSpreadOutageResolved, .wideSpreadOutage] ∧
      other.1.flatten.map Finding.kind = [.serviceFlapping] ∧
      (one.1.flatten.filter (·.kind = .serviceFlapping)).Perm
        (other.1.flatten.filter (·.kind = .serviceFlapping)) ∧
      ∀ service, outageBalance one.1.flatten service = outageBalance other.1.flatten service := by
  intro config ops e one other
  have hw : 0 < config.flapInterval := by decide
  have ht : config.afflictionTimeoutSecs ≠ some 0 := by decide
  have hb : SameTurns [.sample .regained 7, .sample .lost 9]
      [.sample .lost 9, .sample .regained 7] := SameTurns.swap (by decide) [] []
  obtain ⟨-, -, -, hflapping, hbalance⟩ := simultaneous_signals_commute config hw ht ops 3 hb
  exact ⟨hw, ht, hb, by decide +kernel, by decide +kernel, hflapping, hbalance⟩

end Engine

end ServiceWatch
