import ServiceWatch.Proofs.Correlation.Outage

/-! The findings about the outages of a service tell, in turn, when one began and when it ended. -/
namespace ServiceWatch.Engine

/-- The kinds of the findings about the outages of a service, in their order. -/
def outageKinds (found : List Finding) (service : ServiceId) : List EventKind :=
  (found.filter fun f => f.service = service ∧
    (f.kind = .wideSpreadOutage ∨ f.kind = .wideSpreadOutageResolved)).map Finding.kind

/-- Outages and resolutions take turns, and an outage comes first. -/
def Alternates (kinds : List EventKind) : Prop :=
  ∀ i (h : i < kinds.length),
    kinds[i] = if i % 2 = 0 then .wideSpreadOutage else .wideSpreadOutageResolved

theorem alternates_concat {kinds : List EventKind} {kind : EventKind} :
    Alternates (kinds ++ [kind]) ↔
      Alternates kinds ∧
        kind = if kinds.length % 2 = 0 then .wideSpreadOutage else .wideSpreadOutageResolved := by
  constructor
  · intro h
    refine ⟨fun i hi => ?_, ?_⟩
    · have ha := h i (by simp; omega)
      rwa [List.getElem_append_left hi] at ha
    · have ha := h kinds.length (by simp)
      simpa using ha
  · rintro ⟨h, hk⟩ i hi
    by_cases hl : i < kinds.length
    · rw [List.getElem_append_left hl]
      exact h i hl
    · have he : i = kinds.length := by
        simp at hi
        omega
      subst he
      simpa using hk

/-- The last turn is an outage just after an odd number of turns. -/
theorem Alternates.getLast?_eq_iff {kinds : List EventKind} (h : Alternates kinds) :
    kinds.getLast? = some .wideSpreadOutage ↔ kinds.length % 2 = 1 := by
  cases kinds using List.reverseRecOn with
  | nil => simp
  | append_singleton kinds kind =>
    have hk := (alternates_concat.1 h).2
    rw [List.getLast?_concat, hk]
    by_cases he : kinds.length % 2 = 0
    · simp [he]
      omega
    · simp [he]
      omega

/-- The findings tell of each service when its outages began and ended, up to the present. -/
def Tells (found : List Finding) (m : WorkingMemory) : Prop :=
  ∀ service, Alternates (outageKinds found service) ∧
    ((outageKinds found service).getLast? = some .wideSpreadOutage ↔ m.hasOutage service = true)

theorem outageKinds_append (found found' : List Finding) (service : ServiceId) :
    outageKinds (found ++ found') service =
      outageKinds found service ++ outageKinds found' service := by
  simp [outageKinds]

/-- One more outage or resolution of a service continues the tale, if it changes the facts. -/
theorem Tells.concat {found : List Finding} {m m' : WorkingMemory} {f : Finding} (h : Tells found m)
    (hf : f.kind = if m.hasOutage f.service then .wideSpreadOutageResolved else .wideSpreadOutage)
    (hs : m'.hasOutage f.service = !m.hasOutage f.service)
    (hr : ∀ service, service ≠ f.service → m'.hasOutage service = m.hasOutage service) :
    Tells (found ++ [f]) m' := by
  intro service
  rw [outageKinds_append]
  by_cases he : service = f.service
  · subst he
    obtain ⟨ha, hl⟩ := h f.service
    have hk : outageKinds [f] f.service = [f.kind] := by
      cases ho : m.hasOutage f.service <;> simp [outageKinds, hf, ho]
    rw [ha.getLast?_eq_iff] at hl
    rw [hk, List.getLast?_concat, hs]
    refine ⟨alternates_concat.2 ⟨ha, ?_⟩, ?_⟩
    · rw [hf]
      by_cases ho : m.hasOutage f.service = true
      · rw [if_pos ho, if_neg]
        have := hl.2 ho
        omega
      · rw [if_neg ho, if_pos]
        have := mt hl.1 ho
        omega
    · cases ho : m.hasOutage f.service <;> simp [hf, ho]
  · have hk : outageKinds [f] service = [] := by simp [outageKinds, Ne.symm he]
    rw [hk, List.append_nil, hr service he]
    exact h service

theorem Tells.evaluateWideSpread {found : List Finding} {m : WorkingMemory} (h : Tells found m)
    (config : CorrelationConfig) (service : ServiceId) (now : Nat) (cause : Cause) :
    Tells (found ++ (evaluateWideSpread config m service now cause).1)
      (evaluateWideSpread config m service now cause).2 := by
  rcases evaluateWideSpread_cases config m now cause service with ⟨-, he⟩ | ⟨hw, he⟩
  · rw [he, List.append_nil]
    exact h
  · rw [he]
    refine h.concat rfl ?_ fun service' hs => ?_
    · rw [hasOutage_evaluateWideSpread, if_pos rfl, hw]
    · rw [hasOutage_evaluateWideSpread, if_neg hs]

theorem Tells.evaluateServices {found : List Finding} {m : WorkingMemory} (h : Tells found m)
    (config : CorrelationConfig) (now : Nat) (cause : Cause) (services : List ServiceId) :
    Tells (found ++ (evaluateServices config now cause services m).1)
      (evaluateServices config now cause services m).2 := by
  induction services generalizing found m with
  | nil => simpa [Engine.evaluateServices] using h
  | cons service services ih =>
    have hs := ih (h.evaluateWideSpread config service now cause)
    rwa [List.append_assoc] at hs

theorem Tells.of_hasOutage_eq {found : List Finding} {m m' : WorkingMemory} (h : Tells found m)
    (hm : ∀ service, m'.hasOutage service = m.hasOutage service) : Tells found m' := by
  intro service
  rw [hm]
  exact h service

theorem Tells.expire {found : List Finding} {e : Engine} (h : Tells (found ++ e.pending) e.memory)
    (now : Nat) : Tells (found ++ (e.expire now).pending) (e.expire now).memory := by
  unfold Engine.expire
  split
  · exact h.of_hasOutage_eq fun _ => rfl
  · rename_i timeout _
    let m := (e.memory.expireTrackers now e.config.flapInterval).2
    have hm : Tells (found ++ e.pending) (m.expireAfflictions now timeout).2 :=
      h.of_hasOutage_eq fun _ => rfl
    have hs := hm.evaluateServices e.config now (.expiry now) (m.expireAfflictions now timeout).1
    rwa [List.append_assoc] at hs

/-- Reports of flapping are no part of the tale. -/
theorem Tells.evaluate {found : List Finding} {m m' : WorkingMemory} (h : Tells found m)
    {config : CorrelationConfig} {signal : Signal} {now : Nat}
    (ho : observe config m signal now = some m') :
    Tells (found ++ (evaluate config m' signal now).1) (evaluate config m' signal now).2 := by
  let cause := Cause.signal signal.time
  obtain ⟨-, hout, -, -⟩ := observe_eq_some ho
  have hf : Tells (found ++ (evaluateFlapping config m' signal.sighting cause).1)
      (evaluateFlapping config m' signal.sighting cause).2 := by
    have hk : ∀ service,
        outageKinds (evaluateFlapping config m' signal.sighting cause).1 service = [] := by
      intro service
      rcases evaluateFlapping_found config m' cause signal.sighting with he | he <;>
        simp [he, outageKinds]
    intro service
    rw [outageKinds_append, hk, List.append_nil]
    simpa [WorkingMemory.hasOutage, hout] using h service
  have hw := hf.evaluateWideSpread config signal.service now cause
  rwa [List.append_assoc] at hw

/-- What waits to be handed out are resolutions, of different services without an outage. -/
structure Settled (pending : List Finding) (m : WorkingMemory) : Prop where
  resolved : ∀ f ∈ pending, f.kind = .wideSpreadOutageResolved
  closed : ∀ f ∈ pending, m.hasOutage f.service = false
  nodup : (pending.map Finding.service).Nodup

theorem Settled.nil (m : WorkingMemory) : Settled [] m :=
  ⟨by simp, by simp, by simp⟩

theorem Settled.of_hasOutage_eq {pending : List Finding} {m m' : WorkingMemory}
    (h : Settled pending m) (hm : ∀ service, m'.hasOutage service = m.hasOutage service) :
    Settled pending m' :=
  ⟨h.resolved, fun f hf => (hm f.service).trans (h.closed f hf), h.nodup⟩

/-- Where no service is due an outage, an evaluation only resolves. -/
theorem Settled.evaluateWideSpread {pending : List Finding} {m : WorkingMemory}
    (h : Settled pending m) {config : CorrelationConfig} {service : ServiceId}
    (hd : isWideSpread config (m.afflictedMonitors service) = true → m.hasOutage service = true)
    (now : Nat) (cause : Cause) :
    Settled (pending ++ (evaluateWideSpread config m service now cause).1)
      (evaluateWideSpread config m service now cause).2 := by
  rcases evaluateWideSpread_cases config m now cause service with ⟨-, he⟩ | ⟨hw, he⟩
  · rw [he, List.append_nil]
    exact h
  · have ho : m.hasOutage service = true := by
      cases ho : m.hasOutage service with
      | true => rfl
      | false =>
        rw [ho] at hw hd
        exact hd hw
    have hn : ∀ f ∈ pending, f.service ≠ service := by
      rintro f hf rfl
      rw [h.closed f hf] at ho
      contradiction
    rw [he, ho, if_pos rfl]
    refine ⟨fun f hf => ?_, fun f hf => ?_, ?_⟩
    · rcases List.mem_append.1 hf with hf | hf
      · exact h.resolved f hf
      · rw [List.mem_singleton.1 hf]
    · rw [hasOutage_evaluateWideSpread]
      rcases List.mem_append.1 hf with hf | hf
      · rw [if_neg (hn f hf)]
        exact h.closed f hf
      · rw [List.mem_singleton.1 hf, if_pos rfl, hw, ho]
        rfl
    · rw [List.map_append, List.nodup_append]
      refine ⟨h.nodup, by simp, ?_⟩
      rintro _ ha _ hb rfl
      obtain ⟨f, hf, hs⟩ := List.mem_map.1 ha
      exact hn f hf (hs.trans (by simpa using hb))

theorem Settled.evaluateServices {pending : List Finding} {m : WorkingMemory}
    (h : Settled pending m) {config : CorrelationConfig}
    (hd : ∀ service, isWideSpread config (m.afflictedMonitors service) = true →
      m.hasOutage service = true) (now : Nat) (cause : Cause) (services : List ServiceId) :
    Settled (pending ++ (evaluateServices config now cause services m).1)
      (evaluateServices config now cause services m).2 := by
  induction services generalizing pending m with
  | nil => simpa [Engine.evaluateServices] using h
  | cons service services ih =>
    have hc : ∀ s, (Engine.evaluateWideSpread config m service now cause).2.afflictedMonitors s =
        m.afflictedMonitors s := by
      intro s
      simp [WorkingMemory.afflictedMonitors]
    have hs := ih (h.evaluateWideSpread (hd service) now cause) (by
      intro s hw
      rw [hc] at hw
      rw [hasOutage_evaluateWideSpread]
      split
      · rename_i he
        rwa [he] at hw
      · exact hd s hw)
    rwa [List.append_assoc] at hs

/-- Fewer monitors ask for no outage that more of them do not ask for. -/
theorem isWideSpread_mono {config : CorrelationConfig} {n k : Nat} (h : n ≤ k)
    (hw : isWideSpread config n = true) : isWideSpread config k = true := by
  simp only [isWideSpread, Bool.and_eq_true, decide_eq_true_eq] at hw ⊢
  omega

/-- Expiry only resolves, since it never adds to the monitors that report a service. -/
theorem Settled.expire {e : Engine} (h : Settled e.pending e.memory)
    (hm : OutagesMatch e.config e.memory) (now : Nat) :
    Settled (e.expire now).pending (e.expire now).memory := by
  unfold Engine.expire
  split
  · exact h.of_hasOutage_eq fun _ => rfl
  · rename_i timeout _
    let m := (e.memory.expireTrackers now e.config.flapInterval).2
    have hs : Settled e.pending (m.expireAfflictions now timeout).2 :=
      h.of_hasOutage_eq fun _ => rfl
    refine hs.evaluateServices (fun service hw => ?_) now _ _
    have hle := m.afflictedMonitors_expire_le now timeout service
    have ho := isWideSpread_mono hle hw
    exact (hm service).trans ho

/-- In every run, the findings handed out so far and those that wait tell of each service when its
outages began and ended; and what waits are resolutions. -/
theorem tells_run (config : CorrelationConfig) (ops : List (Operation × Nat)) :
    Tells (((new config).run ops).1.flatten ++ ((new config).run ops).2.pending)
        ((new config).run ops).2.memory ∧
      Settled ((new config).run ops).2.pending ((new config).run ops).2.memory := by
  have h := run_induction config
    (P := fun found e => OutagesMatch config e.memory ∧ Tells (found ++ e.pending) e.memory ∧
      Settled e.pending e.memory) ?_ ?_ ?_ ?_ ops
  · exact h.2
  · rintro found e now rfl ⟨hm, ht, hs⟩
    exact ⟨hm.expire now, ht.expire now, hs.expire hm now⟩
  · rintro found e ⟨hm, ht, -⟩
    exact ⟨hm, by simpa using ht, .nil _⟩
  · rintro found e signal now m rfl hp ⟨hm, ht, -⟩ ho
    rw [hp, List.append_nil] at ht
    exact ⟨hm.news ho, by simpa [hp] using ht.evaluate ho, hp ▸ .nil _⟩
  · refine ⟨.empty config, fun _ => ⟨?_, ?_⟩, .nil _⟩
    · simp [Alternates, outageKinds, new]
    · simp [outageKinds, new]

/-- Take all findings that a run handed out and behind them those that still wait. Those about the
outages of one service take turns, an outage first, and the last one is an outage just if the service
has one now. What waits are resolutions of different services, none of which has an outage. -/
theorem outage_findings_take_turns (config : CorrelationConfig) (ops : List (Operation × Nat))
    (service : ServiceId) :
    let found := ((new config).run ops).1.flatten
    let e := ((new config).run ops).2
    let kinds := outageKinds (found ++ e.pending) service
    Alternates kinds ∧
      (kinds.getLast? = some .wideSpreadOutage ↔ e.memory.hasOutage service = true) ∧
      (∀ f ∈ e.pending,
        f.kind = .wideSpreadOutageResolved ∧ e.memory.hasOutage f.service = false) ∧
      (e.pending.map Finding.service).Nodup := by
  intro found e kinds
  obtain ⟨ht, hs⟩ := tells_run config ops
  exact ⟨(ht service).1, (ht service).2, fun f hf => ⟨hs.resolved f hf, hs.closed f hf⟩, hs.nodup⟩

end ServiceWatch.Engine
