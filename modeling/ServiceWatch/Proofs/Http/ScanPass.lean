import Mathlib.Logic.Relation
import ServiceWatch.Http.Polling
import ServiceWatch.Proofs.Files.Disk
import ServiceWatch.Proofs.Poller.Running

/-! A scan pass over HTTP: what was made ready for other services, or for earlier ones of the same
number, has no part in the result of a check. -/
namespace ServiceWatch.Http.Polling

open ServiceWatch.Poller (Event Inspection Answers inspected inspectionFault? inspectionStatuses
  inspected_cons inspected_cons_of_failure)
open Relation (ReflTransGen)

variable {p p' : Polling} {s : PolledService}

/-! ### One service -/

/-- The fault of a service whose parameters do not make up a check. -/
def fault? (s : PolledService) : Option Poller.Fault :=
  match Check.ofService s with
  | .ok _ => none
  | .error failure => some (.check s.id
      (failure.during ("invalid parameters for service " ++ Text.Decimal.text s.id.toNat)))

def fits (s : PolledService) : Bool := (fault? s).isNone

/-- What is checked over HTTP when there are some locators. -/
def claimed (locators : List ServiceMonitorLocator) (services : List PolledService) :
    List PolledService :=
  services.filter (Polling.claims { locators })

theorem prepare_of_claims {check : Check} (hs : p.claims s = true)
    (hcheck : Check.ofService s = .ok check) :
    p.prepare s = .ok { p with checks := p.checks.insert s.id check } := by
  simp [prepare, hs, hcheck, attempting, bind, Except.bind, pure, Except.pure]

theorem prepare_of_failure {failure : Failure} (hs : p.claims s = true)
    (hcheck : Check.ofService s = .error failure) : p.prepare s = .error
      (failure.during ("invalid parameters for service " ++ Text.Decimal.text s.id.toNat)) := by
  simp [prepare, hs, hcheck, attempting, bind, Except.bind]

theorem prepare_of_unclaimed (hs : p.claims s = false) :
    p.prepare s = .ok { p with checks := p.checks.erase s.id } := by
  simp [prepare, hs, pure, Except.pure]

theorem status_verdict_ne_unknown {service : UInt32} {check : Check}
    {answer : Except Failure (UInt16 × String)} {time : Timestamp} {elapsed : Nat} :
    (verdict service check answer time elapsed).service = service ∧
      (verdict service check answer time elapsed).status ≠ .unknown := by
  unfold verdict
  split
  · exact ⟨rfl, nofun⟩
  · dsimp only
    split <;> exact ⟨rfl, nofun⟩

/-! ### Behind the answers -/

section Steps

variable {σ : Type} (around : Surroundings (StateM σ)) (drift : σ → σ → Prop)

/-- What an event does to the executor, which answers for the checks, and to the world around it. The
world may drift at whatever else happens. -/
def Step (p : Polling) (w : σ) : Event → Polling → σ → Prop
  | .asked (.installLocators locators) _, p', w' => p' = p.installLocators locators ∧ w' = w
  | .asked (.prepare s) x, p', w' =>
    match p.prepare s with
    | .ok ready => x = .ok () ∧ p' = ready ∧ w' = w
    | .error failure => x = .error failure ∧ p' = p ∧ w' = w
  | .asked (.poll s) x, p', w' => p' = p ∧ ∃ y, (p.poll around s).run w = (y, w') ∧ x = .ok y
  | _, p', w' => p' = p ∧ drift w w'

/-- What events do to them, one after the other. -/
def Steps (p : Polling) (w : σ) : List Event → Polling → σ → Prop
  | [], p', w' => p' = p ∧ w' = w
  | e :: es, p', w' => ∃ p₁ w₁, Step around drift p w e p₁ w₁ ∧ Steps p₁ w₁ es p' w'

/-- Services, each with the result of its own check, which was run in the world of its time. -/
inductive Examined : σ → List PolledService → List PollStatus → σ → Prop
  | nil {w w' : σ} (later : ReflTransGen drift w w') : Examined w [] [] w'
  | cons {w w₁ w₂ w' : σ} {s : PolledService} {check : Check} {status : PollStatus}
    {services : List PolledService} {statuses : List PollStatus} (later : ReflTransGen drift w w₁)
    (own : Check.ofService s = .ok check)
    (result : (examine around s.id check).run w₁ = (status, w₂))
    (rest : Examined w₂ services statuses w') :
    Examined w (s :: services) (status :: statuses) w'

variable {around drift} {w w' : σ} {es es' : List Event}

theorem steps_append : Steps around drift p w (es ++ es') p' w' ↔
    ∃ p₁ w₁, Steps around drift p w es p₁ w₁ ∧ Steps around drift p₁ w₁ es' p' w' := by
  induction es generalizing p w with
  | nil => simp [Steps]
  | cons e es ih =>
    simp only [List.cons_append, Steps, ih]
    grind

theorem steps_of_stay (h : ∀ e ∈ es, Step around drift p w e p w) : Steps around drift p w es p w := by
  induction es with
  | nil => exact ⟨rfl, rfl⟩
  | cons e es ih =>
    exact ⟨p, w, h e List.mem_cons_self, ih fun e he => h e (List.mem_cons_of_mem _ he)⟩

theorem Examined.mono {w₁ : σ} {services : List PolledService} {statuses : List PollStatus}
    (h : Examined around drift w₁ services statuses w') (hw : ReflTransGen drift w w₁) :
    Examined around drift w services statuses w' := by
  cases h with
  | nil later => exact .nil (hw.trans later)
  | cons later own result rest => exact .cons (hw.trans later) own result rest

theorem service_examine {service : UInt32} {check : Check} {status : PollStatus}
    (h : (examine around service check).run w = (status, w')) :
    status.service = service ∧ status.status ≠ .unknown := by
  obtain rfl : _ = status := congrArg Prod.fst h
  exact status_verdict_ne_unknown

/-- Every service has one result, which is a verdict on it. -/
theorem Examined.verdicts {services : List PolledService} {statuses : List PollStatus}
    (h : Examined around drift w services statuses w') :
    statuses.map PollStatus.service = services.map PolledService.id ∧
      ∀ status ∈ statuses, status.status ≠ .unknown := by
  induction h with
  | nil => exact ⟨rfl, by simp⟩
  | cons _ _ result _ ih =>
    obtain ⟨hservice, hstatus⟩ := service_examine result
    exact ⟨by simp [hservice, ih.1], by simpa [hstatus] using ih.2⟩

/-! ### Inspections -/

/-- A service that was just prepared is polled by its own check, whatever was ready before. -/
theorem poll_insert {check : Check} :
    (poll { p with checks := p.checks.insert s.id check } around s).run w =
      (some ((examine around s.id check).run w).1, ((examine around s.id check).run w).2) := by
  unfold poll
  rw [Table.get?_insert, if_pos rfl]
  rfl

theorem poll_erase (hs : p.claims s = false) :
    (poll { p with checks := p.checks.erase s.id } around s).run w = (none, w) := by
  have hclaims : Polling.claims { p with checks := p.checks.erase s.id } s = false := hs
  unfold poll
  rw [Table.get?_erase, if_pos rfl, hclaims]
  rfl

theorem step_prepare_of_error {x : Except Failure Unit} {failure : Failure}
    (hs : p.prepare s = .error failure) : Step around drift p w (.asked (.prepare s) x) p' w' ↔
      x = .error failure ∧ p' = p ∧ w' = w := by
  simp only [Step, hs]

theorem step_prepare_of_ok {x : Except Failure Unit} {ready : Polling}
    (hs : p.prepare s = .ok ready) : Step around drift p w (.asked (.prepare s) x) p' w' ↔
      x = .ok () ∧ p' = ready ∧ w' = w := by
  simp only [Step, hs]

theorem steps_asks_of_error {x : Inspection} {failure : Failure} (hs : p.prepare s = .error failure)
    (h : Steps around drift p w (x.asks s) p' w') : p' = p ∧ w' = w ∧ x.failure? = some failure := by
  obtain ⟨prepared, polled⟩ := x
  obtain ⟨p₁, w₁, hprepare, hrest⟩ := h
  obtain ⟨rfl, rfl, rfl⟩ := (step_prepare_of_error hs).1 hprepare
  obtain ⟨rfl, rfl⟩ := hrest
  exact ⟨rfl, rfl, rfl⟩

theorem steps_asks_of_ok {x : Inspection} {ready : Polling} (hs : p.prepare s = .ok ready)
    (h : Steps around drift p w (x.asks s) p' w') :
    p' = ready ∧ ∃ y, (ready.poll around s).run w = (y, w') ∧ x = ⟨.ok (), .ok y⟩ := by
  obtain ⟨prepared, polled⟩ := x
  obtain ⟨p₁, w₁, hprepare, hrest⟩ := h
  obtain ⟨rfl, rfl, rfl⟩ := (step_prepare_of_ok hs).1 hprepare
  obtain ⟨_, _, ⟨rfl, y, hy, rfl⟩, rfl, rfl⟩ := hrest
  exact ⟨rfl, y, hy, rfl⟩

/-- What an inspection comes to: nothing for a service that is not checked over HTTP, a failure if its
parameters do not make up a check, and the result of its own check otherwise. -/
theorem steps_asks {x : Inspection} (h : Steps around drift p w (x.asks s) p' w') :
    p'.locators = p.locators ∧
      (p.claims s = false ∧ x.failure? = none ∧ x.status? = none ∧ w' = w ∨
      p.claims s = true ∧ (∃ failure, x.failure? = some failure ∧
        fault? s = some (.check s.id failure)) ∧ w' = w ∨
      p.claims s = true ∧ fault? s = none ∧ x.failure? = none ∧ ∃ check status,
        x.status? = some status ∧ Check.ofService s = .ok check ∧
          (examine around s.id check).run w = (status, w')) := by
  cases hs : p.claims s with
  | false =>
    obtain ⟨rfl, y, hy, rfl⟩ := steps_asks_of_ok (prepare_of_unclaimed hs) h
    rw [poll_erase hs] at hy
    obtain ⟨rfl, rfl⟩ := Prod.mk.inj hy
    exact ⟨rfl, .inl ⟨rfl, rfl, rfl, rfl⟩⟩
  | true =>
    cases hcheck : Check.ofService s with
    | error failure =>
      obtain ⟨rfl, rfl, hx⟩ := steps_asks_of_error (prepare_of_failure hs hcheck) h
      exact ⟨rfl, .inr (.inl ⟨rfl, ⟨_, hx, by rw [fault?, hcheck]⟩, rfl⟩)⟩
    | ok check =>
      obtain ⟨rfl, y, hy, rfl⟩ := steps_asks_of_ok (prepare_of_claims hs hcheck) h
      rw [poll_insert] at hy
      obtain ⟨rfl, rfl⟩ := Prod.mk.inj hy
      refine ⟨rfl, .inr (.inr ⟨rfl, ?_, rfl, check, _, rfl, rfl, rfl⟩)⟩
      rw [fault?, hcheck]

/-- The inspections of some services go through up to the first one whose parameters do not fit, and
each service among them that is checked over HTTP has the result of its own check. -/
theorem steps_inspected {total first : Nat} {l : List (PolledService × Inspection)}
    {locators : List ServiceMonitorLocator} (hp : p.locators = locators)
    (h : Steps around drift p w (inspected total first l) p' w') :
    inspectionFault? l = (claimed locators (l.map Prod.fst)).findSome? fault? ∧
      Examined around drift w ((claimed locators (l.map Prod.fst)).takeWhile fits)
        (inspectionStatuses l) w' := by
  induction l generalizing p w first with
  | nil =>
    obtain ⟨-, rfl⟩ : p' = p ∧ w' = w := h
    exact ⟨rfl, .nil .refl⟩
  | cons entry l ih =>
    obtain ⟨s, x⟩ := entry
    have hclaims : p.claims s = Polling.claims { locators } s := by
      subst hp
      rfl
    cases hx : x.failure? with
    | some failure =>
      obtain ⟨he, hf, hs⟩ := inspected_cons_of_failure total first l s hx
      rw [he] at h
      rw [hf, hs]
      obtain ⟨-, ⟨-, hnone, -⟩ | ⟨hs, ⟨_, hfailure, hfault⟩, rfl⟩ | ⟨-, -, hnone, -⟩⟩ := steps_asks h
      · simp [hx] at hnone
      · obtain rfl := Option.some.inj (hx.symm.trans hfailure)
        rw [hclaims] at hs
        simp only [claimed, List.map_cons, List.filter_cons_of_pos hs, List.findSome?_cons, hfault,
          List.takeWhile_cons, fits]
        exact ⟨trivial, .nil .refl⟩
      · simp [hx] at hnone
    | none =>
      obtain ⟨he, hf, hs⟩ := inspected_cons total first l s hx
      rw [he] at h
      rw [hf, hs]
      obtain ⟨p₁, w₁, hasks, _, w₂, ⟨rfl, hdrift⟩, hrest⟩ := steps_append.1 h
      obtain ⟨hlocators, hcases⟩ := steps_asks hasks
      obtain ⟨ihf, ihs⟩ := ih (hlocators.trans hp) hrest
      rcases hcases with ⟨hs, -, hstatus, rfl⟩ | ⟨-, ⟨_, hfailure, -⟩, -⟩ |
        ⟨hs, hfault, -, check, status, hstatus, hcheck, hresult⟩
      · rw [hclaims] at hs
        simp only [claimed, List.map_cons, List.filter_cons_of_neg (Bool.not_eq_true _ ▸ hs), hstatus]
        exact ⟨ihf, ihs.mono (.single hdrift)⟩
      · simp [hx] at hfailure
      · rw [hclaims] at hs
        simp only [claimed, List.map_cons, List.filter_cons_of_pos hs, List.findSome?_cons, hfault,
          List.takeWhile_cons, fits, hstatus]
        exact ⟨ihf, .cons .refl hcheck hresult (ihs.mono (.single hdrift))⟩

/-- Whatever was ready before, the executor can answer for any services. -/
theorem exists_steps_inspected (around : Surroundings (StateM σ)) (total first : Nat)
    (services : List PolledService) (p : Polling) (w : σ) :
    ∃ (l : List (PolledService × Inspection)) (p' : Polling) (w' : σ), l.map Prod.fst = services ∧
      Steps around Eq p w (inspected total first l) p' w' := by
  induction services generalizing p w first with
  | nil => exact ⟨[], p, w, rfl, rfl, rfl⟩
  | cons s services ih =>
    cases hs : p.prepare s with
    | error failure =>
      let x : Inspection := ⟨.error failure, .ok none⟩
      have hx : x.failure? = some failure := rfl
      obtain ⟨he, -⟩ := inspected_cons_of_failure total first (services.map (·, x)) s hx
      refine ⟨(s, x) :: services.map (·, x), p, w, ?_, ?_⟩
      · simp [Function.comp_def]
      · rw [he]
        exact ⟨p, w, (step_prepare_of_error hs).2 ⟨rfl, rfl, rfl⟩, rfl, rfl⟩
    | ok ready =>
      obtain ⟨y, w₁, hy⟩ : ∃ y w₁, (ready.poll around s).run w = (y, w₁) := ⟨_, _, rfl⟩
      obtain ⟨l, p', w', rfl, hl⟩ := ih (first + 1) ready w₁
      obtain ⟨he, -⟩ := inspected_cons total first l s (x := ⟨.ok (), .ok y⟩) rfl
      refine ⟨(s, ⟨.ok (), .ok y⟩) :: l, p', w', rfl, ?_⟩
      rw [he]
      exact ⟨ready, w, (step_prepare_of_ok hs).2 ⟨rfl, rfl, rfl⟩, ready, w₁, ⟨rfl, y, hy, rfl⟩,
        ready, w₁, ⟨rfl, rfl⟩, hl⟩

end Steps

/-! ### The pass -/

section Pass

open Poller (Coordinator Listeners Invocation Occurrence Pool HostDetails events)

/-- What a pass shows until it comes to the services. -/
def fetching (id : String) (locators : List ServiceMonitorLocator)
    (configuration : PollerConfiguration) : List Event :=
  [.fired (.percentageComplete .start), .asked (.fetchLocators .remoteMonitor) (.ok locators),
    .asked (.installLocators locators) (), .asked (.fetchConfiguration id) (.ok configuration),
    .asked (.alignClock configuration.serverTime) ()]

variable {x : Answers} {metadata : Table String String} {id : String}
  {locators : List ServiceMonitorLocator} {configuration : PollerConfiguration}

theorem pass_of_fetched (hl : x.locators = .ok locators) (hc : x.configuration = .ok configuration) :
    x.pass metadata id = fetching id locators configuration ++
      (inspected configuration.services.length 0 (x.inspections configuration) ++ (x.ending ++
        [.fired (.percentageComplete .finish), .fired (.exitNecessary (x.report metadata))])) := by
  simp [Answers.pass, Answers.scan, Answers.fetch, Answers.configured, hl, hc, fetching]

theorem exitNecessary_mem_pass {report : ScanReport} :
    .fired (.exitNecessary report) ∈ x.pass metadata id ↔ report = x.report metadata := by
  obtain ⟨es, hes, hpass⟩ := x.exists_pass_eq metadata id
  have hnone : .fired (.exitNecessary report) ∉ es := fun hm => nomatch (hes _ hm).handOver
  simp [hpass, hnone]

/-- The executor works with the locators that a pass fetched. -/
theorem locators_of_steps_fetching {σ : Type} {around : Surroundings (StateM σ)}
    {drift : σ → σ → Prop} {w w' : σ}
    (h : Steps around drift p w (fetching id locators configuration) p' w') :
    p'.locators = locators := by
  obtain ⟨_, _, ⟨rfl, -⟩, _, _, ⟨rfl, -⟩, _, _, ⟨rfl, -⟩, _, _, ⟨rfl, -⟩, _, _, ⟨rfl, -⟩, rfl, -⟩ := h
  rfl

theorem steps_fetching {σ : Type} {around : Surroundings (StateM σ)} (p : Polling) (w : σ) :
    Steps around Eq p w (fetching id locators configuration) (p.installLocators locators) w :=
  ⟨_, _, ⟨rfl, rfl⟩, _, _, ⟨rfl, rfl⟩, _, _, ⟨rfl, rfl⟩, _, _, ⟨rfl, rfl⟩, _, _, ⟨rfl, rfl⟩, rfl, rfl⟩

theorem steps_ending {σ : Type} {around : Surroundings (StateM σ)} (report : ScanReport) (p : Polling)
    (w : σ) : Steps around Eq p w (x.ending ++ [.fired (.percentageComplete .finish),
      .fired (.exitNecessary report)]) p w := by
  refine steps_of_stay fun e he => ?_
  have hstill : e.isAsked = false := by
    unfold Answers.ending at he
    split at he <;> simp only [List.mem_append, List.mem_cons, List.not_mem_nil, or_false] at he
    · rcases he with (rfl | rfl | rfl) | rfl | rfl <;> rfl
    · rcases he with he | rfl | rfl <;> first | contradiction | rfl
  cases e with
  | asked r y => contradiction
  | fired change => exact ⟨rfl, rfl⟩
  | moved a b => exact ⟨rfl, rfl⟩

/-- A pass with an executor over HTTP: whether it fails, and the results that it comes to. -/
theorem steps_pass {σ : Type} {around : Surroundings (StateM σ)} {drift : σ → σ → Prop} {w w' : σ}
    (hl : x.locators = .ok locators) (hc : x.configuration = .ok configuration)
    (h : Steps around drift p w (x.pass metadata id) p' w') :
    x.fault? = (claimed locators configuration.services).findSome? fault? ∧
      ∃ front checking back p₁ w₁ p₂ w₂, x.pass metadata id = front ++ (checking ++ back) ∧
        Steps around drift p w front p₁ w₁ ∧ Steps around drift p₁ w₁ checking p₂ w₂ ∧
        Steps around drift p₂ w₂ back p' w' ∧ Examined around drift w₁
          ((claimed locators configuration.services).takeWhile fits) x.statuses w₂ := by
  have hconfigured : x.configured = .ok configuration := by rw [Answers.configured, hl, hc]
  rw [pass_of_fetched hl hc] at h ⊢
  obtain ⟨p₁, w₁, hfront, hrest⟩ := steps_append.1 h
  obtain ⟨p₂, w₂, hchecking, hback⟩ := steps_append.1 hrest
  obtain ⟨hfault, hexamined⟩ := steps_inspected (locators_of_steps_fetching hfront) hchecking
  rw [x.map_fst_inspections] at hfault hexamined
  refine ⟨?_, _, _, _, p₁, w₁, p₂, w₂, rfl, hfront, hchecking, hback, ?_⟩
  · rw [Answers.fault?, hconfigured, ← hfault]
  · rw [Answers.statuses, hconfigured]
    exact hexamined

/-- Let an executor over HTTP answer a coordinator for the checks, with anything ready from before and
with any behaviour of the network. A pass with some locators and some configuration fails exactly if
there is a service that is checked over HTTP and has parameters that do not fit, at the first such
service. Its report holds the verdicts of their own checks on all services before that one that are
checked over HTTP, and on no others. Parameters of the others are not looked at. And there is such a
pass for all locators and configurations. -/
theorem own_checks_decide_pass {σ : Type} (around : Surroundings (StateM σ)) (c : Coordinator) :
    (∀ drift listeners invocations os q before after t context locators id configuration p p' w w',
      (c.pool listeners invocations).Run os q → q.IsDone →
      (events os).map Prod.snd = before ++ .moved t .running :: after →
      .asked (.fetchLocators context) (.ok locators) ∈ after →
      .asked (.fetchConfiguration id) (.ok configuration) ∈ after →
      Steps around drift p w ((events os).map Prod.snd) p' w' →
        let mine := claimed locators configuration.services
        q.memory.state = (mine.findSome? fault?).elim .running .fatal ∧
        ∃ statuses, statuses.map PollStatus.service = (mine.takeWhile fits).map PolledService.id ∧
          (∀ status ∈ statuses, status.status ≠ .unknown) ∧
          (∀ report, .fired (.exitNecessary report) ∈ after ↔
            report = { ScanReport.ofMetadata c.metadata with statuses }) ∧
          ∃ front checking back p₁ w₁ p₂ w₂,
            (events os).map Prod.snd = front ++ (checking ++ back) ∧
            Steps around drift p w front p₁ w₁ ∧ Steps around drift p₁ w₁ checking p₂ w₂ ∧
            Steps around drift p₂ w₂ back p' w' ∧
            Examined around drift w₁ (mine.takeWhile fits) statuses w₂) ∧
    (∀ (p : Polling) s, p.claims s = false → ∀ parameters,
      p.prepare { s with parameters } = p.prepare s ∧
        p.poll around { s with parameters } = p.poll around s) ∧
    (c.requireAll = .ok () → ∀ listeners id locators configuration p w,
      ∃ os q before after p' w', (c.pool listeners [.startUp]).Run os q ∧ q.IsDone ∧
        (events os).map Prod.snd = before ++ .moved .initial .running :: after ∧
        .asked (.fetchLocators .remoteMonitor) (.ok locators) ∈ after ∧
        .asked (.fetchConfiguration id) (.ok configuration) ∈ after ∧
        Steps around Eq p w ((events os).map Prod.snd) p' w') := by
  refine ⟨?_, fun p s hs parameters => ⟨?_, rfl⟩, ?_⟩
  · intro drift listeners invocations os q before after t context locators id configuration p p' w w'
      h hq hes hlocators hconfiguration hw mine
    obtain ⟨turns, hserial, hshown, -⟩ := h.serial hq (c.keeps_pool listeners invocations)
    obtain ⟨id', details, earlier, x, -, rfl, hend⟩ :=
      (hserial.life (Pool.serves_pool c invocations)).exists_pass (hshown ▸ hes)
    obtain ⟨hl, hc⟩ := Answers.of_fetched (x := x) (by simpa using hlocators)
      (by simpa using hconfiguration)
    rw [hes] at hw ⊢
    obtain ⟨p₀, w₀, hearlier, p₁, w₁, hmoved, p₂, w₂, hstarted, p₃, w₃, hregistered, hpass⟩ :=
      steps_append.1 hw
    obtain ⟨hfault, front, checking, back, p₄, w₄, p₅, w₅, hsplit, hfront, hchecking, hback,
      hexamined⟩ := steps_pass hl hc hpass
    obtain ⟨hservices, hstatuses⟩ := hexamined.verdicts
    refine ⟨by rw [hend, hfault], _, hservices, hstatuses, fun report => ?_,
      before ++ .moved t .running :: .fired (.started false true) :: .fired (.registered false true) ::
        front, checking, back, p₄, w₄, p₅, w₅, by simp [hsplit], ?_, hchecking, hback, hexamined⟩
    · simp only [List.mem_cons, reduceCtorEq, false_or, Event.fired.injEq, exitNecessary_mem_pass]
      rfl
    · exact steps_append.2 ⟨p₀, w₀, hearlier, p₁, w₁, hmoved, p₂, w₂, hstarted, p₃, w₃, hregistered,
        hfront⟩
  · rw [prepare_of_unclaimed hs]
    exact prepare_of_unclaimed hs
  · intro hc listeners id locators configuration p w
    obtain ⟨l, p', w', hl, hsteps⟩ := exists_steps_inspected around configuration.services.length 0
      configuration.services (p.installLocators locators) w
    obtain ⟨f, hf⟩ := Poller.exists_inspection l
    let x : Answers := ⟨.ok locators, .ok configuration, f⟩
    have hinspections : x.inspections configuration = l := by
      rw [← hf, hl]
      rfl
    have hpass : x.pass c.metadata id = _ := pass_of_fetched rfl rfl
    rw [hinspections] at hpass
    obtain ⟨os, q, h, hq, hes⟩ := c.exists_run_pass hc listeners id
      ⟨none, none, "x86_64", .v4 127 0 0 1, none⟩ x
    refine ⟨os, q, _, _, p', w', h, hq, hes, by simp [hpass, fetching], by simp [hpass, fetching], ?_⟩
    rw [hes, hpass]
    refine steps_append.2 ⟨p, w, steps_of_stay (by simp [Step]), ?_⟩
    refine ⟨p, w, ⟨rfl, rfl⟩, p, w, ⟨rfl, rfl⟩, p, w, ⟨rfl, rfl⟩, ?_⟩
    refine steps_append.2 ⟨_, _, steps_fetching p w, ?_⟩
    exact steps_append.2 ⟨p', w', hsteps, steps_ending _ p' w'⟩

theorem own_checks_decide_pass_sample :
    let web : PolledService := ⟨1, 7, none, .v4 10 0 0 1, "HTTP", ∅⟩
    let mail : PolledService := ⟨2, 7, none, .v4 10 0 0 1, "SMTP", .ofList [("port", "x")]⟩
    let shop : PolledService := ⟨1, 7, none, .v4 10 0 0 1, "https", .ofList [("port", "x")]⟩
    let time : Timestamp := ⟨2024, 5, 1, 0, 0, 0, 0, by decide, by decide, by decide, by decide,
      by decide, by decide, by decide⟩
    let around : Surroundings (StateM Nat) :=
      { exchange := fun _ => pure (.error ⟨"refused", []⟩), now := pure time
        ticks := modifyGet fun n => (n, n + 1) }
    let p : Polling := { checks := .ofList [(2, ⟨"http://10.0.0.2/", .get, none, none⟩)] }
    ∃ os q before after p' w', (Coordinator.pool {} {} [.startUp]).Run os q ∧ q.IsDone ∧
      (events os).map Prod.snd = before ++ .moved .initial .running :: after ∧
      .asked (.fetchLocators .remoteMonitor) (.ok []) ∈ after ∧
      .asked (.fetchConfiguration "m") (.ok ⟨[web, mail, shop, web], time⟩) ∈ after ∧
      Steps around Eq p 0 ((events os).map Prod.snd) p' w' ∧
      q.memory.state = .fatal (.check 1 ⟨"invalid digit found in string",
        ["invalid port 'x'", "invalid parameters for service " ++ Text.Decimal.text 1]⟩) ∧
      ∃ status, status.service = 1 ∧ status.status ≠ .unknown ∧
        .fired (.exitNecessary { ScanReport.empty with statuses := [status] }) ∈ after := by
  intro web mail shop time around p
  obtain ⟨hall, -, hsome⟩ := own_checks_decide_pass around {}
  obtain ⟨os, q, before, after, p', w', h, hq, hes, hl, hc, hw⟩ :=
    hsome rfl {} "m" [] ⟨[web, mail, shop, web], time⟩ p 0
  obtain ⟨hstate, statuses, hservices, hstatuses, hreport, -⟩ := hall Eq {} _ os q before after _ _ []
    "m" ⟨[web, mail, shop, web], time⟩ p p' 0 w' h hq hes hl hc hw
  have hclaimed : claimed [] [web, mail, shop, web] = [web, shop, web] := by decide
  have hweb : fault? web = none := rfl
  have hshop : Check.ofService shop =
      .error ⟨"invalid digit found in string", ["invalid port 'x'"]⟩ := by
    rfl
  have hfault : fault? shop = some (.check 1 ⟨"invalid digit found in string",
      ["invalid port 'x'", "invalid parameters for service " ++ Text.Decimal.text 1]⟩) := by
    rw [fault?, hshop]
    rfl
  simp only [hclaimed, List.findSome?_cons, hweb, hfault] at hstate
  simp only [hclaimed, List.takeWhile_cons, fits, hweb, hfault] at hservices
  obtain ⟨status, rfl, hservice⟩ : ∃ status, statuses = [status] ∧ status.service = 1 := by
    obtain ⟨status, rest, rfl, hservice, hrest⟩ := List.map_eq_cons_iff.1 hservices
    obtain rfl := List.map_eq_nil_iff.1 hrest
    exact ⟨status, rfl, hservice⟩
  refine ⟨os, q, before, after, p', w', h, hq, hes, hl, hc, hw, ?_, status, hservice,
    hstatuses status List.mem_cons_self, (hreport _).2 rfl⟩
  exact hstate

end Pass

end ServiceWatch.Http.Polling
