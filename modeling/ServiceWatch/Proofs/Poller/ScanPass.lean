import ServiceWatch.Proofs.Poller.Serialization

/-! A scan pass shows what its collaborators answer, in one order for all answers. -/
namespace ServiceWatch.Poller

/-- What the preparation and the check of a service come to. -/
structure Inspection where
  prepared : Except Failure Unit
  polled : Except Failure (Option PollStatus)
  deriving Inhabited

namespace Inspection

/-- The failure that ends a pass; what is not prepared is not checked. -/
def failure? (x : Inspection) : Option Failure :=
  match x.prepared, x.polled with
  | .error failure, _ => some failure
  | .ok (), .error failure => some failure
  | .ok (), .ok _ => none

def asks (x : Inspection) (s : PolledService) : List Event :=
  .asked (.prepare s) x.prepared ::
    match x.prepared with
    | .error _ => []
    | .ok () => [.asked (.poll s) x.polled]

def status? (x : Inspection) : Option PollStatus :=
  match x.polled with
  | .error _ => none
  | .ok status => status

def result (x : Inspection) (s : PolledService) : Except Fault (Option PollStatus) :=
  match x.failure? with
  | some failure => .error (.check s.id failure)
  | none => .ok x.status?

theorem asks_of_failure?_eq_none {x : Inspection} (h : x.failure? = none) (s : PolledService) :
    x.asks s = [.asked (.prepare s) x.prepared, .asked (.poll s) x.polled] := by
  obtain ⟨failure | u, polled⟩ := x
  · contradiction
  · rfl

end Inspection

/-! ### The services -/

section Services

variable (total first : Nat) (l : List (PolledService × Inspection))

/-- The place of the first service whose preparation or check fails, and the number of all services
if there is none. -/
def firstFailing : Nat := l.findIdx fun x => x.2.failure?.isSome

/-- The preparation and the check of each service, and the progress behind it. -/
def rounds : List Event :=
  (l.zipIdx first).flatMap fun (x, i) =>
    [.asked (.prepare x.1) x.2.prepared, .asked (.poll x.1) x.2.polled,
      .fired (.percentageComplete ⟨i + 1, total⟩)]

/-- The events of all inspections up to the first one that fails. -/
def inspected : List Event :=
  rounds total first (l.take (firstFailing l)) ++
    match l[firstFailing l]? with
    | some (s, x) => x.asks s
    | none => []

def inspectionFault? : Option Fault :=
  l[firstFailing l]?.bind fun (s, x) => x.failure?.map (.check s.id)

/-- The results of all inspections before the first one that fails. -/
def inspectionStatuses : List PollStatus := (l.take (firstFailing l)).filterMap (·.2.status?)

variable {total first l} {m m' : Memory} {es : List Event}

theorem traces_checkService {s : PolledService} {r : Except Fault (Option PollStatus)} :
    (checkService s).run.Traces m es r m' ↔
      ∃ x : Inspection, es = x.asks s ∧ r = x.result s ∧ m' = m := by
  unfold checkService
  rw [traces_askOrStop_bind]
  constructor
  · rintro (⟨failure, h, rfl⟩ | ⟨_, ⟨⟩, _, es₂, h, h₂, rfl⟩)
    · obtain ⟨rfl, rfl⟩ := Call.traces_request.1 h
      exact ⟨⟨.error failure, .ok none⟩, rfl, rfl, rfl⟩
    · obtain ⟨rfl, rfl⟩ := Call.traces_request.1 h
      obtain ⟨polled, hp, rfl⟩ := traces_askOrStop.1 h₂
      obtain ⟨rfl, rfl⟩ := Call.traces_request.1 hp
      refine ⟨⟨.ok (), polled⟩, rfl, ?_, rfl⟩
      cases polled <;> rfl
  · rintro ⟨⟨failure | ⟨⟩, polled⟩, rfl, rfl, rfl⟩
    · exact .inl ⟨failure, Call.traces_request.2 ⟨rfl, rfl⟩, rfl⟩
    · refine .inr ⟨_, (), m', _, Call.traces_request.2 ⟨rfl, rfl⟩, ?_, rfl⟩
      refine traces_askOrStop.2 ⟨polled, Call.traces_request.2 ⟨rfl, rfl⟩, ?_⟩
      cases polled <;> rfl

section Cons

variable (total first l) (s : PolledService) {x : Inspection}

theorem inspected_cons_of_failure {failure : Failure} (h : x.failure? = some failure) :
    inspected total first ((s, x) :: l) = x.asks s ∧
      inspectionFault? ((s, x) :: l) = some (.check s.id failure) ∧
        inspectionStatuses ((s, x) :: l) = [] := by
  have hk : firstFailing ((s, x) :: l) = 0 := by simp [firstFailing, List.findIdx_cons, h]
  simp [inspected, inspectionFault?, inspectionStatuses, rounds, hk, h]

theorem inspected_cons (h : x.failure? = none) :
    inspected total first ((s, x) :: l) = x.asks s ++
        .fired (.percentageComplete ⟨first + 1, total⟩) :: inspected total (first + 1) l ∧
      inspectionFault? ((s, x) :: l) = inspectionFault? l ∧
        inspectionStatuses ((s, x) :: l) = x.status?.toList ++ inspectionStatuses l := by
  have hk : firstFailing ((s, x) :: l) = firstFailing l + 1 := by
    simp [firstFailing, List.findIdx_cons, h]
  refine ⟨?_, ?_, ?_⟩
  · simp [inspected, rounds, hk, Inspection.asks_of_failure?_eq_none h]
  · simp [inspectionFault?, hk]
  · cases hx : x.status? <;> simp [inspectionStatuses, hk, hx]

theorem addResult_eq (report : ScanReport) (status : Option PollStatus) :
    addResult report status = { report with statuses := report.statuses ++ status.toList } := by
  cases status <;> simp [addResult, ScanReport.add]

end Cons

/-- The services are inspected in their order up to the first one that fails. -/
theorem traces_checkAll {services : List PolledService} {report : ScanReport}
    {r : Option Fault × ScanReport} :
    (checkAll total first services report).Traces m es r m' ↔
      ∃ l : List (PolledService × Inspection), l.map Prod.fst = services ∧
        es = inspected total first l ∧
        r = (inspectionFault? l,
          { report with statuses := report.statuses ++ inspectionStatuses l }) ∧ m' = m := by
  induction services generalizing first report es with
  | nil =>
    simp [checkAll, inspected, inspectionFault?, inspectionStatuses, rounds]
  | cons s services ih =>
    unfold checkAll
    rw [Call.traces_bind]
    constructor
    · rintro ⟨_, _, m₁, es₂, h₁, h₂, rfl⟩
      obtain ⟨x, rfl, rfl, rfl⟩ := traces_checkService.1 h₁
      cases hx : x.failure? with
      | some failure =>
        -- whatever is taken for the inspections that the pass does not come to
        obtain ⟨he, hf, hs⟩ := inspected_cons_of_failure total first
          (services.map fun s => (s, x)) s hx
        simp only [Inspection.result, hx] at h₂
        obtain ⟨rfl, rfl, rfl⟩ := h₂
        refine ⟨(s, x) :: services.map fun s => (s, x), ?_, ?_, ?_, rfl⟩
        · simp [Function.comp_def]
        · rw [he, List.append_nil]
        · rw [hf, hs, List.append_nil]
      | none =>
        simp only [Inspection.result, hx] at h₂
        obtain ⟨_, _, m₂, es₃, hp, h₃, rfl⟩ := Call.traces_bind.1 h₂
        obtain ⟨rfl, rfl⟩ := traces_fire.1 hp
        obtain ⟨l, rfl, rfl, rfl, rfl⟩ := ih.1 h₃
        obtain ⟨he, hf, hs⟩ := inspected_cons total first l s hx
        refine ⟨(s, x) :: l, rfl, ?_, ?_, rfl⟩
        · rw [he]
          rfl
        · rw [hf, hs, addResult_eq, List.append_assoc]
    · rintro ⟨_ | ⟨⟨s, x⟩, l⟩, hl, rfl, rfl, rfl⟩
      · contradiction
      obtain ⟨rfl, rfl⟩ := List.cons.inj hl
      cases hx : x.failure? with
      | some failure =>
        obtain ⟨he, hf, hs⟩ := inspected_cons_of_failure total first l s hx
        have hr : x.result s = .error (.check s.id failure) := by simp [Inspection.result, hx]
        refine ⟨_, .error _, m', [], traces_checkService.2 ⟨x, rfl, hr.symm, rfl⟩,
          ⟨rfl, ?_, rfl⟩, ?_⟩
        · rw [hf, hs, List.append_nil]
        · rw [he, List.append_nil]
      | none =>
        obtain ⟨he, hf, hs⟩ := inspected_cons total first l s hx
        have hr : x.result s = .ok x.status? := by simp [Inspection.result, hx]
        refine ⟨_, .ok _, m', _, traces_checkService.2 ⟨x, rfl, hr.symm, rfl⟩, ?_, he⟩
        refine Call.traces_bind.2 ⟨_, (), m', _, traces_fire.2 ⟨rfl, rfl⟩, ?_, rfl⟩
        refine ih.2 ⟨l, rfl, rfl, ?_, rfl⟩
        rw [hf, hs, addResult_eq, List.append_assoc]

end Services

/-! ### The pass -/

/-- The answers of the collaborators during a scan pass, whether or not they are asked for. -/
structure Answers where
  locators : Except Failure (List ServiceMonitorLocator)
  configuration : Except Failure PollerConfiguration
  /-- What becomes of the service in each place of the configuration. -/
  inspection : Nat → Inspection

namespace Answers

variable (x : Answers)

/-- What the pass works with; without locators, it does not ask for the configuration. -/
def configured : Except Failure PollerConfiguration :=
  match x.locators with
  | .error failure => .error failure
  | .ok _ => x.configuration

def fetch (id : String) : List Event :=
  .asked (.fetchLocators .remoteMonitor) x.locators ::
    match x.locators with
    | .error _ => []
    | .ok locators =>
      .asked (.installLocators locators) () :: .asked (.fetchConfiguration id) x.configuration ::
        match x.configuration with
        | .error _ => []
        | .ok configuration => [.asked (.alignClock configuration.serverTime) ()]

def inspections (configuration : PollerConfiguration) : List (PolledService × Inspection) :=
  configuration.services.mapIdx fun i s => (s, x.inspection i)

theorem map_fst_inspections (configuration : PollerConfiguration) :
    (x.inspections configuration).map Prod.fst = configuration.services :=
  List.ext_getElem (by simp [inspections]) (by simp [inspections])

def scan (id : String) : List Event :=
  x.fetch id ++
    match x.configured with
    | .error _ => []
    | .ok configuration =>
      inspected configuration.services.length 0 (x.inspections configuration)

def fault? : Option Fault :=
  match x.configured with
  | .error failure => some (.backend failure)
  | .ok configuration => inspectionFault? (x.inspections configuration)

def statuses : List PollStatus :=
  match x.configured with
  | .error _ => []
  | .ok configuration => inspectionStatuses (x.inspections configuration)

/-- The report that is handed over: who the customer is, by the keys of the metadata, and the
results. -/
def report (metadata : Table String String) : ScanReport where
  customerAccountNumber := metadata.get? "customer-account-number"
  customerName := metadata.get? "customer-name"
  referenceId := metadata.get? "reference-id"
  statuses := x.statuses

/-- The end of a coordinator whose pass fails, with what it tells about that. -/
def ending : List Event :=
  match x.fault? with
  | some fault => [.moved .running (.fatal fault), .fired (.started true false),
      .fired (.registered true false)]
  | none => []

def pass (metadata : Table String String) (id : String) : List Event :=
  .fired (.percentageComplete .start) :: (x.scan id ++ (x.ending ++
    [.fired (.percentageComplete .finish), .fired (.exitNecessary (x.report metadata))]))

def remembered (m : Memory) : Memory :=
  match x.configured with
  | .error _ => m
  | .ok configuration => { m with configuration := some configuration }

def memory (m : Memory) : Memory :=
  match x.fault? with
  | some fault => (x.remembered m).moveTo (.fatal fault)
  | none => x.remembered m

@[simp] theorem state_remembered (m : Memory) : (x.remembered m).state = m.state := by
  unfold remembered
  split <;> rfl

end Answers

section Pass

variable {m m' : Memory} {es : List Event} {id : String}

theorem traces_fetchConfiguration {r : Except Fault PollerConfiguration} :
    (fetchConfiguration id).run.Traces m es r m' ↔
      (∃ failure, es = [.asked (.fetchConfiguration id) (.error failure)] ∧
        r = .error (.backend failure) ∧ m' = m) ∨
      ∃ configuration, es = [.asked (.fetchConfiguration id) (.ok configuration),
          .asked (.alignClock configuration.serverTime) ()] ∧
        r = .ok configuration ∧ m' = { m with configuration := some configuration } := by
  unfold fetchConfiguration
  rw [traces_askOrStop_bind]
  constructor
  · rintro (⟨failure, h, rfl⟩ | ⟨_, configuration, _, _, h, h₂, rfl⟩)
    · obtain ⟨rfl, rfl⟩ := Call.traces_request.1 h
      exact .inl ⟨failure, rfl, rfl, rfl⟩
    · obtain ⟨rfl, rfl⟩ := Call.traces_request.1 h
      obtain ⟨_, _, _, _, ha, h₃, rfl⟩ := traces_run_lift_bind.1 h₂
      obtain ⟨rfl, rfl⟩ := Call.traces_request.1 ha
      rcases traces_run_bind.1 h₃ with ⟨_, hk, -⟩ | ⟨_, _, _, _, hk, ⟨rfl, rfl, rfl⟩, rfl⟩
      · obtain ⟨_, -, hk⟩ := traces_run_discard.1 hk
        contradiction
      · obtain ⟨_, ⟨_, rfl, rfl, rfl, rfl⟩, -⟩ := traces_run_discard.1 hk
        exact .inr ⟨configuration, by simp [Memory.moves], rfl, rfl⟩
  · rintro (⟨failure, rfl, rfl, rfl⟩ | ⟨configuration, rfl, rfl, rfl⟩)
    · exact .inl ⟨failure, Call.traces_request.2 ⟨rfl, rfl⟩, rfl⟩
    · refine .inr ⟨_, configuration, m, _, Call.traces_request.2 ⟨rfl, rfl⟩, ?_, rfl⟩
      refine traces_run_lift_bind.2 ⟨_, (), m, [], Call.traces_request.2 ⟨rfl, rfl⟩, ?_, rfl⟩
      refine traces_run_bind.2 (.inr ⟨[], (), _, [], ?_, ⟨rfl, rfl, rfl⟩, rfl⟩)
      exact traces_run_discard.2 ⟨m, ⟨[], by simp [Memory.moves], rfl, rfl, rfl⟩, rfl⟩

theorem traces_fetchServices {r : Except Fault (List PolledService)} :
    (fetchServices id).run.Traces m es r m' ↔ ∃ x : Answers, es = x.fetch id ∧
      r = (x.configured.map PollerConfiguration.services).mapError .backend ∧
        m' = x.remembered m := by
  unfold fetchServices
  rw [traces_askOrStop_bind]
  constructor
  · rintro (⟨failure, h, rfl⟩ | ⟨_, locators, _, _, h, h₂, rfl⟩)
    · obtain ⟨rfl, rfl⟩ := Call.traces_request.1 h
      exact ⟨⟨.error failure, .error failure, fun _ => default⟩, rfl, rfl, rfl⟩
    · obtain ⟨rfl, rfl⟩ := Call.traces_request.1 h
      obtain ⟨_, _, _, _, hi, h₃, rfl⟩ := traces_run_lift_bind.1 h₂
      obtain ⟨rfl, rfl⟩ := Call.traces_request.1 hi
      rcases traces_run_bind.1 h₃ with
        ⟨_, hc, rfl⟩ | ⟨_, configuration, _, _, hc, ⟨rfl, rfl, rfl⟩, rfl⟩
      · rcases traces_fetchConfiguration.1 hc with ⟨failure, rfl, hf, rfl⟩ | ⟨_, -, hf, -⟩
        · cases hf
          exact ⟨⟨.ok locators, .error failure, fun _ => default⟩, rfl, rfl, rfl⟩
        · contradiction
      · rcases traces_fetchConfiguration.1 hc with ⟨_, -, hf, -⟩ | ⟨_, rfl, hf, rfl⟩
        · contradiction
        · cases hf
          exact ⟨⟨.ok locators, .ok configuration, fun _ => default⟩, rfl, rfl, rfl⟩
  · rintro ⟨⟨(failure | locators), configuration, _⟩, rfl, rfl, rfl⟩
    · exact .inl ⟨failure, Call.traces_request.2 ⟨rfl, rfl⟩, rfl⟩
    refine .inr ⟨_, locators, m, _, Call.traces_request.2 ⟨rfl, rfl⟩, ?_, rfl⟩
    refine traces_run_lift_bind.2 ⟨_, (), m, _, Call.traces_request.2 ⟨rfl, rfl⟩, ?_, rfl⟩
    rw [traces_run_bind]
    cases configuration with
    | error failure =>
      exact .inl ⟨_, traces_fetchConfiguration.2 (.inl ⟨failure, rfl, rfl, rfl⟩), rfl⟩
    | ok configuration =>
      exact .inr ⟨_, configuration, _, [],
        traces_fetchConfiguration.2 (.inr ⟨configuration, rfl, rfl, rfl⟩), ⟨rfl, rfl, rfl⟩, rfl⟩

theorem exists_inspection (l : List (PolledService × Inspection)) :
    ∃ f : Nat → Inspection, ((l.map Prod.fst).mapIdx fun i s => (s, f i)) = l := by
  refine ⟨fun i => (l[i]?.map Prod.snd).getD default, List.ext_getElem (by simp) ?_⟩
  intro i hi hl
  simp [hl]

theorem traces_scan {report : ScanReport} {r : Option Fault × ScanReport} :
    (scan id report).Traces m es r m' ↔ ∃ x : Answers, es = x.scan id ∧ m' = x.remembered m ∧
      r = (x.fault?, { report with statuses := report.statuses ++ x.statuses }) := by
  unfold scan
  rw [Call.traces_bind]
  constructor
  · rintro ⟨_, _, _, _, h, h₂, rfl⟩
    obtain ⟨x, rfl, rfl, rfl⟩ := traces_fetchServices.1 h
    cases hx : x.configured with
    | error failure =>
      rw [hx] at h₂
      obtain ⟨rfl, rfl, rfl⟩ := h₂
      exact ⟨x, by simp [Answers.scan, hx], rfl, by simp [Answers.fault?, Answers.statuses, hx]⟩
    | ok configuration =>
      rw [hx] at h₂
      obtain ⟨l, hl, rfl, rfl, rfl⟩ := traces_checkAll.1 h₂
      obtain ⟨f, hf⟩ := exists_inspection l
      rw [hl] at hf
      -- the answers as far as they were given, and the inspections that followed
      have hy : ({ x with inspection := f } : Answers).configured = .ok configuration := hx
      refine ⟨{ x with inspection := f }, ?_, rfl, ?_⟩
      · simp only [Answers.scan, hy, Answers.inspections, hf]
        rfl
      · simp only [Answers.fault?, Answers.statuses, hy, Answers.inspections, hf]
  · rintro ⟨x, rfl, rfl, rfl⟩
    refine ⟨_, _, _, _, traces_fetchServices.2 ⟨x, rfl, rfl, rfl⟩, ?_, rfl⟩
    cases hx : x.configured with
    | error failure =>
      simp only [Answers.fault?, Answers.statuses, hx, List.append_nil]
      exact ⟨rfl, rfl, rfl⟩
    | ok configuration =>
      simp only [Answers.fault?, Answers.statuses, hx]
      exact traces_checkAll.2
        ⟨x.inspections configuration, x.map_fst_inspections configuration, rfl, rfl, rfl⟩

theorem State.turn_running_fatal (fault : Fault) : running.turn (.fatal fault) =
    [.moved .running (.fatal fault), .fired (.started true false), .fired (.registered true false)] :=
  rfl

/-- The end of each pass: it is complete, and the report is handed over. -/
theorem traces_handOver {report : ScanReport} {u : Unit} :
    (do
      fire (.percentageComplete .finish)
      fire (.exitNecessary report) : Call Unit).Traces m es u m' ↔
      es = [.fired (.percentageComplete .finish), .fired (.exitNecessary report)] ∧ m' = m := by
  rw [traces_fire_bind]
  constructor
  · rintro ⟨_, rfl, h⟩
    obtain ⟨rfl, rfl⟩ := traces_fire.1 h
    exact ⟨rfl, rfl⟩
  · rintro ⟨rfl, rfl⟩
    exact ⟨_, rfl, traces_fire.2 ⟨rfl, rfl⟩⟩

/-- A pass of a running coordinator shows its answers in their order; each of them is possible. -/
theorem traces_scanPass {c : Coordinator} {u : Unit} (hm : m.state = .running) :
    (c.scanPass id).Traces m es u m' ↔
      ∃ x : Answers, es = x.pass c.metadata id ∧ m' = x.memory m := by
  unfold Coordinator.scanPass
  have hr (x : Answers) : (x.remembered m).state = .running := (x.state_remembered m).trans hm
  rw [traces_fire_bind]
  constructor
  · rintro ⟨_, rfl, h⟩
    obtain ⟨_, _, _, _, hs, h₂, rfl⟩ := Call.traces_bind.1 h
    obtain ⟨x, rfl, rfl, rfl⟩ := traces_scan.1 hs
    refine ⟨x, ?_⟩
    dsimp only at h₂
    unfold Answers.pass Answers.ending Answers.memory
    cases hf : x.fault? with
    | some fault =>
      rw [hf] at h₂
      obtain ⟨_, _, _, _, hmove, h₃, rfl⟩ := Call.traces_bind.1 h₂
      obtain ⟨rfl, rfl⟩ := traces_moveTo.1 hmove
      obtain ⟨rfl, rfl⟩ := traces_handOver.1 h₃
      rw [hr x, State.turn_running_fatal]
      simp [Answers.report, ScanReport.ofMetadata]
    | none =>
      rw [hf] at h₂
      obtain ⟨rfl, rfl⟩ := traces_handOver.1 h₂
      simp [Answers.report, ScanReport.ofMetadata]
  · rintro ⟨x, rfl, rfl⟩
    refine ⟨_, rfl, Call.traces_bind.2 ⟨_, _, _, _, traces_scan.2 ⟨x, rfl, rfl, rfl⟩, ?_, rfl⟩⟩
    dsimp only
    unfold Answers.ending Answers.memory
    cases hf : x.fault? with
    | some fault =>
      refine Call.traces_bind.2 ⟨_, (), _, _, traces_moveTo.2 ⟨rfl, rfl⟩,
        traces_handOver.2 ⟨rfl, rfl⟩, ?_⟩
      rw [hr x, State.turn_running_fatal]
      rfl
    | none => exact traces_handOver.2 ⟨rfl, rfl⟩

end Pass

end ServiceWatch.Poller
