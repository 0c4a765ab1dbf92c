import ServiceWatch.Proofs.Poller.Lifecycle

/-! What a coordinator has done by the time it has a service checked. -/
namespace ServiceWatch.Poller

variable {α : Type} {c : Coordinator} {m m' : Memory} {es : List Event} {id : String}
  {service : PolledService}

/-- From the memory `m` the call can show `es` and then ask. -/
def Call.Asks (t : Call α) (m : Memory) (es : List Event) (r : Request) : Prop :=
  ∃ x more a m', t.Traces m (es ++ .asked r x :: more) a m'

/-- The coordinator runs, and has set the clock by the one configuration that it fetched; it has not
handed over a report. -/
structure Checking (es : List Event) : Prop where
  started : ∃ e ∈ es, e.isStart = true
  unreported : ∀ e ∈ es, e.isHandOver = false
  aligned : ∃ id configuration, .asked (.fetchConfiguration id) (.ok configuration) ∈ es ∧
    .asked (.alignClock configuration.serverTime) () ∈ es ∧
      ∀ time, .asked (.alignClock time) () ∈ es → time = configuration.serverTime

/-- An event of neither a scan nor its report. -/
def Event.isAhead (e : Event) : Bool := !e.isScanning && !e.isHandOver

theorem Event.of_isAhead {e : Event} (h : e.isAhead = true) :
    e.isScanning = false ∧ e.isHandOver = false := by
  simpa [isAhead] using h

/-- A coordinator that comes to wait for its registration has not scanned. -/
theorem Stage.isAhead {s : State} (h : Stage c s es .registering) : ∀ e ∈ es, e.isAhead = true := by
  generalize hs : State.registering = s' at h
  cases h with
  | waits =>
    intro e he
    obtain rfl | rfl : e = _ ∨ e = _ := by simpa using he
    · rfl
    · rfl
  | fails => contradiction
  | runs hw ha x => cases hx : x.fault? <;> rw [hx] at hs <;> contradiction

section Ahead

variable {tried es' : List Event} {e : Event}

theorem notMem_of_isAhead (h : ∀ e ∈ es, e.isAhead = true) (he : e.isAhead = false) : e ∉ es :=
  fun hmem => absurd (h e hmem) (Bool.eq_false_iff.1 he)

theorem ne_of_isAhead (h : ∀ e ∈ tried, e.isAhead = true) (he : e.isAhead = false) :
    tried ≠ es ++ e :: es' := by
  rintro rfl
  exact notMem_of_isAhead h he (List.mem_append_right _ List.mem_cons_self)

end Ahead

section Split

variable {a b es' : List Event} {e : Event}

theorem exists_behind (h : a ++ b = es ++ e :: es') (he : e ∉ a) :
    ∃ c, es = a ++ c ∧ b = c ++ e :: es' := by
  rcases List.append_eq_append_iff.1 h with ⟨c, rfl, hb⟩ | ⟨c, rfl, hc⟩
  · exact ⟨c, rfl, hb⟩
  · cases c with
    | nil => exact ⟨[], by simp, by simpa using hc.symm⟩
    | cons d c =>
      obtain ⟨rfl, -⟩ := List.cons.inj hc
      exact absurd (by simp) he

theorem exists_ahead (h : a ++ b = es ++ e :: es') (he : e ∉ b) : ∃ c, a = es ++ e :: c := by
  rcases List.append_eq_append_iff.1 h with ⟨c, rfl, rfl⟩ | ⟨c, rfl, hc⟩
  · exact absurd (by simp) he
  · cases c with
    | nil => exact absurd (by simp [show b = e :: es' by simpa using hc.symm]) he
    | cons d c =>
      obtain ⟨rfl, -⟩ := List.cons.inj hc
      exact ⟨c, rfl⟩

end Split

/-- A scan that comes to a check has fetched its configuration, and set the clock by it before. -/
theorem Answers.aligned_of_scan {x : Answers} {y : Except Failure (Option PollStatus)}
    {es' : List Event} (h : x.scan id = es ++ .asked (.poll service) y :: es') :
    ∃ configuration, .asked (.fetchConfiguration id) (.ok configuration) ∈ es ∧
      .asked (.alignClock configuration.serverTime) () ∈ es ∧
        ∀ time, .asked (.alignClock time) () ∈ es → time = configuration.serverTime := by
  have hfetch : .asked (.poll service) y ∉ x.fetch id := by
    unfold fetch
    split
    · simp
    · split <;> simp
  obtain ⟨inspections, rfl, hrest⟩ := exists_behind h hfetch
  unfold configured at hrest
  cases hlocators : x.locators with
  | error failure => simp [hlocators] at hrest
  | ok locators =>
    cases hconfiguration : x.configuration with
    | error failure => simp [hlocators, hconfiguration] at hrest
    | ok configuration =>
      simp only [hlocators, hconfiguration] at hrest
      refine ⟨configuration, ?_, ?_, fun time htime => ?_⟩
      · simp [fetch, hlocators, hconfiguration]
      · simp [fetch, hlocators, hconfiguration]
      · rcases List.mem_append.1 htime with htime | htime
        · simpa [fetch, hlocators, hconfiguration] using htime
        · have hinspected : .asked (.alignClock time) () ∈ inspected configuration.services.length 0
              (x.inspections configuration) := hrest ▸ List.mem_append_left _ htime
          rcases cases_of_mem_inspected hinspected with ⟨_, _, he⟩ | ⟨_, _, he⟩ | ⟨_, he⟩ <;>
            cases he

/-- A pass comes to a check in its scan, and not as it ends. -/
theorem Answers.exists_scanned {x : Answers} {metadata : Table String String}
    {y : Except Failure (Option PollStatus)} {starting es' : List Event}
    (hstarting : .asked (.poll service) y ∉ starting)
    (h : starting ++ (x.scan id ++ (x.ending ++
      [.fired (.percentageComplete .finish), .fired (.exitNecessary (x.report metadata))])) =
        es ++ .asked (.poll service) y :: es') :
    ∃ scanned others, es = starting ++ scanned ∧
      x.scan id = scanned ++ .asked (.poll service) y :: others := by
  obtain ⟨scanned, rfl, hscan⟩ := exists_behind h hstarting
  have hending : .asked (.poll service) y ∉ x.ending ++
      [.fired (.percentageComplete .finish), .fired (.exitNecessary (x.report metadata))] := by
    unfold ending
    split <;> simp
  obtain ⟨others, hscan⟩ := exists_ahead hscan hending
  exact ⟨scanned, others, rfl, hscan⟩

/-- A coordinator that starts has no service checked before it runs. -/
theorem Checking.of_start {front rest es' : List Event} {r : Except Fault Unit}
    {y : Except Failure (Option PollStatus)} (hm : m.state.isWaiting = true)
    (hfront : ∀ e ∈ front, e.isAhead = true) (h : (c.start id).run.Traces m rest r m')
    (hes : front ++ rest = es ++ .asked (.poll service) y :: es') : Checking es := by
  obtain ⟨details, ⟨failure, rfl, -, -⟩ | ⟨x, rfl, -, -⟩⟩ := (traces_start hm).1 h
  · have hasked : ∀ e ∈ front ++ [.asked .hostDetails details,
        .asked (.announce id details) (.error failure)], e.isAhead = true :=
      List.forall_mem_append.2 ⟨hfront, List.all_eq_true.1 rfl⟩
    exact absurd hes (ne_of_isAhead hasked rfl)
  · obtain ⟨ahead, rfl, hrest⟩ := exists_behind hes (notMem_of_isAhead hfront rfl)
    -- the announcement and the changes of the state come before the scan
    let starting : List Event := [.asked .hostDetails details, .asked (.announce id details) (.ok ()),
      .moved m.state .running, .fired (.started false true), .fired (.registered false true),
      .fired (.percentageComplete .start)]
    have hstarting : .asked (.poll service) y ∉ starting := by simp [starting]
    obtain ⟨scanned, others, rfl, hscan⟩ := Answers.exists_scanned hstarting hrest
    obtain ⟨configuration, hfetched, hset, honly⟩ := Answers.aligned_of_scan hscan
    have hscanned {e : Event} (he : e ∈ scanned) : e.isScanning = true :=
      Answers.isScanning_of_mem_scan (show e ∈ x.scan id from hscan ▸ List.mem_append_left _ he)
    refine ⟨⟨.moved m.state .running, by simp [starting], rfl⟩, fun e he => ?_, id, configuration,
      by simp [hfetched], by simp [hset], fun time htime => ?_⟩
    · rcases List.mem_append.1 he with he | he
      · exact (Event.of_isAhead (hfront e he)).2
      rcases List.mem_append.1 he with he | he
      · have hunreported : starting.all (!·.isHandOver) = true := rfl
        simpa using List.all_eq_true.1 hunreported e he
      · exact (Event.Ordinary.of_isScanning (hscanned he)).handOver
    · rcases List.mem_append.1 htime with htime | htime
      · exact absurd htime (notMem_of_isAhead hfront rfl)
      · exact honly time (by simpa [starting] using htime)

theorem poll_notMem_turn (s t : State) {y : Except Failure (Option PollStatus)} :
    .asked (.poll service) y ∉ s.turn t := by
  unfold State.turn
  split <;> simp

/-- An attempt that a call carries out leads to a check, and not that it ends the coordinator. -/
theorem exists_ahead_of_carryOut {front rest es' : List Event} {operation : Operation}
    {attempt : Attempt Unit} {answer : Fault → Except Fault Unit} {r : Except Fault Unit}
    {y : Except Failure (Option PollStatus)} (hs : m.state.supports operation = true)
    (h : (carryOut operation attempt answer).Traces m rest r m')
    (hes : front ++ rest = es ++ .asked (.poll service) y :: es') :
    ∃ tried r m' others, attempt.run.Traces m tried r m' ∧
      front ++ tried = es ++ .asked (.poll service) y :: others := by
  rcases (traces_carryOut_of_accepted hs).1 h with ⟨htry, -⟩ | ⟨tried, fault, m₁, htry, -, rfl, -⟩
  · exact ⟨rest, _, m', es', htry, hes⟩
  · rw [← List.append_assoc] at hes
    obtain ⟨others, htried⟩ := exists_ahead hes (poll_notMem_turn m₁.state (.fatal fault))
    exact ⟨tried, _, m₁, others, htry, htried⟩

theorem checking_of_startUp (hm : m.state = .initial)
    (h : (carryOut .startUp c.tryStartUp .error).Asks m es (.poll service)) : Checking es := by
  obtain ⟨y, es', r, m', h⟩ := h
  have hs : m.state.supports .startUp = true := State.supports_eq_true_iff.2 hm
  obtain ⟨tried, r, m', others, htry, hes⟩ := exists_ahead_of_carryOut hs h (List.nil_append _)
  have hw : m.state.isWaiting = true := by rw [hm]; rfl
  rcases (traces_tryStartUp hm).1 htry with
    ⟨_, -, rfl, -⟩ | ⟨-, ⟨failure, rfl, -⟩ | ⟨rfl, -⟩ | ⟨id, rest, rfl, hstart⟩⟩
  · exact absurd hes (by simp)
  · exact absurd hes (ne_of_isAhead (List.all_eq_true.1 rfl) rfl)
  · exact absurd hes (ne_of_isAhead (List.all_eq_true.1 rfl) rfl)
  · have hloaded : ∀ e ∈ [Event.asked .loadIdentity (.ok (some id))], e.isAhead = true :=
      List.all_eq_true.1 rfl
    exact .of_start hw hloaded hstart hes

theorem checking_of_register {front : List Event} {location : String} (hm : m.state = .registering)
    (hfront : ∀ e ∈ front, e.isAhead = true)
    (h : (carryOut .register (c.tryRegister location) fun _ => .ok ()).Asks m es (.poll service)) :
    Checking (front ++ es) := by
  obtain ⟨y, es', r, m', h⟩ := h
  have hs : m.state.supports .register = true := State.supports_eq_true_iff.2 hm
  obtain ⟨tried, r, m', others, htry, hes⟩ :=
    exists_ahead_of_carryOut hs h (List.append_assoc front es _).symm
  have hw : m.state.isWaiting = true := by rw [hm]; rfl
  rcases traces_tryRegister.1 htry with
    ⟨_, -, rfl, -⟩ | ⟨-, ⟨failure, rfl, -⟩ | ⟨id, stored, rest, rfl, hstart⟩⟩
  · exact absurd hes (ne_of_isAhead (by simpa using hfront) rfl)
  · have hasked : ∀ e ∈ front ++ [.asked (.registerAt location) (.error failure)], e.isAhead = true :=
      List.forall_mem_append.2 ⟨hfront, List.all_eq_true.1 rfl⟩
    exact absurd hes (ne_of_isAhead hasked rfl)
  · have hasks : ∀ e ∈ front ++ [.asked (.registerAt location) (.ok id),
        .asked (.storeIdentity id) stored], e.isAhead = true :=
      List.forall_mem_append.2 ⟨hfront, List.all_eq_true.1 rfl⟩
    exact .of_start hw hasks hstart ((List.append_assoc ..).trans hes)

end ServiceWatch.Poller
