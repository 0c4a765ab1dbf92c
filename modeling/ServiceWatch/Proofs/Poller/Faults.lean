import ServiceWatch.Proofs.Poller.Lifecycle

/-! Where a failure of a collaborator shows: in the result of the call that met it, in the state, or in
both; and what listeners are told about it. -/
namespace ServiceWatch.Poller

variable {c : Coordinator} {m m' : Memory} {es es' : List Event} {id : String} {fault : Fault}

/-- The fault that an answer leads to. That an identity cannot be stored leads to none. -/
def Event.fault? : Event → Option Fault
  | .asked .loadIdentity (.error (.unreadable failure)) =>
    some (.configuration ("unable to read monitoring system id: " ++ failure.text))
  | .asked .loadIdentity (.error (.lost reason)) =>
    some (.configuration ("settings task failed: " ++ reason))
  | .asked (.registerAt _) (.error failure) => some (.registration failure)
  | .asked (.announce _ _) (.error failure) | .asked (.fetchLocators _) (.error failure)
  | .asked (.fetchConfiguration _) (.error failure) => some (.backend failure)
  | .asked (.prepare service) (.error failure) | .asked (.poll service) (.error failure) =>
    some (.check service.id failure)
  | _ => none

theorem fault?_loadIdentity (failure : IdentityFault) :
    (Event.asked .loadIdentity (.error failure)).fault? = some (.configuration failure.message) := by
  cases failure <;> rfl

/-- An answer among some events leads to a fault. -/
def Failed (es : List Event) (fault : Fault) : Prop := ∃ e ∈ es, e.fault? = some fault

@[simp] theorem failed_nil : Failed [] fault ↔ False := by simp [Failed]

@[simp] theorem failed_cons {e : Event} :
    Failed (e :: es) fault ↔ e.fault? = some fault ∨ Failed es fault := by simp [Failed]

@[simp] theorem failed_append : Failed (es ++ es') fault ↔ Failed es fault ∨ Failed es' fault := by
  simp [Failed, or_and_right, exists_or]

/-! ### The pass -/

theorem failed_asks {x : Inspection} {service : PolledService} :
    Failed (x.asks service) fault ↔ x.failure?.map (.check service.id) = some fault := by
  obtain ⟨_ | _, _ | _⟩ := x <;> simp [Inspection.asks, Inspection.failure?, Event.fault?]

/-- Of all inspections, the first failing one leads to the fault of the pass; none behind it is made. -/
theorem failed_inspected {total first : Nat} {l : List (PolledService × Inspection)} :
    Failed (inspected total first l) fault ↔ inspectionFault? l = some fault := by
  induction l generalizing first with
  | nil => simp [inspected, rounds, inspectionFault?]
  | cons entry l ih =>
    obtain ⟨service, x⟩ := entry
    cases hx : x.failure? with
    | some failure =>
      obtain ⟨he, hf, -⟩ := inspected_cons_of_failure total first l service hx
      rw [he, hf, failed_asks, hx]
      rfl
    | none =>
      obtain ⟨he, hf, -⟩ := inspected_cons total first l service hx
      rw [he, hf, failed_append, failed_cons, ih, failed_asks, hx]
      simp [Event.fault?]

theorem Answers.failed_pass (x : Answers) (metadata : Table String String) :
    Failed (x.pass metadata id) fault ↔ x.fault? = some fault := by
  have hending : ¬Failed x.ending fault := by
    unfold ending
    split <;> simp [Event.fault?]
  have hscan : Failed (x.scan id) fault ↔ x.fault? = some fault := by
    unfold scan fetch fault? configured
    cases x.locators with
    | error failure => simp [Event.fault?]
    | ok locators =>
      cases x.configuration with
      | error failure => simp [Event.fault?]
      | ok configuration => simp [Event.fault?, failed_inspected]
  unfold pass
  simp [hscan, hending, Event.fault?]

/-! ### Attempts -/

/-- A collaborator is missing, or one of the answers leads to a fault. -/
def Coordinator.Fails (c : Coordinator) (es : List Event) (fault : Fault) : Prop :=
  c.requireAll = .error fault ∨ Failed es fault

/-- What is found behind an accepted call. -/
structure Accounted (c : Coordinator) (es : List Event) (s : State) : Prop where
  recorded : ∀ fault, s.fault? = some fault ↔ c.Fails es fault
  silent : (∀ e ∈ es, e.isStart = false) → ∀ change, .fired change ∉ es
  reported : (∃ e ∈ es, e.isStart = true) → ∃ report, .fired (.exitNecessary report) ∈ es

theorem Accounted.state_eq {s : State} (ha : Accounted c es s) (h : c.Fails es fault) :
    s = .fatal fault := by
  have hs := (ha.recorded fault).2 h
  cases s <;> simp_all [State.fault?]

/-- What is accounted for call by call is accounted for in all. -/
theorem Accounted.append {s s' : State} (hc : c.requireAll = .ok ()) (h : Accounted c es s)
    (hs : s.fault? = none) (h' : Accounted c es' s') : Accounted c (es ++ es') s' where
  recorded fault := by
    have hnone : ¬Failed es fault := fun hf => by
      have hfault := (h.recorded fault).2 (.inr hf)
      rw [hs] at hfault
      contradiction
    rw [h'.recorded]
    simp [Coordinator.Fails, hc, hnone]
  silent hn change hm := by
    have hsplit := List.forall_mem_append.1 hn
    rcases List.mem_append.1 hm with hm | hm
    · exact h.silent hsplit.1 change hm
    · exact h'.silent hsplit.2 change hm
  reported := by
    rintro ⟨e, he, hstart⟩
    rcases List.mem_append.1 he with he | he
    · obtain ⟨report, hm⟩ := h.reported ⟨e, he, hstart⟩
      exact ⟨report, List.mem_append_left _ hm⟩
    · obtain ⟨report, hm⟩ := h'.reported ⟨e, he, hstart⟩
      exact ⟨report, List.mem_append_right _ hm⟩

/-- An attempt meets a fault before it changes anything, or goes through. -/
inductive Met (c : Coordinator) (m : Memory) (es : List Event) : Except Fault Unit → Memory → Prop
  | fault {fault : Fault} (asked : ∀ e ∈ es, e.isAsked = true)
      (only : ∀ fault', c.Fails es fault' ↔ fault' = fault) : Met c m es (.error fault) m
  | nothing {m' : Memory} (accounted : Accounted c es m'.state)
      (late : ∀ fault, c.Fails es fault → ∃ e ∈ es, e.isStart = true) : Met c m es (.ok ()) m'

theorem Met.of_fault (hc : c.requireAll = .ok ()) (ha : ∀ e ∈ es, e.isAsked = true)
    (hf : ∀ fault', Failed es fault' ↔ fault' = fault) : Met c m es (.error fault) m := by
  refine .fault ha fun fault' => ?_
  unfold Coordinator.Fails
  rw [hc, hf]
  simp

theorem Met.of_missing {reason : String} (hc : c.requireAll = .error (.configuration reason)) :
    Met c m [] (.error (.configuration reason)) m := by
  refine .fault (by simp) fun fault' => ?_
  unfold Coordinator.Fails
  rw [hc]
  simp [eq_comm]

theorem Met.of_start (asks : List Event) (hc : c.requireAll = .ok ()) (hm : m.state.isWaiting = true)
    (ha : ∀ e ∈ asks, e.isAsked = true) (hf : ∀ fault, ¬Failed asks fault) {r : Except Fault Unit}
    (h : (c.start id).run.Traces m es r m') : Met c m (asks ++ es) r m' := by
  obtain ⟨details, ⟨failure, rfl, rfl, rfl⟩ | ⟨x, rfl, rfl, rfl⟩⟩ := (traces_start hm).1 h
  · refine .of_fault hc ?_ fun fault' => ?_
    · simpa [or_imp, forall_and, Event.isAsked] using ha
    · simp [hf fault', Event.fault?, eq_comm]
  · have hstart : ∃ e ∈ asks ++ ([.asked .hostDetails details,
        .asked (.announce id details) (.ok ())] ++ .moved m.state .running ::
          .fired (.started false true) :: .fired (.registered false true) ::
            x.pass c.metadata id), e.isStart = true :=
      ⟨.moved m.state .running, by simp, rfl⟩
    obtain ⟨front, -, hpass⟩ := x.exists_pass_eq c.metadata id
    refine .nothing ⟨fun fault => ?_, fun hnone => ?_, fun _ => ⟨x.report c.metadata, ?_⟩⟩
      fun _ _ => hstart
    · have hstate : (x.memory { m with state := .running }).state.fault? = x.fault? := by
        rw [x.state_memory rfl]
        cases x.fault? <;> rfl
      unfold Coordinator.Fails
      simp [hstate, hc, hf fault, x.failed_pass, Event.fault?]
    · obtain ⟨e, he, hs⟩ := hstart
      rw [hnone e he] at hs
      contradiction
    · simp [hpass]

theorem met_tryStartUp {r : Except Fault Unit} (hm : m.state = .initial)
    (h : c.tryStartUp.run.Traces m es r m') : Met c m es r m' := by
  rcases (traces_tryStartUp hm).1 h with
    ⟨reason, hc, rfl, rfl, rfl⟩ | ⟨hc, ⟨failure, rfl, rfl, rfl⟩ | ⟨rfl, rfl, rfl⟩ | ⟨id, rest, rfl, hs⟩⟩
  · exact .of_missing hc
  · refine .of_fault hc (by simp [Event.isAsked]) fun fault' => ?_
    simp [fault?_loadIdentity, eq_comm]
  · have hnone (fault : Fault) : ¬c.Fails [.asked .loadIdentity (.ok none),
        .moved .initial .registering] fault := by
      simp [Coordinator.Fails, hc, Event.fault?]
    refine .nothing ⟨fun fault => ?_, fun _ change => by simp, fun hstart => ?_⟩
      fun fault hf => absurd hf (hnone fault)
    · simp [hnone fault, State.fault?]
    · simp [Event.isStart] at hstart
  · refine Met.of_start [_] hc (by rw [hm]; rfl) ?_ ?_ hs
    · simp [Event.isAsked]
    · simp [Event.fault?]

theorem met_tryRegister {location : String} {r : Except Fault Unit} (hm : m.state.isWaiting = true)
    (h : (c.tryRegister location).run.Traces m es r m') : Met c m es r m' := by
  rcases traces_tryRegister.1 h with
    ⟨reason, hc, rfl, rfl, rfl⟩ | ⟨hc, ⟨failure, rfl, rfl, rfl⟩ | ⟨id, stored, rest, rfl, hs⟩⟩
  · exact .of_missing hc
  · refine .of_fault hc (by simp [Event.isAsked]) fun fault' => ?_
    simp [Event.fault?, eq_comm]
  · refine Met.of_start [_, _] hc hm ?_ ?_ hs
    · simp [Event.isAsked]
    · simp [Event.fault?]

/-! ### Calls -/

/-- A fault that an attempt met ends the coordinator, nobody is told, and the answer is made of it. -/
theorem Met.carryOut {operation : Operation} {attempt : Attempt Unit}
    {answer : Fault → Except Fault Unit} {r : Except Fault Unit}
    (hm : m.state.supports operation = true) (hw : m.state.isWaiting = true)
    (hmet : ∀ {es r m'}, attempt.run.Traces m es r m' → Met c m es r m')
    (h : (Poller.carryOut operation attempt answer).Traces m es r m') :
    Accounted c es m'.state ∧
      ((∃ fault, c.Fails es fault ∧ (∀ e ∈ es, e.isStart = false) ∧ r = answer fault) ∨
        (∀ fault, c.Fails es fault → ∃ e ∈ es, e.isStart = true) ∧ r = .ok ()) := by
  rcases (traces_carryOut_of_accepted hm).1 h with
    ⟨htry, rfl⟩ | ⟨asks, fault, m₁, htry, rfl, rfl, rfl⟩
  · cases hmet htry with
    | nothing accounted late => exact ⟨accounted, .inr ⟨late, rfl⟩⟩
  · cases hmet htry with
    | fault asked only =>
      rw [State.turn_fatal_of_isWaiting hw fault, Memory.moveTo_of_isWaiting hw]
      have hasked {e : Event} (he : e ∈ asks) : e.isStart = false ∧ ∀ change, e ≠ .fired change := by
        have ha := asked e he
        cases e with
        | asked request answer => exact ⟨rfl, by simp⟩
        | fired change => contradiction
        | moved before after => contradiction
      have hstart : ∀ e ∈ asks ++ [.moved m.state (.fatal fault)], e.isStart = false := by
        intro e he
        rcases List.mem_append.1 he with he | he
        · exact (hasked he).1
        · rw [List.mem_singleton.1 he]
          rfl
      have hfails (fault' : Fault) :
          c.Fails (asks ++ [.moved m.state (.fatal fault)]) fault' ↔ fault' = fault := by
        rw [← only fault']
        simp [Coordinator.Fails, Event.fault?]
      refine ⟨⟨fun fault' => ?_, fun _ change hfired => ?_, fun ⟨e, he, hs⟩ => ?_⟩,
        .inl ⟨fault, (hfails fault).2 rfl, hstart, rfl⟩⟩
      · rw [hfails fault']
        simp [State.fault?, eq_comm]
      · rcases List.mem_append.1 hfired with hfired | hfired
        · exact (hasked hfired).2 change rfl
        · simp at hfired
      · rw [hstart e he] at hs
        contradiction

theorem startUp_cases {r : Except Fault Unit} (hc : c.requireAll = .ok ()) (hm : m.state = .initial)
    (h : (carryOut .startUp c.tryStartUp .error).Traces m es r m') :
    Stage c .initial es m'.state ∧ Accounted c es m'.state ∧
      ((∃ fault, r = .error fault ∧ c.Fails es fault ∧ ∀ e ∈ es, e.isStart = false) ∨
        r = .ok ()) := by
  have hs : m.state.supports .startUp = true := State.supports_eq_true_iff.2 hm
  have hw := State.isWaiting_of_supports hs nofun
  obtain ⟨haccounted, hr⟩ := Met.carryOut hs hw (met_tryStartUp hm) h
  have hcases := c.duty_cases (show c.duty? .startUp = some _ from rfl) h
  rcases hcases with ⟨hrefused, rfl, -⟩ | ⟨-, -, hstage⟩
  · rcases hr with ⟨fault, hf, -, -⟩ | ⟨-, rfl⟩
    · simp [Coordinator.Fails, hc] at hf
    · contradiction
  · rw [hm] at hstage
    refine ⟨hstage, haccounted, ?_⟩
    rcases hr with ⟨fault, hf, hn, rfl⟩ | ⟨-, rfl⟩
    · exact .inl ⟨fault, rfl, hf, hn⟩
    · exact .inr rfl

theorem register_cases {location : String} {r : Except Fault Unit} (hm : m.state = .registering)
    (h : (carryOut .register (c.tryRegister location) fun _ => .ok ()).Traces m es r m') :
    Stage c .registering es m'.state ∧ Accounted c es m'.state ∧ r = .ok () := by
  have hs : m.state.supports .register = true := State.supports_eq_true_iff.2 hm
  have hw := State.isWaiting_of_supports hs nofun
  obtain ⟨haccounted, hr⟩ := Met.carryOut hs hw (met_tryRegister hw) h
  have hok : r = .ok () := by
    rcases hr with ⟨-, -, -, hr⟩ | ⟨-, hr⟩ <;> exact hr
  have hcases := c.duty_cases (show c.duty? (.register location) = some _ from rfl) h
  rcases hcases with ⟨hrefused, -⟩ | ⟨-, -, hstage⟩
  · rw [hok] at hrefused
    contradiction
  · rw [hm] at hstage
    exact ⟨hstage, haccounted, hok⟩

/-! ### A call on its own -/

/-- What a call does between taking the guard and giving it back; a check of one service needs none. -/
def Coordinator.work (c : Coordinator) : Invocation → Call (Except Fault Unit)
  | .startUp => carryOut .startUp c.tryStartUp .error
  | .register location => carryOut .register (c.tryRegister location) fun _ => .ok ()
  | .pollService _ => (ensureSupported .pollService).run

/-- A coordinator with whatever it remembers, and one call before its first step. -/
def Coordinator.alone (c : Coordinator) (m : Memory) (invocation : Invocation) :
    Pool (Except Fault Unit) :=
  { memory := m, calls := [c.call invocation] }

theorem Coordinator.keeps_alone (c : Coordinator) (m : Memory) (invocation : Invocation) :
    (c.alone m invocation).Keeps fun i => [invocation][i]?.bind c.duty? :=
  fun i => c.keeps_pool {} [invocation] i

/-- A call that only looks at the memory ends with what it can show on its own. -/
theorem Pool.Run.traces_of_quiet {α : Type} {p q : Pool α} {os : List Occurrence} (h : p.Run os q)
    {t : Call α} (hp : p.calls = [t]) (ht : t.Within .quiet) (hq : q.IsDone) :
    ∃ a, q.result? 0 = some a ∧ t.Traces p.memory [] a q.memory ∧ events os = [] := by
  induction h generalizing t with
  | refl p =>
    obtain ⟨a, ha⟩ := Option.isSome_iff_exists.1 (hq 0 (by simp [hp]))
    have hdone := Pool.result?_eq_some.1 ha
    rw [hp] at hdone
    obtain rfl : t = .done a := by simpa using hdone
    exact ⟨a, ha, ⟨rfl, rfl, rfl⟩, rfl⟩
  | @step p q r o os hs _ ih =>
    have only {i : Nat} {s : Call α} (hi : p.calls[i]? = some s) : i = 0 ∧ t = s := by
      rw [hp] at hi
      cases i with
      | zero => exact ⟨rfl, by simpa using hi⟩
      | succ i => simp at hi
    cases hs with
    | ask hi => exact ((only hi).2 ▸ ht : (Call.ask _ _).Within .quiet).1.elim
    | fire hi => exact ((only hi).2 ▸ ht : (Call.fire _ _).Within .quiet).1.elim
    | tell hi => exact ((only hi).2 ▸ ht : (Call.tell _ _ _).Within .quiet).1.elim
    | enter hi => exact ((only hi).2 ▸ ht : (Call.enter _).Within .quiet).1.elim
    | leave hi => exact ((only hi).2 ▸ ht : (Call.leave _).Within .quiet).1.elim
    | @access i update next hi =>
      obtain ⟨rfl, rfl⟩ := only hi
      have hm : update p.memory = p.memory := ht.1 p.memory
      obtain ⟨a, ha, htraces, hes⟩ := ih (t := next p.memory) (by simp [Pool.resume, hp]) (ht.2.2 _) hq
      refine ⟨a, ha, ⟨[], ?_, htraces⟩, ?_⟩
      · rw [hm, Memory.moves_self]
        rfl
      · rw [events, List.flatMap_cons, ← events, hes]
        simp [Occurrence.events, hm]

theorem Pool.Serial.eq_nil {α : Type} {duty : Nat → Option (Call α)} {turns : List (Pool.Turn α)}
    (h : Pool.Serial duty m turns m') (hd : ∀ i, duty i = none) : turns = [] ∧ m' = m := by
  cases h with
  | nil => exact ⟨rfl, rfl⟩
  | cons todo _ _ =>
    rw [hd] at todo
    contradiction

/-- A call that nobody interrupts shows what its steps show on their own. -/
theorem Coordinator.traces_of_run_alone {invocation : Invocation} {os : List Occurrence}
    {q : Pool (Except Fault Unit)} (h : (c.alone m invocation).Run os q) (hq : q.IsDone) :
    ∃ r, q.result? 0 = some r ∧
      (c.work invocation).Traces m ((events os).map Prod.snd) r q.memory := by
  have guarded {t : Call (Except Fault Unit)} (ht : c.duty? invocation = some t) :
      ∃ r, q.result? 0 = some r ∧ t.Traces m ((events os).map Prod.snd) r q.memory := by
    obtain ⟨turns, hserial, hshown, hresults, -⟩ := h.serial hq (c.keeps_alone m invocation)
    have hone : ∀ i t', [invocation][i]?.bind c.duty? = some t' → i = 0 ∧ t' = t := by
      intro i t' h
      cases i with
      | zero => exact ⟨rfl, Option.some.inj (h.symm.trans ht)⟩
      | succ i => simp at h
    obtain ⟨turn, hturn, -⟩ := hserial.exists_turn (i := 0) ht
    cases hserial with
    | nil => simp at hturn
    | @cons _ t' _ m₁ _ first rest todo traces others =>
      obtain ⟨hfirst, rfl⟩ := hone first.call t' todo
      have hnone : ∀ i, Function.update (fun i => [invocation][i]?.bind c.duty?) first.call none i =
          none := by
        intro i
        by_contra hi
        obtain ⟨u, hu⟩ := Option.ne_none_iff_exists'.1 hi
        obtain ⟨hne, hu⟩ := Pool.update_none_eq_some hu
        exact hne ((hone i u hu).1.trans hfirst.symm)
      obtain ⟨rfl, hm⟩ := others.eq_nil hnone
      refine ⟨first.result, ?_, ?_⟩
      · rw [← hfirst]
        exact hresults first List.mem_cons_self
      · rw [hshown, Pool.map_snd_shown_cons, Pool.shown_nil, List.map_nil, List.append_nil, hm]
        exact traces
  cases invocation with
  | startUp => exact guarded rfl
  | register location => exact guarded rfl
  | pollService id =>
    obtain ⟨r, hr, htraces, hes⟩ := h.traces_of_quiet rfl (quiet_pollService c id) hq
    refine ⟨r, hr, ?_⟩
    rw [hes]
    exact htraces

theorem Coordinator.traces_work_of_refused {invocation : Invocation} {r : Except Fault Unit}
    (hm : m.state ≠ invocation.operation.home) (h : (c.work invocation).Traces m es r m') :
    r = .error (m.state.refusal invocation.operation) ∧ m' = m ∧ es = [] := by
  have hs : m.state.supports invocation.operation = false := by
    rw [← Bool.not_eq_true, State.supports_eq_true_iff]
    exact hm
  cases invocation with
  | startUp =>
    obtain ⟨rfl, rfl, rfl⟩ := (traces_carryOut_of_refused hs).1 h
    exact ⟨rfl, rfl, rfl⟩
  | register location =>
    obtain ⟨rfl, rfl, rfl⟩ := (traces_carryOut_of_refused hs).1 h
    exact ⟨rfl, rfl, rfl⟩
  | pollService id =>
    obtain ⟨rfl, rfl, rfl⟩ := traces_ensureSupported.1 h
    exact ⟨if_neg (ne_true_of_eq_false hs), rfl, rfl⟩

end ServiceWatch.Poller
