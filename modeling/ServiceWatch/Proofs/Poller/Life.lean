import ServiceWatch.Proofs.Poller.ScanPass

/-! Whatever calls come in, a coordinator goes through few stages: it may wait for its registration,
and then either fails or runs its pass. -/
namespace ServiceWatch.Poller

/-! ### Events -/

namespace Event

def isAsked : Event → Bool
  | .asked _ _ => true
  | _ => false

def isRegistration : Event → Bool
  | .asked (.registerAt _) _ => true
  | _ => false

def isAnnouncement : Event → Bool
  | .asked (.announce _ _) _ => true
  | _ => false

def isHandOver : Event → Bool
  | .fired (.exitNecessary _) => true
  | _ => false

def isStart : Event → Bool
  | .moved _ .running => true
  | _ => false

end Event

/-- The result of a call that the state did not accept. -/
def isRefusal : Except Fault Unit → Bool
  | .error (.illegalState _ _) => true
  | _ => false

/-- The coordinator does not run yet, but may do so some time. -/
def State.isWaiting : State → Bool
  | initial | registering => true
  | running | fatal _ => false

/-- Only questions to collaborators; there is at most one registration and one announcement. -/
structure Asking (es : List Event) : Prop where
  asked : ∀ e ∈ es, e.isAsked = true
  registrations : es.countP Event.isRegistration ≤ 1
  announcements : es.countP Event.isAnnouncement ≤ 1

/-! ### Stages -/

/-- What an accepted call shows, and the state that it leads to. -/
inductive Stage (c : Coordinator) : State → List Event → State → Prop
  /-- There is no identity, and the coordinator waits for its registration. -/
  | waits : Stage c .initial [.asked .loadIdentity (.ok none), .moved .initial .registering]
      .registering
  /-- The coordinator ends before it runs. -/
  | fails {s : State} {asks : List Event} (hs : s.isWaiting = true) (ha : Asking asks)
      (fault : Fault) :
      Stage c s (asks ++ [.moved s (.fatal fault)]) (.fatal fault)
  /-- The coordinator is announced and runs its pass. -/
  | runs {s : State} {asks : List Event} {id : String} {details : HostDetails}
      (hs : s.isWaiting = true) (ha : Asking (asks ++ [.asked (.announce id details) (.ok ())])) (x : Answers) :
      Stage c s (asks ++ [.asked (.announce id details) (.ok ())] ++
        .moved s .running :: .fired (.started false true) :: .fired (.registered false true) ::
          x.pass c.metadata id) (x.fault?.elim .running .fatal)

/-- Stages one after the other. -/
inductive Life (c : Coordinator) : State → List Event → State → Prop
  | idle (s : State) : Life c s [] s
  | stage {s s₁ s' : State} {es₁ es₂ : List Event} (h : Stage c s es₁ s₁)
      (rest : Life c s₁ es₂ s') :
      Life c s (es₁ ++ es₂) s'

variable {c : Coordinator} {s s' : State} {m m' : Memory} {es : List Event} {id : String}

/-- Behind a stage, only a coordinator that has just started up waits. -/
theorem Stage.waits_or (h : Stage c s es s') :
    s = .initial ∧ s' = .registering ∨ s'.isWaiting = false := by
  cases h with
  | waits => exact .inl ⟨rfl, rfl⟩
  | fails => exact .inr rfl
  | runs hs ha x => cases x.fault? <;> exact .inr rfl

theorem Stage.isWaiting (h : Stage c s es s') : s.isWaiting = true := by
  cases h with
  | waits => rfl
  | fails hs => exact hs
  | runs hs => exact hs

theorem Life.of_not_waiting (h : Life c s es s') (hs : s.isWaiting = false) : es = [] ∧ s' = s := by
  cases h with
  | idle => exact ⟨rfl, rfl⟩
  | stage h _ =>
    rw [h.isWaiting] at hs
    contradiction

/-! ### Attempts -/

theorem State.turn_fatal_of_isWaiting (h : s.isWaiting = true) (fault : Fault) :
    s.turn (.fatal fault) = [.moved s (.fatal fault)] := by
  cases s <;> first | contradiction | rfl

theorem State.turn_running_of_isWaiting (h : s.isWaiting = true) :
    s.turn .running = [.moved s .running, .fired (.started false true),
      .fired (.registered false true)] := by
  cases s <;> first | contradiction | rfl

theorem Memory.moveTo_of_isWaiting (h : m.state.isWaiting = true) (t : State) :
    m.moveTo t = { m with state := t } := by
  have ht : m.state.isTerminal = false := by
    cases hm : m.state <;> first | rfl | (rw [hm] at h; contradiction)
  simp [moveTo, ht]

theorem Answers.state_memory (x : Answers) (h : m.state = .running) :
    (x.memory m).state = x.fault?.elim .running .fatal := by
  unfold memory
  cases x.fault? with
  | none => exact (x.state_remembered m).trans h
  | some fault => simp [Memory.moveTo, h, State.isTerminal]

theorem traces_start {r : Except Fault Unit} (hm : m.state.isWaiting = true) :
    (c.start id).run.Traces m es r m' ↔ ∃ details,
      (∃ failure,
        es = [.asked .hostDetails details, .asked (.announce id details) (.error failure)] ∧
        r = .error (.backend failure) ∧ m' = m) ∨
      ∃ x : Answers, es = [.asked .hostDetails details, .asked (.announce id details) (.ok ())] ++
          .moved m.state .running :: .fired (.started false true) :: .fired (.registered false true) ::
            x.pass c.metadata id ∧
        r = .ok () ∧ m' = x.memory { m with state := .running } := by
  have hturn := State.turn_running_of_isWaiting hm
  have hmove := Memory.moveTo_of_isWaiting hm .running
  unfold Coordinator.start
  rw [traces_run_lift_bind]
  constructor
  · rintro ⟨_, details, _, _, h, h₂, rfl⟩
    obtain ⟨rfl, rfl⟩ := Call.traces_request.1 h
    refine ⟨details, ?_⟩
    rcases traces_askOrStop_bind.1 h₂ with ⟨failure, ha, rfl⟩ | ⟨_, _, _, _, ha, h₃, rfl⟩
    · obtain ⟨rfl, rfl⟩ := Call.traces_request.1 ha
      exact .inl ⟨failure, rfl, rfl, rfl⟩
    · obtain ⟨rfl, rfl⟩ := Call.traces_request.1 ha
      obtain ⟨_, _, _, _, hs, h₄, rfl⟩ := traces_run_lift_bind.1 h₃
      obtain ⟨rfl, rfl⟩ := traces_moveTo.1 hs
      obtain ⟨_, hp, rfl⟩ := traces_run_lift.1 h₄
      rw [hmove] at hp
      obtain ⟨x, rfl, rfl⟩ := (traces_scanPass rfl).1 hp
      refine .inr ⟨x, ?_, rfl, rfl⟩
      rw [hturn]
      rfl
  · rintro ⟨details, ⟨failure, rfl, rfl, rfl⟩ | ⟨x, rfl, rfl, rfl⟩⟩
    · refine ⟨_, details, m', _, Call.traces_request.2 ⟨rfl, rfl⟩, ?_, rfl⟩
      exact traces_askOrStop_bind.2 (.inl ⟨failure, Call.traces_request.2 ⟨rfl, rfl⟩, rfl⟩)
    · refine ⟨_, details, m, _, Call.traces_request.2 ⟨rfl, rfl⟩, ?_, rfl⟩
      refine traces_askOrStop_bind.2 (.inr ⟨_, (), m, _, Call.traces_request.2 ⟨rfl, rfl⟩, ?_, rfl⟩)
      refine traces_run_lift_bind.2 ⟨_, (), _, x.pass c.metadata id,
        traces_moveTo.2 ⟨rfl, rfl⟩, ?_, ?_⟩
      · rw [hmove]
        exact traces_run_lift.2 ⟨(), (traces_scanPass rfl).2 ⟨x, rfl, rfl⟩, rfl⟩
      · rw [hturn]
        rfl

theorem Coordinator.requireAll_eq_error {fault : Fault} (h : c.requireAll = .error fault) :
    ∃ reason, fault = .configuration reason := by
  unfold requireAll at h
  generalize Collaborator.all = xs at h
  induction xs with
  | nil => contradiction
  | cons x xs ih =>
    rw [List.forM_eq_forM, List.forM_cons] at h
    unfold require at h
    split at h
    · exact ih h
    · exact ⟨_, (Except.error.inj h).symm⟩

theorem traces_requireAll_bind {r : Except Fault Unit} {f : Unit → Attempt Unit} :
    ((liftM c.requireAll : Attempt Unit) >>= f).run.Traces m es r m' ↔
      (∃ reason, c.requireAll = .error (.configuration reason) ∧ es = [] ∧
        r = .error (.configuration reason) ∧ m' = m) ∨
      c.requireAll = .ok () ∧ (f ()).run.Traces m es r m' := by
  rw [traces_run_bind]
  simp only [traces_run_except]
  constructor
  · rintro (⟨fault, ⟨rfl, hf, rfl⟩, rfl⟩ | ⟨_, _, _, _, ⟨rfl, hc, rfl⟩, h, rfl⟩)
    · obtain ⟨reason, rfl⟩ := c.requireAll_eq_error hf.symm
      exact .inl ⟨reason, hf.symm, rfl, rfl, rfl⟩
    · exact .inr ⟨hc.symm, h⟩
  · rintro (⟨reason, hf, rfl, rfl, rfl⟩ | ⟨hc, h⟩)
    · exact .inl ⟨_, ⟨rfl, hf.symm, rfl⟩, rfl⟩
    · exact .inr ⟨[], (), m, es, ⟨rfl, hc.symm, rfl⟩, h, rfl⟩

theorem traces_tryStartUp {r : Except Fault Unit} (hm : m.state = .initial) :
    c.tryStartUp.run.Traces m es r m' ↔
      (∃ reason, c.requireAll = .error (.configuration reason) ∧ es = [] ∧
        r = .error (.configuration reason) ∧ m' = m) ∨
      c.requireAll = .ok () ∧
        ((∃ failure, es = [.asked .loadIdentity (.error failure)] ∧ m' = m ∧
            r = .error (.configuration failure.message)) ∨
          (es = [.asked .loadIdentity (.ok none), .moved .initial .registering] ∧ r = .ok () ∧
            m' = { m with state := .registering }) ∨
          ∃ id rest, es = .asked .loadIdentity (.ok (some id)) :: rest ∧
            (c.start id).run.Traces m rest r m') := by
  have hturn : m.state.turn .registering = [.moved .initial .registering] := by rw [hm]; rfl
  have hmove := Memory.moveTo_of_isWaiting (m := m) (by rw [hm]; rfl) .registering
  unfold Coordinator.tryStartUp loadIdentity
  rw [traces_requireAll_bind, traces_askOrStop_bind]
  refine or_congr_right (and_congr_right fun _ => ?_)
  constructor
  · rintro (⟨failure, h, rfl⟩ | ⟨_, _ | id, _, _, h, h₂, rfl⟩)
    · obtain ⟨rfl, rfl⟩ := Call.traces_request.1 h
      exact .inl ⟨failure, rfl, rfl, rfl⟩
    · obtain ⟨rfl, rfl⟩ := Call.traces_request.1 h
      obtain ⟨_, hs, rfl⟩ := traces_run_lift.1 h₂
      obtain ⟨rfl, rfl⟩ := traces_moveTo.1 hs
      exact .inr (.inl ⟨by rw [hturn]; rfl, rfl, hmove⟩)
    · obtain ⟨rfl, rfl⟩ := Call.traces_request.1 h
      exact .inr (.inr ⟨id, _, rfl, h₂⟩)
  · rintro (⟨failure, rfl, rfl, rfl⟩ | ⟨rfl, rfl, rfl⟩ | ⟨id, rest, rfl, h⟩)
    · exact .inl ⟨failure, Call.traces_request.2 ⟨rfl, rfl⟩, rfl⟩
    · refine .inr ⟨_, none, m, _, Call.traces_request.2 ⟨rfl, rfl⟩, ?_, rfl⟩
      exact traces_run_lift.2 ⟨(), traces_moveTo.2 ⟨hturn.symm, hmove.symm⟩, rfl⟩
    · exact .inr ⟨_, some id, m, rest, Call.traces_request.2 ⟨rfl, rfl⟩, h, rfl⟩

theorem traces_tryRegister {location : String} {r : Except Fault Unit} :
    (c.tryRegister location).run.Traces m es r m' ↔
      (∃ reason, c.requireAll = .error (.configuration reason) ∧ es = [] ∧
        r = .error (.configuration reason) ∧ m' = m) ∨
      c.requireAll = .ok () ∧
        ((∃ failure, es = [.asked (.registerAt location) (.error failure)] ∧
            r = .error (.registration failure) ∧ m' = m) ∨
          ∃ id stored rest, es = .asked (.registerAt location) (.ok id) ::
              .asked (.storeIdentity id) stored :: rest ∧ (c.start id).run.Traces m rest r m') := by
  unfold Coordinator.tryRegister
  rw [traces_requireAll_bind, traces_askOrStop_bind]
  refine or_congr_right (and_congr_right fun _ => ?_)
  constructor
  · rintro (⟨failure, h, rfl⟩ | ⟨_, id, _, _, h, h₂, rfl⟩)
    · obtain ⟨rfl, rfl⟩ := Call.traces_request.1 h
      exact .inl ⟨failure, rfl, rfl, rfl⟩
    · obtain ⟨rfl, rfl⟩ := Call.traces_request.1 h
      rcases traces_run_bind.1 h₂ with ⟨_, hs, -⟩ | ⟨_, _, _, rest, hs, h₃, rfl⟩
      · obtain ⟨_, -, hs⟩ := traces_run_discard.1 hs
        contradiction
      · obtain ⟨stored, hs, -⟩ := traces_run_discard.1 hs
        obtain ⟨rfl, rfl⟩ := Call.traces_request.1 hs
        exact .inr ⟨id, stored, rest, rfl, h₃⟩
  · rintro (⟨failure, rfl, rfl, rfl⟩ | ⟨id, stored, rest, rfl, h⟩)
    · exact .inl ⟨failure, Call.traces_request.2 ⟨rfl, rfl⟩, rfl⟩
    · refine .inr ⟨_, id, m, _, Call.traces_request.2 ⟨rfl, rfl⟩, ?_, rfl⟩
      refine traces_run_bind.2 (.inr ⟨[.asked (.storeIdentity id) stored], (), m, rest, ?_, h, rfl⟩)
      exact traces_run_discard.2 ⟨stored, Call.traces_request.2 ⟨rfl, rfl⟩, rfl⟩

/-- An attempt fails before it changes the state, or leads to the next stage. -/
def Attempted (c : Coordinator) (m : Memory) (es : List Event) (r : Except Fault Unit)
    (m' : Memory) : Prop :=
  (∃ fault, r = .error fault ∧ isRefusal (.error fault) = false ∧ Asking es ∧ m' = m) ∨
    r = .ok () ∧ Stage c m.state es m'.state

theorem Attempted.of_start (asks : List Event) {rest : List Event} {r : Except Fault Unit}
    (hm : m.state.isWaiting = true) (h : (c.start id).run.Traces m rest r m')
    (ha : ∀ e ∈ asks, e.isAsked = true) (hr : asks.countP Event.isRegistration ≤ 1)
    (hn : asks.countP Event.isAnnouncement = 0) : Attempted c m (asks ++ rest) r m' := by
  have hask (details : HostDetails) (answer : Except Failure Unit) :
      Asking (asks ++ [.asked .hostDetails details] ++ [.asked (.announce id details) answer]) := by
    refine ⟨?_, ?_, ?_⟩
    · simpa [or_imp, forall_and, Event.isAsked] using ha
    · simpa [Event.isRegistration] using hr
    · simp [hn, Event.isAnnouncement]
  obtain ⟨details, ⟨failure, rfl, rfl, rfl⟩ | ⟨x, rfl, rfl, rfl⟩⟩ := (traces_start hm).1 h
  · refine .inl ⟨_, rfl, rfl, ?_, rfl⟩
    simpa using hask details (.error failure)
  · refine .inr ⟨rfl, ?_⟩
    rw [x.state_memory rfl]
    simpa using Stage.runs (c := c) hm (hask details (.ok ())) x

theorem Coordinator.attempted_tryStartUp {r : Except Fault Unit} (hm : m.state = .initial)
    (h : c.tryStartUp.run.Traces m es r m') : Attempted c m es r m' := by
  have hw : m.state.isWaiting = true := by rw [hm]; rfl
  rcases (traces_tryStartUp hm).1 h with ⟨reason, -, rfl, rfl, rfl⟩ | ⟨-, ⟨failure, rfl, rfl, rfl⟩ |
    ⟨rfl, rfl, rfl⟩ | ⟨id, rest, rfl, hstart⟩⟩
  · exact .inl ⟨_, rfl, rfl, ⟨by simp, by simp, by simp⟩, rfl⟩
  · refine .inl ⟨_, rfl, rfl, ⟨?_, ?_, ?_⟩, rfl⟩ <;>
      simp [Event.isAsked, Event.isRegistration, Event.isAnnouncement]
  · refine .inr ⟨rfl, ?_⟩
    rw [hm]
    exact .waits
  · refine Attempted.of_start [_] hw hstart ?_ ?_ ?_ <;>
      simp [Event.isAsked, Event.isRegistration, Event.isAnnouncement]

theorem Coordinator.attempted_tryRegister {location : String} {r : Except Fault Unit}
    (hm : m.state.isWaiting = true) (h : (c.tryRegister location).run.Traces m es r m') :
    Attempted c m es r m' := by
  rcases traces_tryRegister.1 h with ⟨reason, -, rfl, rfl, rfl⟩ | ⟨-, ⟨failure, rfl, rfl, rfl⟩ |
    ⟨id, stored, rest, rfl, hstart⟩⟩
  · exact .inl ⟨_, rfl, rfl, ⟨by simp, by simp, by simp⟩, rfl⟩
  · refine .inl ⟨_, rfl, rfl, ⟨?_, ?_, ?_⟩, rfl⟩ <;>
      simp [Event.isAsked, Event.isRegistration, Event.isAnnouncement]
  · refine Attempted.of_start [_, _] hm hstart ?_ ?_ ?_
    · simp [Event.isAsked]
    · simp [List.countP_cons, Event.isRegistration]
    · simp [Event.isAnnouncement]

/-- A call is refused without a trace, or leads to the next stage, which is the end after a failed
attempt. -/
theorem carryOut_cases {operation : Operation} {attempt : Attempt Unit}
    {answer : Fault → Except Fault Unit} {r : Except Fault Unit}
    (ha : m.state.supports operation = true → m.state.isWaiting = true ∧
      ∀ {es r m'}, attempt.run.Traces m es r m' → Attempted c m es r m')
    (hn : ∀ fault, isRefusal (.error fault) = false → isRefusal (answer fault) = false)
    (h : (carryOut operation attempt answer).Traces m es r m') :
    (isRefusal r = true ∧ es = [] ∧ m' = m) ∨
      isRefusal r = false ∧ m.state.supports operation = true ∧ Stage c m.state es m'.state := by
  cases hs : m.state.supports operation with
  | false =>
    obtain ⟨rfl, rfl, rfl⟩ := (traces_carryOut_of_refused hs).1 h
    exact .inl ⟨rfl, rfl, rfl⟩
  | true =>
    obtain ⟨hw, ha⟩ := ha hs
    rcases (traces_carryOut_of_accepted hs).1 h with
      ⟨htry, rfl⟩ | ⟨es₁, fault, m₁, htry, rfl, rfl, rfl⟩
    · rcases ha htry with ⟨_, hr, -⟩ | ⟨-, hstage⟩
      · contradiction
      · exact .inr ⟨rfl, rfl, hstage⟩
    · rcases ha htry with ⟨_, hr, hf, hask, rfl⟩ | ⟨hr, -⟩
      · cases hr
        refine .inr ⟨hn fault hf, rfl, ?_⟩
        rw [State.turn_fatal_of_isWaiting hw fault, Memory.moveTo_of_isWaiting hw]
        exact .fails hw hask fault
      · contradiction

/-! ### Calls -/

def Operation.home : Operation → State
  | startUp => .initial
  | register => .registering
  | pollService => .running

theorem State.supports_eq_true_iff {operation : Operation} :
    s.supports operation = true ↔ s = operation.home := by
  cases s <;> cases operation <;> simp [State.supports, Operation.home]

theorem State.isWaiting_of_supports {operation : Operation} (h : s.supports operation = true)
    (ho : operation ≠ .pollService) : s.isWaiting = true := by
  rw [State.supports_eq_true_iff.1 h]
  cases operation with
  | startUp => rfl
  | register => rfl
  | pollService => contradiction

def Invocation.operation : Invocation → Operation
  | startUp => .startUp
  | register _ => .register
  | pollService _ => .pollService

/-- What a call does under the guard; a check of one service does without it. -/
def Coordinator.duty? (c : Coordinator) : Invocation → Option (Call (Except Fault Unit))
  | .startUp => some (carryOut .startUp c.tryStartUp .error)
  | .register location => some (carryOut .register (c.tryRegister location) fun _ => .ok ())
  | .pollService _ => none

theorem Coordinator.duty_cases {invocation : Invocation} {t : Call (Except Fault Unit)}
    {r : Except Fault Unit} (ht : c.duty? invocation = some t) (h : t.Traces m es r m') :
    (isRefusal r = true ∧ es = [] ∧ m' = m) ∨
      isRefusal r = false ∧ m.state.supports invocation.operation = true ∧
        Stage c m.state es m'.state := by
  cases invocation with
  | startUp =>
    cases ht
    refine carryOut_cases (fun hs => ?_) (fun _ hf => hf) h
    have hw := State.isWaiting_of_supports hs nofun
    exact ⟨hw, c.attempted_tryStartUp (State.supports_eq_true_iff.1 hs)⟩
  | register location =>
    cases ht
    refine carryOut_cases (fun hs => ?_) (fun _ _ => rfl) h
    have hw := State.isWaiting_of_supports hs nofun
    exact ⟨hw, c.attempted_tryRegister hw⟩
  | pollService id => contradiction

/-! ### The guard -/

theorem modest_moveTo (s : State) : (moveTo s).Within .modest := by
  have hf {change : Bool → Bool → Change} {old new : Bool} :
      (fireIfChanged change old new).Within .modest := by
    unfold fireIfChanged
    split
    · trivial
    · exact ⟨trivial, trivial⟩
  have hm (m : Memory) (ls : Listeners) :
      Memory.moveTo { m with listeners := ls } s = { m.moveTo s with listeners := ls } := by
    unfold Memory.moveTo
    split <;> rfl
  refine ⟨hm, fun m m' ⟨ls, hls⟩ => by rw [hls], fun m => ?_⟩
  dsimp only
  split
  · trivial
  · exact .bind hf fun _ => hf

theorem modest_ensureSupported (operation : Operation) :
    (ensureSupported operation).run.Within .modest := by
  refine within_ensureSupported (fun _ _ => rfl) ?_ operation
  rintro m _ ⟨ls, rfl⟩
  rfl

theorem modest_fetchServices (id : String) : (fetchServices id).run.Within .modest := by
  have asked {r : Request} : (Call.request r).Within .modest := Call.within_request trivial r
  refine within_run_bind (within_askOrStop asked) fun locators => ?_
  refine within_run_bind (within_run_lift asked) fun _ => ?_
  refine within_run_bind ?_ fun _ => trivial
  refine within_run_bind (within_askOrStop asked) fun configuration => ?_
  refine within_run_bind (within_run_lift asked) fun _ => ?_
  exact ⟨fun _ _ => rfl, fun _ _ _ => rfl, fun _ => trivial⟩

theorem modest_checkAll {total first : Nat} {services : List PolledService}
    {report : ScanReport} : (checkAll total first services report).Within .modest := by
  induction services generalizing first report with
  | nil => trivial
  | cons s services ih =>
    refine .bind ?_ fun r => ?_
    · exact within_run_bind (within_askOrStop (Call.within_request trivial _)) fun _ =>
        within_askOrStop (Call.within_request trivial _)
    · cases r with
      | error fault => trivial
      | ok status => exact ⟨trivial, ih⟩

theorem modest_scanPass (c : Coordinator) (id : String) : (c.scanPass id).Within .modest := by
  have fired (change : Change) : (fire change).Within .modest := ⟨trivial, trivial⟩
  have handed (report : ScanReport) : (do
      fire (.percentageComplete .finish)
      fire (.exitNecessary report) : Call Unit).Within .modest := .bind (fired _) fun _ => fired _
  refine .bind (fired _) fun _ => .bind ?_ fun r => ?_
  · refine .bind (modest_fetchServices id) fun r => ?_
    cases r with
    | error fault => trivial
    | ok services => exact modest_checkAll
  · obtain ⟨_ | fault, report⟩ := r
    · exact handed report
    · exact .bind (modest_moveTo _) fun _ => handed report

theorem modest_start (c : Coordinator) (id : String) : (c.start id).run.Within .modest := by
  have asked {r : Request} : (Call.request r).Within .modest := Call.within_request trivial r
  refine within_run_bind (within_run_lift asked) fun details => ?_
  refine within_run_bind (within_askOrStop asked) fun _ => ?_
  refine within_run_bind (within_run_lift (modest_moveTo _)) fun _ => ?_
  exact within_run_lift (modest_scanPass c id)

theorem modest_tryStartUp (c : Coordinator) : c.tryStartUp.run.Within .modest := by
  refine within_run_bind (x := liftM c.requireAll) trivial fun _ => ?_
  refine within_run_bind (within_askOrStop (Call.within_request trivial _)) fun id => ?_
  cases id with
  | none => exact within_run_lift (modest_moveTo _)
  | some id => exact modest_start c id

theorem modest_tryRegister (c : Coordinator) (location : String) :
    (c.tryRegister location).run.Within .modest := by
  refine within_run_bind (x := liftM c.requireAll) trivial fun _ => ?_
  refine within_run_bind (within_askOrStop (Call.within_request trivial _)) fun id => ?_
  refine within_run_bind (x := discard (liftM _)) ?_ fun _ => modest_start c id
  exact ⟨trivial, fun _ => trivial⟩

theorem modest_carryOut {operation : Operation} {attempt : Attempt Unit}
    {answer : Fault → Except Fault Unit} (h : attempt.run.Within .modest) :
    (carryOut operation attempt answer).Within .modest := by
  refine .bind (modest_ensureSupported operation) fun r => ?_
  cases r with
  | error fault => trivial
  | ok u =>
    refine .bind h fun r => ?_
    cases r with
    | error fault => exact .bind (modest_moveTo _) fun _ => trivial
    | ok u => trivial

theorem Coordinator.modest_duty {c : Coordinator} {invocation : Invocation}
    {t : Call (Except Fault Unit)} (ht : c.duty? invocation = some t) : t.Within .modest := by
  cases invocation with
  | startUp =>
    cases ht
    exact modest_carryOut (modest_tryStartUp c)
  | register location =>
    cases ht
    exact modest_carryOut (modest_tryRegister c location)
  | pollService id => contradiction

theorem quiet_pollService (c : Coordinator) (id : UInt32) : (c.pollService id).Within .quiet :=
  within_ensureSupported (fun _ => rfl) (fun m m' h => by rw [h]) .pollService

/-- The calls of a fresh coordinator keep to the guard. -/
theorem Coordinator.keeps_pool (c : Coordinator) (listeners : Listeners)
    (invocations : List Invocation) :
    (c.pool listeners invocations).Keeps fun i => invocations[i]?.bind c.duty? := by
  intro i
  have hi : (c.pool listeners invocations).calls[i]? = invocations[i]?.map c.call := by
    simp [pool]
  rw [hi]
  change Pool.Stands false (invocations[i]?.bind c.duty?) _
  cases invocations[i]? with
  | none => exact .absent
  | some invocation =>
    have hduty {t : Call (Except Fault Unit)} (ht : c.duty? invocation = some t) :
        t.Within .unguarded := (modest_duty ht).mono Scope.modest_le_unguarded
    cases invocation with
    | startUp => exact .waiting (hduty rfl)
    | register location => exact .waiting (hduty rfl)
    | pollService id => exact .quiet (quiet_pollService c id)

namespace Pool

variable {α : Type} {duty : Nat → Option (Call α)} {turns : List (Turn α)} {i j : Nat}

/-! ### Turns -/

theorem update_none_eq_some {t : Call α} (h : Function.update duty j none i = some t) :
    i ≠ j ∧ duty i = some t := by
  by_cases hi : i = j
  · subst hi
    rw [Function.update_self] at h
    contradiction
  · rw [Function.update_of_ne hi] at h
    exact ⟨hi, h⟩

theorem Serial.duty_eq_some (h : Serial duty m turns m') {turn : Turn α} (ht : turn ∈ turns) :
    ∃ t, duty turn.call = some t := by
  induction h with
  | nil => simp at ht
  | cons todo _ _ ih =>
    rcases List.mem_cons.1 ht with rfl | ht
    · exact ⟨_, todo⟩
    · obtain ⟨t, h⟩ := ih ht
      exact ⟨t, (update_none_eq_some h).2⟩

/-- Whatever has to be done is done in some turn. -/
theorem Serial.exists_turn (h : Serial duty m turns m') {t : Call α} (ht : duty i = some t) :
    ∃ turn ∈ turns, turn.call = i := by
  induction h with
  | nil h =>
    rw [h i] at ht
    contradiction
  | @cons duty _ _ _ _ turn turns _ _ _ ih =>
    by_cases hi : i = turn.call
    · exact ⟨turn, List.mem_cons_self, hi.symm⟩
    · obtain ⟨u, hu, rfl⟩ := ih (by rwa [Function.update_of_ne hi])
      exact ⟨u, List.mem_cons_of_mem _ hu, rfl⟩

/-- No call has two turns. -/
theorem Serial.call_ne (h : Serial duty m turns m') :
    turns.Pairwise fun turn later => later.call ≠ turn.call := by
  induction h with
  | nil => exact .nil
  | cons _ _ rest ih =>
    refine .cons (fun later hl => ?_) ih
    obtain ⟨t, ht⟩ := rest.duty_eq_some hl
    exact (update_none_eq_some ht).1

theorem call_mem_of_mem_shown {e : Event} (h : (i, e) ∈ shown turns) :
    ∃ turn ∈ turns, turn.call = i := by
  simp only [shown, List.mem_flatMap, List.mem_map, Prod.mk.injEq] at h
  obtain ⟨turn, ht, _, _, hi, _⟩ := h
  exact ⟨turn, ht, hi⟩

/-- What two calls show never interleaves. -/
theorem apart_of_sublist (h : turns.Pairwise fun turn later => later.call ≠ turn.call)
    {x y z : Event} (hs : [(i, x), (j, y), (i, z)].Sublist (shown turns)) : j = i := by
  induction turns with
  | nil => simp at hs
  | cons turn turns ih =>
    obtain ⟨hne, h⟩ := List.pairwise_cons.1 h
    rw [shown_cons, List.sublist_append_iff] at hs
    obtain ⟨l₁, l₂, hl, h₁, h₂⟩ := hs
    -- the call of this turn has no part in the later ones
    have here {k : Nat} {e : Event} (hk : (k, e) ∈ l₁) : k = turn.call := by
      obtain ⟨_, _, hp⟩ := List.mem_map.1 (h₁.mem hk)
      exact (congrArg Prod.fst hp).symm
    have later {k : Nat} {e : Event} (hk : (k, e) ∈ l₂) : k ≠ turn.call := by
      obtain ⟨u, hu, rfl⟩ := call_mem_of_mem_shown (h₂.mem hk)
      exact hne u hu
    rcases l₁ with _ | ⟨_, _ | ⟨_, l₁⟩⟩
    · obtain rfl : _ = l₂ := hl
      exact ih h h₂
    · simp only [List.cons_append, List.nil_append, List.cons.injEq] at hl
      obtain ⟨rfl, rfl⟩ := hl
      have hi : i = turn.call := here List.mem_cons_self
      exact (later (List.mem_cons_of_mem _ List.mem_cons_self) hi).elim
    · simp only [List.cons_append, List.cons.injEq] at hl
      obtain ⟨rfl, rfl, -⟩ := hl
      have hi : i = turn.call := here List.mem_cons_self
      exact (here (List.mem_cons_of_mem _ List.mem_cons_self)).trans hi.symm

/-! ### Lives -/

section Life

variable {c : Coordinator} {invocations : List Invocation}
  {duty : Nat → Option (Call (Except Fault Unit))} {turns : List (Turn (Except Fault Unit))}

/-- What the calls have to do is what a coordinator does for invocations. -/
def Serves (c : Coordinator) (invocations : List Invocation)
    (duty : Nat → Option (Call (Except Fault Unit))) : Prop :=
  ∀ i t, duty i = some t → ∃ invocation, invocations[i]? = some invocation ∧
    c.duty? invocation = some t

theorem Serves.update (h : Serves c invocations duty) (j : Nat) :
    Serves c invocations (Function.update duty j none) :=
  fun i t ht => h i t (update_none_eq_some ht).2

theorem serves_pool (c : Coordinator) (invocations : List Invocation) :
    Serves c invocations fun i => invocations[i]?.bind c.duty? :=
  fun _ _ ht => Option.bind_eq_some_iff.1 ht

/-- The turns of a coordinator's calls make up a life. -/
theorem Serial.life (hd : Serves c invocations duty) (h : Serial duty m turns m') :
    Life c m.state ((shown turns).map Prod.snd) m'.state := by
  induction h with
  | nil => exact .idle _
  | @cons duty t m m₁ m' turn turns todo traces _ ih =>
    have hlife := ih (hd.update turn.call)
    rw [map_snd_shown_cons]
    obtain ⟨_, -, ht⟩ := hd _ _ todo
    rcases c.duty_cases ht traces with ⟨-, he, rfl⟩ | ⟨-, -, hstage⟩
    · rwa [he]
    · exact .stage hstage hlife

end Life

end Pool

end ServiceWatch.Poller
