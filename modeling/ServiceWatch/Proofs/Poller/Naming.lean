import ServiceWatch.Proofs.Poller.Restart
import ServiceWatch.Proofs.Poller.Running

/-! A registered poller is named by the identity that its store holds, which is the one it announced
itself under unless this could not be stored. -/
namespace ServiceWatch.Poller

open ServiceWatch.Files (Disk FileSystem FilePath run_bind_of_run)

/-! ### Where the identity of a running poller comes from -/

/-- What a poller shows until it goes by an identity: it finds the identity, or registers for it. -/
inductive Identified (id : String) : List Event → Prop
  | found : Identified id [.asked .loadIdentity (.ok (some id))]
  | registered (location : String) (stored : Except Failure Unit) :
    Identified id [.asked .loadIdentity (.ok none), .moved .initial .registering,
      .asked (.registerAt location) (.ok id), .asked (.storeIdentity id) stored]

/-- What a poller has shown that waits in a state. -/
def State.lead : State → List Event
  | .registering => [.asked .loadIdentity (.ok none), .moved .initial .registering]
  | _ => []

variable {c : Coordinator} {m m' : Memory} {s s' : State} {es : List Event} {id : String}

theorem Identified.not_start {front : List Event} (h : Identified id front) :
    .moved s .running ∉ front := by
  cases h <;> simp

theorem Identified.not_announced {front : List Event} (h : Identified id front) {id' : String}
    {details : HostDetails} {x : Except Failure Unit} :
    .asked (.announce id' details) x ∉ front := by
  cases h <;> simp

/-- Only an attempt that succeeds starts a coordinator. -/
theorem traces_attempt_of_start {operation : Operation} {attempt : Attempt Unit}
    {answer : Fault → Except Fault Unit} {r : Except Fault Unit}
    (hs : m.state.supports operation = true)
    (ha : ∀ {es r m'}, attempt.run.Traces m es r m' → Attempted c m es r m')
    (h : (carryOut operation attempt answer).Traces m es r m') (hstart : .moved s .running ∈ es) :
    attempt.run.Traces m es (.ok ()) m' := by
  rcases (traces_carryOut_of_accepted hs).1 h with ⟨htry, -⟩ | ⟨asks, fault, m₁, htry, -, rfl, -⟩
  · exact htry
  · rcases ha htry with ⟨_, -, -, hasks, -⟩ | ⟨hr, -⟩
    · have hend : .moved s .running ∉ m₁.state.turn (.fatal fault) := fun hm => by
        unfold State.turn at hm
        split_ifs at hm <;> simp at hm
      exact (List.mem_append.1 hstart).elim (fun hm => (hasks.counts.2.2 _ _ hm).elim)
        fun hm => (hend hm).elim
    · contradiction

theorem Stage.not_waiting_of_announced (front : List Event) {rest : List Event}
    (h : Stage c s (front ++ rest) s') (hfront : ∀ e ∈ front, e.isAsked = true)
    (hrest : Announced id rest) : s'.isWaiting = false := by
  refine h.not_waiting fun hwaits => ?_
  rcases List.mem_append.1 hwaits with hm | hm
  · exact nomatch hfront _ hm
  · exact hrest.2 _ hm

/-- A call that starts a coordinator has its identity first, and goes by it from there on. -/
theorem Coordinator.identified_of_duty {invocation : Invocation} {t : Call (Except Fault Unit)}
    {r : Except Fault Unit} (ht : c.duty? invocation = some t) (h : t.Traces m es r m')
    (hstart : .moved s .running ∈ es) : c.requireAll = .ok () ∧ m'.state.isWaiting = false ∧
      ∃ id front rest, Identified id (m.state.lead ++ front) ∧ es = front ++ rest ∧
        Announced id rest := by
  rcases c.duty_cases ht h with ⟨-, rfl, -⟩ | ⟨-, hs, hstage⟩
  · simp at hstart
  cases invocation with
  | pollService id => contradiction
  | startUp =>
    cases ht
    have hm : m.state = .initial := State.supports_eq_true_iff.1 hs
    have htry := traces_attempt_of_start hs (c.attempted_tryStartUp hm) h hstart
    rcases (traces_tryStartUp hm).1 htry with
      ⟨_, -, -, hr, -⟩ | ⟨hc, ⟨_, -, -, hr⟩ | ⟨rfl, -⟩ | ⟨id, rest, rfl, hrest⟩⟩
    · contradiction
    · contradiction
    · simp at hstart
    · have hannounced := announced_start (by rw [hm]; rfl) hrest
      refine ⟨hc, Stage.not_waiting_of_announced [_] hstage ?_ hannounced, id, [_], rest, ?_,
        rfl, hannounced⟩
      · simp [Event.isAsked]
      · rw [hm]
        exact .found
  | register location =>
    cases ht
    have hm : m.state = .registering := State.supports_eq_true_iff.1 hs
    have hw : m.state.isWaiting = true := by rw [hm]; rfl
    have htry := traces_attempt_of_start hs (c.attempted_tryRegister hw) h hstart
    rcases traces_tryRegister.1 htry with
      ⟨_, -, -, hr, -⟩ | ⟨hc, ⟨_, -, hr, -⟩ | ⟨id, stored, rest, rfl, hrest⟩⟩
    · contradiction
    · contradiction
    · have hannounced := announced_start hw hrest
      refine ⟨hc, Stage.not_waiting_of_announced [_, _] hstage ?_ hannounced, id, [_, _],
        rest, ?_, rfl, hannounced⟩
      · simp [Event.isAsked]
      · rw [hm]
        exact .registered location stored

theorem Stage.of_waiting (h : Stage c s es s') (hw : s'.isWaiting = true) :
    s = .initial ∧ es = s'.lead ∧ s' = .registering := by
  cases h with
  | waits => exact ⟨rfl, rfl, rfl⟩
  | fails => contradiction
  | runs _ _ x => cases hx : x.fault? <;> simp [hx, State.isWaiting] at hw

namespace Pool

variable {α : Type} {invocations : List Invocation} {duty : Nat → Option (Call (Except Fault Unit))}
  {turns : List (Turn (Except Fault Unit))}

/-- A coordinator that starts in some turn has shown its identity before, and goes by it. -/
theorem Serial.identified (hd : Serves c invocations duty) (h : Serial duty m turns m')
    (hw : m.state.isWaiting = true) (hstart : .moved s .running ∈ (shown turns).map Prod.snd) :
    c.requireAll = .ok () ∧ ∃ id front rest, Identified id (m.state.lead ++ front) ∧
      (shown turns).map Prod.snd = front ++ rest ∧ Announced id rest := by
  induction h with
  | nil => simp at hstart
  | @cons duty t m m₁ m' turn turns todo traces hserial ih =>
    obtain ⟨invocation, -, ht⟩ := hd _ _ todo
    have hlater := hserial.life (hd.update turn.call)
    rw [map_snd_shown_cons] at hstart ⊢
    by_cases hnow : .moved s .running ∈ turn.events
    · obtain ⟨hc, hdone, id, front, rest, hid, hes, hannounced⟩ :=
        c.identified_of_duty ht traces hnow
      obtain ⟨hnone, -⟩ := hlater.of_not_waiting hdone
      exact ⟨hc, id, front, rest, hid, by rw [hnone, List.append_nil, hes], hannounced⟩
    · have hlate := (List.mem_append.1 hstart).resolve_left hnow
      rcases c.duty_cases ht traces with ⟨-, hes, rfl⟩ | ⟨-, -, hstage⟩
      · rw [hes]
        exact ih (hd.update _) hw hlate
      · have hwaits : m₁.state.isWaiting = true := by
          by_contra hdone
          obtain ⟨hnone, -⟩ := hlater.of_not_waiting (Bool.not_eq_true _ ▸ hdone)
          simp [hnone] at hlate
        obtain ⟨hm, hes, hm₁⟩ := hstage.of_waiting hwaits
        obtain ⟨hc, id, front, rest, hid, hrest, hannounced⟩ := ih (hd.update _) hwaits hlate
        refine ⟨hc, id, turn.events ++ front, rest, ?_, ?_, hannounced⟩
        · rw [hm, hes]
          exact hid
        · rw [hrest, List.append_assoc]

theorem Run.state_eq_or_moved {p q : Pool α} {os : List Occurrence} (h : p.Run os q) :
    q.memory.state = p.memory.state ∨
      ∃ s, .moved s q.memory.state ∈ (events os).map Prod.snd := by
  induction h with
  | refl => exact .inl rfl
  | @step p q r o os hs _ ih =>
    rcases ih with hr | ⟨s, hr⟩
    · by_cases hq : q.memory.state = p.memory.state
      · exact .inl (hr.trans hq)
      · obtain ⟨i, hmoved⟩ := hs.moved_mem_events hq
        refine .inr ⟨p.memory.state, List.mem_map.2 ⟨(i, _), ?_, rfl⟩⟩
        rw [hr]
        exact List.mem_append_left _ hmoved
    · refine .inr ⟨s, ?_⟩
      rw [events, List.flatMap_cons, List.map_append]
      exact List.mem_append_right _ hr

end Pool

section Runs

variable {listeners : Listeners} {invocations : List Invocation} {os : List Occurrence}
  {q : Pool (Except Fault Unit)}

/-- A registered poller has all its collaborators, got its identity at the start or from its
registration, announced itself under it, and did everything else by it. -/
theorem Coordinator.identified_of_registered (h : (c.pool listeners invocations).Run os q)
    (hq : q.memory.state.isRegistered = true) : c.requireAll = .ok () ∧ ∃ id details front rest,
      Identified id front ∧ (events os).map Prod.snd = front ++ rest ∧
        .asked (.announce id details) (.ok ()) ∈ rest ∧ ∀ e ∈ rest, e.GoesBy id := by
  have hrunning : q.memory.state = .running := by
    cases hs : q.memory.state <;> first | rfl | (rw [hs] at hq; contradiction)
  obtain ⟨s, hstart⟩ : ∃ s, .moved s .running ∈ (events os).map Prod.snd := by
    rcases h.state_eq_or_moved with hsame | hmoved
    · rw [hrunning] at hsame
      contradiction
    · rwa [hrunning] at hmoved
  -- what was shown so far is the front of what an end of the run shows
  obtain ⟨tail, r, hrest, hr, -⟩ := c.exists_run_isDone h Request.someAnswer
  obtain ⟨turns, hserial, hshown, -⟩ := (h.trans hrest).serial hr (c.keeps_pool listeners invocations)
  have hserves := Pool.serves_pool c invocations
  obtain ⟨before, after, hes⟩ := List.append_of_mem hstart
  have hall : (Pool.shown turns).map Prod.snd =
      before ++ .moved s .running :: (after ++ (events tail).map Prod.snd) := by
    rw [← hshown, Pool.events_append, List.map_append, hes, List.append_assoc, List.cons_append]
  obtain ⟨hc, id, front, rest, hid, hfront, -, hgoes⟩ := hserial.identified (s := s) hserves rfl
    (by simp [hall])
  change Identified id front at hid
  obtain ⟨id', details, earlier, -, hbefore, -⟩ := (hserial.life hserves).of_start hall
  obtain ⟨l, hl, rfl⟩ := exists_append_of_notMem hid.not_start (hfront.symm.trans hall)
  have hannounced : .asked (.announce id' details) (.ok ()) ∈ l := by
    have hmem : .asked (.announce id' details) (.ok ()) ∈ front ++ l := by
      rw [← hl, hbefore]
      simp
    exact (List.mem_append.1 hmem).resolve_left hid.not_announced
  obtain rfl : id' = id := hgoes _ (List.mem_append_left _ hannounced)
  refine ⟨hc, id', details, front, l ++ .moved s .running :: after, hid, ?_,
    List.mem_append_left _ hannounced, fun e he => hgoes e ?_⟩
  · rw [hes, hl, List.append_assoc]
  · simp only [List.mem_append, List.mem_cons] at he ⊢
    tauto

end Runs

/-! ### Asking for the name -/

theorem Coordinator.require_of_requireAll (h : c.requireAll = .ok ()) (x : Collaborator) :
    c.require x = .ok () := by
  have hx : x ∈ Collaborator.all := by cases x <;> decide
  unfold requireAll at h
  generalize Collaborator.all = xs at h hx
  induction xs with
  | nil => simp at hx
  | cons y ys ih =>
    rw [List.forM_eq_forM, List.forM_cons] at h
    cases hy : c.require y with
    | error fault => simp [hy, bind, Except.bind] at h
    | ok u =>
      rw [hy] at h
      rcases List.mem_cons.1 hx with rfl | hx
      · exact hy
      · exact ih h hx

theorem traces_monitorName_of_unregistered {r : Except Fault String}
    (hm : m.state.isRegistered = false) :
    c.monitorName.Traces m es r m' ↔ es = [] ∧ r = .ok "" ∧ m' = m := by
  unfold Coordinator.monitorName
  rw [traces_run_lift_bind]
  constructor
  · rintro ⟨_, _, _, _, h, h₂, rfl⟩
    obtain ⟨rfl, rfl, rfl⟩ := Call.traces_remembered.1 h
    rw [hm] at h₂
    exact h₂
  · rintro ⟨rfl, rfl, rfl⟩
    refine ⟨[], m', m', [], Call.traces_remembered.2 ⟨rfl, rfl, rfl⟩, ?_, rfl⟩
    rw [hm]
    exact ⟨rfl, rfl, rfl⟩

/-- What asking for the name shows and gives, by what the store answers to it. -/
def Naming (es : List Event) (r : Except Fault String) :
    Except IdentityFault (Option String) → Prop
  | .error (.unreadable failure) => es = [.asked .loadIdentity (.error (.unreadable failure))] ∧
      r = .error (.configuration ("unable to read monitoring system id: " ++ failure.text))
  | .error (.lost reason) => es = [.asked .loadIdentity (.error (.lost reason))] ∧
      r = .error (.configuration ("settings task failed: " ++ reason))
  | .ok none => es = [.asked .loadIdentity (.ok none)] ∧ r = .ok ""
  | .ok (some id) => ∃ x, es = [.asked .loadIdentity (.ok (some id)), .asked (.fetchName id) x] ∧
      r = x.mapError .backend

theorem naming_error {r : Except Fault String} {failure : IdentityFault} :
    Naming es r (.error failure) ↔
      es = [.asked .loadIdentity (.error failure)] ∧ r = .error (.configuration failure.message) := by
  cases failure <;> rfl

theorem traces_monitorName_iff {r : Except Fault String} (hc : c.requireAll = .ok ())
    (hm : m.state.isRegistered = true) :
    c.monitorName.Traces m es r m' ↔ (loadIdentity >>= fun
      | none => pure ""
      | some id => askOrStop .backend (.request (.fetchName id)) : Attempt String).run.Traces m es r
        m' := by
  unfold Coordinator.monitorName
  rw [traces_run_lift_bind]
  simp only [Call.traces_remembered]
  constructor
  · rintro ⟨_, _, _, _, ⟨rfl, rfl, rfl⟩, h, rfl⟩
    rw [hm, c.require_of_requireAll hc, c.require_of_requireAll hc] at h
    exact h
  · intro h
    refine ⟨[], m, m, es, ⟨rfl, rfl, rfl⟩, ?_, rfl⟩
    rw [hm, c.require_of_requireAll hc, c.require_of_requireAll hc]
    exact h

theorem traces_monitorName_of_registered {r : Except Fault String} (hc : c.requireAll = .ok ())
    (hm : m.state.isRegistered = true) :
    c.monitorName.Traces m es r m' ↔ m' = m ∧ ∃ answer, Naming es r answer := by
  rw [traces_monitorName_iff hc hm]
  unfold loadIdentity
  rw [traces_askOrStop_bind]
  constructor
  · rintro (⟨failure, h, rfl⟩ | ⟨_, found, _, _, h, h₂, rfl⟩)
    · obtain ⟨rfl, rfl⟩ := Call.traces_request.1 h
      exact ⟨rfl, .error failure, naming_error.2 ⟨rfl, rfl⟩⟩
    · obtain ⟨rfl, rfl⟩ := Call.traces_request.1 h
      cases found with
      | none =>
        obtain ⟨rfl, rfl, rfl⟩ := h₂
        exact ⟨rfl, .ok none, rfl, rfl⟩
      | some id =>
        obtain ⟨x, hx, rfl⟩ := traces_askOrStop.1 h₂
        obtain ⟨rfl, rfl⟩ := Call.traces_request.1 hx
        exact ⟨rfl, .ok (some id), x, rfl, rfl⟩
  · rintro ⟨rfl, failure | _ | id, hnaming⟩
    · obtain ⟨rfl, rfl⟩ := naming_error.1 hnaming
      exact .inl ⟨failure, Call.traces_request.2 ⟨rfl, rfl⟩, rfl⟩
    · obtain ⟨rfl, rfl⟩ := hnaming
      exact .inr ⟨_, none, m', [], Call.traces_request.2 ⟨rfl, rfl⟩, ⟨rfl, rfl, rfl⟩, rfl⟩
    · obtain ⟨x, rfl, rfl⟩ := hnaming
      refine .inr ⟨_, some id, m', _, Call.traces_request.2 ⟨rfl, rfl⟩, ?_, rfl⟩
      exact traces_askOrStop.2 ⟨x, Call.traces_request.2 ⟨rfl, rfl⟩, rfl⟩

/-! ### The store -/

namespace IdentityStore

variable {σ : Type} {store : IdentityStore (StateM σ)} {w w' w'' : σ}

/-- Looking for the identity changes nothing, and one that was stored is found. -/
structure Faithful (store : IdentityStore (StateM σ)) : Prop where
  load_world (w : σ) : (store.load.run w).2 = w
  load_saved {id : String} {w w' : σ} (h : (store.save id).run w = (.ok (), w')) :
    (store.load.run w').1 = .ok (some id)

theorem faithful_inFile {fs : FileSystem (StateM σ)} (hfs : fs.Faithful) (p : FilePath) :
    (inFile fs p).Faithful where
  load_world := IdentityFile.load_world hfs p
  load_saved h := congrArg Prod.fst (load_inFile (IdentityFile.load_of_save hfs h))

theorem faithful_inMemory : inMemory.Faithful where
  load_world _ := rfl
  load_saved h := by
    obtain ⟨-, rfl⟩ := Prod.mk.inj h
    rfl

/-- The store holds the identity that a poller goes by, unless it could not be stored. -/
theorem Faithful.load_of_identified (hs : store.Faithful) {front rest : List Event}
    (hid : Identified id front) (hgoes : ∀ e ∈ rest, e.GoesBy id)
    (hw : store.Steps w (front ++ rest) w')
    (hstored : ∀ failure, .asked (.storeIdentity id) (.error failure) ∉ front) :
    (store.load.run w').1 = .ok (some id) := by
  obtain ⟨w₁, hfront, hrest⟩ := steps_append.1 hw
  obtain rfl : w' = w₁ := hrest.world_eq hs.load_world fun e he => (hgoes e he).isStoring
  cases hid with
  | found =>
    obtain ⟨w₁, hload, rfl⟩ := hfront
    change store.load.run w = _ at hload
    obtain rfl : _ = w := (congrArg Prod.snd hload).symm.trans (hs.load_world w)
    exact congrArg Prod.fst hload
  | registered location stored =>
    obtain ⟨_, -, _, rfl, _, rfl, _, hsave, rfl⟩ := hfront
    cases stored with
    | error failure => simpa using hstored failure
    | ok u => exact hs.load_saved hsave

theorem steps_of_naming (store : IdentityStore (StateM σ)) {r : Except Fault String}
    {answer : Except IdentityFault (Option String)} (h : Naming es r answer) :
    ∃ rest, es = .asked .loadIdentity answer :: rest ∧ ∀ w w', store.Steps w rest w' ↔ w' = w := by
  rcases answer with failure | _ | id
  · exact ⟨[], (naming_error.1 h).1, fun _ _ => .rfl⟩
  · exact ⟨[], h.1, fun _ _ => .rfl⟩
  · obtain ⟨x, rfl, -⟩ := h
    exact ⟨_, rfl, fun w w' => ⟨fun ⟨_, hw, h⟩ => h.trans hw, fun h => ⟨w, rfl, h⟩⟩⟩

theorem steps_of_goesBy (h : ∀ e ∈ es, e.GoesBy id) : store.Steps w es w' ↔ w' = w := by
  induction es with
  | nil => rfl
  | cons e es ih =>
    simp only [Steps, step_of_goesBy (h e List.mem_cons_self), exists_eq_left]
    exact ih fun e he => h e (List.mem_cons_of_mem _ he)

/-- What asking for the name shows fits the store exactly if it goes by what this holds. -/
theorem Faithful.naming_iff (hs : store.Faithful) (hc : c.requireAll = .ok ())
    (hm : m.state.isRegistered = true) {r : Except Fault String} :
    c.monitorName.Traces m es r m' ∧ store.Steps w es w' ↔
      m' = m ∧ w' = w ∧ Naming es r (store.load.run w).1 := by
  rw [traces_monitorName_of_registered hc hm]
  constructor
  · rintro ⟨⟨rfl, answer, hnaming⟩, hsteps⟩
    obtain ⟨rest, rfl, hrest⟩ := steps_of_naming store hnaming
    obtain ⟨w₁, hload, hlater⟩ := hsteps
    change store.load.run w = _ at hload
    obtain rfl : w₁ = w := (congrArg Prod.snd hload).symm.trans (hs.load_world w)
    exact ⟨rfl, (hrest _ _).1 hlater, by rwa [hload]⟩
  · rintro ⟨rfl, rfl, hnaming⟩
    obtain ⟨rest, rfl, hrest⟩ := steps_of_naming store hnaming
    exact ⟨⟨rfl, _, hnaming⟩, w', Prod.ext rfl (hs.load_world w'), (hrest _ _).2 rfl⟩

end IdentityStore

/-! ### Running pollers -/

/-- Any answers can be those of a registration: a fresh coordinator that finds no identity comes to
it, and starts also when the identity is not stored. -/
theorem Coordinator.exists_run_registered (hc : c.requireAll = .ok ()) (listeners : Listeners)
    (id location : String) (details : HostDetails) (stored : Except Failure Unit) (x : Answers) :
    ∃ os q rest, (c.pool listeners [.startUp, .register location]).Run os q ∧
      q.memory = x.memory { state := .running, listeners } ∧
      (events os).map Prod.snd = [.asked .loadIdentity (.ok none), .moved .initial .registering,
        .asked (.registerAt location) (.ok id), .asked (.storeIdentity id) stored] ++ rest ∧
      .asked (.announce id details) (.ok ()) ∈ rest ∧ ∀ e ∈ rest, e.GoesBy id := by
  have waits : (carryOut .startUp c.tryStartUp .error).Traces { listeners }
      [.asked .loadIdentity (.ok none), .moved .initial .registering] (.ok ())
      { state := .registering, listeners } :=
    (traces_carryOut_of_accepted rfl).2
      (.inl ⟨(traces_tryStartUp rfl).2 (.inr ⟨hc, .inr (.inl ⟨rfl, rfl, rfl⟩)⟩), rfl⟩)
  have start : (c.start id).run.Traces { state := .registering, listeners } _ (.ok ()) _ :=
    (traces_start rfl).2 ⟨details, .inr ⟨x, rfl, rfl, rfl⟩⟩
  have runs : (carryOut .register (c.tryRegister location) fun _ => .ok ()).Traces
      { state := .registering, listeners } _ (.ok ()) _ :=
    (traces_carryOut_of_accepted rfl).2
      (.inl ⟨traces_tryRegister.2 (.inr ⟨hc, .inr ⟨id, stored, _, rfl, start⟩⟩), rfl⟩)
  obtain ⟨os₁, h₁, hes₁⟩ := Pool.exists_run_guarded (i := 0)
    (p := c.pool listeners [.startUp, .register location]) rfl rfl waits
  obtain ⟨os₂, h₂, hes₂⟩ := Pool.exists_run_guarded (i := 1)
    (p := ⟨{ state := .registering, listeners }, none, [.done (.ok ()), c.register location]⟩)
    rfl rfl runs
  refine ⟨os₁ ++ os₂, _, _, h₁.trans h₂, rfl, ?_, ?_, (announced_start rfl start).2⟩
  · rw [Pool.events_append, hes₁, hes₂]
    simp [Function.comp_def]
  · simp

/-- A registered poller has announced itself under one identity. Asked for its name, it asks the
backend by what its store holds, and for nothing if the store holds nothing. The store holds the
identity of the poller unless it could not be stored. -/
theorem Coordinator.monitorName_by_store {σ : Type} {store : IdentityStore (StateM σ)}
    (hs : store.Faithful) (c : Coordinator) {listeners : Listeners} {invocations : List Invocation}
    {os : List Occurrence} {q : Pool (Except Fault Unit)} {w w' : σ}
    (h : (c.pool listeners invocations).Run os q)
    (hw : store.Steps w ((events os).map Prod.snd) w') :
    (q.memory.state.isRegistered = false → ∀ es r m',
      c.monitorName.Traces q.memory es r m' ↔ es = [] ∧ r = .ok "" ∧ m' = q.memory) ∧
    (q.memory.state.isRegistered = true →
      (∀ es r m' w'', c.monitorName.Traces q.memory es r m' ∧ store.Steps w' es w'' ↔
        m' = q.memory ∧ w'' = w' ∧ Naming es r (store.load.run w').1) ∧
      ∃ id details, .asked (.announce id details) (.ok ()) ∈ (events os).map Prod.snd ∧
        (∀ id' details' x,
          .asked (.announce id' details') x ∈ (events os).map Prod.snd → id' = id) ∧
        ((∀ failure, .asked (.storeIdentity id) (.error failure) ∉ (events os).map Prod.snd) →
          (store.load.run w').1 = .ok (some id))) := by
  refine ⟨fun hq es r m' => traces_monitorName_of_unregistered hq, fun hq => ?_⟩
  obtain ⟨hc, id, details, front, rest, hid, hes, hannounced, hgoes⟩ := identified_of_registered h hq
  rw [hes] at hw ⊢
  refine ⟨fun es r m' w'' => hs.naming_iff hc hq, id, details, List.mem_append_right _ hannounced,
    fun id' details' x hmem => ?_, fun hstored => ?_⟩
  · exact hgoes _ ((List.mem_append.1 hmem).resolve_left hid.not_announced)
  · exact hs.load_of_identified hid hgoes hw fun failure hmem =>
      hstored failure (List.mem_append_left _ hmem)

theorem Coordinator.monitorName_by_store_sample :
    let time : Timestamp := ⟨2024, 5, 1, 0, 0, 0, 0, by decide, by decide, by decide, by decide,
      by decide, by decide, by decide⟩
    let x : Answers := ⟨.ok [], .ok ⟨[], time⟩, fun _ => default⟩
    ∃ os q, (Coordinator.pool {} {} [.startUp, .register "Berlin"]).Run os q ∧
      IdentityStore.inMemory.Steps none ((events os).map Prod.snd) (some "7") ∧
      q.memory = x.memory { state := .running } ∧
      ∀ es r m' w', (Coordinator.monitorName {}).Traces q.memory es r m' ∧
          IdentityStore.inMemory.Steps (some "7") es w' ↔
        m' = q.memory ∧ w' = some "7" ∧ ∃ name,
          es = [.asked .loadIdentity (.ok (some "7")), .asked (.fetchName "7") name] ∧
            r = name.mapError .backend := by
  intro time x
  obtain ⟨os, q, rest, h, hq, hes, -, hgoes⟩ := Coordinator.exists_run_registered (c := {}) rfl {}
    "7" "Berlin" ⟨none, none, "x86_64", .v4 127 0 0 1, none⟩ (.ok ()) x
  have hsteps : IdentityStore.inMemory.Steps none ((events os).map Prod.snd) (some "7") := by
    rw [hes]
    exact IdentityStore.steps_append.2 ⟨_, ⟨none, rfl, none, rfl, none, rfl, some "7", rfl, rfl⟩,
      (IdentityStore.steps_of_goesBy hgoes).2 rfl⟩
  refine ⟨os, q, h, hsteps, hq, ?_⟩
  exact ((Coordinator.monitorName_by_store IdentityStore.faithful_inMemory {} h hsteps).2
    (by rw [hq]; rfl)).1

/-- The settings of this poller are to be in a directory, but there is a file of its name. So the
identity is not stored, and the poller runs without being named: the backend is never asked. -/
theorem Coordinator.registered_poller_unnamed :
    let store := IdentityStore.inFile Disk.fileSystem ⟨"etc/settings.json"⟩
    let disk := (Disk.atDirectory ["srv"]).put "/srv/etc" []
    ∃ os q details, (Coordinator.pool {} {} [.startUp, .register "Berlin"]).Run os q ∧
      store.Steps disk ((events os).map Prod.snd) disk ∧ q.memory.state.isRegistered = true ∧
      .asked (.announce "7" details) (.ok ()) ∈ (events os).map Prod.snd ∧
      ∀ es r m' disk', (Coordinator.monitorName {}).Traces q.memory es r m' ∧
        store.Steps disk es disk' → r = .ok "" ∧ ∀ id x, .asked (.fetchName id) x ∉ es := by
  intro store disk
  let details : HostDetails := ⟨none, none, "x86_64", .v4 127 0 0 1, none⟩
  let time : Timestamp := ⟨2024, 5, 1, 0, 0, 0, 0, by decide, by decide, by decide, by decide,
    by decide, by decide, by decide⟩
  obtain ⟨os, q, rest, h, hq, hes, hannounced, hgoes⟩ := Coordinator.exists_run_registered (c := {})
    rfl {} "7" "Berlin" details (.error ⟨Files.Fault.alreadyExists.message, ["failed to create etc"]⟩)
    ⟨.ok [], .ok ⟨[], time⟩, fun _ => default⟩
  have hregistered : q.memory.state.isRegistered = true := by
    rw [hq]
    rfl
  have hload : store.load.run disk = (.ok none, disk) := by
    have hnone : (Disk.fileSystem.contains ⟨"etc/settings.json"⟩).run disk = (false, disk) := by
      change (disk.contains _, disk) = _
      rw [show disk.contains ⟨"etc/settings.json"⟩ = false by decide]
    exact IdentityStore.load_inFile (run_bind_of_run hnone)
  have hsave : (store.save "7").run disk =
      (.error ⟨Files.Fault.alreadyExists.message, ["failed to create etc"]⟩, disk) := by
    have hparent : FilePath.parent? ⟨"etc/settings.json"⟩ = some ⟨"etc"⟩ := by decide
    have hrefused : (Disk.fileSystem.createDirectories ⟨"etc"⟩).run disk =
        (.error .alreadyExists, disk) := by
      have hstart : disk.start ⟨"etc"⟩ = .ok "/srv" := by decide
      have hnames : FilePath.names ⟨"etc"⟩ = ["etc"] := by decide
      have hnode : disk.node? (Disk.child "/srv" "etc") = some (.file []) := by decide
      change Disk.createDirectories ⟨"etc"⟩ disk = _
      simp [Disk.createDirectories, Disk.createFrom, hstart, hnames, hnode, Disk.nameLimit,
        show "etc".utf8ByteSize = 3 by decide]
    have hcreate : (IdentityFile.createParent Disk.fileSystem ⟨"etc/settings.json"⟩).run disk =
        (.error ⟨Files.Fault.alreadyExists.message, ["failed to create etc"]⟩, disk) := by
      unfold IdentityFile.createParent
      rw [hparent]
      dsimp only
      rw [if_neg (by decide)]
      exact run_bind_of_run hrefused
    exact run_bind_of_run hcreate
  have hsteps : store.Steps disk ((events os).map Prod.snd) disk := by
    rw [hes]
    exact IdentityStore.steps_append.2 ⟨disk, ⟨disk, hload, disk, rfl, disk, rfl, disk, hsave, rfl⟩,
      (IdentityStore.steps_of_goesBy hgoes).2 rfl⟩
  refine ⟨os, q, details, h, hsteps, hregistered, ?_, fun es r m' disk' hname => ?_⟩
  · rw [hes]
    exact List.mem_append_right _ hannounced
  · have hfaithful := IdentityStore.faithful_inFile Disk.faithful_fileSystem ⟨"etc/settings.json"⟩
    obtain ⟨-, -, hnaming⟩ := (hfaithful.naming_iff rfl hregistered).1 hname
    rw [show store.load.run disk = _ from hload] at hnaming
    obtain ⟨rfl, rfl⟩ := hnaming
    exact ⟨rfl, by simp⟩

end ServiceWatch.Poller
