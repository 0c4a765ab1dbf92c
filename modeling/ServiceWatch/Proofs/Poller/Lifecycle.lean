import Mathlib.Data.List.Flatten
import ServiceWatch.Proofs.Poller.Life

/-! However its calls run at the same time, a coordinator starts, registers, runs and ends at most
once, and in this order. -/
namespace ServiceWatch.Poller

variable {c : Coordinator} {s s' : State} {es : List Event} {m m' : Memory}

namespace State

/-- A state that can follow another one. -/
inductive Leads : State → State → Prop
  | wait : Leads initial registering
  | start : Leads initial running
  | startRegistered : Leads registering running
  | fail {s : State} (h : s.isTerminal = false) (fault : Fault) : Leads s (fatal fault)

/-- How often a coordinator can still register, be announced, or start to run. -/
def chances (s : State) : Nat := if s.isWaiting then 1 else 0

/-- States by their order in a life. -/
def rank : State → Nat
  | initial => 0
  | registering => 1
  | running => 2
  | fatal _ => 3

theorem leads_running_of_isWaiting (h : s.isWaiting = true) : s.Leads .running := by
  cases s with
  | initial => exact .start
  | registering => exact .startRegistered
  | running => contradiction
  | fatal fault => contradiction

theorem isTerminal_of_isWaiting (h : s.isWaiting = true) : s.isTerminal = false := by
  cases s <;> first | rfl | contradiction

@[simp] theorem chances_running : running.chances = 0 := rfl

@[simp] theorem chances_fatal (fault : Fault) : (fatal fault).chances = 0 := rfl

theorem chances_of_isWaiting (h : s.isWaiting = true) : s.chances = 1 := if_pos h

theorem rank_of_isWaiting (h : s.isWaiting = true) : s.rank ≤ 1 := by
  cases s with
  | initial => exact Nat.zero_le 1
  | registering => exact Nat.le_refl 1
  | running => contradiction
  | fatal fault => contradiction

theorem not_leads_fatal (fault : Fault) (s : State) : ¬ (fatal fault).Leads s := by
  intro h
  cases h
  contradiction

end State

/-! ### The events of a pass -/

namespace Event

def isScanning : Event → Bool
  | .asked (.fetchLocators _) _ | .asked (.installLocators _) _ | .asked (.fetchConfiguration _) _
  | .asked (.alignClock _) _ | .asked (.prepare _) _ | .asked (.poll _) _
  | .fired (.percentageComplete _) => true
  | _ => false

/-- An event that a life can show any number of times; a change of the state leads forward. -/
structure Ordinary (e : Event) : Prop where
  registration : e.isRegistration = false
  announcement : e.isAnnouncement = false
  start : e.isStart = false
  handOver : e.isHandOver = false
  leads : ∀ a b, e = .moved a b → a.Leads b

theorem Ordinary.of_isScanning {e : Event} (h : e.isScanning = true) : e.Ordinary := by
  cases e with
  | asked r x =>
    have hleads : ∀ a b, Event.asked r x = .moved a b → a.Leads b := nofun
    cases r <;> first | contradiction | exact ⟨rfl, rfl, rfl, rfl, hleads⟩
  | fired change =>
    have hleads : ∀ a b, Event.fired change = .moved a b → a.Leads b := nofun
    cases change <;> first | contradiction | exact ⟨rfl, rfl, rfl, rfl, hleads⟩
  | moved a b => contradiction

end Event

theorem cases_of_mem_inspected {total first : Nat} {l : List (PolledService × Inspection)} {e : Event}
    (h : e ∈ inspected total first l) : (∃ s x, e = .asked (.prepare s) x) ∨
      (∃ s x, e = .asked (.poll s) x) ∨ ∃ p, e = .fired (.percentageComplete p) := by
  rcases List.mem_append.1 h with h | h
  · obtain ⟨⟨x, i⟩, -, he⟩ := List.mem_flatMap.1 h
    obtain rfl | rfl | rfl : e = _ ∨ e = _ ∨ e = _ := by simpa using he
    · exact .inl ⟨_, _, rfl⟩
    · exact .inr (.inl ⟨_, _, rfl⟩)
    · exact .inr (.inr ⟨_, rfl⟩)
  · split at h
    · rename_i s x _
      obtain ⟨_ | _, _⟩ := x
      · obtain rfl : e = _ := by simpa [Inspection.asks] using h
        exact .inl ⟨_, _, rfl⟩
      · obtain rfl | rfl : e = _ ∨ e = _ := by simpa [Inspection.asks] using h
        · exact .inl ⟨_, _, rfl⟩
        · exact .inr (.inl ⟨_, _, rfl⟩)
    · contradiction

theorem isScanning_of_mem_inspected {total first : Nat} {l : List (PolledService × Inspection)}
    {e : Event} (h : e ∈ inspected total first l) : e.isScanning = true := by
  obtain ⟨_, _, rfl⟩ | ⟨_, _, rfl⟩ | ⟨_, rfl⟩ := cases_of_mem_inspected h <;> rfl

theorem Answers.isScanning_of_mem_fetch {x : Answers} {id : String} {e : Event}
    (h : e ∈ x.fetch id) : e.isScanning = true := by
  obtain ⟨_ | locators, _ | configuration, _⟩ := x
  · obtain rfl : e = _ := by simpa [fetch] using h
    rfl
  · obtain rfl : e = _ := by simpa [fetch] using h
    rfl
  · obtain rfl | rfl | rfl : e = _ ∨ e = _ ∨ e = _ := by simpa [fetch] using h
    · rfl
    · rfl
    · rfl
  · obtain rfl | rfl | rfl | rfl : e = _ ∨ e = _ ∨ e = _ ∨ e = _ := by simpa [fetch] using h
    · rfl
    · rfl
    · rfl
    · rfl

theorem Answers.isScanning_of_mem_scan {x : Answers} {id : String} {e : Event} (h : e ∈ x.scan id) :
    e.isScanning = true := by
  rcases List.mem_append.1 h with h | h
  · exact isScanning_of_mem_fetch h
  · split at h
    · contradiction
    · exact isScanning_of_mem_inspected h

theorem Answers.ordinary_of_mem_ending {x : Answers} {e : Event} (h : e ∈ x.ending) :
    e.Ordinary := by
  unfold ending at h
  cases hf : x.fault? with
  | none => simp [hf] at h
  | some fault =>
    obtain rfl | rfl | rfl : e = _ ∨ e = _ ∨ e = _ := by simpa [hf] using h
    · refine ⟨rfl, rfl, rfl, rfl, fun a b hm => ?_⟩
      obtain ⟨rfl, rfl⟩ := Event.moved.inj hm
      exact .fail rfl fault
    · exact ⟨rfl, rfl, rfl, rfl, nofun⟩
    · exact ⟨rfl, rfl, rfl, rfl, nofun⟩

/-- All that a pass shows once is the report that it hands over. -/
theorem Answers.exists_pass_eq (x : Answers) (metadata : Table String String) (id : String) :
    ∃ es, (∀ e ∈ es, e.Ordinary) ∧
      x.pass metadata id = es ++ [.fired (.exitNecessary (x.report metadata))] := by
  refine ⟨.fired (.percentageComplete .start) :: (x.scan id ++ (x.ending ++
    [.fired (.percentageComplete .finish)])), fun e he => ?_, by simp [pass]⟩
  rcases List.mem_cons.1 he with rfl | he
  · exact .of_isScanning rfl
  rcases List.mem_append.1 he with he | he
  · exact .of_isScanning (isScanning_of_mem_scan he)
  rcases List.mem_append.1 he with he | he
  · exact ordinary_of_mem_ending he
  · obtain rfl := List.mem_singleton.1 he
    exact .of_isScanning rfl

/-! ### Courses -/

/-- A stretch of a life: its changes of the state, and how often things happen that happen once. -/
structure Course (s : State) (es : List Event) (s' : State) : Prop where
  leads : ∀ a b, .moved a b ∈ es → a.Leads b
  registrations : es.countP Event.isRegistration + s'.chances ≤ s.chances
  announcements : es.countP Event.isAnnouncement + s'.chances ≤ s.chances
  starts : es.countP Event.isStart + s'.chances ≤ s.chances
  handOvers : es.countP Event.isHandOver = es.countP Event.isStart

theorem Course.refl (s : State) : Course s [] s :=
  ⟨by simp, by simp, by simp, by simp, rfl⟩

theorem countP_append_add_le {P : Event → Bool} {es₁ es₂ : List Event} {k l n : Nat}
    (h₁ : es₁.countP P + l ≤ k) (h₂ : es₂.countP P + n ≤ l) : (es₁ ++ es₂).countP P + n ≤ k := by
  rw [List.countP_append]
  omega

theorem Course.append {s₁ : State} {es₁ es₂ : List Event} (h₁ : Course s es₁ s₁)
    (h₂ : Course s₁ es₂ s') : Course s (es₁ ++ es₂) s' where
  leads a b h := (List.mem_append.1 h).elim (h₁.leads a b) (h₂.leads a b)
  registrations := countP_append_add_le h₁.registrations h₂.registrations
  announcements := countP_append_add_le h₁.announcements h₂.announcements
  starts := countP_append_add_le h₁.starts h₂.starts
  handOvers := by rw [List.countP_append, List.countP_append, h₁.handOvers, h₂.handOvers]

theorem Asking.counts (h : Asking es) : es.countP Event.isStart = 0 ∧
    es.countP Event.isHandOver = 0 ∧ ∀ a b, .moved a b ∉ es := by
  have zero {P : Event → Bool} (hP : ∀ e, e.isAsked = true → P e = false) : es.countP P = 0 :=
    List.countP_eq_zero.2 fun e he => by simp [hP e (h.asked e he)]
  refine ⟨zero fun e he => ?_, zero fun e he => ?_, fun a b he => ?_⟩
  · cases e <;> first | contradiction | rfl
  · cases e <;> first | contradiction | rfl
  · have := h.asked _ he
    contradiction

theorem Answers.counts_pass (x : Answers) (metadata : Table String String) (id : String) :
    (x.pass metadata id).countP Event.isRegistration = 0 ∧
      (x.pass metadata id).countP Event.isAnnouncement = 0 ∧
      (x.pass metadata id).countP Event.isStart = 0 ∧
      (x.pass metadata id).countP Event.isHandOver = 1 ∧
      ∀ a b, .moved a b ∈ x.pass metadata id → a.Leads b := by
  obtain ⟨es, hes, hpass⟩ := x.exists_pass_eq metadata id
  have zero {P : Event → Bool} (hP : ∀ e, e.Ordinary → P e = false) : es.countP P = 0 :=
    List.countP_eq_zero.2 fun e he => by simp [hP e (hes e he)]
  rw [hpass]
  simp only [List.countP_append, List.mem_append, zero fun _ he => he.registration,
    zero fun _ he => he.announcement, zero fun _ he => he.start, zero fun _ he => he.handOver]
  refine ⟨rfl, rfl, rfl, rfl, fun a b he => ?_⟩
  rcases he with he | he
  · exact (hes _ he).leads a b rfl
  · simp at he

theorem Stage.course (h : Stage c s es s') : Course s es s' := by
  cases h with
  | waits =>
    refine ⟨fun a b he => ?_, ?_, ?_, ?_, ?_⟩
    · obtain ⟨rfl, rfl⟩ : a = .initial ∧ b = .registering := by simpa using he
      exact .wait
    · decide
    · decide
    · decide
    · decide
  | @fails _ asks hs ha fault =>
    obtain ⟨hstart, hover, hmoved⟩ := ha.counts
    have hc := State.chances_of_isWaiting hs
    refine ⟨fun a b he => ?_, ?_, ?_, ?_, ?_⟩
    · obtain ⟨rfl, rfl⟩ : a = s ∧ b = .fatal fault := by simpa [hmoved a b] using he
      exact .fail (State.isTerminal_of_isWaiting hs) fault
    · simpa [hc, Event.isRegistration] using ha.registrations
    · simpa [hc, Event.isAnnouncement] using ha.announcements
    · simp [hc, hstart, Event.isStart]
    · simp [hstart, hover, Event.isStart, Event.isHandOver]
  | @runs _ asks id details hs ha x =>
    obtain ⟨hstart, hover, hmoved⟩ := ha.counts
    obtain ⟨hr, hn, hps, hpo, hleads⟩ := x.counts_pass c.metadata id
    have hc := State.chances_of_isWaiting hs
    have hend : (x.fault?.elim State.running State.fatal).chances = 0 := by
      cases x.fault? <;> rfl
    have hregistrations := ha.registrations
    have hannouncements := ha.announcements
    generalize asks ++ [Event.asked (.announce id details) (.ok ())] = asks at *
    refine ⟨fun a b he => ?_, ?_, ?_, ?_, ?_⟩
    · have he : a = s ∧ b = .running ∨ .moved a b ∈ x.pass c.metadata id := by
        simpa [hmoved a b] using he
      rcases he with ⟨rfl, rfl⟩ | he
      · exact State.leads_running_of_isWaiting hs
      · exact hleads a b he
    · simpa [hc, hend, hr, List.countP_cons, Event.isRegistration] using hregistrations
    · simpa [hc, hend, hn, List.countP_cons, Event.isAnnouncement] using hannouncements
    · simp [hc, hend, hstart, hps, List.countP_cons, Event.isStart]
    · simp [hstart, hover, hps, hpo, List.countP_cons, Event.isStart, Event.isHandOver]

theorem Life.course (h : Life c s es s') : Course s es s' := by
  induction h with
  | idle s => exact .refl s
  | stage h _ ih => exact h.course.append ih

theorem Stage.rank_lt (h : Stage c s es s') : s.rank < s'.rank := by
  cases h with
  | waits => decide
  | fails hs ha fault =>
    have := State.rank_of_isWaiting hs
    change s.rank < 3
    omega
  | runs hs ha x =>
    have := State.rank_of_isWaiting hs
    cases x.fault? with
    | none =>
      change s.rank < 2
      omega
    | some fault =>
      change s.rank < 3
      omega

/-! ### Operations -/

def Operation.rank : Operation → Nat
  | startUp => 0
  | register => 1
  | pollService => 2

theorem State.rank_eq_of_supports {operation : Operation} (h : s.supports operation = true) :
    s.rank = operation.rank := by
  cases s <;> cases operation <;> first | rfl | contradiction

namespace Pool

variable {invocations : List Invocation} {duty : Nat → Option (Call (Except Fault Unit))}
  {turns : List (Turn (Except Fault Unit))}

/-- A turn of a serving coordinator changes nothing, or accepts its operation and goes on. -/
theorem Serves.turn (hd : Serves c invocations duty) {i : Nat} {t : Call (Except Fault Unit)}
    {r : Except Fault Unit} {invocation : Invocation} (ht : duty i = some t)
    (h : t.Traces m es r m') (hi : invocations[i]? = some invocation) :
    m.state.rank ≤ m'.state.rank ∧ (isRefusal r = false →
      invocation.operation.rank = m.state.rank ∧ m.state.rank < m'.state.rank) := by
  obtain ⟨_, hj, ht⟩ := hd i t ht
  rw [hi] at hj
  cases hj
  rcases c.duty_cases ht h with ⟨hr, -, rfl⟩ | ⟨-, hs, hstage⟩
  · exact ⟨Nat.le_refl _, fun hf => by rw [hr] at hf; contradiction⟩
  · have hlt := hstage.rank_lt
    exact ⟨Nat.le_of_lt hlt, fun _ => ⟨(State.rank_eq_of_supports hs).symm, hlt⟩⟩

/-- An operation is accepted only as long as the state is not past it. -/
theorem Serial.rank_le (hd : Serves c invocations duty) (h : Serial duty m turns m')
    {turn : Turn (Except Fault Unit)} (ht : turn ∈ turns) (hr : isRefusal turn.result = false)
    {invocation : Invocation} (hi : invocations[turn.call]? = some invocation) :
    m.state.rank ≤ invocation.operation.rank := by
  induction h with
  | nil => simp at ht
  | @cons duty _ m m₁ _ _ turns todo traces _ ih =>
    rcases List.mem_cons.1 ht with rfl | ht
    · exact Nat.le_of_eq ((hd.turn todo traces hi).2 hr).1.symm
    · obtain ⟨next, hn, -⟩ := hd _ _ todo
      have hle : m.state.rank ≤ m₁.state.rank := (hd.turn todo traces hn).1
      exact Nat.le_trans hle (ih (hd.update _) ht)

/-- An operation is accepted once. -/
theorem Serial.eq_of_accepted (hd : Serves c invocations duty) (h : Serial duty m turns m')
    {turn other : Turn (Except Fault Unit)} (ht : turn ∈ turns) (ho : other ∈ turns)
    (hr : isRefusal turn.result = false) (hs : isRefusal other.result = false)
    {x y : Invocation} (hx : invocations[turn.call]? = some x)
    (hy : invocations[other.call]? = some y) (hop : x.operation = y.operation) : turn = other := by
  induction h with
  | nil => simp at ht
  | @cons duty _ _ _ _ first turns todo traces rest ih =>
    -- an accepted first turn leaves the state past its operation
    have past {later : Turn (Except Fault Unit)} (hl : later ∈ turns)
        (hls : isRefusal later.result = false) (hfr : isRefusal first.result = false)
        {v w : Invocation} (hv : invocations[first.call]? = some v)
        (hw : invocations[later.call]? = some w) : v.operation.rank < w.operation.rank := by
      obtain ⟨heq, hlt⟩ := (hd.turn todo traces hv).2 hfr
      have hle := rest.rank_le (hd.update _) hl hls hw
      omega
    rcases List.mem_cons.1 ht with rfl | ht'
    · rcases List.mem_cons.1 ho with rfl | ho'
      · rfl
      · have := past ho' hs hr hx hy
        rw [hop] at this
        omega
    · rcases List.mem_cons.1 ho with rfl | ho'
      · have := past ht' hr hs hy hx
        rw [hop] at this
        omega
      · exact ih (hd.update _) ht' ho'

end Pool

/-! ### Runs -/

namespace Pool

variable {α : Type} {p q : Pool α} {o : Occurrence} {os : List Occurrence} {i j : Nat}

theorem Step.moved_mem_events (h : p.Step o q) (hne : q.memory.state ≠ p.memory.state) :
    ∃ i, (i, .moved p.memory.state q.memory.state) ∈ o.events := by
  cases h with
  | @access i update next _ =>
    have hm : p.memory.state ≠ (update p.memory).state := fun h => hne h.symm
    exact ⟨i, by simp [Occurrence.events, Memory.moves_of_ne hm, resume]⟩
  | _ => exact (hne rfl).elim

/-- A run in which the state only goes from one state to a following one. -/
def MovesForward (os : List Occurrence) : Prop :=
  ∀ i a b, (i, .moved a b) ∈ events os → a.Leads b

theorem MovesForward.of_append (before : List Occurrence) {after : List Occurrence}
    (h : MovesForward (before ++ after)) : MovesForward before ∧ MovesForward after := by
  refine ⟨fun i a b he => h i a b ?_, fun i a b he => h i a b ?_⟩
  · rw [events_append]
    exact List.mem_append_left _ he
  · rw [events_append]
    exact List.mem_append_right _ he

theorem Step.leads (h : p.Step o q) (ho : MovesForward [o]) :
    q.memory.state = p.memory.state ∨ p.memory.state.Leads q.memory.state := by
  by_cases hne : q.memory.state = p.memory.state
  · exact .inl hne
  · obtain ⟨i, he⟩ := h.moved_mem_events hne
    exact .inr (ho i _ _ (by simpa [events] using he))

theorem Run.fatal (h : p.Run os q) (ho : MovesForward os) {fault : Fault}
    (hp : p.memory.state = .fatal fault) : q.memory.state = .fatal fault := by
  induction h with
  | refl => exact hp
  | @step p q r o os hs _ ih =>
    obtain ⟨hfirst, hrest⟩ := MovesForward.of_append [o] ho
    refine ih hrest ?_
    rcases hs.leads hfirst with hq | hq
    · rw [hq, hp]
    · rw [hp] at hq
      exact (State.not_leads_fatal fault _ hq).elim

/-- The call has a result, and was not refused. -/
def Accepts (q : Pool (Except Fault Unit)) (i : Nat) : Prop :=
  ∃ r, q.result? i = some r ∧ isRefusal r = false

section Accepts

variable {invocations : List Invocation} {duty : Nat → Option (Call (Except Fault Unit))}
  {turns : List (Turn (Except Fault Unit))} {p : Pool (Except Fault Unit)}

theorem Accepts.exists_turn {t : Call (Except Fault Unit)} (ha : p.Accepts i)
    (h : Serial duty m turns m') (ht : duty i = some t)
    (results : ∀ turn ∈ turns, p.result? turn.call = some turn.result) :
    ∃ turn ∈ turns, turn.call = i ∧ isRefusal turn.result = false := by
  obtain ⟨turn, hmem, rfl⟩ := h.exists_turn ht
  obtain ⟨r, hr, hf⟩ := ha
  rw [results turn hmem] at hr
  cases hr
  exact ⟨turn, hmem, rfl, hf⟩

/-- Of all calls for an operation, one is accepted at most. -/
theorem Accepts.call_eq {t u : Call (Except Fault Unit)} {x y : Invocation} (hi : p.Accepts i)
    (hj : p.Accepts j) (hd : Serves c invocations duty) (h : Serial duty m turns m')
    (results : ∀ turn ∈ turns, p.result? turn.call = some turn.result)
    (ht : duty i = some t) (hu : duty j = some u) (hx : invocations[i]? = some x)
    (hy : invocations[j]? = some y) (hop : x.operation = y.operation) : i = j := by
  obtain ⟨turn, hturn, rfl, hr⟩ := hi.exists_turn h ht results
  obtain ⟨other, hother, rfl, hs⟩ := hj.exists_turn h hu results
  rw [h.eq_of_accepted hd hturn hother hr hs hx hy hop]

end Accepts

theorem countP_eq_ite_any {β : Type} {l : List β} {P Q : β → Bool} (h : l.countP P = l.countP Q)
    (hle : l.countP Q ≤ 1) : l.countP P = if l.any Q then 1 else 0 := by
  rw [h]
  split
  · rename_i hany
    have := List.countP_pos_iff.2 (List.any_eq_true.1 hany)
    omega
  · rename_i hany
    exact List.countP_eq_zero.2 fun x hx hQ => hany (List.any_eq_true.2 ⟨x, hx, hQ⟩)

/-- What is true of a coordinator once the calls that came in are done. -/
structure Orderly (p : Pool (Except Fault Unit)) (invocations : List Invocation)
    (os : List Occurrence) (q : Pool (Except Fault Unit)) : Prop where
  /-- The states make up a path. -/
  path : ∀ before o after p₁ p₂, os = before ++ o :: after → p.Run before p₁ → p₁.Step o p₂ →
    p₂.Run after q → p₂.memory.state = p₁.memory.state ∨ p₁.memory.state.Leads p₂.memory.state
  /-- The end and its error are final. -/
  final : ∀ before between after p₁ p₂ fault, os = before ++ between ++ after → p.Run before p₁ →
    p₁.Run between p₂ → p₂.Run after q → p₁.memory.state = .fatal fault →
      p₂.memory.state = .fatal fault
  /-- The questions of two calls do not interleave. -/
  apart : ∀ i j r₁ x₁ r₂ x₂ r₃ x₃,
    List.Sublist [.asked i r₁ x₁, .asked j r₂ x₂, .asked i r₃ x₃] os → j = i
  startsUpOnce : ∀ i j, invocations[i]? = some .startUp → invocations[j]? = some .startUp →
    q.Accepts i → q.Accepts j → i = j
  registersOnce : ∀ i j location location', invocations[i]? = some (.register location) →
    invocations[j]? = some (.register location') → q.Accepts i → q.Accepts j → i = j
  registrations : (events os).countP (·.2.isRegistration) ≤ 1
  announcements : (events os).countP (·.2.isAnnouncement) ≤ 1
  /-- The report is handed over once if the coordinator ever ran, and never otherwise. -/
  handOvers : (events os).countP (·.2.isHandOver) = if (events os).any (·.2.isStart) then 1 else 0

end Pool

/-- The calls of a coordinator never block each other: from wherever they are, all can still end,
whatever is answered to them. -/
theorem Coordinator.exists_run_isDone (c : Coordinator) {listeners : Listeners}
    {invocations : List Invocation} {os : List Occurrence} {q : Pool (Except Fault Unit)}
    (h : (c.pool listeners invocations).Run os q) (answer : (r : Request) → r.Answer) :
    ∃ rest r, q.Run rest r ∧ r.IsDone ∧ Answered answer ((events rest).map Prod.snd) := by
  obtain ⟨_, hkeeps⟩ := h.keeps (c.keeps_pool listeners invocations)
  exact hkeeps.exists_run_isDone answer

/-- However the calls of a coordinator take their steps, and whatever is answered to them, they lead
it through one orderly life. -/
theorem Coordinator.orderly_of_run (c : Coordinator) {listeners : Listeners}
    {invocations : List Invocation} {os : List Occurrence} {q : Pool (Except Fault Unit)}
    (h : (c.pool listeners invocations).Run os q) (hq : q.IsDone) :
    (c.pool listeners invocations).Orderly invocations os q := by
  have hkeeps := c.keeps_pool listeners invocations
  have hserves : Pool.Serves c invocations fun i => invocations[i]?.bind c.duty? :=
    fun i t ht => Option.bind_eq_some_iff.1 ht
  obtain ⟨turns, hserial, hshown, hresults, -⟩ := h.serial hq hkeeps
  have hcourse : Course .initial ((events os).map Prod.snd) q.memory.state := by
    rw [hshown]
    exact (hserial.life hserves).course
  have hcount (P : Event → Bool) :
      (events os).countP (P ·.2) = ((events os).map Prod.snd).countP P := by
    rw [List.countP_map]
    rfl
  have hmoves : Pool.MovesForward os :=
    fun i a b he => hcourse.leads a b (List.mem_map.2 ⟨_, he, rfl⟩)
  have hchance : State.initial.chances = 1 := rfl
  refine ⟨?_, ?_, ?_, ?_, ?_, ?_, ?_, ?_⟩
  · rintro before o after p₁ p₂ rfl - hstep -
    have hafter := (Pool.MovesForward.of_append before hmoves).2
    exact hstep.leads (Pool.MovesForward.of_append [o] hafter).1
  · rintro before between after p₁ p₂ fault rfl - hrun - hp
    have hbefore := (Pool.MovesForward.of_append (before ++ between) hmoves).1
    exact hrun.fatal (Pool.MovesForward.of_append before hbefore).2 hp
  · intro i j r₁ x₁ r₂ x₂ r₃ x₃ hsub
    have hev := hsub.flatMap Occurrence.events
    rw [show os.flatMap Occurrence.events = _ from hshown] at hev
    exact Pool.apart_of_sublist hserial.call_ne hev
  · intro i j hi hj hai haj
    exact hai.call_eq haj hserves hserial hresults (by rw [hi]; rfl) (by rw [hj]; rfl) hi hj rfl
  · intro i j location location' hi hj hai haj
    exact hai.call_eq haj hserves hserial hresults (by rw [hi]; rfl) (by rw [hj]; rfl) hi hj rfl
  · have := hcourse.registrations
    rw [hcount]
    omega
  · have := hcourse.announcements
    rw [hcount]
    omega
  · have hstarts := hcourse.starts
    have hboth := hcourse.handOvers
    rw [← hcount] at hstarts
    rw [← hcount, ← hcount] at hboth
    exact Pool.countP_eq_ite_any hboth (by omega)

theorem Coordinator.orderly_of_run_sample :
    let invocations : List Invocation := [.startUp, .startUp, .register "Berlin"]
    let refused : Failure := ⟨"refused", []⟩
    ∃ os q, (Coordinator.pool {} {} invocations).Run os q ∧ q.IsDone ∧
      (Coordinator.pool {} {} invocations).Orderly invocations os q ∧
      events os = [(0, .asked .loadIdentity (.ok none)), (0, .moved .initial .registering),
        (2, .asked (.registerAt "Berlin") (.error refused)),
        (2, .moved .registering (.fatal (.registration refused)))] ∧
      q.calls = [.done (.ok ()), .done (.error (.illegalState "initialize" "Registering")),
        .done (.ok ())] := by
  let refused : Failure := ⟨"refused", []⟩
  have waits : (carryOut .startUp (Coordinator.tryStartUp {}) .error).Traces {}
      [.asked .loadIdentity (.ok none), .moved .initial .registering] (.ok ())
      { state := .registering } :=
    (traces_carryOut_of_accepted rfl).2
      (.inl ⟨(traces_tryStartUp rfl).2 (.inr ⟨rfl, .inr (.inl ⟨rfl, rfl, rfl⟩)⟩), rfl⟩)
  have again : (carryOut .startUp (Coordinator.tryStartUp {}) .error).Traces
      { state := .registering } [] (.error (.illegalState "initialize" "Registering"))
      { state := .registering } :=
    (traces_carryOut_of_refused rfl).2 ⟨rfl, rfl, rfl⟩
  have fails : (carryOut .register (Coordinator.tryRegister {} "Berlin") fun _ => .ok ()).Traces
      { state := .registering } [.asked (.registerAt "Berlin") (.error refused),
        .moved .registering (.fatal (.registration refused))] (.ok ())
      { state := .fatal (.registration refused) } :=
    (traces_carryOut_of_accepted rfl).2 (.inr ⟨_, _, _,
      traces_tryRegister.2 (.inr ⟨rfl, .inl ⟨refused, rfl, rfl, rfl⟩⟩), rfl, rfl, rfl⟩)
  obtain ⟨os₁, h₁, he₁⟩ := Pool.exists_run_guarded (i := 0)
    (p := Coordinator.pool {} {} [.startUp, .startUp, .register "Berlin"]) rfl rfl waits
  obtain ⟨os₂, h₂, he₂⟩ := Pool.exists_run_guarded (i := 1) (p := ⟨{ state := .registering }, none,
    [.done (.ok ()), Coordinator.startUp {}, Coordinator.register {} "Berlin"]⟩) rfl rfl again
  obtain ⟨os₃, h₃, he₃⟩ := Pool.exists_run_guarded (i := 2) (p := ⟨{ state := .registering }, none,
    [.done (.ok ()), .done (.error (.illegalState "initialize" "Registering")),
      Coordinator.register {} "Berlin"]⟩) rfl rfl fails
  let results : List (Except Fault Unit) :=
    [.ok (), .error (.illegalState "initialize" "Registering"), .ok ()]
  let q : Pool (Except Fault Unit) :=
    { memory := { state := .fatal (.registration ⟨"refused", []⟩) }, calls := results.map .done }
  have h : (Coordinator.pool {} {} _).Run (os₁ ++ os₂ ++ os₃) q := (h₁.trans h₂).trans h₃
  have hq : q.IsDone := Pool.isDone_of_calls results rfl
  refine ⟨_, q, h, hq, Coordinator.orderly_of_run {} h hq, ?_, rfl⟩
  rw [Pool.events_append, Pool.events_append, he₁, he₂, he₃]
  rfl

end ServiceWatch.Poller
