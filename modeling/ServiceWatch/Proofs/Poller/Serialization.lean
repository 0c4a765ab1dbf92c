import Mathlib.Logic.Function.Basic
import ServiceWatch.Proofs.Poller.Scope
import ServiceWatch.Proofs.Poller.Trace

/-! Calls that keep to the guard behave as if each of them ran alone, one behind the other. -/
namespace ServiceWatch.Poller

variable {α : Type}

def Request.someAnswer : (r : Request) → r.Answer
  | hostDetails => ⟨none, none, "", .v4 127 0 0 1, none⟩
  | installLocators _ | alignClock _ => ()
  | loadIdentity => .ok none
  | storeIdentity _ | registerAt _ | announce _ _ | fetchLocators _
  | fetchConfiguration _ | prepare _ | poll _ | fetchName _ => .error ⟨"", []⟩

def Answered (answer : (r : Request) → r.Answer) (es : List Event) : Prop :=
  ∀ r x, .asked r x ∈ es → x = answer r

theorem Answered.append {answer : (r : Request) → r.Answer} {es es' : List Event}
    (h : Answered answer es) (h' : Answered answer es') : Answered answer (es ++ es') :=
  fun r x hx => (List.mem_append.1 hx).elim (h r x) (h' r x)

theorem asked_notMem_moves {before after : Memory} {r : Request} {x : r.Answer} :
    .asked r x ∉ before.moves after := by
  unfold Memory.moves
  split <;> simp

namespace Call

/-- What a call with the guard has before it: its own steps, and then to give the guard back. -/
def leaving (t : Call α) : Call α := t.bind fun a => .leave (.done a)

theorem leaving_ne_done (t : Call α) (a : α) : t.leaving ≠ .done a := by
  cases t <;> simp [leaving, bind]

theorem leaving_tellAll (c : Change) (next : Call α) (ls : List ListenerId) :
    (tellAll c next ls).leaving = tellAll c next.leaving ls := by
  induction ls with
  | nil => rfl
  | cons l ls ih => exact congrArg (Call.tell l c) ih

/-- Whatever the memory and the answers, a call that leaves the guard alone can be run to its end. -/
theorem Within.exists_traces {t : Call α} (h : t.Within .unguarded) (answer : (r : Request) → r.Answer)
    (m : Memory) : ∃ es a m', t.Traces m es a m' ∧ Answered answer es := by
  induction t generalizing m with
  | done a => exact ⟨[], a, m, ⟨rfl, rfl, rfl⟩, by simp [Answered]⟩
  | ask r next ih =>
    obtain ⟨es, a, m', ht, hes⟩ := ih (answer r) (h.2 _) m
    refine ⟨_, a, m', ⟨answer r, es, rfl, ht⟩, fun r' x hx => ?_⟩
    rcases List.mem_cons.1 hx with hx | hx
    · cases hx
      rfl
    · exact hes r' x hx
  | fire c next ih =>
    obtain ⟨es, a, m', ht, hes⟩ := ih h.2 m
    exact ⟨_, a, m', ⟨es, rfl, ht⟩, by simpa [Answered] using hes⟩
  | tell l c next ih => exact ih h.2 m
  | access update next ih =>
    obtain ⟨es, a, m', ht, hes⟩ := ih m (h.2.2 m) (update m)
    refine ⟨_, a, m', ⟨es, rfl, ht⟩, fun r x hx => ?_⟩
    rcases List.mem_append.1 hx with hx | hx
    · exact (asked_notMem_moves hx).elim
    · exact hes r x hx
  | enter next => exact h.1.elim
  | leave next => exact h.1.elim

end Call

namespace Pool

variable {p q : Pool α} {o : Occurrence} {os : List Occurrence} {i : Nat}

/-! ### Keeping to the guard -/

/-- How a call of a pool stands to what it has to do under the guard. -/
inductive Stands : (holds : Bool) → (duty : Option (Call α)) → (call : Option (Call α)) → Prop
  | waiting {t : Call α} (h : t.Within .unguarded) : Stands false (some t) (some (.guarded t))
  | working {t : Call α} (h : t.Within .unguarded) : Stands true (some t) (some t.leaving)
  | quiet {t : Call α} (h : t.Within .quiet) : Stands false none (some t)
  | absent : Stands false none none

/-- `duty` is what each call has still to do under the guard. -/
def Keeps (p : Pool α) (duty : Nat → Option (Call α)) : Prop :=
  ∀ i, Stands (decide (p.holder = some i)) (duty i) p.calls[i]?

variable {duty : Nat → Option (Call α)}

theorem Keeps.set {s s' : Call α} {t : Option (Call α)} {holds : Bool} (hp : p.Keeps duty)
    (hi : p.calls[i]? = some s) (hc : q.calls = p.calls.set i s')
    (hh : ∀ j ≠ i, q.holder = some j ↔ p.holder = some j) (hb : decide (q.holder = some i) = holds)
    (hs : Stands holds t (some s')) : q.Keeps (Function.update duty i t) := by
  intro j
  obtain ⟨hlt, -⟩ := List.getElem?_eq_some_iff.1 hi
  by_cases hj : j = i
  · subst hj
    rw [Function.update_self, hc, List.getElem?_set_self hlt, hb]
    exact hs
  · have hd : decide (q.holder = some j) = decide (p.holder = some j) := by simp only [hh j hj]
    rw [Function.update_of_ne hj, hc, List.getElem?_set_ne (Ne.symm hj), hd]
    exact hp j

theorem Keeps.of_call {s : Call α} (hp : p.Keeps duty) (hi : p.calls[i]? = some s) :
    (∃ t, t.Within .unguarded ∧ s = t.leaving ∧ duty i = some t ∧ p.holder = some i) ∨
      (∃ t, t.Within .unguarded ∧ s = .guarded t ∧ duty i = some t ∧ p.holder ≠ some i) ∨
        s.Within .quiet ∧ duty i = none ∧ p.holder ≠ some i := by
  have h := hp i
  rw [hi] at h
  generalize hb : decide (p.holder = some i) = b at h
  generalize hd : duty i = d at h
  cases h with
  | waiting h => exact .inr (.inl ⟨_, h, rfl, rfl, of_decide_eq_false hb⟩)
  | working h => exact .inl ⟨_, h, rfl, rfl, of_decide_eq_true hb⟩
  | quiet h => exact .inr (.inr ⟨h, rfl, of_decide_eq_false hb⟩)

/-- What a step is when all calls keep to the guard. -/
inductive Advance (p : Pool α) (duty : Nat → Option (Call α)) (o : Occurrence) (q : Pool α) : Prop
  /-- Nothing can be seen of it, and it changes nothing but the rest of a call. -/
  | unseen (events : o.events = []) (memory : q.memory = p.memory) (keeps : q.Keeps duty)
      (holder : ∀ i, p.holder = some i → q.holder = some i)
  /-- It is the first step of what the call with the guard has to do. -/
  | under (i : Nat) (t t' : Call α) (es : List Event) (held : p.holder = some i)
      (holds : q.holder = some i) (todo : duty i = some t)
      (keeps : q.Keeps (Function.update duty i (some t'))) (events : o.events = es.map (i, ·))
      (traces : ∀ {rest a m'}, t'.Traces q.memory rest a m' → t.Traces p.memory (es ++ rest) a m')
  /-- It gives the guard back. -/
  | finish (i : Nat) (a : α) (held : p.holder = some i) (todo : duty i = some (.done a))
      (keeps : q.Keeps (Function.update duty i none)) (events : o.events = [])
      (memory : q.memory = p.memory) (result : q.result? i = some a)

/-- The call with the guard takes a step and keeps the guard. -/
theorem Keeps.under {t : Call α} (hp : p.Keeps duty) (t' : Call α) (es : List Event)
    (hi : p.calls[i]? = some t.leaving) (held : p.holder = some i) (todo : duty i = some t)
    (hu : t'.Within .unguarded) (hc : q.calls = p.calls.set i t'.leaving) (hh : q.holder = p.holder)
    (events : o.events = es.map (i, ·))
    (traces : ∀ {rest a m'}, t'.Traces q.memory rest a m' → t.Traces p.memory (es ++ rest) a m') :
    p.Advance duty o q := by
  have holds : q.holder = some i := hh.trans held
  have keeps := hp.set hi hc (fun j _ => by rw [hh]) (decide_eq_true holds) (.working hu)
  exact .under i t t' es held holds todo keeps events traces

theorem Step.advance (h : p.Step o q) (hp : p.Keeps duty) : p.Advance duty o q := by
  -- a call that waits for the guard can only enter, and a quiet one can only look at the memory
  cases h with
  | @ask i r next hi x =>
    rcases hp.of_call hi with ⟨t, hu, ht, hd, hh⟩ | ⟨t, -, ht, -⟩ | ⟨hq, -⟩
    · cases t <;> cases ht
      rename_i next
      refine hp.under (next x) [.asked r x] hi hh hd (hu.2 x) rfl rfl rfl ?_
      intro rest a m' ht
      exact ⟨x, rest, rfl, ht⟩
    · contradiction
    · exact hq.1.elim
  | @fire i c next hi =>
    rcases hp.of_call hi with ⟨t, hu, ht, hd, hh⟩ | ⟨t, -, ht, -⟩ | ⟨hq, -⟩
    · cases t <;> cases ht
      rename_i next
      have htold := hu.2.tellAll trivial c p.memory.listeners.ids
      refine hp.under _ [.fired c] hi hh hd htold ?_ rfl rfl ?_
      · rw [Call.leaving_tellAll]
        rfl
      · intro rest a m' ht
        exact ⟨rest, rfl, Call.traces_tellAll.1 ht⟩
    · contradiction
    · exact hq.1.elim
  | @tell i l c next hi =>
    rcases hp.of_call hi with ⟨t, hu, ht, hd, hh⟩ | ⟨t, -, ht, -⟩ | ⟨hq, -⟩
    · cases t <;> cases ht
      rename_i next
      exact hp.under next [] hi hh hd hu.2 rfl rfl rfl fun ht => ht
    · contradiction
    · exact hq.1.elim
  | @access i update next hi =>
    rcases hp.of_call hi with ⟨t, hu, ht, hd, hh⟩ | ⟨t, -, ht, -⟩ | ⟨⟨hm, -, hq⟩, hd, hh⟩
    · cases t <;> cases ht
      rename_i next
      refine hp.under (next p.memory) (p.memory.moves (update p.memory)) hi hh hd
        (hu.2.2 p.memory) rfl rfl rfl ?_
      intro rest a m' ht
      exact ⟨rest, rfl, ht⟩
    · contradiction
    · refine .unseen ?_ (hm p.memory) ?_ fun j hj => hj
      · rw [Occurrence.events, hm p.memory, Memory.moves_self]
        rfl
      · rw [← Function.update_eq_self i duty, hd]
        exact hp.set hi rfl (fun j _ => Iff.rfl) (decide_eq_false hh) (.quiet (hq p.memory))
  | @enter i next hi free =>
    rcases hp.of_call hi with ⟨t, -, -, -, hh⟩ | ⟨t, hu, ht, hd, -⟩ | ⟨hq, -⟩
    · rw [free] at hh
      contradiction
    · cases ht
      refine .unseen rfl rfl ?_ fun j hj => ?_
      · rw [← Function.update_eq_self i duty, hd]
        refine hp.set hi rfl (fun j hj => ?_) (decide_eq_true rfl) (.working hu)
        simp [resume, free, Ne.symm hj]
      · rw [free] at hj
        contradiction
    · exact hq.1.elim
  | @leave i next hi held =>
    rcases hp.of_call hi with ⟨t, hu, ht, hd, hh⟩ | ⟨t, -, ht, -⟩ | ⟨hq, -⟩
    · cases t <;> cases ht
      · rename_i a
        obtain ⟨hlt, -⟩ := List.getElem?_eq_some_iff.1 hi
        refine .finish i a held hd (hp.set hi rfl (fun j hj => ?_) rfl (.quiet trivial)) rfl rfl ?_
        · simp [resume, held, Ne.symm hj]
        · simp [result?, resume, List.getElem?_set_self hlt]
      · exact hu.1.elim
    · contradiction
    · exact hq.1.elim

/-! ### Runs -/

/-- What a call did while it had the guard, and its result. -/
structure Turn (α : Type) where
  call : Nat
  events : List Event
  result : α

/-- Turns one after the other, each from the memory that the one before it left, until no call has
anything to do under the guard. -/
inductive Serial : (Nat → Option (Call α)) → Memory → List (Turn α) → Memory → Prop
  | nil {duty : Nat → Option (Call α)} {m : Memory} (h : ∀ i, duty i = none) : Serial duty m [] m
  | cons {duty : Nat → Option (Call α)} {t : Call α} {m m₁ m' : Memory} {turn : Turn α}
      {turns : List (Turn α)} (todo : duty turn.call = some t)
      (traces : t.Traces m turn.events turn.result m₁)
      (rest : Serial (Function.update duty turn.call none) m₁ turns m') :
      Serial duty m (turn :: turns) m'

def shown (turns : List (Turn α)) : List (Nat × Event) :=
  turns.flatMap fun turn => turn.events.map (turn.call, ·)

@[simp] theorem shown_nil : shown ([] : List (Turn α)) = [] := rfl

@[simp] theorem shown_cons (turn : Turn α) (turns : List (Turn α)) :
    shown (turn :: turns) = turn.events.map (turn.call, ·) ++ shown turns := rfl

theorem map_snd_shown_cons (turn : Turn α) (turns : List (Turn α)) :
    (shown (turn :: turns)).map Prod.snd = turn.events ++ (shown turns).map Prod.snd := by
  simp [Function.comp_def]

theorem result?_eq_some {a : α} : p.result? i = some a ↔ p.calls[i]? = some (.done a) := by
  unfold result?
  split <;> simp_all

theorem isDone_of_calls (results : List α) (h : p.calls = results.map .done) : p.IsDone := by
  intro i hi
  have hr : i < results.length := by rwa [h, List.length_map] at hi
  have : p.result? i = some results[i] := by simp [result?_eq_some, h, hr]
  rw [this]
  rfl

theorem Step.exists_set (h : p.Step o q) :
    ∃ i s s', p.calls[i]? = some s ∧ (∀ a, s ≠ .done a) ∧ q.calls = p.calls.set i s' := by
  cases h <;> exact ⟨_, _, _, ‹_›, by simp, rfl⟩

theorem Step.result? {a : α} (h : p.Step o q) (hi : p.result? i = some a) :
    q.result? i = some a := by
  obtain ⟨j, s, s', hj, hs, hq⟩ := h.exists_set
  rw [result?_eq_some] at hi ⊢
  have hne : j ≠ i := by
    rintro rfl
    rw [hi] at hj
    exact hs a (Option.some.inj hj).symm
  rwa [hq, List.getElem?_set_ne hne]

theorem Run.result? {a : α} (h : p.Run os q) (hi : p.result? i = some a) :
    q.result? i = some a := by
  induction h with
  | refl => exact hi
  | step h _ ih => exact ih (h.result? hi)

/-- When all calls took their last steps, none has anything to do under the guard. -/
theorem Keeps.of_isDone (hp : p.Keeps duty) (h : p.IsDone) (i : Nat) :
    duty i = none ∧ p.holder ≠ some i := by
  have done {s : Call α} (hi : p.calls[i]? = some s) : ∃ a, s = .done a := by
    obtain ⟨hlt, -⟩ := List.getElem?_eq_some_iff.1 hi
    obtain ⟨a, ha⟩ := Option.isSome_iff_exists.1 (h i hlt)
    rw [result?_eq_some, hi] at ha
    exact ⟨a, Option.some.inj ha⟩
  have hs := hp i
  generalize hc : p.calls[i]? = call at hs
  generalize hb : decide (p.holder = some i) = holds at hs
  generalize duty i = d at hs
  cases hs with
  | waiting =>
    obtain ⟨a, ha⟩ := done hc
    contradiction
  | @working t =>
    obtain ⟨a, ha⟩ := done hc
    exact (t.leaving_ne_done a ha).elim
  | quiet => exact ⟨rfl, of_decide_eq_false hb⟩
  | absent => exact ⟨rfl, of_decide_eq_false hb⟩

/-- In the end, the calls took their turns one after the other, the one with the guard first. -/
theorem Run.serial (h : p.Run os q) (hq : q.IsDone) (hp : p.Keeps duty) :
    ∃ turns, Serial duty p.memory turns q.memory ∧ events os = shown turns ∧
      (∀ turn ∈ turns, q.result? turn.call = some turn.result) ∧
      ∀ i, p.holder = some i → ∃ turn rest, turns = turn :: rest ∧ turn.call = i := by
  induction h generalizing duty with
  | refl p =>
    refine ⟨[], .nil fun i => (hp.of_isDone hq i).1, rfl, by simp, fun i hi => ?_⟩
    exact ((hp.of_isDone hq i).2 hi).elim
  | @step p q r o os hs hrest ih =>
    cases hs.advance hp with
    | unseen events memory keeps holder =>
      obtain ⟨turns, hserial, hshown, hresults, hfirst⟩ := ih hq keeps
      refine ⟨turns, memory ▸ hserial, ?_, hresults, fun i hi => hfirst i (holder i hi)⟩
      rw [Poller.events, List.flatMap_cons, events, List.nil_append]
      exact hshown
    | under i t t' es held holds todo keeps events traces =>
      obtain ⟨_, hserial, hshown, hresults, hfirst⟩ := ih hq keeps
      -- the first turn of the rest is that of the call with the guard; the step goes in front of it
      obtain ⟨turn, rest, rfl, rfl⟩ := hfirst i holds
      cases hserial with
      | cons todo' htraces hserial =>
        rw [Function.update_self] at todo'
        cases todo'
        rw [Function.update_idem] at hserial
        refine ⟨⟨turn.call, es ++ turn.events, turn.result⟩ :: rest,
          .cons todo (traces htraces) hserial, ?_, ?_, ?_⟩
        · rw [Poller.events, List.flatMap_cons, events, ← Poller.events, hshown]
          simp
        · simpa using hresults
        · intro j hj
          rw [held] at hj
          exact ⟨_, _, rfl, Option.some.inj hj⟩
    | finish i a held todo keeps events memory result =>
      -- the turn ends here, and its own steps are still to come in front of it
      obtain ⟨turns, hserial, hshown, hresults, -⟩ := ih hq keeps
      refine ⟨⟨i, [], a⟩ :: turns, .cons todo ⟨rfl, rfl, rfl⟩ (memory ▸ hserial), ?_, ?_, ?_⟩
      · rw [Poller.events, List.flatMap_cons, events, ← Poller.events, hshown]
        simp
      · simpa using ⟨hrest.result? result, hresults⟩
      · intro j hj
        rw [held] at hj
        exact ⟨_, _, rfl, Option.some.inj hj⟩

/-! ### A call on its own -/

section Alone

variable {cs : List (Call α)} {m m' : Memory} {holder : Option Nat} {es : List Event}

theorem events_append (os os' : List Occurrence) : events (os ++ os') = events os ++ events os' :=
  List.flatMap_append ..

@[simp] theorem resume_set (s s' : Call α) :
    (⟨m, holder, cs.set i s⟩ : Pool α).resume i s' = ⟨m, holder, cs.set i s'⟩ := by
  simp [resume]

theorem exists_run_of_step {s s' : Call α} {holder' : Option Nat} {r : Pool α}
    (h : Step (⟨m, holder, cs.set i s⟩ : Pool α) o ⟨m', holder', cs.set i s'⟩)
    (hrun : ∃ os, (⟨m', holder', cs.set i s'⟩ : Pool α).Run os r ∧ events os = es.map (i, ·)) :
    ∃ os, (⟨m, holder, cs.set i s⟩ : Pool α).Run os r ∧
      events os = o.events ++ es.map (i, ·) := by
  obtain ⟨os, hr, hes⟩ := hrun
  exact ⟨o :: os, .step h hr, congrArg (o.events ++ ·) hes⟩

theorem exists_run_tellAll (hi : i < cs.length) (m : Memory) (holder : Option Nat) (c : Change)
    (next : Call α) (ls : List ListenerId) :
    ∃ os, (⟨m, holder, cs.set i (.tellAll c next ls)⟩ : Pool α).Run os ⟨m, holder, cs.set i next⟩ ∧
      events os = [] := by
  induction ls with
  | nil => exact ⟨[], .refl _, rfl⟩
  | cons l ls ih =>
    obtain ⟨os, hr, hes⟩ := ih
    have hs := Step.tell (p := ⟨m, holder, cs.set i (.tell l c (.tellAll c next ls))⟩)
      (List.getElem?_set_self hi)
    rw [resume_set] at hs
    exact ⟨_ :: os, .step hs hr, hes⟩

/-- What a call can show on its own, it can show in a pool where it has the guard. -/
theorem exists_run_leaving (cs : List (Call α)) (hi : i < cs.length) {t : Call α} {a : α}
    (h : t.Traces m es a m') :
    ∃ os, (⟨m, some i, cs.set i t.leaving⟩ : Pool α).Run os ⟨m', none, cs.set i (.done a)⟩ ∧
      events os = es.map (i, ·) := by
  induction t generalizing m es with
  | done b =>
    obtain ⟨rfl, rfl, rfl⟩ := h
    have hs := Step.leave (p := ⟨m', some i, cs.set i (.leave (.done a))⟩)
      (List.getElem?_set_self hi) rfl
    refine ⟨[.left i], .step hs ?_, rfl⟩
    simp only [resume, List.set_set]
    exact .refl _
  | ask r next ih =>
    obtain ⟨x, rest, rfl, h⟩ := h
    have hs := Step.ask (p := ⟨m, some i, cs.set i (Call.ask r next).leaving⟩)
      (List.getElem?_set_self hi) x
    rw [Call.leaving, Call.bind, resume_set] at hs
    exact exists_run_of_step hs (ih x h)
  | fire c next ih =>
    obtain ⟨rest, rfl, h⟩ := h
    have hs := Step.fire (p := ⟨m, some i, cs.set i (Call.fire c next).leaving⟩)
      (List.getElem?_set_self hi)
    rw [Call.leaving, Call.bind, resume_set] at hs
    obtain ⟨os, hr, hes⟩ := ih h
    obtain ⟨told, ht, hts⟩ :=
      exists_run_tellAll hi m (some i) c next.leaving m.listeners.ids
    refine exists_run_of_step hs ⟨told ++ os, ht.trans hr, ?_⟩
    rw [events_append, hts, hes, List.nil_append]
  | tell l c next ih =>
    have hs := Step.tell (p := ⟨m, some i, cs.set i (Call.tell l c next).leaving⟩)
      (List.getElem?_set_self hi)
    rw [Call.leaving, Call.bind, resume_set] at hs
    exact exists_run_of_step hs (ih h)
  | access update next ih =>
    obtain ⟨rest, rfl, h⟩ := h
    have hs := Step.access (p := ⟨m, some i, cs.set i (Call.access update next).leaving⟩)
      (List.getElem?_set_self hi)
    rw [Call.leaving, Call.bind, resume_set] at hs
    rw [List.map_append]
    exact exists_run_of_step hs (ih m h)
  | enter next => exact h.elim
  | leave next => exact h.elim

/-- A waiting call can take its turn when the guard is free. -/
theorem exists_run_guarded {p : Pool α} {t : Call α} {a : α} (hi : p.calls[i]? = some (.guarded t))
    (free : p.holder = none) (h : t.Traces p.memory es a m') :
    ∃ os, p.Run os ⟨m', none, p.calls.set i (.done a)⟩ ∧ events os = es.map (i, ·) := by
  obtain ⟨hlt, -⟩ := List.getElem?_eq_some_iff.1 hi
  obtain ⟨os, hr, hes⟩ := exists_run_leaving p.calls hlt h
  exact ⟨.entered i :: os, .step (.enter hi free) hr, hes⟩

theorem exists_run_quiet {p : Pool α} {t : Call α} (hi : p.calls[i]? = some t) (h : t.Within .quiet) :
    ∃ os a, p.Run os (p.resume i (.done a)) ∧ events os = [] := by
  induction t generalizing p with
  | done a =>
    obtain ⟨hlt, hi⟩ := List.getElem?_eq_some_iff.1 hi
    exact ⟨[], a, by rw [resume, ← hi, List.set_getElem_self]; exact .refl p, rfl⟩
  | access update next ih =>
    obtain ⟨hlt, -⟩ := List.getElem?_eq_some_iff.1 hi
    have hs := Step.access hi
    rw [h.1 p.memory] at hs
    obtain ⟨os, a, hr, hes⟩ := ih p.memory (p := p.resume i (next p.memory))
      (List.getElem?_set_self hlt) (h.2.2 p.memory)
    rw [show (p.resume i (next p.memory)).resume i (.done a) = p.resume i (.done a) by
      simp [resume]] at hr
    refine ⟨_ :: os, a, .step hs hr, ?_⟩
    rw [events, List.flatMap_cons, ← events, hes]
    simp [Occurrence.events]
  | ask r next => exact h.1.elim
  | fire c next => exact h.1.elim
  | tell l c next => exact h.1.elim
  | enter next => exact h.1.elim
  | leave next => exact h.1.elim

end Alone

/-! ### No deadlock -/

theorem Run.keeps (h : p.Run os q) (hp : p.Keeps duty) : ∃ duty', q.Keeps duty' := by
  induction h generalizing duty with
  | refl => exact ⟨duty, hp⟩
  | step hs _ ih =>
    cases hs.advance hp with
    | unseen _ _ keeps _ => exact ih keeps
    | under _ _ _ _ _ _ _ keeps _ _ => exact ih keeps
    | finish _ _ _ _ keeps _ _ _ => exact ih keeps

/-- Without another one that holds the guard, a call can be run to its end. -/
theorem Keeps.exists_run_done (answer : (r : Request) → r.Answer) (hp : p.Keeps duty)
    (free : p.holder = none) (hi : i < p.calls.length) :
    ∃ os a m, p.Run os ⟨m, none, p.calls.set i (.done a)⟩ ∧
      Answered answer ((events os).map Prod.snd) := by
  have held (j : Nat) : p.holder ≠ some j := by simp [free]
  rcases hp.of_call (List.getElem?_eq_getElem hi) with
    ⟨_, -, -, -, hh⟩ | ⟨t, hu, ht, -⟩ | ⟨hq, -⟩
  · exact (held i hh).elim
  · obtain ⟨es, a, m, htraces, hes⟩ := hu.exists_traces answer p.memory
    obtain ⟨os, hr, hshown⟩ :=
      exists_run_guarded (by rw [List.getElem?_eq_getElem hi, ht]) free htraces
    exact ⟨os, a, m, hr, by simpa [hshown, Function.comp_def] using hes⟩
  · obtain ⟨os, a, hr, hshown⟩ := exists_run_quiet (List.getElem?_eq_getElem hi) hq
    exact ⟨os, a, p.memory, by rwa [← free], by simp [hshown, Answered]⟩

/-- The first `n` calls can be run to their ends, one after the other. -/
theorem Keeps.exists_run_first (answer : (r : Request) → r.Answer) (hp : p.Keeps duty)
    (free : p.holder = none) {n : Nat} (hn : n ≤ p.calls.length) :
    ∃ os q, p.Run os q ∧ q.holder = none ∧ q.calls.length = p.calls.length ∧
      (∀ i < n, (q.result? i).isSome) ∧ Answered answer ((events os).map Prod.snd) := by
  induction n with
  | zero => exact ⟨[], p, .refl p, free, rfl, by simp, by simp [events, Answered]⟩
  | succ n ih =>
    obtain ⟨os₁, q₁, hr₁, free₁, hlen, hdone, hes₁⟩ := ih (Nat.le_of_succ_le hn)
    obtain ⟨_, hkeeps⟩ := hr₁.keeps hp
    have hlt : n < q₁.calls.length := hlen ▸ hn
    obtain ⟨os₂, a, m, hr₂, hes₂⟩ := hkeeps.exists_run_done answer free₁ hlt
    refine ⟨os₁ ++ os₂, _, hr₁.trans hr₂, rfl, by simpa using hlen, fun i hi => ?_, ?_⟩
    · rcases Nat.lt_succ_iff_lt_or_eq.1 hi with hi | rfl
      · obtain ⟨b, hb⟩ := Option.isSome_iff_exists.1 (hdone i hi)
        rw [hr₂.result? hb]
        rfl
      · simp [result?, List.getElem?_set_self hlt]
    · rw [events_append, List.map_append]
      exact hes₁.append hes₂

/-- As long as all calls keep to the guard, there is always a way to their ends, whatever is answered
on it. -/
theorem Keeps.exists_run_isDone (answer : (r : Request) → r.Answer) (hp : p.Keeps duty) :
    ∃ os q, p.Run os q ∧ q.IsDone ∧ Answered answer ((events os).map Prod.snd) := by
  have of_free {p : Pool α} {duty : Nat → Option (Call α)} (hp : p.Keeps duty)
      (free : p.holder = none) :
      ∃ os q, p.Run os q ∧ q.IsDone ∧ Answered answer ((events os).map Prod.snd) := by
    obtain ⟨os, q, hr, -, hlen, hdone, hes⟩ := hp.exists_run_first answer free (Nat.le_refl _)
    exact ⟨os, q, hr, fun i hi => hdone i (hlen ▸ hi), hes⟩
  cases hh : p.holder with
  | none => exact of_free hp hh
  | some i =>
    -- the call with the guard goes first
    have hi := hp i
    generalize hc : p.calls[i]? = call at hi
    generalize hd : duty i = d at hi
    rw [hh, decide_eq_true rfl] at hi
    cases hi with
    | @working t hu =>
      obtain ⟨hlt, hget⟩ := List.getElem?_eq_some_iff.1 hc
      obtain ⟨es, a, m, htraces, hes⟩ := hu.exists_traces answer p.memory
      obtain ⟨os₁, hr₁, hshown⟩ := exists_run_leaving p.calls hlt htraces
      rw [← hget, List.set_getElem_self, ← hh] at hr₁
      obtain ⟨_, hkeeps⟩ := hr₁.keeps hp
      obtain ⟨os₂, q, hr₂, hq, hes₂⟩ := of_free hkeeps rfl
      refine ⟨os₁ ++ os₂, q, hr₁.trans hr₂, hq, ?_⟩
      rw [events_append, List.map_append]
      exact .append (by simpa [hshown, Function.comp_def] using hes) hes₂

end Pool

end ServiceWatch.Poller
