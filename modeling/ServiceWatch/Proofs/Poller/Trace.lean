import ServiceWatch.Poller.Trace

/-! What can be seen of the steps that the calls of a coordinator are made of. -/
namespace ServiceWatch.Poller

variable {α β : Type} {m m' : Memory} {es : List Event}

@[simp] theorem Memory.moves_self (m : Memory) : m.moves m = [] := by
  simp [Memory.moves]

theorem Memory.moves_of_ne (h : m.state ≠ m'.state) : m.moves m' = [.moved m.state m'.state] := by
  simp [Memory.moves, h]

namespace Call

@[simp] theorem traces_done {a b : α} :
    (done a).Traces m es b m' ↔ es = [] ∧ b = a ∧ m' = m :=
  Iff.rfl

/-- A call and the one that depends on its result show what each of them shows. -/
theorem traces_bind {t : Call α} {f : α → Call β} {b : β} :
    (t >>= f).Traces m es b m' ↔ ∃ es₁ a m₁ es₂,
      t.Traces m es₁ a m₁ ∧ (f a).Traces m₁ es₂ b m' ∧ es = es₁ ++ es₂ := by
  change (t.bind f).Traces m es b m' ↔ _
  induction t generalizing m es with
  | done a =>
    constructor
    · intro h
      exact ⟨[], a, m, es, ⟨rfl, rfl, rfl⟩, h, rfl⟩
    · rintro ⟨_, _, _, es₂, ⟨rfl, rfl, rfl⟩, h, rfl⟩
      exact h
  | ask r next ih =>
    simp only [bind, Traces, ih]
    constructor
    · rintro ⟨x, rest, rfl, es₁, a, m₁, es₂, h₁, h₂, rfl⟩
      exact ⟨_, a, m₁, es₂, ⟨x, es₁, rfl, h₁⟩, h₂, rfl⟩
    · rintro ⟨_, a, m₁, es₂, ⟨x, es₁, rfl, h₁⟩, h₂, rfl⟩
      exact ⟨x, es₁ ++ es₂, rfl, es₁, a, m₁, es₂, h₁, h₂, rfl⟩
  | fire c next ih =>
    simp only [bind, Traces, ih]
    constructor
    · rintro ⟨rest, rfl, es₁, a, m₁, es₂, h₁, h₂, rfl⟩
      exact ⟨_, a, m₁, es₂, ⟨es₁, rfl, h₁⟩, h₂, rfl⟩
    · rintro ⟨_, a, m₁, es₂, ⟨es₁, rfl, h₁⟩, h₂, rfl⟩
      exact ⟨es₁ ++ es₂, rfl, es₁, a, m₁, es₂, h₁, h₂, rfl⟩
  | tell l c next ih => simpa only [bind, Traces] using ih
  | access update next ih =>
    simp only [bind, Traces, ih]
    constructor
    · rintro ⟨rest, rfl, es₁, a, m₁, es₂, h₁, h₂, rfl⟩
      exact ⟨_, a, m₁, es₂, ⟨es₁, rfl, h₁⟩, h₂, (List.append_assoc ..).symm⟩
    · rintro ⟨_, a, m₁, es₂, ⟨es₁, rfl, h₁⟩, h₂, rfl⟩
      exact ⟨es₁ ++ es₂, List.append_assoc .., es₁, a, m₁, es₂, h₁, h₂, rfl⟩
  | enter next => simp [bind, Traces]
  | leave next => simp [bind, Traces]

@[simp] theorem traces_request {r : Request} {x : r.Answer} :
    (request r).Traces m es x m' ↔ es = [.asked r x] ∧ m' = m := by
  constructor
  · rintro ⟨_, _, rfl, rfl, rfl, rfl⟩
    exact ⟨rfl, rfl⟩
  · rintro ⟨rfl, rfl⟩
    exact ⟨x, [], rfl, rfl, rfl, rfl⟩

@[simp] theorem traces_remembered {a : Memory} :
    remembered.Traces m es a m' ↔ es = [] ∧ a = m ∧ m' = m := by
  simp [remembered, Traces]

/-- A listener that is told about a change shows nothing. -/
@[simp] theorem traces_tellAll {c : Change} {next : Call α} {ls : List ListenerId} {a : α} :
    (tellAll c next ls).Traces m es a m' ↔ next.Traces m es a m' := by
  induction ls with
  | nil => rfl
  | cons l ls ih => exact ih

end Call

@[simp] theorem traces_fire {c : Change} {u : Unit} :
    (fire c).Traces m es u m' ↔ es = [.fired c] ∧ m' = m := by
  constructor
  · rintro ⟨_, rfl, rfl, -, rfl⟩
    exact ⟨rfl, rfl⟩
  · rintro ⟨rfl, rfl⟩
    exact ⟨[], rfl, rfl, rfl, rfl⟩

theorem traces_fire_bind {c : Change} {f : Unit → Call α} {a : α} :
    (fire c >>= f).Traces m es a m' ↔ ∃ rest, es = .fired c :: rest ∧ (f ()).Traces m rest a m' :=
  Iff.rfl

theorem traces_fireIfChanged {change : Bool → Bool → Change} {old new : Bool} {u : Unit} :
    (fireIfChanged change old new).Traces m es u m' ↔
      es = (if old = new then [] else [.fired (change old new)]) ∧ m' = m := by
  unfold fireIfChanged
  split <;> simp

/-- What can be seen of a move from one state to another. -/
def State.turn (s t : State) : List Event :=
  if s.isTerminal then []
  else (if s = t then [] else [.moved s t]) ++
    (if s.isStarted = t.isStarted then [] else [.fired (.started s.isStarted t.isStarted)]) ++
    (if s.isRegistered = t.isRegistered then []
      else [.fired (.registered s.isRegistered t.isRegistered)])

theorem traces_moveTo {s : State} {u : Unit} :
    (moveTo s).Traces m es u m' ↔ es = m.state.turn s ∧ m' = m.moveTo s := by
  unfold moveTo State.turn
  by_cases ht : m.state.isTerminal = true
  · simp [Call.Traces, Memory.moveTo, ht]
  · have hm : m.moves (m.moveTo s) = if m.state = s then [] else [.moved m.state s] := by
      simp [Memory.moves, Memory.moveTo, ht]
    simp only [Call.Traces, hm, ht, Bool.false_eq_true, if_false, Call.traces_bind,
      traces_fireIfChanged]
    constructor
    · rintro ⟨_, rfl, _, _, _, _, ⟨rfl, rfl⟩, ⟨rfl, rfl⟩, rfl⟩
      simp
    · rintro ⟨rfl, rfl⟩
      exact ⟨_, by rw [List.append_assoc], _, (), _, _, ⟨rfl, rfl⟩, ⟨rfl, rfl⟩, rfl⟩

/-! ### Attempts -/

section Attempt

variable {r : Except Fault α}

@[simp] theorem traces_run_except {x : Except Fault α} :
    (liftM x : Attempt α).run.Traces m es r m' ↔ es = [] ∧ r = x ∧ m' = m :=
  Iff.rfl

theorem traces_run_lift {t : Call α} :
    (liftM t : Attempt α).run.Traces m es r m' ↔ ∃ a, t.Traces m es a m' ∧ r = .ok a := by
  change (t >>= fun a => pure (Except.ok a)).Traces m es r m' ↔ _
  rw [Call.traces_bind]
  constructor
  · rintro ⟨es₁, a, m₁, _, h, ⟨rfl, rfl, rfl⟩, rfl⟩
    exact ⟨a, by rwa [List.append_nil], rfl⟩
  · rintro ⟨a, h, rfl⟩
    exact ⟨es, a, m', [], h, ⟨rfl, rfl, rfl⟩, (List.append_nil es).symm⟩

/-- An attempt goes on behind the first part unless this one stops at an error. -/
theorem traces_run_bind {x : Attempt β} {f : β → Attempt α} :
    (x >>= f).run.Traces m es r m' ↔
      (∃ fault, x.run.Traces m es (.error fault) m' ∧ r = .error fault) ∨
        ∃ es₁ b m₁ es₂, x.run.Traces m es₁ (.ok b) m₁ ∧ (f b).run.Traces m₁ es₂ r m' ∧
          es = es₁ ++ es₂ := by
  rw [ExceptT.run_bind, Call.traces_bind]
  constructor
  · rintro ⟨es₁, fault | b, m₁, es₂, h₁, h₂, rfl⟩
    · obtain ⟨rfl, rfl, rfl⟩ := h₂
      exact .inl ⟨fault, by rwa [List.append_nil], rfl⟩
    · exact .inr ⟨es₁, b, m₁, es₂, h₁, h₂, rfl⟩
  · rintro (⟨fault, h, rfl⟩ | ⟨es₁, b, m₁, es₂, h₁, h₂, rfl⟩)
    · exact ⟨es, .error fault, m', [], h, ⟨rfl, rfl, rfl⟩, (List.append_nil es).symm⟩
    · exact ⟨es₁, .ok b, m₁, es₂, h₁, h₂, rfl⟩

/-- A call without errors in front of an attempt never stops it. -/
theorem traces_run_lift_bind {t : Call β} {f : β → Attempt α} :
    ((liftM t : Attempt β) >>= f).run.Traces m es r m' ↔ ∃ es₁ b m₁ es₂,
      t.Traces m es₁ b m₁ ∧ (f b).run.Traces m₁ es₂ r m' ∧ es = es₁ ++ es₂ := by
  rw [traces_run_bind]
  constructor
  · rintro (⟨_, h, -⟩ | ⟨es₁, b, m₁, es₂, h₁, h₂, rfl⟩)
    · obtain ⟨_, -, h⟩ := traces_run_lift.1 h
      contradiction
    · obtain ⟨_, h₁, hb⟩ := traces_run_lift.1 h₁
      cases hb
      exact ⟨es₁, b, m₁, es₂, h₁, h₂, rfl⟩
  · rintro ⟨es₁, b, m₁, es₂, h₁, h₂, rfl⟩
    exact .inr ⟨es₁, b, m₁, es₂, traces_run_lift.2 ⟨b, h₁, rfl⟩, h₂, rfl⟩

theorem traces_run_discard {t : Call β} {r : Except Fault PUnit} :
    (discard (liftM t : Attempt β) : Attempt PUnit).run.Traces m es r m' ↔
      ∃ b, t.Traces m es b m' ∧ r = .ok () := by
  change ((liftM t : Attempt β) >>= fun _ => pure PUnit.unit).run.Traces m es r m' ↔ _
  rw [traces_run_lift_bind]
  constructor
  · rintro ⟨es₁, b, m₁, es₂, h, ⟨rfl, rfl, rfl⟩, rfl⟩
    exact ⟨b, by rwa [List.append_nil], rfl⟩
  · rintro ⟨b, h, rfl⟩
    exact ⟨es, b, m', [], h, ⟨rfl, rfl, rfl⟩, (List.append_nil es).symm⟩

/-- What a collaborator cannot do stops the attempt. -/
theorem traces_askOrStop {ε : Type} {fault : ε → Fault} {t : Call (Except ε α)} :
    (askOrStop fault t).run.Traces m es r m' ↔
      ∃ x, t.Traces m es x m' ∧ r = x.mapError fault := by
  unfold askOrStop
  rw [traces_run_lift_bind]
  constructor
  · rintro ⟨es₁, failure | a, m₁, es₂, h, ⟨rfl, rfl, rfl⟩, rfl⟩
    · exact ⟨.error failure, by rwa [List.append_nil], rfl⟩
    · exact ⟨.ok a, by rwa [List.append_nil], rfl⟩
  · rintro ⟨failure | a, h, rfl⟩
    · exact ⟨es, .error failure, m', [], h, ⟨rfl, rfl, rfl⟩, (List.append_nil es).symm⟩
    · exact ⟨es, .ok a, m', [], h, ⟨rfl, rfl, rfl⟩, (List.append_nil es).symm⟩

theorem traces_askOrStop_bind {ε : Type} {fault : ε → Fault} {t : Call (Except ε β)}
    {f : β → Attempt α} :
    (askOrStop fault t >>= f).run.Traces m es r m' ↔
      (∃ failure, t.Traces m es (.error failure) m' ∧ r = .error (fault failure)) ∨
        ∃ es₁ b m₁ es₂, t.Traces m es₁ (.ok b) m₁ ∧ (f b).run.Traces m₁ es₂ r m' ∧
          es = es₁ ++ es₂ := by
  rw [traces_run_bind]
  simp only [traces_askOrStop]
  constructor
  · rintro (⟨_, ⟨failure | b, h, hf⟩, rfl⟩ | ⟨es₁, b, m₁, es₂, ⟨failure | b, h, hb⟩, h₂, rfl⟩)
    · cases hf
      exact .inl ⟨failure, h, rfl⟩
    · contradiction
    · contradiction
    · cases hb
      exact .inr ⟨es₁, b, m₁, es₂, h, h₂, rfl⟩
  · rintro (⟨failure, h, rfl⟩ | ⟨es₁, b, m₁, es₂, h, h₂, rfl⟩)
    · exact .inl ⟨fault failure, ⟨.error failure, h, rfl⟩, rfl⟩
    · exact .inr ⟨es₁, b, m₁, es₂, ⟨.ok b, h, rfl⟩, h₂, rfl⟩

theorem traces_ensureSupported {operation : Operation} {r : Except Fault Unit} :
    (ensureSupported operation).run.Traces m es r m' ↔ es = [] ∧ m' = m ∧
      r = if m.state.supports operation then .ok () else .error (m.state.refusal operation) := by
  unfold ensureSupported
  rw [traces_run_lift_bind]
  constructor
  · rintro ⟨_, _, _, es₂, h, hr, rfl⟩
    obtain ⟨rfl, rfl, rfl⟩ := Call.traces_remembered.1 h
    split at hr
    · obtain ⟨rfl, rfl, rfl⟩ := hr
      exact ⟨rfl, rfl, (if_pos ‹_›).symm⟩
    · obtain ⟨rfl, rfl, rfl⟩ := hr
      exact ⟨rfl, rfl, (if_neg ‹_›).symm⟩
  · rintro ⟨rfl, rfl, rfl⟩
    refine ⟨[], m', m', [], Call.traces_remembered.2 ⟨rfl, rfl, rfl⟩, ?_, rfl⟩
    split
    · exact ⟨rfl, rfl, rfl⟩
    · exact ⟨rfl, rfl, rfl⟩

/-- A state that does not accept a call refuses it, and stays. -/
theorem traces_carryOut_of_refused {operation : Operation} {attempt : Attempt Unit}
    {answer : Fault → Except Fault Unit} {r : Except Fault Unit}
    (h : m.state.supports operation = false) :
    (carryOut operation attempt answer).Traces m es r m' ↔
      es = [] ∧ r = .error (m.state.refusal operation) ∧ m' = m := by
  unfold carryOut
  rw [Call.traces_bind]
  simp only [traces_ensureSupported, h, Bool.false_eq_true, if_false]
  constructor
  · rintro ⟨_, _, _, es₂, ⟨rfl, rfl, rfl⟩, hr, rfl⟩
    exact hr
  · rintro ⟨rfl, rfl, rfl⟩
    exact ⟨[], _, m', [], ⟨rfl, rfl, rfl⟩, ⟨rfl, rfl, rfl⟩, rfl⟩

/-- An accepted call shows what its attempt shows; an error of this ends the coordinator. -/
theorem traces_carryOut_of_accepted {operation : Operation} {attempt : Attempt Unit}
    {answer : Fault → Except Fault Unit} {r : Except Fault Unit}
    (h : m.state.supports operation = true) :
    (carryOut operation attempt answer).Traces m es r m' ↔
      attempt.run.Traces m es (.ok ()) m' ∧ r = .ok () ∨
        ∃ es₁ fault m₁, attempt.run.Traces m es₁ (.error fault) m₁ ∧ r = answer fault ∧
          es = es₁ ++ m₁.state.turn (.fatal fault) ∧ m' = m₁.moveTo (.fatal fault) := by
  unfold carryOut
  rw [Call.traces_bind]
  simp only [traces_ensureSupported, h, if_true]
  constructor
  · rintro ⟨_, _, _, es₂, ⟨rfl, rfl, rfl⟩, hr, rfl⟩
    dsimp only at hr
    obtain ⟨es₁, fault | u, m₁, es₃, ha, hb, rfl⟩ := Call.traces_bind.1 hr
    · obtain ⟨_, _, _, _, hm, ⟨rfl, rfl, rfl⟩, rfl⟩ := Call.traces_bind.1 hb
      obtain ⟨rfl, rfl⟩ := traces_moveTo.1 hm
      exact .inr ⟨es₁, fault, m₁, ha, rfl, by simp, rfl⟩
    · obtain ⟨rfl, rfl, rfl⟩ := hb
      exact .inl ⟨by simpa using ha, rfl⟩
  · rintro (⟨ha, rfl⟩ | ⟨es₁, fault, m₁, ha, rfl, rfl, rfl⟩)
    · refine ⟨[], .ok (), m, es, ⟨rfl, rfl, rfl⟩, ?_, rfl⟩
      exact Call.traces_bind.2 ⟨es, .ok (), m', [], ha, ⟨rfl, rfl, rfl⟩, (List.append_nil es).symm⟩
    · refine ⟨[], .ok (), m, _, ⟨rfl, rfl, rfl⟩, ?_, rfl⟩
      refine Call.traces_bind.2 ⟨es₁, .error fault, m₁, _, ha, ?_, rfl⟩
      exact Call.traces_bind.2 ⟨_, (), _, [], traces_moveTo.2 ⟨rfl, rfl⟩, ⟨rfl, rfl, rfl⟩,
        (List.append_nil _).symm⟩

end Attempt

end ServiceWatch.Poller
