import ServiceWatch.Correlation.Execution
import ServiceWatch.Proofs.Correlation.OutageHistory

/-! Whatever its handles send and however its branches come up, a correlator behaves like its engine
under one sequence of operations, and publishes every finding of it once. -/
namespace ServiceWatch

namespace Outcome

@[simp] theorem published_publishing (found : List Finding) :
    (publishing found).published = found := by
  simp [publishing, published, List.filterMap_map]

@[simp] theorem published_answering (found : List Finding) (r : Reply) :
    (answering found r).published = found := by
  simp [answering, published, List.filterMap_map]

end Outcome

namespace Correlator

/-! ### Turns -/

theorem turn_tick_eq_some {c d : Correlator} {now : Nat} {outcome : Outcome} :
    c.turn .tick now = some (outcome, d) ↔ c.running = true ∧ c.flush now = (outcome, d) := by
  simp [turn, canTake, expects]

theorem turn_command_eq_some {c d : Correlator} {now : Nat} {outcome : Outcome} {command : Command}
    {queue : List Command} (h : c.queue = command :: queue) :
    c.turn .command now = some (outcome, d) ↔
      c.running = true ∧ { c with queue := queue }.handle now command = (outcome, d) := by
  simp [turn, canTake, h]

/-- The timer always ticks again, so the correlator never finds that nothing can come up any more. -/
theorem turn_closed (c : Correlator) (now : Nat) : c.turn .closed now = none := by
  simp [turn, canTake, expects]

theorem flush_spec (c : Correlator) (now : Nat) :
    c.engine.apply .sweep now = ((c.flush now).1.published, (c.flush now).2.engine) ∧
      (c.flush now).2.queue = c.queue ∧ (c.flush now).2.running = c.running := by
  simp [flush, Engine.apply]

/-- Whatever the command, its operation is applied, and what that hands out is published. -/
theorem handle_spec (c : Correlator) (now : Nat) (command : Command) :
    c.engine.apply command.operation now =
        ((c.handle now command).1.published, (c.handle now command).2.engine) ∧
      (c.handle now command).2.queue = c.queue := by
  cases command <;> simp [handle, flush, Engine.apply, Command.operation]

theorem running_handle (c : Correlator) (now : Nat) {command : Command} (h : command ≠ .shutdown) :
    (c.handle now command).2.running = c.running := by
  cases command <;> first | rfl | contradiction

/-- Who asks for findings gets those that were published meanwhile, and after they were. -/
theorem effects_handle (c : Correlator) (now : Nat) {command : Command}
    (h : command = .sweep ∨ ∃ signal, command = .correlate signal) :
    (c.handle now command).1.effects = (c.handle now command).1.published.map .publish ++
      [.answer (.findings (c.handle now command).1.published)] := by
  rcases h with rfl | ⟨signal, rfl⟩
  · simp only [handle, Outcome.published_answering]
    rfl
  · simp only [handle, Outcome.published_answering]
    rfl

/-! ### Steps -/

section Step

variable {c d : Correlator} {o : Occurrence}

/-- A step that is no turn leaves the engine alone. A turn applies one operation to it and publishes
what that hands out; it stops the correlator just if it carries out a shutdown. -/
theorem Step.idle_or_turn (h : c.Step o d) :
    o.taken = [] ∧ o.outcomes = [] ∧ o.operations = [] ∧ d.engine = c.engine ∧
        d.running = c.running ∧ d.queue = c.queue ++ o.arrivals ∨
      c.running = true ∧ o.arrivals = [] ∧ c.queue = o.taken ++ d.queue ∧
        ∃ operation now outcome, o.operations = [(operation, now)] ∧ o.outcomes = [outcome] ∧
          c.engine.apply operation now = (outcome.published, d.engine) ∧
          (d.running = true ∧ .shutdown ∉ o.taken ∨
            d.running = false ∧ o.taken = [.shutdown] ∧ operation = .sweep) := by
  cases h with
  | openHandle h => exact .inl ⟨rfl, rfl, rfl, rfl, rfl, (List.append_nil _).symm⟩
  | closeHandle h => exact .inl ⟨rfl, rfl, rfl, rfl, rfl, (List.append_nil _).symm⟩
  | send h command => exact .inl ⟨rfl, rfl, rfl, rfl, rfl, rfl⟩
  | refuse h hs command => exact .inl ⟨rfl, rfl, rfl, rfl, rfl, (List.append_nil _).symm⟩
  | @tick _ now outcome h =>
    obtain ⟨hr, hf⟩ := turn_tick_eq_some.1 h
    obtain ⟨he, hq, hk⟩ := c.flush_spec now
    rw [hf] at he hq hk
    exact .inr ⟨hr, rfl, hq.symm, .sweep, now, outcome, rfl, rfl, he,
      .inl ⟨hk.trans hr, by simp [Occurrence.taken]⟩⟩
  | @carryOut _ command queue now outcome hq h =>
    obtain ⟨hr, hf⟩ := (turn_command_eq_some hq).1 h
    obtain ⟨he, hq'⟩ := handle_spec { c with queue := queue } now command
    rw [hf] at he hq'
    refine .inr ⟨hr, rfl, ?_, command.operation, now, outcome, rfl, rfl, he, ?_⟩
    · rw [hq, hq']
      rfl
    · by_cases hc : command = .shutdown
      · subst hc
        refine .inr ⟨?_, rfl, rfl⟩
        rw [← (Prod.mk.inj hf).2]
      · have hk := running_handle { c with queue := queue } now hc
        rw [hf] at hk
        refine .inl ⟨hk.trans hr, ?_⟩
        simpa [Occurrence.taken] using Ne.symm hc
  | ending h =>
    rw [turn_closed] at h
    contradiction

/-- Commands leave the queue in the order in which they came. -/
theorem Step.queue (h : c.Step o d) : c.queue ++ o.arrivals = o.taken ++ d.queue := by
  rcases h.idle_or_turn with ⟨ht, -, -, -, -, hq⟩ | ⟨-, ha, hq, -⟩
  · rw [ht, hq, List.nil_append]
  · rw [ha, hq, List.append_nil]

/-- A step changes the engine by its operations, and publishes what these hand out. -/
theorem Step.engine (h : c.Step o d) :
    c.engine.run o.operations = (o.outcomes.map Outcome.published, d.engine) := by
  rcases h.idle_or_turn with ⟨-, ho, hp, he, -⟩ | ⟨-, -, -, _, _, _, hp, ho, he, -⟩
  · rw [hp, ho, he]
    rfl
  · rw [hp, ho]
    simp [Engine.run, he]

theorem Step.of_stopped (h : c.Step o d) (hs : c.running = false) :
    d.running = false ∧ d.engine = c.engine ∧ o.taken = [] ∧ o.outcomes = [] := by
  rcases h.idle_or_turn with ⟨ht, ho, -, he, hr, -⟩ | ⟨hr, -⟩
  · exact ⟨hr.trans hs, he, ht, ho⟩
  · rw [hs] at hr
    contradiction

/-- Only a shutdown stops a correlator, and leaves nothing to be handed out. -/
theorem Step.of_running (h : c.Step o d) (hr : c.running = true) :
    d.running = true ∧ .shutdown ∉ o.taken ∨
      d.running = false ∧ o.taken = [.shutdown] ∧ d.engine.pending = [] := by
  rcases h.idle_or_turn with ⟨ht, -, -, -, hk, -⟩ | ⟨-, -, -, _, _, _, -, -, he, hk⟩
  · exact .inl ⟨hk.trans hr, by simp [ht]⟩
  · rcases hk with hk | ⟨hk, ht, rfl⟩
    · exact .inl hk
    · refine .inr ⟨hk, ht, ?_⟩
      rw [← (Prod.mk.inj he).2]

end Step

/-! ### Runs -/

section Run

variable {c d : Correlator} {os : List Occurrence}

theorem Run.queue (h : c.Run os d) : c.queue ++ arrivals os = taken os ++ d.queue := by
  induction h with
  | refl c => exact List.append_nil c.queue
  | @step c d e o os h _ ih =>
    rw [arrivals_cons, taken_cons, ← List.append_assoc, h.queue, List.append_assoc, ih,
      List.append_assoc]

/-- The engine goes through the operations of all steps, and what these hand out is published. -/
theorem Run.engine (h : c.Run os d) :
    c.engine.run (operations os) = ((outcomes os).map Outcome.published, d.engine) := by
  induction h with
  | refl c => rfl
  | @step c d e o os h _ ih =>
    rw [operations_cons, outcomes_cons, Engine.run_append, h.engine, ih, List.map_append]

theorem Run.of_stopped (h : c.Run os d) (hs : c.running = false) :
    d.running = false ∧ d.engine = c.engine ∧ taken os = [] ∧ outcomes os = [] := by
  induction h with
  | refl c => exact ⟨hs, rfl, rfl, rfl⟩
  | @step c d e o os h _ ih =>
    obtain ⟨hd, hde, ht, ho⟩ := h.of_stopped hs
    obtain ⟨he, hee, hts, hos⟩ := ih hd
    refine ⟨he, hee.trans hde, ?_, ?_⟩
    · rw [taken_cons, ht, hts, List.append_nil]
    · rw [outcomes_cons, ho, hos, List.append_nil]

/-- A correlator runs as long as no shutdown was taken, and the shutdown that stops it is the last
command that it takes. -/
theorem Run.of_running (h : c.Run os d) (hr : c.running = true) :
    d.running = true ∧ .shutdown ∉ taken os ∨
      d.running = false ∧ d.engine.pending = [] ∧
        ∃ ahead, taken os = ahead ++ [.shutdown] ∧ .shutdown ∉ ahead := by
  induction h with
  | refl c => exact .inl ⟨hr, by simp [taken]⟩
  | @step c d e o os h rest ih =>
    rw [taken_cons]
    rcases h.of_running hr with ⟨hd, ho⟩ | ⟨hd, ho, hp⟩
    · rcases ih hd with ⟨he, hn⟩ | ⟨he, hp, ahead, ht, hn⟩
      · exact .inl ⟨he, by simp [ho, hn]⟩
      · refine .inr ⟨he, hp, o.taken ++ ahead, ?_, by simp [ho, hn]⟩
        rw [ht, List.append_assoc]
    · obtain ⟨he, hee, ht, -⟩ := rest.of_stopped hd
      refine .inr ⟨he, by rw [hee, hp], [], ?_, by simp⟩
      rw [ho, ht]
      rfl

theorem Run.split {before after : List Occurrence} (h : c.Run (before ++ after) d) :
    ∃ m, c.Run before m ∧ m.Run after d := by
  induction before generalizing c with
  | nil => exact ⟨c, .refl c, h⟩
  | cons o os ih =>
    cases h with
    | step hs rest =>
      obtain ⟨m, hb, ha⟩ := ih rest
      exact ⟨m, .step hs hb, ha⟩

end Run

/-- Who asks for findings gets those that the same step publishes, and after they were. -/
theorem Step.effects {c d : Correlator} {command : Command} {now : Nat} {outcome : Outcome}
    (h : c.Step (.carriedOut command now outcome) d)
    (hc : command = .sweep ∨ ∃ signal, command = .correlate signal) :
    outcome.effects =
      outcome.published.map .publish ++ [.answer (.findings outcome.published)] := by
  cases h with
  | @carryOut _ _ queue _ _ hq h =>
    obtain ⟨-, hf⟩ := (turn_command_eq_some hq).1 h
    have he := effects_handle { c with queue := queue } now hc
    rwa [hf] at he

/-- The next command can be carried out at any time. -/
theorem Step.exists_carriedOut {c : Correlator} (hr : c.running = true) {command : Command}
    {queue : List Command} (hq : c.queue = command :: queue) (now : Nat) :
    ∃ outcome d, c.Step (.carriedOut command now outcome) d :=
  ⟨_, _, .carryOut hq ((turn_command_eq_some hq).2 ⟨hr, rfl⟩)⟩

/-- What a correlator did with all that was sent to it. -/
structure Serialized (config : CorrelationConfig) (os : List Occurrence) (c : Correlator) : Prop where
  /-- Each command was carried out once, in the order in which they came, or still waits. -/
  inOrder : arrivals os = taken os ++ c.queue
  /-- Until a shutdown comes up, the next command can be carried out. -/
  goesOn : c.running = true → .shutdown ∉ taken os ∧ ∀ command queue, c.queue = command :: queue →
    ∀ now, ∃ outcome d, c.Step (.carriedOut command now outcome) d
  /-- All commands ahead of the shutdown that stopped it were carried out. -/
  stops : c.running = false → ∃ ahead, taken os = ahead ++ [.shutdown] ∧ .shutdown ∉ ahead
  /-- The engine went through the operations of all turns, and each turn published what its operation
  handed out. -/
  engine : (Engine.new config).run (operations os) = ((outcomes os).map Outcome.published, c.engine)
  /-- The subscribers got all findings that the engine handed out. -/
  publishes : stream os = ((Engine.new config).run (operations os)).1.flatten
  /-- Who asked for findings got those that were published meanwhile, and after they were. -/
  answers : ∀ before command now outcome after,
    os = before ++ .carriedOut command now outcome :: after →
      (command = .sweep ∨ ∃ signal, command = .correlate signal) →
        stream os = stream before ++ outcome.published ++ stream after ∧
          effects os = effects before ++ outcome.published.map .publish ++
            .answer (.findings outcome.published) :: effects after
  /-- Nothing comes of a command behind a shutdown. -/
  ignores : ∀ before after, os = before ++ after → .shutdown ∈ taken before →
    taken after = [] ∧ effects after = []
  /-- In the end no finding waits, and the last one about the outages of a service is right. -/
  settles : c.running = false → c.engine.pending = [] ∧ ∀ service,
    (Engine.outageKinds (stream os) service).getLast? = some .wideSpreadOutage ↔
      c.engine.memory.hasOutage service = true

/-- Whatever its handles send, and whenever and in whatever order its branches come up, a correlator
serializes what it is asked for and loses nothing. -/
theorem serialized_of_run (config : CorrelationConfig) {os : List Occurrence} {c : Correlator}
    (h : (new config).Run os c) : Serialized config os c := by
  have he : (Engine.new config).run (operations os) =
      ((outcomes os).map Outcome.published, c.engine) := h.engine
  have hstream : stream os = ((Engine.new config).run (operations os)).1.flatten := by
    rw [he, stream, List.flatMap_def]
  refine ⟨h.queue, fun hr => ⟨?_, fun _ _ hq => Step.exists_carriedOut hr hq⟩, fun hs => ?_, he,
    hstream, ?_, ?_, fun hs => ?_⟩
  · rcases h.of_running rfl with ⟨-, hn⟩ | ⟨hs, -⟩
    · exact hn
    · rw [hr] at hs
      contradiction
  · rcases h.of_running rfl with ⟨hr, -⟩ | ⟨-, -, ha⟩
    · rw [hs] at hr
      contradiction
    · exact ha
  · rintro before command now outcome after rfl hc
    obtain ⟨m, -, hm⟩ := h.split
    have hef : outcome.effects =
        outcome.published.map .publish ++ [.answer (.findings outcome.published)] := by
      cases hm with
      | step hs _ => exact hs.effects hc
    constructor
    · simp [stream, outcomes, Occurrence.outcomes]
    · simp [effects, outcomes, Occurrence.outcomes, hef]
  · rintro before after rfl hb
    obtain ⟨m, hm, hrest⟩ := h.split
    rcases hm.of_running rfl with ⟨-, hn⟩ | ⟨hs, -⟩
    · contradiction
    · obtain ⟨-, -, ht, ho⟩ := hrest.of_stopped hs
      exact ⟨ht, by rw [effects, ho, List.flatMap_nil]⟩
  · rcases h.of_running rfl with ⟨hr, -⟩ | ⟨-, hp, -⟩
    · rw [hs] at hr
      contradiction
    · refine ⟨hp, fun service => ?_⟩
      have ht := ((Engine.tells_run config (operations os)).1 service).2
      rwa [he, hp, List.append_nil, ← List.flatMap_def] at ht

theorem serialized_of_run_sample :
    let config : CorrelationConfig := { wideSpreadThreshold := 1 }
    ∃ os c, (new config).Run os c ∧ Serialized config os c ∧ c.running = false ∧
      (stream os).map Finding.kind = [.wideSpreadOutage, .wideSpreadOutageResolved] ∧
      (taken os).length = 3 ∧ c.queue.length = 1 := by
  intro config
  have h : (new config).Run _ _ :=
    .step (.send (by decide) (.correlate (.sample .lost 7))) <|
    .step (.send (by decide) (.submit (.sample .regained 7))) <|
    .step (@Step.tick _ _ 0 _ rfl) <|
    .step (@Step.carryOut _ _ _ _ 5 _ rfl rfl) <|
    .step (.send (by decide) .shutdown) <|
    .step (.send (by decide) .sweep) <|
    .step (@Step.carryOut _ _ _ _ 6 _ rfl rfl) <|
    .step (@Step.carryOut _ _ _ _ 6 _ rfl rfl) <|
    .refl _
  exact ⟨_, _, h, serialized_of_run config h, by decide, by decide, by decide, by decide⟩

end Correlator

end ServiceWatch
