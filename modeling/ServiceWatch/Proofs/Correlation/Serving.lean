import ServiceWatch.Correlation.Schedule
import ServiceWatch.Proofs.Correlation.Serialization

/-! A correlator on a clock carries out each command as it is sent, between the ticks of its timer. -/
namespace ServiceWatch

namespace Correlator

theorem Run.append {c d e : Correlator} {os ps : List Occurrence} (h : c.Run os d) (h' : d.Run ps e) :
    c.Run (os ++ ps) e := by
  induction h with
  | refl c => exact h'
  | step hs _ ih => exact .step hs (ih h')

theorem handles_handle (c : Correlator) (now : Nat) (command : Command) :
    (c.handle now command).2.handles = c.handles := by
  cases command <;> rfl

end Correlator

namespace Schedule

open Correlator

/-- The correlator runs with an empty queue, and a handle can send to it. -/
structure Idle (s : Schedule) : Prop where
  running : s.correlator.running = true
  queue : s.correlator.queue = []
  handles : 0 < s.correlator.handles

/-- On the way from one schedule to another the correlator is sent commands, carries them out, and
publishes what comes of it. -/
def Serves (s : Schedule) (commands : List Command) (t : Schedule) : Prop :=
  ∃ os, s.correlator.Run os t.correlator ∧ arrivals os = commands ∧ taken os = commands ∧
    t.published = s.published ++ stream os

section

variable {s t u : Schedule} {commands more : List Command}

theorem idle_new (config : CorrelationConfig) : (Schedule.new config).Idle :=
  ⟨rfl, rfl, Nat.one_pos⟩

/-- The time and the timer are of no account. -/
theorem Serves.of_eq (hc : t.correlator = s.correlator) (hp : t.published = s.published) :
    s.Serves [] t :=
  ⟨[], hc ▸ .refl _, rfl, rfl, by rw [hp, stream]; exact (List.append_nil _).symm⟩

theorem Serves.trans (h : s.Serves commands t) (h' : t.Serves more u) :
    s.Serves (commands ++ more) u := by
  obtain ⟨os, hrun, ha, ht, hp⟩ := h
  obtain ⟨ps, hrun', ha', ht', hp'⟩ := h'
  refine ⟨os ++ ps, hrun.append hrun', ?_, ?_, ?_⟩
  · rw [← ha, ← ha', arrivals, arrivals, arrivals, List.flatMap_append]
  · rw [← ht, ← ht', taken, taken, taken, List.flatMap_append]
  · rw [hp', hp, stream, stream, stream, outcomes, outcomes, outcomes, List.flatMap_append,
      List.flatMap_append, List.append_assoc]

/-! ### Ticks -/

theorem tick_spec (h : s.Idle) : s.Serves [] s.tick ∧ s.tick.Idle := by
  obtain ⟨outcome, d, hflush⟩ : ∃ outcome d, s.correlator.flush s.now = (outcome, d) := ⟨_, _, rfl⟩
  have hturn : s.correlator.turn .tick s.now = some (outcome, d) :=
    turn_tick_eq_some.2 ⟨h.running, hflush⟩
  have htick : s.tick = { s with
      correlator := d, ticker := s.ticker.next s.now
      published := s.published ++ outcome.published } := by
    simp only [tick, take, hturn, Option.map_some]
  have hd : d = { s.correlator with engine := d.engine } := by
    rw [← (Prod.mk.inj hflush).2]
  rw [htick]
  refine ⟨⟨[.ticked s.now outcome], .step (.tick hturn) (.refl d), rfl, rfl, ?_⟩, ?_⟩
  · simp [stream, outcomes, Occurrence.outcomes]
  · rw [hd]
    exact ⟨h.running, h.queue, h.handles⟩

theorem settle_spec (h : s.Idle) (fuel : Nat) : s.Serves [] (s.settle fuel) ∧ (s.settle fuel).Idle := by
  induction fuel generalizing s with
  | zero => exact ⟨.of_eq rfl rfl, h⟩
  | succ fuel ih =>
    rw [settle]
    split
    · obtain ⟨hserves, hidle⟩ := tick_spec h
      obtain ⟨hrest, hend⟩ := ih hidle
      exact ⟨hserves.trans hrest, hend⟩
    · exact ⟨.of_eq rfl rfl, h⟩

theorem catchUp_spec (h : s.Idle) : s.Serves [] s.catchUp ∧ s.catchUp.Idle := settle_spec h _

theorem passUntil_spec (h : s.Idle) (stop fuel : Nat) :
    s.Serves [] (s.passUntil stop fuel) ∧ (s.passUntil stop fuel).Idle := by
  induction fuel generalizing s with
  | zero => exact ⟨.of_eq rfl rfl, h.running, h.queue, h.handles⟩
  | succ fuel ih =>
    rw [passUntil]
    split
    · have hmoved : ({ s with now := max s.now s.ticker.due } : Schedule).Idle :=
        ⟨h.running, h.queue, h.handles⟩
      obtain ⟨hserves, hidle⟩ := catchUp_spec hmoved
      obtain ⟨hrest, hend⟩ := ih hidle
      have hstart : s.Serves [] { s with now := max s.now s.ticker.due } := .of_eq rfl rfl
      exact ⟨hstart.trans (hserves.trans hrest), hend⟩
    · exact ⟨.of_eq rfl rfl, h.running, h.queue, h.handles⟩

theorem pass_spec (h : s.Idle) (ms : Nat) : s.Serves [] (s.pass ms) ∧ (s.pass ms).Idle :=
  passUntil_spec h _ _

/-! ### Commands -/

/-- A command is carried out as soon as it is sent, behind the ticks that are due. Only a shutdown
stops the correlator, with nothing left to be published. -/
theorem call_spec (h : s.Idle) (command : Command) :
    ∃ reply t, s.call command = some (reply, t) ∧ s.Serves [command] t ∧
      (command ≠ .shutdown → t.Idle) ∧
      (command = .shutdown → t.correlator.running = false ∧ t.correlator.engine.pending = []) := by
  obtain ⟨hserves, hidle⟩ := catchUp_spec h
  rw [call]
  generalize s.catchUp = u at hserves hidle
  have hqueue : (u.correlator.send command).queue = command :: [] := by
    rw [send, hidle.queue]
    rfl
  have hrunning : (u.correlator.send command).running = true := hidle.running
  obtain ⟨outcome, d, hhandle⟩ :
      ∃ outcome d, { u.correlator.send command with queue := [] }.handle u.now command = (outcome, d) :=
    ⟨_, _, rfl⟩
  have hturn : (u.correlator.send command).turn .command u.now = some (outcome, d) :=
    (turn_command_eq_some hqueue).2 ⟨hrunning, hhandle⟩
  have hstep : (u.correlator.send command).Step (.carriedOut command u.now outcome) d :=
    .carryOut hqueue hturn
  refine ⟨outcome.reply, { u with correlator := d, published := u.published ++ outcome.published },
    ?_, ?_, fun hne => ?_, fun hshutdown => ?_⟩
  · simp only [hidle.running, if_true, take, hturn, Option.map_some]
  · refine hserves.trans ⟨[.sent command, .carriedOut command u.now outcome],
      .step (.send hidle.handles command) (.step hstep (.refl d)), rfl, rfl, ?_⟩
    simp [stream, outcomes, Occurrence.outcomes]
  · have hkept := running_handle { u.correlator.send command with queue := [] } u.now hne
    have hleft := (handle_spec { u.correlator.send command with queue := [] } u.now command).2
    have hhandles := handles_handle { u.correlator.send command with queue := [] } u.now command
    rw [hhandle] at hkept hleft hhandles
    exact ⟨hkept.trans hidle.running, hleft, hhandles ▸ hidle.handles⟩
  · subst hshutdown
    rcases hstep.of_running hrunning with ⟨-, hnot⟩ | ⟨hstopped, -, hpending⟩
    · exact absurd List.mem_cons_self hnot
    · exact ⟨hstopped, hpending⟩

end

end Schedule

end ServiceWatch
