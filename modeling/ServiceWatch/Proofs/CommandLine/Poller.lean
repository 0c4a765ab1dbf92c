import ServiceWatch.Proofs.CommandLine.Recording
import ServiceWatch.Proofs.Poller.Faults
import ServiceWatch.Proofs.Poller.Restart
import ServiceWatch.Proofs.Time.ClockOffset

/-!
What a coordinator comes to shows in what the poller prints and in its exit code, as long as the clock
can be read. Where the backend's time leaves the calendar while a service is checked, the program breaks
off, and the report is lost.
-/
namespace ServiceWatch.CommandLine.PollerProgram

open ServiceWatch.Files (run_bind_of_run)
open ServiceWatch.Poller

/-! ### Related collaborators -/

section Related

variable {m n : Type → Type} [Monad m] [Monad n]

/-- Related steps make related endings. -/
theorem rel_coordinate [MonadStateOf Work m] [MonadStateOf Work n] {s : Simulation m n}
    {h : Call.Handler m} {k : Call.Handler n} (hs : Call.Handler.Related s h k)
    (hwork : s.Rel (getThe Work) (getThe Work)) (setup : Setup) :
    s.Rel (coordinate setup h) (coordinate setup k) := by
  unfold coordinate
  refine s.bind (hs.run _) fun _ => s.bind (hs.run _) fun r => ?_
  cases r with
  | error fault => exact s.pure _
  | ok u =>
    refine s.bind hwork fun work => ?_
    split
    · cases setup.config.location with
      | none => exact s.pure _
      | some location =>
        refine s.bind (hs.run _) fun r => ?_
        cases r with
        | error fault => exact s.pure _
        | ok u => exact s.bind hwork fun work => s.pure _
    · exact s.bind hwork fun work => s.pure _

/-- With notes or without them, the coordinator does the same. -/
theorem map_fst_coordinate_noting [LawfulMonad n] [MonadStateOf Work n] (setup : Setup)
    (h : Call.Handler n) :
    Prod.fst <$> (coordinate setup h.noting).run [] = coordinate setup h := by
  refine @rel_coordinate _ _ _ _ _ _ (forgetting n) _ _ h.forgets_noting (fun es => ?_) setup []
  change Prod.fst <$> (getThe Work >>= fun work => pure (work, es)) = getThe Work
  simp

end Related

/-! ### What the program tells -/

/-- How a program ends whose coordinator has shown some events and stopped in some state. -/
structure Tells (setup : Setup) (es : List Event) (s : State) (ending : Ending) : Prop where
  /-- A coordinator that started to run has handed over one report, and this one is printed. -/
  printed : (∃ e ∈ es, e.isStart = true) → ∃ report, es.filterMap report? = [report] ∧
    ending.output = report.toJson.compact ++ "\n"
  /-- One that did not has handed over none, and nothing is printed. -/
  silent : (∀ e ∈ es, e.isStart = false) → es.filterMap report? = [] ∧ ending.output = ""
  succeeds_iff : ending.exit = 0 ↔ s = .running
  /-- No failure is lost. -/
  failed : ∀ fault, Failed es fault → s = .fatal fault ∧
    ∃ output, ending = { stop fault with output }
  /-- Without an identity there has to be a location. -/
  unplaced : .asked .loadIdentity (.ok none) ∈ es → setup.config.location = none →
    ending = .error "poller is not registered and no location is configured"

section Tells

variable {setup : Setup} {c : Coordinator} {es : List Event} {s : State} {work : Work}

/-- As many reports are handed over as the coordinator starts to run, which is once at most. -/
theorem length_reports (h : Course .initial es s) :
    (es.filterMap report?).length = es.countP Event.isStart ∧ es.countP Event.isStart ≤ 1 := by
  have hhandOver : (fun e => (report? e).isSome) = Event.isHandOver := by
    funext e
    cases e with
    | fired change => cases change <;> rfl
    | _ => rfl
  rw [List.length_filterMap_eq_countP, hhandOver, h.handOvers]
  exact ⟨rfl, Nat.le_trans (Nat.le_add_right ..) h.starts⟩

theorem reports_of_start (h : Course .initial es s) (ha : Accounted c es s)
    (hstart : ∃ e ∈ es, e.isStart = true) : ∃ report, es.filterMap report? = [report] := by
  obtain ⟨report, hreport⟩ := ha.reported hstart
  have hmem : report ∈ es.filterMap report? := List.mem_filterMap.2 ⟨_, hreport, rfl⟩
  obtain ⟨hlength, hle⟩ := length_reports h
  rw [← hlength] at hle
  match hreports : es.filterMap report?, hmem, hle with
  | [x], _, _ => exact ⟨x, rfl⟩

theorem reports_of_no_start (h : Course .initial es s) (hn : ∀ e ∈ es, e.isStart = false) :
    es.filterMap report? = [] := by
  have hcount : es.countP Event.isStart = 0 := List.countP_eq_zero.2 fun e he => by simp [hn e he]
  rw [← List.length_eq_zero_iff, (length_reports h).1, hcount]

/-- An error that a call returned ends the program with its message. -/
theorem tells_stop (h : Course .initial es s) (ha : Accounted c es s) {fault : Fault}
    (hf : c.Fails es fault) (hn : ∀ e ∈ es, e.isStart = false)
    (hl : .asked .loadIdentity (.ok none) ∉ es) : Tells setup es s (stop fault) where
  printed := by
    rintro ⟨e, he, hs⟩
    rw [hn e he] at hs
    contradiction
  silent _ := ⟨reports_of_no_start h hn, rfl⟩
  succeeds_iff := by
    rw [ha.state_eq hf]
    exact ⟨nofun, nofun⟩
  failed fault' hf' := by
    have hs := ha.state_eq (.inr hf')
    cases (ha.state_eq hf).symm.trans hs
    exact ⟨hs, "", rfl⟩
  unplaced hm _ := absurd hm hl

/-- A coordinator that waits for its registration without a location ends the program. -/
theorem tells_unplaced (h : Course .initial es .registering) (ha : Accounted c es .registering) :
    Tells setup es .registering
      (.error "poller is not registered and no location is configured") where
  printed := by
    have hcount : es.countP Event.isStart = 0 := by
      have hstarts := h.starts
      have hc : State.registering.chances = 1 := rfl
      have hi : State.initial.chances = 1 := rfl
      omega
    rintro ⟨e, he, hs⟩
    exact absurd hs (List.countP_eq_zero.1 hcount e he)
  silent hn := ⟨reports_of_no_start h hn, rfl⟩
  succeeds_iff := ⟨nofun, nofun⟩
  failed fault hf := nomatch ha.state_eq (.inr hf)
  unplaced _ _ := rfl

/-- A coordinator that has come to its end decides on the exit code. -/
theorem tells_conclude (h : Course .initial es work.memory.state)
    (ha : Accounted c es work.memory.state) (hs : work.memory.state.isWaiting = false)
    (hw : Heard es work)
    (hl : .asked .loadIdentity (.ok none) ∈ es → setup.config.location ≠ none) :
    Tells setup es work.memory.state (conclude work) where
  printed hstart := by
    obtain ⟨report, hreports⟩ := reports_of_start h ha hstart
    refine ⟨report, hreports, ?_⟩
    have hreport : work.report = some report := by rw [hw.report, hreports]; rfl
    unfold conclude
    rw [hreport]
    cases work.memory.state.fault? <;> rfl
  silent hn := by
    have hreports := reports_of_no_start h hn
    have hreport : work.report = none := by rw [hw.report, hreports]; rfl
    refine ⟨hreports, ?_⟩
    unfold conclude
    rw [hreport]
    cases work.memory.state.fault? <;> rfl
  succeeds_iff := by
    unfold conclude
    cases hstate : work.memory.state with
    | running => exact ⟨fun _ => rfl, fun _ => rfl⟩
    | fatal fault => exact ⟨nofun, nofun⟩
    | initial => rw [hstate] at hs; contradiction
    | registering => rw [hstate] at hs; contradiction
  failed fault hf := by
    have hstate := ha.state_eq (.inr hf)
    refine ⟨hstate, ?_⟩
    unfold conclude
    rw [hstate]
    exact ⟨_, rfl⟩
  unplaced hm hnone := absurd hnone (hl hm)

end Tells

/-! ### The coordinator's work -/

variable {σ : Type}

/-- What the coordinator's work comes to: an ending that tells all, or a question that fails. -/
def Ends (ask : (r : Request) → Assistance (StateM σ) r.Answer) (setup : Setup) (p : Tools × σ) :
    Except ClockFault ((Ending × Work) × Tools) × σ × List Event → Prop
  | (.ok ((ending, work), _), _, es) => Tells setup es work.memory.state ending
  | (.error fault, w', es) => ∃ r q, Steps ask es p q ∧
      ((ask r).run q.1).run.run q.2 = (.error fault, w') ∧ ∀ service, r = .poll service → Checking es

section Ends

variable {ask : (r : Request) → Assistance (StateM σ) r.Answer} {setup : Setup} {p q : Tools × σ}
  {c : Coordinator} {work : Work} {es : List Event}

variable (ask) in
/-- With the guard or without it, a call that runs alone comes to the same. -/
theorem comes_of_duty {invocation : Invocation} {t : Call (Except Fault Unit)}
    (ht : c.duty? invocation = some t) (hw : Heard es work) (p : Tools × σ) :
    Comes ask t es work p (outcome (t.guarded.run (recorder ask)) work p.1 p.2 es) := by
  rw [Call.run_guarded]
  exact comes_of_modest (Coordinator.modest_duty ht) hw p

/-- A coordinator that waits for its registration is registered, and comes to its end. -/
theorem ends_register {location : String} (hlocation : setup.config.location = some location)
    (hc : c.requireAll = .ok ()) (hs : work.memory.state = .registering)
    (hstage : Stage c .initial es .registering) (haccounted : Accounted c es .registering)
    (hsteps : Steps ask es p q) (hw : Heard es work)
    {next : Except Fault Unit → StateT Work (Recorded σ) Ending}
    (hnext : next (.ok ()) = do return conclude (← getThe Work)) :
    Ends ask setup p
      (outcome ((c.register location).run (recorder ask) >>= next) work q.1 q.2 es) := by
  have hcomes := comes_of_duty ask (show c.duty? (.register location) = some _ from rfl) hw q
  rcases hout : outcome ((c.register location).run (recorder ask)) work q.1 q.2 es with
    ⟨fault | ⟨⟨r, work'⟩, tools⟩, w', es'⟩
  · obtain ⟨rest, r, q', rfl, hasks, hrest, hfails⟩ := hout ▸ hcomes
    rw [outcome_bind_error hout]
    refine ⟨r, q', hsteps.append hrest, hfails, ?_⟩
    rintro service rfl
    exact checking_of_register hs hstage.isAhead hasks
  · obtain ⟨rest, rfl, htraces, -, hheard⟩ := hout ▸ hcomes
    obtain ⟨hstage', haccounted', rfl⟩ := register_cases hs htraces
    rw [outcome_bind hout, hnext, outcome_work]
    refine tells_conclude (hstage.course.append hstage'.course)
      (haccounted.append hc rfl haccounted') ?_ hheard fun _ => ?_
    · exact hstage'.waits_or.resolve_left fun hw => nomatch hw.1
    · rw [hlocation]
      exact nofun

theorem ends_coordinate (ask : (r : Request) → Assistance (StateM σ) r.Answer) (setup : Setup)
    (p : Tools × σ) : Ends ask setup p (outcome (coordinate setup (recorder ask)) {} p.1 p.2 []) := by
  let c : Coordinator := { metadata := setup.config.metadata }
  have hc : c.requireAll = .ok () := rfl
  have hadded : ∃ l work, outcome (c.addListener.run (recorder ask)) {} p.1 p.2 [] =
      (.ok ((l, work), p.1), p.2, []) ∧ Heard [] work ∧ work.memory.state = .initial :=
    ⟨_, _, rfl, ⟨⟨_, rfl⟩, rfl⟩, rfl⟩
  obtain ⟨l, work, hadded, hheard, hinitial⟩ := hadded
  have hcomes := comes_of_duty ask (show c.duty? .startUp = some _ from rfl) hheard p
  unfold coordinate
  rw [outcome_bind hadded]
  rcases hout : outcome (c.startUp.run (recorder ask)) work p.1 p.2 [] with
    ⟨fault | ⟨⟨r, work'⟩, tools⟩, w', es⟩
  · obtain ⟨rest, r, q, rfl, hasks, hrest, hfails⟩ := hout ▸ hcomes
    rw [outcome_bind_error hout]
    refine ⟨r, q, hrest, hfails, ?_⟩
    rintro service rfl
    exact checking_of_startUp hinitial hasks
  · obtain ⟨rest, rfl, htraces, hsteps, hheard⟩ := hout ▸ hcomes
    obtain ⟨hstage, haccounted, hr⟩ := startUp_cases hc hinitial htraces
    have hidentity := waits_of_no_identity hinitial htraces
    rw [outcome_bind hout]
    -- A call returns an error only from here; that of a registration stays in the state.
    rcases hr with ⟨fault, rfl, hf, hn⟩ | rfl
    · exact tells_stop hstage.course haccounted hf hn fun hl => nomatch (hidentity hl).1
    · dsimp only
      rw [outcome_work]
      by_cases hs : work'.memory.state = .registering
      · rw [if_pos hs]
        rw [hs] at hstage haccounted
        cases hlocation : setup.config.location with
        | none =>
          change Tells setup _ work'.memory.state _
          rw [hs]
          exact tells_unplaced hstage.course haccounted
        | some location => exact ends_register hlocation hc hs hstage haccounted hsteps hheard rfl
      · rw [if_neg hs]
        have hwaits := hstage.waits_or.resolve_left fun hw => hs hw.2
        exact tells_conclude hstage.course haccounted hwaits hheard fun hl =>
          absurd (hidentity hl).2 hs

end Ends

/-! ### The clock -/

/-- The local clock showed `since` when the backend's showed `master`, and with the same distance of the
two, when it shows `now` the backend's time is in no year of the calendar. -/
structure LeavesCalendar (master since now : Timestamp) : Prop where
  unadjusted : (ClockOffset.align master since).adjust now = none
  beyond : master.isLeap = false → since.isLeap = false → now.isLeap = false →
    ¬Timestamp.Representable (now.nanos + (master.nanos - since.nanos).tdiv 1000000 * 1000000)

theorem leavesCalendar_of_adjust {master since now : Timestamp}
    (h : (ClockOffset.align master since).adjust now = none) : LeavesCalendar master since now where
  unadjusted := h
  beyond hmaster hsince hnow hrepresentable := by
    rw [← ClockOffset.align_ms hmaster hsince] at hrepresentable
    obtain ⟨time, htime, -⟩ := Timestamp.exists_addMillis_of_representable hnow hrepresentable
    exact nomatch h.symm.trans htime

/-- The program breaks off: its coordinator runs and has not handed over a report, and the clock that it
set by the backend's is read when the backend's time has left the calendar. -/
structure BreaksOff {σ : Type} (system : System (StateM σ)) (es : List Event) (w' : σ) : Prop where
  started : ∃ e ∈ es, e.isStart = true
  unreported : es.filterMap report? = []
  clock : ∃ id configuration w w₁ now,
    .asked (.fetchConfiguration id) (.ok configuration) ∈ es ∧
      system.wallClock.run w₁ = (now, w') ∧
      LeavesCalendar configuration.serverTime (system.wallClock.run w).1 now

section Clock

variable {σ : Type} {system : System (StateM σ)} {setup : Setup} {offset : ClockOffset}
  {es : List Event} {p q : Tools × σ}

variable (system offset) in
/-- A computation alone that leaves the offset as it is: it fails only where the local clock shows a time
to which the offset cannot be added. -/
def steady : Simulation (Assistance (StateM σ)) (Assistance (StateM σ)) where
  Rel x _ := ∀ tools w, tools.offset = offset → match (x.run tools).run.run w with
    | (.ok (_, tools'), _) => tools'.offset = offset
    | (.error _, w') => ∃ w₁ now, system.wallClock.run w₁ = (now, w') ∧ offset.adjust now = none
  pure a tools w h := h
  bind {_ _ x _ f _} hx hf tools w h := by
    specialize hx tools w h
    rw [StateT.run_bind, ExceptT.run_bind]
    rcases hrun : (x.run tools).run.run w with ⟨_ | ⟨a, tools'⟩, w'⟩
    · rw [run_bind_of_run hrun]
      rw [hrun] at hx
      exact hx
    · rw [run_bind_of_run hrun]
      rw [hrun] at hx
      exact hf a tools' w' hx

theorem steady_outside {α : Type} (step : StateM σ α) :
    (steady system offset).Rel (outside step) (outside step) := fun _ _ h => h

theorem run_now (tools : Tools) (w : σ) : ((now system).run tools).run.run w =
    match tools.offset.adjust (system.wallClock.run w).1 with
    | some time => (.ok (time, tools), (system.wallClock.run w).2)
    | none => (.error {}, (system.wallClock.run w).2) := by
  change ((match tools.offset.adjust (system.wallClock.run w).1 with
    | some time => pure time
    | none => throw {} : Assistance (StateM σ) Timestamp).run tools).run.run
      (system.wallClock.run w).2 = _
  cases tools.offset.adjust (system.wallClock.run w).1 <;> rfl

theorem steady_now : (steady system offset).Rel (now system) (now system) := by
  intro tools w h
  rw [run_now]
  cases hadjust : tools.offset.adjust (system.wallClock.run w).1 with
  | some time => exact h
  | none => exact ⟨w, _, rfl, h ▸ hadjust⟩

theorem steady_poll (polling : Http.Polling) (service : PolledService) :
    (steady system offset).Rel (polling.poll (surroundings system setup) service)
      (polling.poll (surroundings system setup) service) := by
  let s := steady system offset
  unfold Http.Polling.poll
  cases polling.checks.get? service.id with
  | none =>
    dsimp only
    split
    · exact s.bind steady_now fun time => s.pure _
    · exact s.pure _
  | some check =>
    refine s.bind ?_ fun status => s.pure _
    unfold Http.Polling.examine
    exact s.bind (steady_outside _) fun start => s.bind (steady_outside _) fun answer =>
      s.bind (steady_outside _) fun stop => s.bind steady_now fun time => s.pure _

theorem run_answer_prepare (service : PolledService) (tools : Tools) (w : σ) :
    ((answer system setup (.prepare service)).run tools).run.run w =
      match tools.polling.prepare service with
      | .error failure => (.ok (.error failure, tools), w)
      | .ok polling => (.ok (.ok (), { tools with polling }), w) := by
  change ((match tools.polling.prepare service with
    | .error failure => _
    | .ok polling => _ : Assistance (StateM σ) _).run tools).run.run w = _
  cases tools.polling.prepare service <;> rfl

variable (system setup offset) in
/-- Only an alignment moves the offset. -/
theorem steady_answer (r : Request) (hr : ∀ time, r ≠ .alignClock time) :
    (steady system offset).Rel (answer system setup r) (answer system setup r) := by
  cases r with
  | installLocators locators => exact fun tools w h => h
  | alignClock time => exact absurd rfl (hr time)
  | prepare service =>
    intro tools w h
    rw [run_answer_prepare]
    cases tools.polling.prepare service <;> exact h
  | poll service =>
    exact (steady system offset).bind (fun tools w h => h) fun tools =>
      (steady system offset).bind (steady_poll _ service) fun status =>
        (steady system offset).pure _
  | _ => exact steady_outside _

/-- Only where a service is checked the clock is read. -/
theorem poll_of_error {r : Request} {tools : Tools} {w w' : σ} {fault : ClockFault}
    (h : ((answer system setup r).run tools).run.run w = (.error fault, w')) :
    ∃ service, r = .poll service := by
  cases r with
  | poll service => exact ⟨service, rfl⟩
  | prepare service =>
    rw [run_answer_prepare] at h
    cases hprepare : tools.polling.prepare service <;> rw [hprepare] at h <;> cases h
  | _ => cases h

/-- The clock goes by one of the alignments, unless there are none. -/
theorem offset_of_steps (h : Steps (answer system setup) es p q) :
    (∀ time, .asked (.alignClock time) () ∉ es) ∧ q.1.offset = p.1.offset ∨
      ∃ time w, .asked (.alignClock time) () ∈ es ∧
        q.1.offset = .align time (system.wallClock.run w).1 := by
  induction es generalizing p with
  | nil => exact .inl ⟨by simp, congrArg (·.1.offset) h⟩
  | cons e es ih =>
    have later {o : Tools × σ} (h : Steps (answer system setup) es o q)
        (ho : o.1.offset = p.1.offset) (he : ∀ time, e ≠ .asked (.alignClock time) ()) :
        (∀ time, .asked (.alignClock time) () ∉ e :: es) ∧ q.1.offset = p.1.offset ∨
          ∃ time w, .asked (.alignClock time) () ∈ e :: es ∧
            q.1.offset = .align time (system.wallClock.run w).1 := by
      rcases ih h with ⟨hnone, hq⟩ | ⟨time, w, hmem, hq⟩
      · refine .inl ⟨fun time => ?_, hq.trans ho⟩
        rintro (_ | ⟨_, hmem⟩)
        · exact he time rfl
        · exact hnone time hmem
      · exact .inr ⟨time, w, List.mem_cons_of_mem e hmem, hq⟩
    cases e with
    | asked r x =>
      obtain ⟨⟨tools, w₁⟩, hanswer, hrest⟩ := h
      by_cases hr : ∃ time, r = .alignClock time
      · obtain ⟨time, rfl⟩ := hr
        rcases ih hrest with ⟨-, hq⟩ | ⟨later, w, hmem, hq⟩
        · cases hanswer
          exact .inr ⟨time, p.2, List.mem_cons_self, hq⟩
        · exact .inr ⟨later, w, List.mem_cons_of_mem _ hmem, hq⟩
      · have hkept := steady_answer system setup _ r (fun time ht => hr ⟨time, ht⟩) p.1 p.2 rfl
        rw [hanswer] at hkept
        refine later hrest hkept fun time he => hr ⟨time, ?_⟩
        cases he
        rfl
    | fired change => exact later h rfl fun time he => by cases he
    | moved before after => exact later h rfl fun time he => by cases he

theorem reports_of_checking (h : Checking es) : es.filterMap report? = [] := by
  refine List.filterMap_eq_nil_iff.2 fun e he => ?_
  have hunreported := h.unreported e he
  cases e with
  | fired change => cases change <;> first | rfl | contradiction
  | _ => rfl

/-- A question that fails breaks the program off, which has a service checked then. -/
theorem breaksOff_of_error {r : Request} {w' : σ} {fault : ClockFault}
    (hsteps : Steps (answer system setup) es p q)
    (hfails : ((answer system setup r).run q.1).run.run q.2 = (.error fault, w'))
    (hchecking : ∀ service, r = .poll service → Checking es) : BreaksOff system es w' := by
  obtain ⟨service, rfl⟩ := poll_of_error hfails
  have hc := hchecking service rfl
  obtain ⟨id, configuration, hfetched, haligned, honly⟩ := hc.aligned
  have hread := steady_answer system setup _ (.poll service) (by simp) q.1 q.2 rfl
  rw [hfails] at hread
  obtain ⟨w₁, now, hnow, hadjust⟩ := hread
  rcases offset_of_steps hsteps with ⟨hnone, -⟩ | ⟨time, w, hmem, hoffset⟩
  · exact absurd haligned (hnone _)
  · rw [hoffset, honly time hmem] at hadjust
    exact ⟨hc.started, reports_of_checking hc, id, configuration, w, w₁, now, hfetched, hnow,
      leavesCalendar_of_adjust hadjust⟩

end Clock

/-! ### The program -/

/-- A program that could be set up ends with its coordinator, or where the clock fails. -/
theorem run_of_configured {σ : Type} {system : System (StateM σ)} {arguments : List String}
    {setup : Setup} {w₀ w : σ} (h : (configure system arguments).run w₀ = (.ok setup, w)) :
    (run system arguments).run w₀ =
      match outcome (coordinate setup (recorder (answer system setup))) {} {} w [] with
      | (.ok ((ending, _), _), w', _) => (ending, w')
      | (.error _, w', _) => (clockEnding, w') := by
  have hplain := rel_coordinate (unrecorded_recorder (answer system setup)) (fun _ _ _ _ => rfl)
    setup {} {} w []
  unfold run
  refine (run_bind_of_run h).trans ?_
  rcases hout : outcome (coordinate setup (recorder (answer system setup))) {} {} w [] with
    ⟨fault | ⟨⟨ending, work⟩, tools⟩, w', es⟩
  · rw [hout] at hplain
    exact run_bind_of_run hplain
  · rw [hout] at hplain
    exact run_bind_of_run hplain

/-- The program tells all about its coordinator, whoever answers it: the report that was handed over is
printed once, also when the pass broke off, nothing else is printed, and the program succeeds exactly
if the coordinator still runs. A program that could be set up ends like this, unless it breaks off where
the backend's time leaves the calendar; then its report is lost. -/
theorem ending_tells_all {σ : Type} (system : System (StateM σ)) (arguments : List String) :
    (∀ {τ : Type} (setup : Setup) (ask : (r : Request) → StateM τ r.Answer) (x : τ),
      let out := (((coordinate setup (handler ask).noting).run []).run {}).run x
      ((coordinate setup (handler ask)).run {}).run x = ((out.1.1.1, out.1.2), out.2) ∧
        Tells setup out.1.1.2 out.1.2.memory.state out.1.1.1) ∧
    ∀ setup w₀ w, (configure system arguments).run w₀ = (.ok setup, w) →
      match outcome (coordinate setup (recorder (answer system setup))) {} {} w [] with
      | (.ok ((ending, work), _), w', es) => (run system arguments).run w₀ = (ending, w') ∧
        Tells setup es work.memory.state ending
      | (.error _, w', es) => (run system arguments).run w₀ = (clockEnding, w') ∧
        BreaksOff system es w' := by
  constructor
  · intro τ setup ask x
    have hends := ends_coordinate (fun r => outside (ask r)) setup ({}, x)
    rw [rel_coordinate (noted_recorder ask) (fun _ _ _ _ => rfl) setup [] {} {} x] at hends
    refine ⟨?_, hends⟩
    rw [← map_fst_coordinate_noting, StateT.run_map, StateT.run_map]
    rfl
  · intro setup w₀ w hsetup
    have hends := ends_coordinate (answer system setup) setup ({}, w)
    rw [run_of_configured hsetup]
    rcases hout : outcome (coordinate setup (recorder (answer system setup))) {} {} w [] with
      ⟨fault | ⟨⟨ending, work⟩, tools⟩, w', es⟩
    · obtain ⟨r, q, hsteps, hfails, hchecking⟩ := hout ▸ hends
      exact ⟨rfl, breaksOff_of_error hsteps hfails hchecking⟩
    · rw [hout] at hends
      exact ⟨rfl, hends⟩

/-- A program that has nothing but its environment is set up with this. -/
def plain : Setup where
  config := { backendUrl := "http://localhost", settingsPath := some "settings.json" }
  settings := ⟨"settings.json"⟩

/-- There are no files, and nobody can be reached. -/
def secluded : System (StateM Unit) where
  files := {
    contains _ := return false
    read _ := return .error .notFound
    createDirectories _ := return .ok ()
    write _ _ := return .ok () }
  directory := ⟨"/"⟩
  environment := .ofList [("OUTPOST_BACKEND_URL", "http://localhost"),
    ("OUTPOST_SETTINGS_PATH", "settings.json")]
  account := none
  transport _ _ := return .error ⟨"connection refused", []⟩
  host := return ⟨none, none, "x86_64", .v4 127 0 0 1, none⟩
  wallClock := return (Timestamp.ofFields? 2024 5 1 0 0 0 0).get (by decide)
  ticks := return 0

/-- A coordinator is known and announced, and then nobody can be reached any more. -/
def deserted : (r : Request) → StateM Unit r.Answer
  | .loadIdentity => return .ok (some "7")
  | .storeIdentity _ | .announce _ _ | .prepare _ => return .ok ()
  | .registerAt _ | .fetchName _ => return .ok "7"
  | .hostDetails => return ⟨none, none, "x86_64", .v4 127 0 0 1, none⟩
  | .fetchLocators _ | .fetchConfiguration _ => return .error ⟨"connection refused", []⟩
  | .installLocators _ | .alignClock _ => return ()
  | .poll _ => return .ok none

/-- Where the locators cannot be fetched, the report of the broken pass is printed, and the program
fails; so it does, without a report, where there is neither an identity nor a location. -/
theorem ending_tells_all_sample :
    (∃ report : ScanReport, (((coordinate plain (handler deserted)).run {}).run ()).1.1 =
        { stop (.backend ⟨"connection refused", []⟩) with
          output := report.toJson.compact ++ "\n" }) ∧
      (configure secluded []).run () = (.ok plain, ()) ∧
      (run secluded []).run () =
        (.error "poller is not registered and no location is configured", ()) := by
  have hconfigured : (configure secluded []).run () = (.ok plain, ()) := by rfl
  have hes : ∃ host rest, ((((coordinate plain (handler deserted).noting).run []).run {}).run
      ()).1.1.2 = .asked .loadIdentity (.ok (some "7")) :: .asked .hostDetails host ::
        .asked (.announce "7" host) (.ok ()) :: .moved .initial .running ::
        .fired (.started false true) :: .fired (.registered false true) ::
        .fired (.percentageComplete .start) ::
        .asked (.fetchLocators .remoteMonitor) (.error ⟨"connection refused", []⟩) :: rest :=
    ⟨_, _, rfl⟩
  obtain ⟨host, rest, hes⟩ := hes
  obtain ⟨hall, hrun⟩ := ending_tells_all secluded []
  refine ⟨?_, hconfigured, (hrun plain () () hconfigured).1⟩
  obtain ⟨hout, htells⟩ := hall plain deserted ()
  rw [hes] at htells
  obtain ⟨report, -, hprinted⟩ := htells.printed ⟨.moved .initial .running, by simp, rfl⟩
  obtain ⟨-, output, hending⟩ :=
    htells.failed (.backend ⟨"connection refused", []⟩) (by simp [Event.fault?])
  refine ⟨report, ?_⟩
  rw [hout, ← hprinted, hending]

/-- The pages of a backend whose clock is at the end of the calendar. -/
def lastPages : List (String × String) :=
  [("http://localhost/monitors/7/starting", ""),
    ("http://localhost/locators?context=remote_monitor", "[]"),
    ("http://localhost/monitors/7/configuration",
      "\x7b\"services\":[\x7b\"service_id\":1,\"node_id\":1,\"address\":\"10.0.0.1\"," ++
        "\"service_name\":\"HTTP\"\x7d],\"server_time\":\"+262142-12-31T23:59:50Z\"\x7d")]

/-- The poller is known, and until the check of its only service has failed, twenty seconds pass. -/
def belated : System (StateM Nat) where
  files := {
    contains p := return p.text = "settings.json"
    read p := return if p.text ≠ "settings.json" then .error .notFound
      else .ok "\x7b\"monitoring_system_id\":\"7\"\x7d".toUTF8.toList
    createDirectories _ := return .ok ()
    write _ _ := return .ok () }
  directory := ⟨"/"⟩
  environment := .ofList [("OUTPOST_BACKEND_URL", "http://localhost"),
    ("OUTPOST_SETTINGS_PATH", "settings.json")]
  account := none
  transport _ r := return match lastPages.lookup r.url with
    | some page => .ok ⟨200, .ok page.toUTF8.toList⟩
    | none => .error ⟨"connection refused", []⟩
  host := return ⟨none, none, "x86_64", .v4 127 0 0 1, none⟩
  wallClock readings :=
    let start := (Timestamp.ofFields? 2024 5 1 0 0 0 0).get (by decide)
    let finish := (Timestamp.ofFields? 2024 5 1 0 0 20 0).get (by decide)
    (if readings = 0 then start else finish, readings + 1)
  ticks := return 0

/-- A program that breaks off prints nothing, although its coordinator runs. -/
theorem started_coordinator_unreported :
    (configure belated []).run 0 = (.ok plain, 0) ∧
      (∃ e ∈ (outcome (coordinate plain (recorder (answer belated plain))) {} {} 0 []).2.2,
        e.isStart = true) ∧
      (run belated []).run 0 = (clockEnding, 2) ∧ clockEnding.output = "" := by
  have hconfigured : (configure belated []).run 0 = (.ok plain, 0) := by rfl
  have hended : ((run belated []).run 0).1 = clockEnding ∧ ((run belated []).run 0).2 = 2 := by
    decide +kernel
  have hstarted : (outcome (coordinate plain (recorder (answer belated plain))) {} {} 0 []).2.2.any
      Event.isStart = true := by
    decide +kernel
  exact ⟨hconfigured, List.any_eq_true.1 hstarted, Prod.ext hended.1 hended.2, rfl⟩

end ServiceWatch.CommandLine.PollerProgram
