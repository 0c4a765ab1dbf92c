import ServiceWatch.CommandLine.PollerProgram
import ServiceWatch.Proofs.Files.Disk
import ServiceWatch.Proofs.Poller.Checking
import ServiceWatch.Proofs.Poller.Noting

/-!
The coordinator's work with a record of what can be seen of it. The record is kept beside the world, so
that it is still there when the clock fails and nothing else is.
-/
namespace ServiceWatch.CommandLine.PollerProgram

open ServiceWatch.Files (run_bind_of_run)
open ServiceWatch.Poller

variable {σ α β : Type}

/-- The work of those who answer, in a world with a record. -/
abbrev Recorded (σ : Type) := Assistance (StateM (σ × List Event))

/-- A step that leaves the record alone. -/
def beside (x : Assistance (StateM σ) α) : Recorded σ α := fun tools (w, es) =>
  let (result, w') := (x.run tools).run.run w
  (result, w', es)

def record (new : List Event) : Recorded σ Unit := fun tools (w, es) =>
  (.ok ((), tools), w, es ++ new)

/-- Does what the program does, and records what can be seen of it. -/
def recorder (ask : (r : Request) → Assistance (StateM σ) r.Answer) :
    Call.Handler (StateT Work (Recorded σ)) where
  ask r := do
    let x ← StateT.lift (beside (ask r))
    StateT.lift (record [.asked r x])
    return x
  tell _ change := do
    modify (listen change)
    StateT.lift (record [.fired change])
  access update := do
    let work ← get
    StateT.lift (record (work.memory.moves (update work.memory)))
    set { work with memory := update work.memory }
    return work.memory

/-- What comes of a computation, and what stands in the record behind it. -/
abbrev outcome (x : StateT Work (Recorded σ) α) (work : Work) (tools : Tools) (w : σ)
    (es : List Event) : Except ClockFault ((α × Work) × Tools) × σ × List Event :=
  ((x.run work).run tools).run.run (w, es)

section Equations

variable {ask : (r : Request) → Assistance (StateM σ) r.Answer} {work work' : Work}
  {tools tools' : Tools} {w w' : σ} {es es' : List Event} {a : α} {fault : ClockFault}

theorem outcome_bind {x : StateT Work (Recorded σ) α} {f : α → StateT Work (Recorded σ) β}
    (h : outcome x work tools w es = (.ok ((a, work'), tools'), w', es')) :
    outcome (x >>= f) work tools w es = outcome (f a) work' tools' w' es' := by
  unfold outcome
  rw [StateT.run_bind, StateT.run_bind, ExceptT.run_bind]
  exact run_bind_of_run h

theorem outcome_bind_error {x : StateT Work (Recorded σ) α} {f : α → StateT Work (Recorded σ) β}
    (h : outcome x work tools w es = (.error fault, w', es')) :
    outcome (x >>= f) work tools w es = (.error fault, w', es') := by
  unfold outcome
  rw [StateT.run_bind, StateT.run_bind, ExceptT.run_bind]
  exact run_bind_of_run h

theorem run_lift {ω : Type} {x : Assistance (StateM ω) α} {w w' : ω}
    {result : Except ClockFault (α × Tools)} (h : (x.run tools).run.run w = (result, w')) :
    (((StateT.lift x : StateT Work _ α).run work).run tools).run.run w =
      (result.map fun (a, tools') => ((a, work), tools'), w') := by
  have hlift : ((StateT.lift x : StateT Work _ α).run work).run tools =
      (x >>= fun a => pure (a, work)).run tools := rfl
  rw [hlift, StateT.run_bind, ExceptT.run_bind]
  refine (run_bind_of_run h).trans ?_
  cases result <;> rfl

theorem outcome_beside {x : Assistance (StateM σ) α}
    {result : Except ClockFault (α × Tools)} (h : (x.run tools).run.run w = (result, w')) :
    outcome (StateT.lift (beside x)) work tools w es =
      (result.map fun (a, tools') => ((a, work), tools'), w', es) :=
  run_lift (congrArg (fun out : _ × σ => (out.1, out.2, es)) h)

theorem outcome_ask {r : Request} {x : r.Answer}
    (h : ((ask r).run tools).run.run w = (.ok (x, tools'), w')) :
    outcome ((recorder ask).ask r) work tools w es =
      (.ok ((x, work), tools'), w', es ++ [.asked r x]) :=
  outcome_bind (outcome_beside h)

theorem outcome_ask_error {r : Request}
    (h : ((ask r).run tools).run.run w = (.error fault, w')) :
    outcome ((recorder ask).ask r) work tools w es = (.error fault, w', es) :=
  outcome_bind_error (outcome_beside h)

theorem outcome_tell (l : ListenerId) (change : Change) :
    outcome ((recorder ask).tell l change) work tools w es =
      (.ok (((), listen change work), tools), w, es ++ [.fired change]) := rfl

theorem outcome_access (update : Memory → Memory) :
    outcome ((recorder ask).access update) work tools w es =
      (.ok ((work.memory, { work with memory := update work.memory }), tools), w,
        es ++ work.memory.moves (update work.memory)) := rfl

theorem outcome_fire {l : ListenerId} (hl : work.memory.listeners.ids = [l]) (change : Change)
    (next : Call α) :
    outcome ((Call.fire change next).run (recorder ask)) work tools w es =
      outcome (next.run (recorder ask)) (listen change work) tools w (es ++ [.fired change]) := by
  have hlook : outcome ((recorder ask).access id) work tools w es =
      (.ok ((work.memory, work), tools), w, es) := by
    rw [outcome_access, id, Memory.moves_self, List.append_nil]
  refine (outcome_bind hlook).trans ?_
  rw [hl, List.forM_eq_forM, List.forM_cons, List.forM_nil]
  exact outcome_bind (outcome_bind (outcome_tell l change))

theorem outcome_work (f : Work → StateT Work (Recorded σ) α) :
    outcome (getThe Work >>= f) work tools w es = outcome (f work) work tools w es := rfl

end Equations

/-! ### With and without the record -/

/-- Without the record a computation comes to the same. -/
def unrecorded (σ : Type) :
    Simulation (StateT Work (Recorded σ)) (StateT Work (Assistance (StateM σ))) where
  Rel x y := ∀ work tools w es, ((y.run work).run tools).run.run w =
    ((outcome x work tools w es).1, (outcome x work tools w es).2.1)
  pure _ _ _ _ _ := rfl
  bind {_ _ x y f g} hx hf work tools w es := by
    specialize hx work tools w es
    rw [StateT.run_bind, StateT.run_bind, ExceptT.run_bind]
    rcases hout : outcome x work tools w es with ⟨fault | ⟨⟨a, work'⟩, tools'⟩, w', es'⟩
    · rw [hout] at hx
      rw [outcome_bind_error hout]
      exact run_bind_of_run hx
    · rw [hout] at hx
      rw [outcome_bind hout]
      exact (run_bind_of_run hx).trans (hf a work' tools' w' es')

theorem unrecorded_recorder (ask : (r : Request) → Assistance (StateM σ) r.Answer) :
    Call.Handler.Related (unrecorded σ) (recorder ask) (handler ask) where
  ask r _ tools w _ := by
    rcases hask : ((ask r).run tools).run.run w with ⟨fault | ⟨x, tools'⟩, w'⟩
    · rw [outcome_ask_error hask]
      exact run_lift hask
    · rw [outcome_ask hask]
      exact run_lift hask
  tell _ _ _ _ _ _ := rfl
  access _ _ _ _ _ := rfl

/-- Where those who answer do not fail, the record is the same as the notes that go along. -/
def noted (σ : Type) :
    Simulation (StateT (List Event) (StateT Work (StateM σ))) (StateT Work (Recorded σ)) where
  Rel x y := ∀ es work tools w, outcome y work tools w es =
    let out := ((x.run es).run work).run w
    (.ok ((out.1.1.1, out.1.2), tools), out.2, out.1.1.2)
  pure _ _ _ _ _ := rfl
  bind hx hf es work tools w := (outcome_bind (hx es work tools w)).trans (hf _ _ _ _ _)

theorem noted_recorder (ask : (r : Request) → StateM σ r.Answer) :
    Call.Handler.Related (noted σ) (handler ask).noting (recorder fun r => outside (ask r)) where
  ask _ _ _ _ _ := outcome_ask rfl
  tell _ _ _ _ _ _ := rfl
  access _ _ _ _ _ := rfl

/-! ### Those who answer -/

/-- What events do to those who answer, and to the world: the answers are theirs. -/
def Steps (ask : (r : Request) → Assistance (StateM σ) r.Answer) :
    List Event → Tools × σ → Tools × σ → Prop
  | [], p, q => q = p
  | .asked r x :: es, p, q => ∃ o : Tools × σ,
      ((ask r).run p.1).run.run p.2 = (.ok (x, o.1), o.2) ∧ Steps ask es o q
  | _ :: es, p, q => Steps ask es p q

section Steps

variable {ask : (r : Request) → Assistance (StateM σ) r.Answer} {es es' : List Event}
  {o p q : Tools × σ}

theorem Steps.append (h : Steps ask es p o) (h' : Steps ask es' o q) :
    Steps ask (es ++ es') p q := by
  induction es generalizing p with
  | nil => exact (show o = p from h) ▸ h'
  | cons e es ih =>
    cases e with
    | asked r x =>
      obtain ⟨p₁, hask, hrest⟩ := h
      exact ⟨p₁, hask, ih hrest⟩
    | fired change => exact ih h
    | moved s t => exact ih h

theorem steps_moves (before after : Memory) (p : Tools × σ) :
    Steps ask (before.moves after) p p := by
  unfold Memory.moves
  split <;> rfl

end Steps

/-! ### What is heard -/

def report? : Event → Option ScanReport
  | .fired (.exitNecessary report) => some report
  | _ => none

/-- One listens, and has kept the last report that was handed over. -/
structure Heard (es : List Event) (work : Work) : Prop where
  alone : ∃ l, work.memory.listeners.ids = [l]
  report : work.report = (es.filterMap report?).getLast?

theorem Heard.silent {es : List Event} {work : Work} (h : Heard es work) {es' : List Event}
    (hes : es'.filterMap report? = []) {memory : Memory}
    (hm : memory.listeners = work.memory.listeners) : Heard (es ++ es') { work with memory } where
  alone := by
    rw [hm]
    exact h.alone
  report := by rw [h.report, List.filterMap_append, hes, List.append_nil]

theorem Heard.listen {es : List Event} {work : Work} (h : Heard es work) (change : Change) :
    Heard (es ++ [.fired change]) (listen change work) := by
  cases change with
  | exitNecessary report => exact ⟨h.alone, by simp [PollerProgram.listen, report?]⟩
  | started => exact h.silent rfl rfl
  | registered => exact h.silent rfl rfl
  | percentageComplete => exact h.silent rfl rfl

theorem reports_moves (before after : Memory) : (before.moves after).filterMap report? = [] := by
  unfold Memory.moves
  split <;> rfl

/-! ### Calls -/

/-- What a call comes to: it shows `rest` to its end, or up to a question whose answer fails. -/
def Comes (ask : (r : Request) → Assistance (StateM σ) r.Answer) (t : Call α) (es : List Event)
    (work : Work) (p : Tools × σ) :
    Except ClockFault ((α × Work) × Tools) × σ × List Event → Prop
  | (.ok ((a, work'), tools'), w', es') => ∃ rest, es' = es ++ rest ∧
      t.Traces work.memory rest a work'.memory ∧ Steps ask rest p (tools', w') ∧ Heard es' work'
  | (.error fault, w', es') => ∃ rest r q, es' = es ++ rest ∧ t.Asks work.memory rest r ∧
      Steps ask rest p q ∧ ((ask r).run q.1).run.run q.2 = (.error fault, w')

section Calls

variable {ask : (r : Request) → Assistance (StateM σ) r.Answer} {work work' : Work}
  {p q : Tools × σ} {es new : List Event} {t next : Call α}

/-- A step in front of a call: what it shows, the call shows first. -/
theorem Comes.step {out : Except ClockFault ((α × Work) × Tools) × σ × List Event}
    (h : Comes ask next (es ++ new) work' q out) (hsteps : Steps ask new p q)
    (htraces : ∀ {rest a m'}, next.Traces work'.memory rest a m' →
      t.Traces work.memory (new ++ rest) a m') : Comes ask t es work p out := by
  rcases out with ⟨fault | ⟨⟨a, work'⟩, tools'⟩, w', es'⟩
  · obtain ⟨rest, r, q', rfl, ⟨x, more, a, m', hasks⟩, hrest, hfails⟩ := h
    refine ⟨new ++ rest, r, q', List.append_assoc .., ⟨x, more, a, m', ?_⟩, hsteps.append hrest,
      hfails⟩
    rw [List.append_assoc]
    exact htraces hasks
  · obtain ⟨rest, rfl, ht, hrest, hheard⟩ := h
    exact ⟨new ++ rest, List.append_assoc .., htraces ht, hsteps.append hrest, hheard⟩

/-- A call that others leave alone and that leaves the listening to one. -/
theorem comes_of_modest (ht : t.Within .modest) (hw : Heard es work) (p : Tools × σ) :
    Comes ask t es work p (outcome (t.run (recorder ask)) work p.1 p.2 es) := by
  induction t generalizing es work p with
  | done a => exact ⟨[], (List.append_nil es).symm, ⟨rfl, rfl, rfl⟩, rfl, hw⟩
  | ask r next ih =>
    rcases hask : ((ask r).run p.1).run.run p.2 with ⟨fault | ⟨x, tools'⟩, w'⟩
    · rw [Call.run, outcome_bind_error (outcome_ask_error hask)]
      obtain ⟨more, a, m', htraces, -⟩ := ((ht.2 r.someAnswer).mono
        Scope.modest_le_unguarded).exists_traces Request.someAnswer work.memory
      exact ⟨[], r, p, (List.append_nil es).symm, ⟨_, more, a, m', _, more, rfl, htraces⟩, rfl, hask⟩
    · rw [Call.run, outcome_bind (outcome_ask hask)]
      refine (ih x (ht.2 x) (hw.silent rfl rfl) (tools', w')).step ⟨_, hask, rfl⟩ fun h => ?_
      exact ⟨x, _, rfl, h⟩
  | fire change next ih =>
    obtain ⟨l, hl⟩ := hw.alone
    rw [outcome_fire hl]
    refine (ih ht.2 (hw.listen change) p).step rfl fun h => ⟨_, rfl, ?_⟩
    cases change <;> exact h
  | tell l change next => exact ht.1.elim
  | access update next ih =>
    have hkept := Scope.listeners_update ht.1 work.memory
    rw [Call.run, outcome_bind (outcome_access update)]
    refine (ih _ (ht.2.2 _) (hw.silent (reports_moves ..) hkept) p).step (steps_moves ..) fun h => ?_
    exact ⟨_, rfl, h⟩
  | enter next => exact ht.1.elim
  | leave next => exact ht.1.elim

end Calls

end ServiceWatch.CommandLine.PollerProgram
