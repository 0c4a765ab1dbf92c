import ServiceWatch.Proofs.Poller.Life

/-!
Everything that can be asked of a coordinator, at the same time. What is true of the fired changes and
the state whenever the guard is free stays true if each call with the guard restores it before it
leaves: nobody else fires a change or moves the state, and who listens makes no difference to a call
with the guard.
-/
namespace ServiceWatch.Poller

variable {α β : Type}

/-- Everything that can be asked of a coordinator. -/
inductive Errand where
  | invoke (invocation : Invocation)
  /-- Looks at the state, or at the services of the configuration. -/
  | look
  | readIdentity
  | readName
  | addListener
  | removeListener (id : ListenerId)
  deriving DecidableEq

namespace Call

def forget (t : Call α) : Call Unit := t.bind fun _ => .done ()

theorem bind_bind {γ : Type} (t : Call α) (f : α → Call β) (g : β → Call γ) :
    (t.bind f).bind g = t.bind fun a => (f a).bind g := by
  induction t with
  | done a => rfl
  | ask r next ih => exact congrArg (ask r) (funext ih)
  | fire c next ih => exact congrArg (fire c) ih
  | tell l c next ih => exact congrArg (tell l c) ih
  | access update next ih => exact congrArg (access update) (funext ih)
  | enter next ih => exact congrArg enter ih
  | leave next ih => exact congrArg leave ih

theorem map_guarded (f : α → β) (t : Call α) : f <$> guarded t = guarded (f <$> t) := by
  have hleave : (t.bind fun a => leave (done a)).bind (fun a => done (f a)) =
      (t.bind fun a => done (f a)).bind fun b => leave (done b) := by
    rw [bind_bind, bind_bind]
    rfl
  exact congrArg enter hleave

theorem forget_guarded (t : Call α) : (guarded t).forget = guarded t.forget :=
  map_guarded (fun _ => ()) t

theorem traces_forget {t : Call α} {m m' : Memory} {es : List Event} {u : Unit} :
    t.forget.Traces m es u m' ↔ ∃ a, t.Traces m es a m' := by
  change (t >>= fun _ => done ()).Traces m es u m' ↔ _
  rw [traces_bind]
  constructor
  · rintro ⟨es₁, a, m₁, _, h, ⟨rfl, -, rfl⟩, rfl⟩
    exact ⟨a, by rwa [List.append_nil]⟩
  · rintro ⟨a, h⟩
    exact ⟨es, a, m', [], h, ⟨rfl, rfl, rfl⟩, (List.append_nil es).symm⟩

/-- What a call with the guard has before it is neither its end nor to take the guard. -/
theorem tellAll_leaving_ne {t : Call α} (ht : t.Within .modest) (c : Change) (ls : List ListenerId) :
    (∀ a, tellAll c t.leaving ls ≠ .done a) ∧ ∀ next, tellAll c t.leaving ls ≠ .enter next := by
  cases ls with
  | cons l ls => exact ⟨nofun, nofun⟩
  | nil =>
    refine ⟨t.leaving_ne_done, fun next hnext => ?_⟩
    cases t with
    | enter next => exact ht.1
    | _ => contradiction

end Call

/-! ### Changes -/

def Event.change? : Event → Option Change
  | .fired change => some change
  | _ => none

def told (es : List Event) : List Change := es.filterMap Event.change?

def changes (os : List Occurrence) : List Change := told ((events os).map Prod.snd)

@[simp] theorem told_append (es es' : List Event) : told (es ++ es') = told es ++ told es' :=
  List.filterMap_append

@[simp] theorem told_moves (before after : Memory) : told (before.moves after) = [] := by
  unfold Memory.moves
  split <;> rfl

theorem changes_append (os os' : List Occurrence) :
    changes (os ++ os') = changes os ++ changes os' := by
  rw [changes, Pool.events_append, List.map_append, told_append]
  rfl

@[simp] theorem changes_accessed (i : Nat) (before after : Memory) :
    changes [.accessed i before after] = [] := by
  simp [changes, events, Occurrence.events, Function.comp_def]

theorem append_changes_of_silent (fired : List Change) {o : Occurrence} (h : changes [o] = []) :
    fired ++ changes [o] = fired := by
  rw [h, List.append_nil]

/-! ### The free guard -/

namespace Call

variable (P : List Change → State → Prop)

/-- Behind the fired changes and from this memory on, the call can only end where `P` is true, whoever
listens. -/
def Restores (t : Call α) (fired : List Change) (m : Memory) : Prop :=
  ∀ ls es a m', t.Traces { m with listeners := ls } es a m' → P (fired ++ told es) m'.state

/-- The call leads from where `P` is true to where it is true again. -/
structure Maintains (t : Call α) : Prop where
  modest : t.Within .modest
  restores : ∀ fired m, P fired m.state → t.Restores P fired m

variable {P} {fired : List Change} {m : Memory}

theorem Restores.done {a : α} (h : (done a).Restores P fired m) : P fired m.state := by
  have hend := h m.listeners [] a m ⟨rfl, rfl, rfl⟩
  rwa [show told [] = [] from rfl, List.append_nil] at hend

theorem Restores.ask {r : Request} {next : r.Answer → Call α} (h : (ask r next).Restores P fired m)
    (x : r.Answer) : (next x).Restores P fired m :=
  fun ls es a m' ht => h ls (.asked r x :: es) a m' ⟨x, es, rfl, ht⟩

theorem Restores.fire {c : Change} {next : Call α}
    (h : (Call.fire c next).Restores P fired m) :
    next.Restores P (fired ++ [c]) m := by
  intro ls es a m' ht
  have hend := h ls (.fired c :: es) a m' ⟨es, rfl, ht⟩
  rwa [← List.append_cons]

theorem Restores.access {update : Memory → Memory} {next : Memory → Call α}
    (h : (Call.access update next).Restores P fired m)
    (hm : (Call.access update next).Within .modest) :
    (next m).Restores P fired (update m) := by
  intro ls es a m' ht
  obtain ⟨hupdate, hnext, -⟩ := hm
  have htraces : (Call.access update next).Traces { m with listeners := ls }
      (Memory.moves { m with listeners := ls } (update { m with listeners := ls }) ++ es) a m' :=
    ⟨es, rfl, by rwa [hnext m _ ⟨ls, rfl⟩, hupdate m ls]⟩
  have hend := h ls _ a m' htraces
  rwa [told_append, told_moves, List.nil_append] at hend

end Call

namespace Pool

variable {P : List Change → State → Prop} {serves : Nat → Prop} {p q : Pool α} {o : Occurrence}
  {os : List Occurrence} {fired : List Change} {i : Nat}

/-- `P` is true as long as the guard is free, and the call with the guard is about to restore it; only
calls that serve take the guard. -/
structure Upholds (P : List Change → State → Prop) (serves : Nat → Prop) (p : Pool α)
    (fired : List Change) : Prop where
  free : p.holder = none → P fired p.memory.state
  /-- The call with the guard may have listeners to tell about a change before it goes on. -/
  held : ∀ i, p.holder = some i → serves i ∧ ∃ (c : Change) (t : Call α) (ls : List ListenerId),
    p.calls[i]? = some (.tellAll c t.leaving ls) ∧ t.Within .modest ∧ t.Restores P fired p.memory
  apart : ∀ i s, p.calls[i]? = some s → p.holder ≠ some i →
    (serves i ∧ ∃ t, s = .guarded t ∧ t.Maintains P) ∨ s.Within .aside

/-- The call with the guard takes a step and keeps the guard. -/
theorem Upholds.under (h : p.Upholds P serves fired) {fired' : List Change} {t : Call α} (c : Change)
    (ls : List ListenerId) (held : p.holder = some i) (hlt : i < p.calls.length)
    (hholder : q.holder = some i) (hcalls : q.calls = p.calls.set i (.tellAll c t.leaving ls))
    (hm : t.Within .modest) (hr : t.Restores P fired' q.memory) : q.Upholds P serves fired' := by
  refine ⟨fun hfree => ?_, fun j hj => ?_, fun j s hs hj => ?_⟩
  · rw [hholder] at hfree
    contradiction
  · obtain rfl : i = j := Option.some.inj (hholder.symm.trans hj)
    refine ⟨(h.held i held).1, c, t, ls, ?_, hm, hr⟩
    rw [hcalls, List.getElem?_set_self hlt]
  · have hne : i ≠ j := fun hij => hj (hij ▸ hholder)
    rw [hcalls, List.getElem?_set_ne hne] at hs
    exact h.apart j s hs fun hp => hne (Option.some.inj (held.symm.trans hp))

/-- A call without the guard takes a step. -/
theorem Upholds.beside (h : p.Upholds P serves fired) {s : Call α} {ls : Listeners}
    (hi : p.holder ≠ some i) (hlt : i < p.calls.length) (hholder : q.holder = p.holder)
    (hcalls : q.calls = p.calls.set i s) (hs : s.Within .aside)
    (hmemory : q.memory = { p.memory with listeners := ls }) : q.Upholds P serves fired := by
  refine ⟨fun hfree => ?_, fun j hj => ?_, fun j s' hs' hj => ?_⟩
  · rw [hmemory]
    exact h.free (hholder ▸ hfree)
  · rw [hholder] at hj
    obtain ⟨hserves, c, t, ls', hcall, hm, hr⟩ := h.held j hj
    have hne : i ≠ j := fun hij => hi (hij ▸ hj)
    refine ⟨hserves, c, t, ls', ?_, hm, ?_⟩
    · rwa [hcalls, List.getElem?_set_ne hne]
    · rw [hmemory]
      exact hr
  · by_cases hij : i = j
    · subst hij
      rw [hcalls, List.getElem?_set_self hlt] at hs'
      cases hs'
      exact .inr hs
    · rw [hcalls, List.getElem?_set_ne hij] at hs'
      exact h.apart j s' hs' (hholder ▸ hj)

theorem Upholds.of_call (h : p.Upholds P serves fired) {s : Call α} (hi : p.calls[i]? = some s) :
    i < p.calls.length ∧
      ((∃ (c : Change) (t : Call α) (ls : List ListenerId), s = .tellAll c t.leaving ls ∧
          p.holder = some i ∧ t.Within .modest ∧ t.Restores P fired p.memory) ∨
        (∃ t, s = .guarded t ∧ t.Maintains P ∧ serves i) ∨
          s.Within .aside ∧ p.holder ≠ some i) := by
  obtain ⟨hlt, -⟩ := List.getElem?_eq_some_iff.1 hi
  refine ⟨hlt, ?_⟩
  by_cases hh : p.holder = some i
  · obtain ⟨-, c, t, ls, hcall, hm, hr⟩ := h.held i hh
    rw [hi] at hcall
    exact .inl ⟨c, t, ls, Option.some.inj hcall, hh, hm, hr⟩
  · rcases h.apart i s hi hh with ⟨hserves, t, ht, hmaintains⟩ | hb
    · exact .inr (.inl ⟨t, ht, hmaintains, hserves⟩)
    · exact .inr (.inr ⟨hb, hh⟩)

theorem Step.upholds (hs : p.Step o q) (h : p.Upholds P serves fired) :
    q.Upholds P serves (fired ++ changes [o]) := by
  -- a call that waits for the guard can only enter, and one that stands by neither fires nor enters
  cases hs with
  | @ask i r next hi x =>
    rw [append_changes_of_silent fired rfl]
    obtain ⟨hlt, ⟨c, t, ls, heq, hh, hm, hr⟩ | ⟨t, heq, -⟩ | ⟨hb, hh⟩⟩ := h.of_call hi
    · cases ls <;> cases t <;> cases heq
      exact h.under c [] hh hlt hh rfl (hm.2 x) (hr.ask x)
    · contradiction
    · exact h.beside hh hlt rfl rfl (hb.2 x) rfl
  | @fire i c next hi =>
    obtain ⟨hlt, ⟨_, t, ls, heq, hh, hm, hr⟩ | ⟨t, heq, -⟩ | ⟨hb, hh⟩⟩ := h.of_call hi
    · cases ls <;> cases t <;> cases heq
      exact h.under _ _ hh hlt hh rfl hm.2 hr.fire
    · contradiction
    · exact hb.1.elim
  | @tell i l c next hi =>
    rw [append_changes_of_silent fired rfl]
    obtain ⟨hlt, ⟨c', t, ls, heq, hh, hm, hr⟩ | ⟨t, heq, -⟩ | ⟨hb, hh⟩⟩ := h.of_call hi
    · cases ls with
      | nil =>
        cases t <;> cases heq
        exact hm.1.elim
      | cons l' ls =>
        cases heq
        exact h.under _ _ hh hlt hh rfl hm hr
    · contradiction
    · exact hb.1.elim
  | @access i update next hi =>
    rw [append_changes_of_silent fired (changes_accessed ..)]
    obtain ⟨hlt, ⟨c, t, ls, heq, hh, hm, hr⟩ | ⟨t, heq, -⟩ | ⟨hb, hh⟩⟩ := h.of_call hi
    · cases ls <;> cases t <;> cases heq
      exact h.under c [] hh hlt hh rfl (hm.2.2 _) (hr.access hm)
    · contradiction
    · obtain ⟨ls, hupdate⟩ := hb.1 p.memory
      exact h.beside hh hlt rfl rfl (hb.2.2 _) hupdate
  | @enter i next hi free =>
    rw [append_changes_of_silent fired rfl]
    obtain ⟨hlt, ⟨c, t, ls, heq, hh, hm, hr⟩ | ⟨t, heq, hmaintains, hserves⟩ | ⟨hb, hh⟩⟩ :=
      h.of_call hi
    · rw [free] at hh
      contradiction
    · cases heq
      refine ⟨nofun, fun j hj => ?_, fun j s hs hj => ?_⟩
      · cases hj
        refine ⟨hserves, .started true true, t, [], List.getElem?_set_self hlt, hmaintains.modest, ?_⟩
        exact hmaintains.restores fired p.memory (h.free free)
      · have hne : i ≠ j := fun hij => hj (hij ▸ rfl)
        refine h.apart j s ?_ (by simp [free])
        rwa [← List.getElem?_set_ne hne]
    · exact hb.1.elim
  | @leave i next hi held =>
    rw [append_changes_of_silent fired rfl]
    obtain ⟨hlt, ⟨c, t, ls, heq, hh, hm, hr⟩ | ⟨t, heq, -⟩ | ⟨hb, hh⟩⟩ := h.of_call hi
    · cases ls <;> cases t <;> cases heq
      · rename_i a
        refine ⟨fun _ => hr.done, nofun, fun j s hs _ => ?_⟩
        by_cases hij : i = j
        · subst hij
          rw [resume, List.getElem?_set_self hlt] at hs
          cases hs
          exact .inr trivial
        · rw [resume, List.getElem?_set_ne hij] at hs
          exact h.apart j s hs fun hj => hij (Option.some.inj (held.symm.trans hj))
      · exact hm.1.elim
    · contradiction
    · exact hb.1.elim

theorem Run.upholds (hr : p.Run os q) (h : p.Upholds P serves fired) :
    q.Upholds P serves (fired ++ changes os) := by
  induction hr generalizing fired with
  | refl p =>
    rw [show changes [] = [] from rfl, List.append_nil]
    exact h
  | @step p q r o os hs _ ih =>
    have hlast := ih (hs.upholds h)
    rwa [List.append_assoc, ← changes_append] at hlast

/-- From wherever the calls are, the changes that were fired can be completed to what `P` is true of. -/
theorem Upholds.exists_completion (h : p.Upholds P serves fired) :
    ∃ rest s, P (fired ++ rest) s := by
  cases hh : p.holder with
  | none => exact ⟨[], p.memory.state, by simpa using h.free hh⟩
  | some i =>
    obtain ⟨-, -, t, -, -, hm, hr⟩ := h.held i hh
    obtain ⟨es, a, m, htraces, -⟩ := (hm.mono Scope.modest_le_unguarded).exists_traces Request.someAnswer p.memory
    exact ⟨told es, m.state, hr p.memory.listeners es a m htraces⟩

/-- The guard is free if each call that serves took its last step or none. -/
theorem Upholds.free_of_idle (h : p.Upholds P serves fired)
    (hidle : ∀ i, serves i → (∃ a, p.calls[i]? = some (.done a)) ∨
      ∃ next, p.calls[i]? = some (.enter next)) : p.holder = none := by
  cases hh : p.holder with
  | none => rfl
  | some i =>
    obtain ⟨hserves, c, t, ls, hcall, hm, -⟩ := h.held i hh
    obtain ⟨hdone, henter⟩ := Call.tellAll_leaving_ne hm c ls
    rcases hidle i hserves with ⟨a, ha⟩ | ⟨next, hnext⟩
    · exact (hdone a (Option.some.inj (hcall.symm.trans ha))).elim
    · exact (henter next (Option.some.inj (hcall.symm.trans hnext))).elim

end Pool

/-! ### Errands -/

namespace Coordinator

def errand (c : Coordinator) : Errand → Call Unit
  | .invoke invocation => (c.call invocation).forget
  | .look => Call.remembered.forget
  | .readIdentity => c.monitoringSystemId.forget
  | .readName => c.monitorName.forget
  | .addListener => c.addListener.forget
  | .removeListener id => (c.removeListener id).forget

def desk (c : Coordinator) (listeners : Listeners) (errands : List Errand) : Pool Unit :=
  { memory := { listeners }, calls := errands.map c.errand }

theorem looks_loadIdentity : loadIdentity.run.Within .looking :=
  within_askOrStop (Call.within_request trivial _)

theorem looks_require (c : Coordinator) (x : Collaborator) :
    (liftM (c.require x) : Attempt Unit).run.Within .looking := trivial

theorem looks_monitoringSystemId (c : Coordinator) : c.monitoringSystemId.Within .looking :=
  within_run_bind (c.looks_require .settings) fun _ => looks_loadIdentity

theorem looks_fetchName (id : Option String) : (match id with
    | none => return ""
    | some id => askOrStop .backend (.request (.fetchName id)) : Attempt String).run.Within
      .looking := by
  cases id with
  | none => trivial
  | some id => exact within_askOrStop (Call.within_request trivial _)

theorem looks_monitorName (c : Coordinator) : c.monitorName.Within .looking := by
  refine ⟨fun m => rfl, fun m m' h => by rw [h], fun m => ?_⟩
  change (ite _ _ _ : Attempt String).run.Within .looking
  split
  · refine within_run_bind (c.looks_require .backend) fun _ => ?_
    refine within_run_bind (c.looks_require .settings) fun _ => ?_
    exact within_run_bind looks_loadIdentity looks_fetchName
  · trivial

theorem aside_addListener (c : Coordinator) : c.addListener.Within .aside :=
  ⟨fun _ => ⟨_, rfl⟩, fun _ _ h => by rw [h], fun _ => trivial⟩

theorem aside_removeListener (c : Coordinator) (id : ListenerId) :
    (c.removeListener id).Within .aside :=
  ⟨fun _ => ⟨_, rfl⟩, fun _ _ h => by rw [h], fun _ => trivial⟩

/-- An errand takes the guard for what it has to do, or it only looks, or it is about a listener. -/
theorem errand_kinds (c : Coordinator) (errand : Errand) :
    (∃ invocation t, errand = .invoke invocation ∧ c.duty? invocation = some t ∧
      c.errand errand = .guarded t.forget) ∨ (c.errand errand).Within .looking ∨
        errand = .addListener ∨ ∃ id, errand = .removeListener id := by
  have hforget {γ : Type} {t : Call γ} (ht : t.Within .looking) : t.forget.Within .looking :=
    ht.bind fun _ => trivial
  cases errand with
  | invoke invocation =>
    cases invocation with
    | startUp => exact .inl ⟨.startUp, _, rfl, rfl, Call.forget_guarded _⟩
    | register location => exact .inl ⟨.register location, _, rfl, rfl, Call.forget_guarded _⟩
    | pollService id => exact .inr (.inl (hforget ((quiet_pollService c id).mono Scope.quiet_le_looking)))
  | look => exact .inr (.inl (hforget ⟨fun _ => rfl, fun _ _ h => congrArg _ h.symm, fun _ => trivial⟩))
  | readIdentity => exact .inr (.inl (hforget c.looks_monitoringSystemId))
  | readName => exact .inr (.inl (hforget c.looks_monitorName))
  | addListener => exact .inr (.inr (.inl rfl))
  | removeListener id => exact .inr (.inr (.inr ⟨id, rfl⟩))

/-- An errand takes the guard for what it has to do, or it stands by. -/
theorem errand_cases (c : Coordinator) (errand : Errand) :
    (∃ invocation t, errand = .invoke invocation ∧ c.duty? invocation = some t ∧
      c.errand errand = .guarded t.forget) ∨ (c.errand errand).Within .aside := by
  rcases c.errand_kinds errand with hguarded | hlooks | rfl | ⟨id, rfl⟩
  · exact .inl hguarded
  · exact .inr (hlooks.mono Scope.looking_le_aside)
  · exact .inr (c.aside_addListener.bind fun _ => trivial)
  · exact .inr ((c.aside_removeListener id).bind fun _ => trivial)

/-- An errand that has something to do under the guard. -/
def Serves (c : Coordinator) (errands : List Errand) (i : Nat) : Prop :=
  ∃ invocation t, errands[i]? = some (.invoke invocation) ∧ c.duty? invocation = some t

variable {c : Coordinator} {P : List Change → State → Prop} {listeners : Listeners}
  {errands : List Errand} {os : List Occurrence} {q : Pool Unit}

theorem upholds_desk (hinitial : P [] .initial)
    (hduty : ∀ invocation t fired m es r m', c.duty? invocation = some t → P fired m.state →
      t.Traces m es r m' → P (fired ++ told es) m'.state) :
    (c.desk listeners errands).Upholds P (c.Serves errands) [] := by
  refine ⟨fun _ => hinitial, nofun, fun i s hs _ => ?_⟩
  have hcall : (c.desk listeners errands).calls[i]? = errands[i]?.map c.errand := by
    simp [desk]
  rw [hcall] at hs
  obtain ⟨errand, herrand, rfl⟩ := Option.map_eq_some_iff.1 hs
  rcases c.errand_cases errand with ⟨invocation, t, rfl, ht, heq⟩ | hb
  · refine .inl ⟨⟨invocation, t, herrand, ht⟩, t.forget, heq, ?_, ?_⟩
    · exact (modest_duty ht).bind fun _ => trivial
    · intro fired m hP ls es u m' htraces
      obtain ⟨r, htraces⟩ := Call.traces_forget.1 htraces
      exact hduty invocation t fired { m with listeners := ls } es r m' ht hP htraces
  · exact .inr hb

/-- The guard is free between the errands. -/
theorem free_of_idle (h : q.Upholds P (c.Serves errands) (changes os))
    (hidle : ∀ (i : Nat) errand, errands[i]? = some errand →
      q.calls[i]? = some (.done ()) ∨ q.calls[i]? = some (c.errand errand)) : q.holder = none := by
  refine h.free_of_idle ?_
  rintro i ⟨invocation, t, herrand, ht⟩
  rcases hidle i _ herrand with hdone | huntouched
  · exact .inl ⟨(), hdone⟩
  · rcases c.errand_cases (.invoke invocation) with ⟨_, _, _, _, heq⟩ | hb
    · rw [heq] at huntouched
      exact .inr ⟨_, huntouched⟩
    · cases invocation with
      | startUp => exact hb.1.elim
      | register location => exact hb.1.elim
      | pollService id => contradiction

end Coordinator

end ServiceWatch.Poller
