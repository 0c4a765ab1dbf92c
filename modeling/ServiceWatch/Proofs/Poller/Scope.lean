import Mathlib.Order.Defs.PartialOrder
import ServiceWatch.Poller.Coordinator

/-! How far a call goes: which steps it takes at all, and what its steps with the memory depend on. -/
namespace ServiceWatch.Poller

/-- What the steps of a call may be. -/
structure Scope where
  asks : Prop
  fires : Prop
  tells : Prop
  guards : Prop
  updates : (Memory → Memory) → Prop
  /-- Memories from which a call goes on in the same way. -/
  alike : Memory → Memory → Prop

namespace Scope

/-- The wider scope allows more steps, and asks fewer memories to be alike. -/
instance : LE Scope where
  le s s' := (s.asks → s'.asks) ∧ (s.fires → s'.fires) ∧ (s.tells → s'.tells) ∧
    (s.guards → s'.guards) ∧ (∀ update, s.updates update → s'.updates update) ∧
      ∀ m m', s'.alike m m' → s.alike m m'

/-- A call that leaves the guard alone. -/
def unguarded : Scope := ⟨True, True, True, False, fun _ => True, Eq⟩

/-- A call that leaves the guard alone, and leaves it to others who listens and how they are told: who
listens makes no difference to it. -/
def modest : Scope where
  asks := True
  fires := True
  tells := False
  guards := False
  updates update := ∀ m ls, update { m with listeners := ls } = { update m with listeners := ls }
  alike m m' := ∃ ls, m' = { m with listeners := ls }

/-- A call that only looks at the memory. -/
def quiet : Scope := ⟨False, False, False, False, (∀ m, · m = m), Eq⟩

/-- A call that asks and looks at the memory, and does nothing else. -/
def looking : Scope := ⟨True, False, False, False, (∀ m, · m = m), Eq⟩

/-- A call that fires nothing, keeps away from the guard, and changes nothing but who listens. -/
def aside : Scope where
  asks := True
  fires := False
  tells := False
  guards := False
  updates update := ∀ m, ∃ ls, update m = { m with listeners := ls }
  alike := Eq

/-- A call that tells no listener by itself, and changes nothing about who listens. -/
def unlistened : Scope :=
  ⟨True, True, False, True, fun update => ∀ m, (update m).listeners = m.listeners, Eq⟩

theorem quiet_le_looking : quiet ≤ looking :=
  ⟨False.elim, id, id, id, fun _ => id, fun _ _ => id⟩

theorem looking_le_aside : looking ≤ aside :=
  ⟨id, id, id, id, fun _ h m => ⟨m.listeners, h m⟩, fun _ _ => id⟩

theorem looking_le_unlistened : looking ≤ unlistened :=
  ⟨id, False.elim, id, False.elim, fun _ h m => congrArg Memory.listeners (h m), fun _ _ => id⟩

theorem modest_le_unguarded : modest ≤ unguarded :=
  ⟨id, id, False.elim, id, fun _ _ => trivial, fun m _ h => ⟨m.listeners, h.symm⟩⟩

theorem listeners_update {update : Memory → Memory} (h : modest.updates update) (m : Memory) :
    (update m).listeners = m.listeners := by
  have hkept : update m = { update m with listeners := m.listeners } := h m m.listeners
  rw [hkept]

theorem modest_le_unlistened : modest ≤ unlistened :=
  ⟨id, id, id, False.elim, fun _ => listeners_update, fun m _ h => ⟨m.listeners, h.symm⟩⟩

end Scope

namespace Call

variable {α β : Type} {s s' : Scope} {t : Call α}

/-- The steps of a call keep to a scope. -/
def Within (s : Scope) : Call α → Prop
  | .done _ => True
  | .ask _ next => s.asks ∧ ∀ x, (next x).Within s
  | .fire _ next => s.fires ∧ next.Within s
  | .tell _ _ next => s.tells ∧ next.Within s
  | .access update next =>
    s.updates update ∧ (∀ m m', s.alike m m' → next m' = next m) ∧ ∀ m, (next m).Within s
  | .enter next | .leave next => s.guards ∧ next.Within s

theorem Within.bind {f : α → Call β} (ht : t.Within s) (hf : ∀ a, (f a).Within s) :
    (t >>= f).Within s := by
  change (t.bind f).Within s
  induction t with
  | done a => exact hf a
  | ask r next ih => exact ⟨ht.1, fun x => ih x (ht.2 x)⟩
  | fire c next ih => exact ⟨ht.1, ih ht.2⟩
  | tell l c next ih => exact ⟨ht.1, ih ht.2⟩
  | access update next ih =>
    obtain ⟨hupdate, hnext, hrest⟩ := ht
    refine ⟨hupdate, fun m m' h => ?_, fun m => ih m (hrest m)⟩
    exact congrArg (fun rest : Call α => rest.bind f) (hnext m m' h)
  | enter next ih => exact ⟨ht.1, ih ht.2⟩
  | leave next ih => exact ⟨ht.1, ih ht.2⟩

theorem Within.mono (hs : s ≤ s') (ht : t.Within s) : t.Within s' := by
  obtain ⟨hasks, hfires, htells, hguards, hupdates, halike⟩ := hs
  induction t with
  | done a => trivial
  | ask r next ih => exact ⟨hasks ht.1, fun x => ih x (ht.2 x)⟩
  | fire c next ih => exact ⟨hfires ht.1, ih ht.2⟩
  | tell l c next ih => exact ⟨htells ht.1, ih ht.2⟩
  | access update next ih =>
    obtain ⟨hupdate, hnext, hrest⟩ := ht
    exact ⟨hupdates _ hupdate, fun m m' h => hnext m m' (halike m m' h), fun m => ih m (hrest m)⟩
  | enter next ih => exact ⟨hguards ht.1, ih ht.2⟩
  | leave next ih => exact ⟨hguards ht.1, ih ht.2⟩

theorem within_request (h : s.asks) (r : Request) : (request r).Within s := ⟨h, fun _ => trivial⟩

theorem Within.tellAll (ht : t.Within s) (h : s.tells) (c : Change) (ls : List ListenerId) :
    (tellAll c t ls).Within s := by
  induction ls with
  | nil => exact ht
  | cons l ls ih => exact ⟨h, ih⟩

theorem Within.guarded (ht : t.Within s) (h : s.guards) : (guarded t).Within s :=
  ⟨h, ht.bind fun _ => ⟨h, trivial⟩⟩

end Call

section Attempt

variable {α β ε : Type} {s : Scope}

theorem within_run_lift {t : Call α} (h : t.Within s) : (liftM t : Attempt α).run.Within s :=
  h.bind fun _ => trivial

theorem within_run_bind {x : Attempt β} {f : β → Attempt α} (hx : x.run.Within s)
    (hf : ∀ b, (f b).run.Within s) : (x >>= f).run.Within s := by
  refine hx.bind fun r => ?_
  cases r with
  | error fault => trivial
  | ok b => exact hf b

theorem within_askOrStop {fault : ε → Fault} {t : Call (Except ε α)} (h : t.Within s) :
    (askOrStop fault t).run.Within s := by
  refine within_run_bind (within_run_lift h) fun r => ?_
  cases r <;> trivial

theorem within_ensureSupported (hid : s.updates id)
    (hstate : ∀ m m', s.alike m m' → m'.state = m.state) (operation : Operation) :
    (ensureSupported operation).run.Within s := by
  let rest (m : Memory) : Attempt Unit :=
    if m.state.supports operation then return () else throw (m.state.refusal operation)
  have hrest (m m' : Memory) (h : s.alike m m') : (rest m').run = (rest m).run := by
    simp only [rest, hstate m m' h]
  refine ⟨hid, hrest, fun m => ?_⟩
  change (rest m).run.Within s
  unfold rest
  split <;> trivial

end Attempt

end ServiceWatch.Poller
