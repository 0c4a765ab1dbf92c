import ServiceWatch.Poller.Trace

/-! The same calls with different handlers; among these, one that takes notes of what can be seen. -/
namespace ServiceWatch.Poller

variable {m n : Type → Type} [Monad m] [Monad n] {α β : Type}

/-! ### Calls in two monads -/

/-- A relation between the computations in two monads that holds for a sequence if it does for its
parts. -/
structure Simulation (m n : Type → Type) [Monad m] [Monad n] where
  Rel {α : Type} : m α → n α → Prop
  pure {α : Type} (a : α) : Rel (pure a) (pure a)
  bind {α β : Type} {x : m α} {y : n α} {f : α → m β} {g : α → n β} :
    Rel x y → (∀ a, Rel (f a) (g a)) → Rel (x >>= f) (y >>= g)

/-- The steps of two handlers are related. -/
structure Call.Handler.Related (s : Simulation m n) (h : Handler m) (k : Handler n) : Prop where
  ask (r : Request) : s.Rel (h.ask r) (k.ask r)
  tell (l : ListenerId) (change : Change) : s.Rel (h.tell l change) (k.tell l change)
  access (update : Memory → Memory) : s.Rel (h.access update) (k.access update)

/-- With related handlers, a call comes to related computations. -/
theorem Call.Handler.Related.run {s : Simulation m n} {h : Handler m} {k : Handler n}
    (hs : Related s h k) (t : Call α) : s.Rel (t.run h) (t.run k) := by
  induction t with
  | done a => exact s.pure a
  | ask r next ih => exact s.bind (hs.ask r) ih
  | fire change next ih =>
    refine s.bind (hs.access id) fun memory => s.bind ?_ fun _ => ih
    -- The listeners are told one after the other.
    induction memory.listeners.ids with
    | nil => exact s.pure _
    | cons l ls ih => exact s.bind (hs.tell l change) fun _ => ih
  | tell l change next ih => exact s.bind (hs.tell l change) fun _ => ih
  | access update next ih => exact s.bind (hs.access update) ih
  | enter next ih => exact ih
  | leave next ih => exact ih

/-! ### Notes -/

/-- Does what the handler does, and notes what can be seen of it. A change is noted for each listener
that is told about it. -/
def Call.Handler.noting (h : Call.Handler n) : Call.Handler (StateT (List Event) n) where
  ask r := do
    let x ← StateT.lift (h.ask r)
    modify (· ++ [.asked r x])
    return x
  tell l change := do
    StateT.lift (h.tell l change)
    modify (· ++ [.fired change])
  access update := do
    let before ← StateT.lift (h.access update)
    modify (· ++ before.moves (update before))
    return before

/-- Without its notes, a computation does what another one does. -/
def forgetting (n : Type → Type) [Monad n] [LawfulMonad n] :
    Simulation (StateT (List Event) n) n where
  Rel x y := ∀ es, Prod.fst <$> x.run es = y
  pure a es := by simp
  bind {_ _ x y f g} hx hf es := by
    rw [← hx es, StateT.run_bind, map_bind, bind_map_left]
    exact bind_congr fun p => hf p.1 p.2

theorem Call.Handler.forgets_noting [LawfulMonad n] (h : Handler n) :
    Related (forgetting n) h.noting h where
  ask r es := by simp [noting]
  tell l change es := by simp [noting]
  access update es := by simp [noting]

/-! ### Calls on their own -/

/-- The guard is nothing to a call that runs alone. -/
theorem Call.run_guarded [LawfulMonad n] (h : Handler n) (t : Call α) :
    t.guarded.run h = t.run h := by
  change (t.bind fun a => leave (done a)).run h = t.run h
  induction t with
  | done a => rfl
  | ask r next ih => exact bind_congr ih
  | fire change next ih => simp only [bind, run, ih]
  | tell l change next ih => simp only [bind, run, ih]
  | access update next ih => exact bind_congr ih
  | enter next ih => exact ih
  | leave next ih => exact ih

end ServiceWatch.Poller
