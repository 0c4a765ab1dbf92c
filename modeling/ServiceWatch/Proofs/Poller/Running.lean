import Mathlib.Data.List.Basic
import ServiceWatch.Proofs.Poller.Lifecycle

/-! Once a coordinator runs, all that is left to see of it is one scan pass. -/
namespace ServiceWatch.Poller

variable {c : Coordinator} {s s' t : State} {es before after : List Event}

theorem exists_append_of_notMem {α : Type} {a : α} {l₁ l₂ xs ys : List α} (hn : a ∉ l₁)
    (h : l₁ ++ l₂ = xs ++ a :: ys) : ∃ l, xs = l₁ ++ l ∧ l₂ = l ++ a :: ys := by
  rcases List.append_eq_append_iff.1 h with ⟨l, hx, hl⟩ | ⟨l, hx, hl⟩
  · exact ⟨l, hx, hl⟩
  · cases l with
    | nil => exact ⟨[], by simpa using hx.symm, by simpa using hl.symm⟩
    | cons b l =>
      obtain ⟨rfl, -⟩ := List.cons.inj hl
      simp [hx] at hn

/-- Behind the start of a coordinator stands one pass, which decides how it ends, and in front of it
the announcement. -/
theorem Life.exists_pass (h : Life c s es s') (hes : es = before ++ .moved t .running :: after) :
    ∃ id details earlier x, before = earlier ++ [.asked (.announce id details) (.ok ())] ∧
      after = .fired (.started false true) :: .fired (.registered false true) ::
        Answers.pass x c.metadata id ∧ s' = x.fault?.elim .running .fatal := by
  induction h generalizing before after with
  | idle => simp at hes
  | @stage s s₁ s' es₁ es₂ h rest ih =>
    have notStart {l : List Event} (hl : l.countP Event.isStart = 0) : .moved t .running ∉ l :=
      fun hm => List.countP_eq_zero.1 hl _ hm rfl
    cases h with
    | waits =>
      obtain ⟨l, rfl, hl⟩ := exists_append_of_notMem (notStart rfl) hes
      obtain ⟨id, details, earlier, x, rfl, rfl, hend⟩ := ih hl
      exact ⟨id, details, _ ++ earlier, x, (List.append_assoc ..).symm, rfl, hend⟩
    | @fails _ asks hs ha fault =>
      -- a coordinator that ends before it runs has no start anywhere
      obtain ⟨rfl, -⟩ := rest.of_not_waiting rfl
      have hfails : (asks ++ [Event.moved s (.fatal fault)]).countP Event.isStart = 0 := by
        simp [ha.counts.1, Event.isStart]
      obtain ⟨l, -, hl⟩ := exists_append_of_notMem (notStart hfails) hes
      simp at hl
    | @runs _ asks id details hs ha x =>
      have hdone : (x.fault?.elim State.running State.fatal).isWaiting = false := by
        cases x.fault? <;> rfl
      obtain ⟨rfl, hend⟩ := rest.of_not_waiting hdone
      rw [List.append_nil] at hes
      -- neither the questions before it nor the pass behind it hold another start
      have hpass : (Event.fired (.started false true) :: .fired (.registered false true) ::
          x.pass c.metadata id).countP Event.isStart = 0 := by
        simp [Event.isStart, (x.counts_pass c.metadata id).2.2.1]
      obtain ⟨rfl, -, rfl⟩ := (List.append_cons_inj_of_notMem (notStart ha.counts.1)
        (notStart hpass)).1 hes
      exact ⟨id, details, asks, x, rfl, rfl, hend⟩

theorem Life.of_start (h : Life c s es s') (hes : es = before ++ .moved t .running :: after) :
    ∃ id details earlier x, before = earlier ++ [.asked (.announce id details) (.ok ())] ∧
      after = .fired (.started false true) :: .fired (.registered false true) ::
        Answers.pass x c.metadata id := by
  obtain ⟨id, details, earlier, x, hbefore, hafter, -⟩ := h.exists_pass hes
  exact ⟨id, details, earlier, x, hbefore, hafter⟩

def Event.isFetching : Event → Bool
  | .asked (.fetchLocators _) _ | .asked (.fetchConfiguration _) _ => true
  | _ => false

theorem Answers.mem_fetch_of_mem_pass {x : Answers} {metadata : Table String String} {id : String}
    {e : Event} (he : e.isFetching = true) (h : e ∈ x.pass metadata id) : e ∈ x.fetch id := by
  unfold pass scan at h
  simp only [List.mem_cons, List.mem_append, List.not_mem_nil, or_false] at h
  rcases h with rfl | (h | h) | h | rfl | rfl
  · contradiction
  · exact h
  · split at h
    · contradiction
    · obtain ⟨_, _, rfl⟩ | ⟨_, _, rfl⟩ | ⟨_, rfl⟩ := cases_of_mem_inspected h <;> contradiction
  · unfold ending at h
    split at h
    · obtain rfl | rfl | rfl : e = _ ∨ e = _ ∨ e = _ := by simpa using h
      all_goals contradiction
    · contradiction
  · contradiction
  · contradiction

/-- The locators and the configuration that a pass was given are the answers of its collaborators. -/
theorem Answers.of_fetched {x : Answers} {metadata : Table String String} {id id' : String}
    {context : DistributionContext} {locators : List ServiceMonitorLocator}
    {configuration : PollerConfiguration}
    (hl : .asked (.fetchLocators context) (.ok locators) ∈ x.pass metadata id)
    (hc : .asked (.fetchConfiguration id') (.ok configuration) ∈ x.pass metadata id) :
    x.locators = .ok locators ∧ x.configuration = .ok configuration := by
  have hl := x.mem_fetch_of_mem_pass rfl hl
  have hc := x.mem_fetch_of_mem_pass rfl hc
  obtain ⟨_ | _, _ | _, _⟩ := x <;> simp_all [fetch]

/-- Any answers can be those of a pass: a call of a fresh coordinator comes to it. -/
theorem Coordinator.exists_run_pass (hc : c.requireAll = .ok ()) (listeners : Listeners)
    (id : String) (details : HostDetails) (x : Answers) :
    ∃ os q, (c.pool listeners [.startUp]).Run os q ∧ q.IsDone ∧ (events os).map Prod.snd =
      [.asked .loadIdentity (.ok (some id)), .asked .hostDetails details,
        .asked (.announce id details) (.ok ())] ++ .moved .initial .running ::
          .fired (.started false true) :: .fired (.registered false true) :: x.pass c.metadata id := by
  have hstart : (c.start id).run.Traces { listeners } _ (.ok ()) _ :=
    (traces_start rfl).2 ⟨details, .inr ⟨x, rfl, rfl, rfl⟩⟩
  have htry := (traces_tryStartUp rfl).2 (.inr ⟨hc, .inr (.inr ⟨id, _, rfl, hstart⟩)⟩)
  have hcall : (carryOut .startUp c.tryStartUp .error).Traces { listeners } _ (.ok ()) _ :=
    (traces_carryOut_of_accepted rfl).2 (.inl ⟨htry, rfl⟩)
  obtain ⟨os, hrun, hes⟩ := Pool.exists_run_guarded (p := c.pool listeners [.startUp]) (i := 0)
    rfl rfl hcall
  refine ⟨os, _, hrun, Pool.isDone_of_calls [.ok ()] rfl, ?_⟩
  simp [hes, Function.comp_def]

end ServiceWatch.Poller
