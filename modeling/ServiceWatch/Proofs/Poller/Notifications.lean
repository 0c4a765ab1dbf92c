import Mathlib.Algebra.Order.Field.Rat
import Mathlib.Tactic.Positivity
import ServiceWatch.Proofs.Poller.Errands
import ServiceWatch.Proofs.Poller.Running

/-!
What a coordinator tells its listeners is true, at any moment and whatever it is asked for: what a
change gives as the old value was told before, and what was told last is the state whenever no call is
at work.
-/
namespace ServiceWatch.Poller

/-! ### Changes -/

namespace Change

/-- The old and the new value, if a change is one of `started`. -/
def started? : Change → Option (Bool × Bool)
  | .started old new => some (old, new)
  | _ => none

def registered? : Change → Option (Bool × Bool)
  | .registered old new => some (old, new)
  | _ => none

def progress? : Change → Option Progress
  | .percentageComplete progress => some progress
  | _ => none

def isOfPass : Change → Bool
  | .percentageComplete _ | .exitNecessary _ => true
  | .started _ _ | .registered _ _ => false

end Change

def Progress.quotient (p : Progress) : ℚ := p.completed / p.total

/-- From the value `now`, each change leads from the value that it finds to another one. -/
def Chained : (now : Bool) → List (Bool × Bool) → Prop
  | _, [] => True
  | now, (old, new) :: rest => old = now ∧ new ≠ old ∧ Chained new rest

/-- The last new value; there was none before the first one. -/
def latest (values : List (Bool × Bool)) : Bool := (values.getLast?.map Prod.snd).getD false

/-- Behind a change of `started`, the next one is the same change of `registered`. -/
def Paired (change next : Change) : Prop :=
  ∀ old new, change = .started old new → next = .registered old new

/-- What can be relied on in the changes that were fired up to some moment. -/
structure Truthful (cs : List Change) : Prop where
  paired : cs.IsChain Paired
  started : Chained false (cs.filterMap Change.started?)
  registered : Chained false (cs.filterMap Change.registered?)
  /-- A pass comes behind a registration. -/
  behind : ∀ before change after, cs = before ++ change :: after → change.isOfPass = true →
    ∃ old new, .registered old new ∈ before
  /-- Nothing comes behind the report. -/
  last : ∀ before report after, cs = before ++ .exitNecessary report :: after → after = []
  monotone : (cs.filterMap Change.progress?).Pairwise fun p p' => p.quotient ≤ p'.quotient
  bounded : ∀ p ∈ cs.filterMap Change.progress?,
    0 < p.total ∧ 0 ≤ p.quotient ∧ p.quotient ≤ 1

/-- What was told last is the state, and nothing is left half told. -/
structure UpToDate (cs : List Change) (s : State) : Prop where
  started : latest (cs.filterMap Change.started?) = s.isStarted
  registered : latest (cs.filterMap Change.registered?) = s.isRegistered
  paired : ∀ before old new after, cs = before ++ .started old new :: after →
    ∃ rest, after = .registered old new :: rest

theorem Chained.of_append {now : Bool} {values rest : List (Bool × Bool)}
    (h : Chained now (values ++ rest)) : Chained now values := by
  induction values generalizing now with
  | nil => trivial
  | cons value values ih => exact ⟨h.1, h.2.1, ih h.2.2⟩

/-- What was told up to some moment is as true as all of it. -/
theorem Truthful.of_append {cs rest : List Change} (h : Truthful (cs ++ rest)) : Truthful cs := by
  have hstarted := h.started
  have hregistered := h.registered
  have hmonotone := h.monotone
  have hbounded := h.bounded
  rw [List.filterMap_append] at hstarted hregistered hmonotone hbounded
  refine ⟨h.paired.left_of_append, hstarted.of_append, hregistered.of_append, ?_, ?_,
    (List.pairwise_append.1 hmonotone).1, fun p hp => hbounded p (List.mem_append_left _ hp)⟩
  · rintro before change after rfl hpass
    exact h.behind before change (after ++ rest) (by simp) hpass
  · rintro before report after rfl
    have hnone := h.last before report (after ++ rest) (by simp)
    exact (List.append_eq_nil_iff.1 hnone).1

/-! ### A pass -/

/-- The progress behind each service that a pass comes to. -/
def progressed (completed total : Nat) : List Progress :=
  (List.range completed).map fun i => ⟨i + 1, total⟩

/-- What is told from the start of a coordinator on. Its pass comes to the first services, and it may
break off behind them. -/
def story (completed total : Nat) (fails : Bool) (report : ScanReport) : List Change :=
  .started false true :: .registered false true :: .percentageComplete .start ::
    (progressed completed total).map .percentageComplete ++
    ((if fails then [.started true false, .registered true false] else []) ++
      [.percentageComplete .finish, .exitNecessary report])

section Story

variable {completed total : Nat} {fails : Bool} {report : ScanReport}

theorem started_story : (story completed total fails report).filterMap Change.started? =
    (false, true) :: if fails then [(true, false)] else [] := by
  cases fails <;> simp [story, Change.started?, List.filterMap_cons]

theorem registered_story : (story completed total fails report).filterMap Change.registered? =
    (false, true) :: if fails then [(true, false)] else [] := by
  cases fails <;> simp [story, Change.registered?, List.filterMap_cons]

theorem progress_story : (story completed total fails report).filterMap Change.progress? =
    .start :: progressed completed total ++ [.finish] := by
  cases fails <;>
    simp [story, Change.progress?, List.filterMap_cons, List.filterMap_map, Function.comp_def]

/-- The report comes last, and once. -/
theorem exists_story_eq (completed total : Nat) (fails : Bool) (report : ScanReport) :
    ∃ body, story completed total fails report = body ++ [.exitNecessary report] ∧
      ∀ report', .exitNecessary report' ∉ body := by
  refine ⟨.started false true :: .registered false true :: .percentageComplete .start ::
    (progressed completed total).map .percentageComplete ++
    ((if fails then [.started true false, .registered true false] else []) ++
      [.percentageComplete .finish]), by simp [story], fun report' => ?_⟩
  cases fails <;> simp

/-- Nothing is expected behind changes that are not of `started`. -/
theorem isChain_paired_append (cs : List Change) {rest : List Change}
    (hcs : ∀ change ∈ cs, change.started? = none) (hrest : rest.IsChain Paired) :
    (cs ++ rest).IsChain Paired := by
  induction cs with
  | nil => exact hrest
  | cons change cs ih =>
    refine (ih fun c hc => hcs c (List.mem_cons_of_mem _ hc)).cons fun next _ old new hchange => ?_
    have hnone := hcs change List.mem_cons_self
    rw [hchange] at hnone
    contradiction

theorem isChain_paired_story : (story completed total fails report).IsChain Paired := by
  have hrounds : ∀ change ∈ Change.registered false true :: .percentageComplete .start ::
      (progressed completed total).map .percentageComplete, change.started? = none := by
    simp [Change.started?]
  have hpair (old new : Bool) : Paired (.started old new) (.registered old new) := by
    rintro _ _ ⟨⟩
    rfl
  have hend : List.IsChain Paired [.percentageComplete .finish, .exitNecessary report] :=
    isChain_paired_append [_, _] (by simp [Change.started?]) .nil
  refine List.isChain_cons_cons.2 ⟨hpair false true, isChain_paired_append _ hrounds ?_⟩
  cases fails with
  | false => exact hend
  | true =>
    refine List.isChain_cons_cons.2 ⟨hpair true false, ?_⟩
    exact isChain_paired_append [_] (by simp [Change.started?]) hend

theorem quotient_start : Progress.start.quotient = 0 := by simp [Progress.quotient, Progress.start]

theorem quotient_finish : Progress.finish.quotient = 1 := by
  simp [Progress.quotient, Progress.finish]

theorem bounded_of_mem_progressed (hle : completed ≤ total) {p : Progress}
    (hp : p ∈ progressed completed total) : 0 < p.total ∧ 0 ≤ p.quotient ∧ p.quotient ≤ 1 := by
  obtain ⟨i, hi, rfl⟩ := List.mem_map.1 hp
  have hlt : i < completed := List.mem_range.1 hi
  have htotal : 0 < total := by omega
  refine ⟨htotal, by unfold Progress.quotient; positivity, ?_⟩
  unfold Progress.quotient
  rw [div_le_one (by exact_mod_cast htotal)]
  exact_mod_cast (show i + 1 ≤ total by omega)

theorem monotone_progressed :
    (progressed completed total).Pairwise fun p p' => p.quotient ≤ p'.quotient := by
  refine List.pairwise_map.2 (List.pairwise_lt_range.imp fun {i j} hlt => ?_)
  have hle : i + 1 ≤ j + 1 := by omega
  unfold Progress.quotient
  dsimp only
  gcongr

theorem truthful_story (hle : completed ≤ total) :
    Truthful (story completed total fails report) := by
  have hbounded : ∀ p ∈ Progress.start :: progressed completed total ++ [.finish],
      0 < p.total ∧ 0 ≤ p.quotient ∧ p.quotient ≤ 1 := by
    intro p hp
    simp only [List.cons_append, List.mem_cons, List.mem_append, List.not_mem_nil, or_false] at hp
    rcases hp with rfl | hp | rfl
    · rw [quotient_start]
      exact ⟨Nat.one_pos, le_refl 0, zero_le_one⟩
    · exact bounded_of_mem_progressed hle hp
    · rw [quotient_finish]
      exact ⟨Nat.one_pos, zero_le_one, le_refl 1⟩
  refine ⟨isChain_paired_story, ?_, ?_, ?_, ?_, ?_, ?_⟩
  · rw [started_story]
    cases fails <;> simp [Chained]
  · rw [registered_story]
    cases fails <;> simp [Chained]
  · intro before change after heq hpass
    rcases before with _ | ⟨first, _ | ⟨second, before⟩⟩
    · obtain ⟨rfl, -⟩ := List.cons.inj heq
      contradiction
    · obtain ⟨rfl, -⟩ := List.cons.inj (List.cons.inj heq).2
      contradiction
    · obtain ⟨rfl, -⟩ := List.cons.inj (List.cons.inj heq).2
      exact ⟨false, true, by simp⟩
  · intro before report' after heq
    obtain ⟨body, hbody, hnone⟩ := exists_story_eq completed total fails report
    rw [hbody] at heq
    obtain ⟨behind, -, hlast⟩ := exists_append_of_notMem (hnone report') heq
    cases behind with
    | nil => exact (List.cons.inj hlast).2.symm
    | cons c behind => simp at hlast
  · rw [progress_story]
    have hfirst : ∀ p ∈ progressed completed total ++ [.finish],
        Progress.start.quotient ≤ p.quotient := by
      intro p hp
      rw [quotient_start]
      exact (hbounded p (List.mem_cons_of_mem _ hp)).2.1
    refine List.pairwise_cons.2 ⟨hfirst, List.pairwise_append.2 ⟨monotone_progressed,
      List.pairwise_singleton _ _, fun p hp p' hp' => ?_⟩⟩
    rw [List.mem_singleton.1 hp', quotient_finish]
    exact (bounded_of_mem_progressed hle hp).2.2
  · rw [progress_story]
    exact hbounded

theorem upToDate_story {s : State} (hstarted : s.isStarted = !fails)
    (hregistered : s.isRegistered = !fails) :
    UpToDate (story completed total fails report) s := by
  refine ⟨?_, ?_, ?_⟩
  · rw [started_story, hstarted]
    cases fails <;> rfl
  · rw [registered_story, hregistered]
    cases fails <;> rfl
  · intro before old new after heq
    cases after with
    | nil =>
      obtain ⟨body, hbody, -⟩ := exists_story_eq completed total fails report
      rw [hbody] at heq
      have hlast := (List.append_inj' heq rfl).2
      simp at hlast
    | cons next rest =>
      have hpaired : (story completed total fails report).IsChain Paired := isChain_paired_story
      rw [heq, List.isChain_append_cons_cons] at hpaired
      exact ⟨rest, by rw [hpaired.2.1 old new rfl]⟩

end Story

/-! ### What a call tells -/

section Told

variable {c : Coordinator} {s s' : State} {es : List Event}

theorem told_of_asked (h : ∀ e ∈ es, e.isAsked = true) : told es = [] := by
  refine List.filterMap_eq_nil_iff.2 fun e he => ?_
  cases e with
  | asked r x => rfl
  | fired change => exact nomatch h _ he
  | moved s s' => rfl

theorem told_rounds (total first : Nat) (l : List (PolledService × Inspection)) :
    told (rounds total first l) =
      (List.range' first l.length).map fun i => .percentageComplete ⟨i + 1, total⟩ := by
  induction l generalizing first with
  | nil => rfl
  | cons x l ih =>
    change told ([_, _, _] ++ rounds total (first + 1) l) = _
    rw [told_append, ih]
    rfl

/-- A pass tells its progress up to the first service that fails. -/
theorem told_inspected (total : Nat) (l : List (PolledService × Inspection)) :
    ∃ completed ≤ l.length,
      told (inspected total 0 l) = (progressed completed total).map .percentageComplete := by
  have hfailing : told (inspected total 0 l) = told (rounds total 0 (l.take (firstFailing l))) := by
    rw [inspected, told_append]
    split
    · rename_i s x _
      obtain ⟨_ | _, polled⟩ := x <;> exact List.append_nil _
    · exact List.append_nil _
  refine ⟨(l.take (firstFailing l)).length, List.length_take_le' .., ?_⟩
  rw [hfailing, told_rounds, progressed, List.range_eq_range', List.map_map]
  rfl

theorem Answers.told_scan (x : Answers) (id : String) : ∃ completed total, completed ≤ total ∧
    told (x.scan id) = (progressed completed total).map .percentageComplete := by
  have hfetch : told (x.fetch id) = [] := by
    obtain ⟨_ | _, _ | _, _⟩ := x <;> rfl
  rw [scan, told_append, hfetch, List.nil_append]
  cases x.configured with
  | error failure => exact ⟨0, 0, le_refl 0, rfl⟩
  | ok configuration =>
    have hlength : (x.inspections configuration).length = configuration.services.length := by
      simp [inspections]
    obtain ⟨completed, hle, htold⟩ :=
      told_inspected configuration.services.length (x.inspections configuration)
    exact ⟨completed, _, hlength ▸ hle, htold⟩

theorem Answers.told_pass (x : Answers) (metadata : Table String String) (id : String) :
    ∃ completed total, completed ≤ total ∧
      .started false true :: .registered false true :: told (x.pass metadata id) =
        story completed total x.fault?.isSome (x.report metadata) := by
  obtain ⟨completed, total, hle, hscan⟩ := x.told_scan id
  have hending : told x.ending =
      if x.fault?.isSome then [.started true false, .registered true false] else [] := by
    unfold ending
    cases x.fault? <;> rfl
  have hpass : told (x.pass metadata id) = .percentageComplete .start :: (told (x.scan id) ++
      (told x.ending ++ [.percentageComplete .finish, .exitNecessary (x.report metadata)])) := by
    rw [pass, ← List.singleton_append, told_append, told_append, told_append]
    rfl
  exact ⟨completed, total, hle, by rw [hpass, hscan, hending]; rfl⟩

/-- What was told is the state. -/
def Consistent (cs : List Change) (s : State) : Prop :=
  (cs = [] ∧ s.isStarted = false ∧ s.isRegistered = false) ∨
    s.isWaiting = false ∧ ∃ completed total fails report, completed ≤ total ∧
      cs = story completed total fails report ∧ s.isStarted = !fails ∧ s.isRegistered = !fails

theorem Consistent.truthful {cs : List Change} (h : Consistent cs s) : Truthful cs := by
  obtain ⟨rfl, -⟩ | ⟨-, completed, total, fails, report, hle, rfl, -⟩ := h
  · exact ⟨.nil, trivial, trivial, by simp, by simp, .nil, by simp⟩
  · exact truthful_story hle

theorem Consistent.upToDate {cs : List Change} (h : Consistent cs s) : UpToDate cs s := by
  obtain ⟨rfl, hstarted, hregistered⟩ | ⟨-, _, _, _, _, -, rfl, hstarted, hregistered⟩ := h
  · exact ⟨hstarted.symm, hregistered.symm, by simp⟩
  · exact upToDate_story hstarted hregistered

theorem Consistent.stage {cs : List Change} (h : Consistent cs s) (hstage : Stage c s es s') :
    Consistent (cs ++ told es) s' := by
  have hwaiting := hstage.isWaiting
  obtain ⟨rfl, -⟩ | ⟨hpast, -⟩ := h
  · rw [List.nil_append]
    cases hstage with
    | waits => exact .inl ⟨rfl, rfl, rfl⟩
    | fails hs ha fault =>
      refine .inl ⟨?_, rfl, rfl⟩
      rw [told_append, told_of_asked ha.asked]
      rfl
    | @runs _ asks id details hs ha x =>
      obtain ⟨completed, total, hle, hpass⟩ := x.told_pass c.metadata id
      refine .inr ⟨?_, completed, total, x.fault?.isSome, x.report c.metadata, hle, ?_, ?_⟩
      · cases x.fault? <;> rfl
      · rw [told_append, told_of_asked ha.asked, List.nil_append, ← hpass]
        rfl
      · cases x.fault? <;> exact ⟨rfl, rfl⟩
  · rw [hwaiting] at hpast
    contradiction

end Told

namespace Coordinator

variable {c : Coordinator} {listeners : Listeners} {errands : List Errand} {os : List Occurrence}
  {q : Pool Unit}

theorem upholds_of_run (h : (c.desk listeners errands).Run os q) :
    q.Upholds Consistent (c.Serves errands) (changes os) := by
  have hinitial : Consistent [] .initial := .inl ⟨rfl, rfl, rfl⟩
  refine h.upholds (upholds_desk hinitial ?_)
  intro invocation t fired m es r m' ht hconsistent htraces
  rcases c.duty_cases ht htraces with ⟨-, rfl, rfl⟩ | ⟨-, -, hstage⟩
  · rwa [show told [] = [] from rfl, List.append_nil]
  · exact hconsistent.stage hstage

/-- At any moment of any run, what the coordinator has told its listeners is true; whenever no call has
the guard, it is the state, and the guard is free between the errands. -/
theorem notifications_tell_truth (h : (c.desk listeners errands).Run os q) :
    Truthful (changes os) ∧ (q.holder = none → UpToDate (changes os) q.memory.state) ∧
      ((∀ (i : Nat) errand, errands[i]? = some errand →
        q.calls[i]? = some (.done ()) ∨ q.calls[i]? = some (c.errand errand)) → q.holder = none) := by
  have hupholds := upholds_of_run h
  obtain ⟨rest, s, hcomplete⟩ := hupholds.exists_completion
  refine ⟨hcomplete.truthful.of_append, fun hfree => (hupholds.free hfree).upToDate, ?_⟩
  exact free_of_idle hupholds

/-- A listener comes, and then the check of the second service fails. -/
theorem notifications_tell_truth_sample :
    ∃ os q, (desk {} {} [.addListener, .invoke .startUp, .look]).Run os q ∧
      changes os = [.started false true, .registered false true, .percentageComplete ⟨0, 1⟩,
        .percentageComplete ⟨1, 2⟩, .started true false, .registered true false,
        .percentageComplete ⟨1, 1⟩, .exitNecessary .empty] ∧
      q.memory.state = .fatal (.check 2 ⟨"gone", []⟩) ∧ Truthful (changes os) ∧
      UpToDate (changes os) q.memory.state := by
  let web : PolledService := ⟨1, 7, none, .v4 10 0 0 1, "HTTP", ∅⟩
  let mail : PolledService := ⟨2, 7, none, .v4 10 0 0 1, "SMTP", ∅⟩
  let time : Timestamp := ⟨2024, 5, 1, 0, 0, 0, 0, by decide, by decide, by decide, by decide,
    by decide, by decide, by decide⟩
  let x : Answers :=
    { locators := .ok []
      configuration := .ok ⟨[web, mail], time⟩
      inspection := fun i => if i = 0 then ⟨.ok (), .ok none⟩ else ⟨.ok (), .error ⟨"gone", []⟩⟩ }
  let details : HostDetails := ⟨none, none, "x86_64", .v4 127 0 0 1, none⟩
  let m : Memory := { listeners := ⟨1, [⟨0⟩]⟩ }
  have hstart : (Coordinator.start {} "7").run.Traces m _ (.ok ()) _ :=
    (traces_start rfl).2 ⟨details, .inr ⟨x, rfl, rfl, rfl⟩⟩
  have htry := (traces_tryStartUp rfl).2 (.inr ⟨rfl, .inr (.inr ⟨"7", _, rfl, hstart⟩)⟩)
  have hcall : (carryOut .startUp (tryStartUp {}) .error).Traces m _ (.ok ()) _ :=
    (traces_carryOut_of_accepted rfl).2 (.inl ⟨htry, rfl⟩)
  have hadds : (desk {} {} [.addListener, .invoke .startUp, .look]).calls[0]? =
      some (.access (fun m => { m with listeners := m.listeners.add.2 }) fun _ => .done ()) := rfl
  obtain ⟨os, hrun, hes⟩ := Pool.exists_run_guarded (i := 1) (a := ())
    (p := ⟨m, none, [.done (), errand {} (.invoke .startUp), errand {} .look]⟩)
    (congrArg some (Call.forget_guarded _)) rfl (Call.traces_forget.2 ⟨_, hcall⟩)
  have hrun := Pool.Run.step (.access hadds) hrun
  obtain ⟨htruthful, hupToDate, -⟩ := notifications_tell_truth hrun
  refine ⟨_, _, hrun, ?_, rfl, htruthful, hupToDate rfl⟩
  rw [← List.singleton_append, changes_append, changes_accessed, changes, hes]
  rfl

end Coordinator

end ServiceWatch.Poller
