import ServiceWatch.Poller.Identity
import ServiceWatch.Proofs.Files.Disk
import ServiceWatch.Proofs.Json.Records
import ServiceWatch.Proofs.Poller.Lifecycle

/-! A poller that finds the identity it once stored goes by it, and does not register again. -/
namespace ServiceWatch.Poller

open ServiceWatch.Files (Disk FileSystem FilePath run_bind_of_run)

/-! ### The file -/

namespace IdentityFile

theorem decode_toJson (id : String) : decode (toJson id) = .ok (some id) :=
  (Json.Shape.Reads.optional (Json.lossless_string.option nofun) _ (some id)).decode_record
    (by simp [Json.Field.Distinct, Json.Shape.optional]) _

theorem parse_toJson (p : FilePath) (id : String) :
    parse p (toJson id).pretty.toList = .ok (some id) := by
  have hlegible : (toJson id).Legible := ⟨Json.token_ofString _, Json.token_ofString id, trivial⟩
  unfold parse
  rw [Json.decodeText_pretty hlegible, decode_toJson]

theorem refused_ok_bind {α β : Type} {what : String} {a : α} {f : α → Except Failure β} :
    (refused what (.ok a) >>= f) = f a := rfl

variable {σ : Type} {fs : FileSystem (StateM σ)} {p : FilePath} {id : String} {w w' : σ}

theorem write_of_save (h : (save fs p id).run w = (.ok (), w')) :
    ∃ w₁, (fs.write p (render id)).run w₁ = (.ok (), w') := by
  obtain ⟨created, w₁, hcreate⟩ : ∃ r w₁, (createParent fs p).run w = (r, w₁) := ⟨_, _, rfl⟩
  obtain ⟨written, w₂, hwrite⟩ : ∃ r w₂, (fs.write p (render id)).run w₁ = (r, w₂) := ⟨_, _, rfl⟩
  unfold save at h
  rw [run_bind_of_run hcreate] at h
  cases created with
  | error failure => cases h
  | ok u =>
    dsimp only at h
    rw [run_bind_of_run hwrite] at h
    cases written with
    | error fault => cases h
    | ok u =>
      cases h
      exact ⟨w₁, hwrite⟩

theorem load_of_save (hfs : fs.Faithful) (h : (save fs p id).run w = (.ok (), w')) :
    (load fs p).run w' = (.ok (some id), w') := by
  obtain ⟨w₁, hwrite⟩ := write_of_save h
  unfold load
  rw [run_bind_of_run (hfs.contains_written hwrite), if_pos rfl,
    run_bind_of_run (hfs.readText_written hwrite), refused_ok_bind, parse_toJson]
  rfl

theorem load_world (hfs : fs.Faithful) (p : FilePath) (w : σ) : ((load fs p).run w).2 = w := by
  obtain ⟨there, w₁, hcontains⟩ : ∃ r w₁, (fs.contains p).run w = (r, w₁) := ⟨_, _, rfl⟩
  obtain rfl : w₁ = w := (congrArg Prod.snd hcontains).symm.trans (hfs.contains_world p w)
  unfold load
  rw [run_bind_of_run hcontains]
  split
  · obtain ⟨text, w₂, hread⟩ : ∃ r w₂, (fs.readText p).run w₁ = (r, w₂) := ⟨_, _, rfl⟩
    rw [run_bind_of_run hread]
    exact (congrArg Prod.snd hread).symm.trans (hfs.readText_world p w₁)
  · rfl

end IdentityFile

/-! ### A store behind the answers -/

def Event.isStoring : Event → Bool
  | .asked (.storeIdentity _) _ => true
  | _ => false

namespace IdentityStore

theorem load_inFile {σ : Type} {fs : FileSystem (StateM σ)} {p : FilePath} {w w' : σ}
    {x : Except Failure (Option String)} (h : (IdentityFile.load fs p).run w = (x, w')) :
    (inFile fs p).load.run w = (x.mapError .unreadable, w') := by
  rw [inFile, StateT.run_map, h]
  rfl

variable {σ : Type} (store : IdentityStore (StateM σ))

/-- What an event does to the world of a store, which answers for identities. -/
def Step (w : σ) : Event → σ → Prop
  | .asked .loadIdentity x, w' => store.load.run w = (x, w')
  | .asked (.storeIdentity id) x, w' => (store.save id).run w = (x, w')
  | _, w' => w' = w

/-- What events do to it, one after the other. -/
def Steps (w : σ) : List Event → σ → Prop
  | [], w' => w' = w
  | e :: es, w' => ∃ w₁, store.Step w e w₁ ∧ Steps w₁ es w'

variable {store} {w w' : σ} {es es' : List Event}

theorem steps_append :
    store.Steps w (es ++ es') w' ↔ ∃ w₁, store.Steps w es w₁ ∧ store.Steps w₁ es' w' := by
  induction es generalizing w with
  | nil => simp [Steps]
  | cons e es ih =>
    simp only [List.cons_append, Steps, ih]
    grind

theorem Steps.world_eq (hload : ∀ w, (store.load.run w).2 = w) (h : store.Steps w es w')
    (hes : ∀ e ∈ es, e.isStoring = false) : w' = w := by
  induction es generalizing w with
  | nil => exact h
  | cons e es ih =>
    obtain ⟨w₁, hstep, hrest⟩ := h
    have he := hes e List.mem_cons_self
    obtain rfl : w₁ = w := by
      unfold Step at hstep
      split at hstep
      · exact (congrArg Prod.snd hstep).symm.trans (hload w)
      · contradiction
      · exact hstep
    exact ih hrest fun e he => hes e (List.mem_cons_of_mem _ he)

end IdentityStore

/-! ### Going by an identity -/

variable {c : Coordinator} {m m' : Memory} {es : List Event} {id : String}

/-- Whoever is given an identity is given this one, and no other one is looked for. -/
def Event.GoesBy (id : String) : Event → Prop
  | .asked (.announce id' _) _ | .asked (.fetchConfiguration id') _
  | .asked (.fetchName id') _ => id' = id
  | .asked .loadIdentity _ | .asked (.storeIdentity _) _ | .asked (.registerAt _) _
  | .moved _ .registering => False
  | _ => True

theorem Event.GoesBy.isStoring {e : Event} (h : e.GoesBy id) : e.isStoring = false := by
  cases e with
  | asked r x => cases r <;> first | contradiction | rfl
  | fired change => rfl
  | moved a b => rfl

theorem goesBy_of_mem_inspected {total first : Nat} {l : List (PolledService × Inspection)} {e : Event}
    (h : e ∈ inspected total first l) : e.GoesBy id := by
  obtain ⟨_, _, rfl⟩ | ⟨_, _, rfl⟩ | ⟨_, rfl⟩ := cases_of_mem_inspected h <;> trivial

theorem Answers.goesBy_of_mem_pass {x : Answers} {metadata : Table String String} {e : Event}
    (h : e ∈ x.pass metadata id) : e.GoesBy id := by
  have hfetch : e ∈ x.fetch id → e.GoesBy id := by
    unfold fetch
    cases x.locators with
    | error failure => simp +contextual [Event.GoesBy]
    | ok locators => cases x.configuration <;> simp +contextual [or_imp, Event.GoesBy]
  have hending : e ∈ x.ending → e.GoesBy id := by
    unfold ending
    cases x.fault? <;> simp +contextual [or_imp, Event.GoesBy]
  unfold pass scan at h
  simp only [List.mem_cons, List.mem_append, List.not_mem_nil, or_false] at h
  rcases h with rfl | (h | h) | h | rfl | rfl
  · trivial
  · exact hfetch h
  · split at h
    · contradiction
    · exact goesBy_of_mem_inspected h
  · exact hending h
  · trivial
  · trivial

/-- The poller is announced under an identity, and all events go by it. -/
def Announced (id : String) (es : List Event) : Prop :=
  (∃ details x, .asked (.announce id details) x ∈ es) ∧ ∀ e ∈ es, e.GoesBy id

theorem announced_start {r : Except Fault Unit} (hm : m.state.isWaiting = true)
    (h : (c.start id).run.Traces m es r m') : Announced id es := by
  obtain ⟨details, ⟨failure, rfl, -, -⟩ | ⟨x, rfl, -, -⟩⟩ := (traces_start hm).1 h
  · exact ⟨⟨details, .error failure, by simp⟩, by simp [Event.GoesBy]⟩
  · refine ⟨⟨details, .ok (), by simp⟩, fun e he => ?_⟩
    simp only [List.cons_append, List.nil_append, List.mem_cons] at he
    rcases he with rfl | rfl | rfl | rfl | rfl | he
    · trivial
    · rfl
    · trivial
    · trivial
    · trivial
    · exact x.goesBy_of_mem_pass he

theorem Announced.append {tail : List Event} (h : Announced id es) (ht : ∀ e ∈ tail, e.GoesBy id) :
    Announced id (es ++ tail) := by
  obtain ⟨⟨details, x, hmem⟩, hes⟩ := h
  exact ⟨⟨details, x, List.mem_append_left _ hmem⟩,
    fun e he => (List.mem_append.1 he).elim (hes e) (ht e)⟩

theorem goesBy_of_mem_turn {s : State} {fault : Fault} {e : Event} (h : e ∈ s.turn (.fatal fault)) :
    e.GoesBy id := by
  cases s <;> simp [State.turn, State.isTerminal, State.isStarted, State.isRegistered] at h
  · subst h
    trivial
  · subst h
    trivial
  · obtain rfl | rfl | rfl := h
    all_goals trivial

/-- What an accepted call shows behind its attempt goes by any identity. -/
theorem exists_traces_attempt {operation : Operation} {attempt : Attempt Unit}
    {answer : Fault → Except Fault Unit} {r : Except Fault Unit}
    (hs : m.state.supports operation = true)
    (h : (carryOut operation attempt answer).Traces m es r m') :
    ∃ front r₁ m₁ tail, attempt.run.Traces m front r₁ m₁ ∧ es = front ++ tail ∧
      ∀ id, ∀ e ∈ tail, e.GoesBy id := by
  rcases (traces_carryOut_of_accepted hs).1 h with ⟨htry, -⟩ | ⟨front, fault, m₁, htry, -, rfl, -⟩
  · exact ⟨es, _, m', [], htry, (List.append_nil es).symm, by simp⟩
  · exact ⟨front, _, m₁, _, htry, rfl, fun id e he => goesBy_of_mem_turn he⟩

theorem Stage.not_waiting {s s' : State} (h : Stage c s es s')
    (hes : .moved .initial .registering ∉ es) : s'.isWaiting = false := by
  cases h with
  | waits => simp at hes
  | fails => rfl
  | runs hs ha x => cases x.fault? <;> rfl

/-- A coordinator that starts up looks for an identity first. If it finds one, it is announced under it,
and waits for nothing. -/
theorem traces_startUp_load {r : Except Fault Unit} (hc : c.requireAll = .ok ())
    (hm : m.state = .initial) (h : (carryOut .startUp c.tryStartUp .error).Traces m es r m') :
    ∃ x rest, es = .asked .loadIdentity x :: rest ∧
      ∀ id, x = .ok (some id) → Announced id rest ∧ m'.state.isWaiting = false := by
  have hs : m.state.supports .startUp = true := State.supports_eq_true_iff.2 hm
  have hw := State.isWaiting_of_supports hs nofun
  have hcases := c.duty_cases (show c.duty? .startUp = some _ from rfl) h
  obtain ⟨front, r₁, m₁, tail, htry, rfl, htail⟩ := exists_traces_attempt hs h
  rcases (traces_tryStartUp hm).1 htry with
    ⟨reason, hmissing, -⟩ | ⟨-, ⟨failure, rfl, -⟩ | ⟨rfl, -⟩ | ⟨id, rest, rfl, hstart⟩⟩
  · rw [hc] at hmissing
    contradiction
  · exact ⟨_, _, rfl, by simp⟩
  · exact ⟨_, _, rfl, by simp⟩
  · have hannounced : Announced id (rest ++ tail) := (announced_start hw hstart).append (htail id)
    refine ⟨_, _, rfl, ?_⟩
    rintro _ ⟨⟩
    rcases hcases with ⟨-, hnone, -⟩ | ⟨-, -, hstage⟩
    · simp at hnone
    · refine ⟨hannounced, hstage.not_waiting ?_⟩
      rintro (_ | ⟨_, hwaits⟩)
      exact hannounced.2 _ hwaits

/-- Where no identity is found, a call to start up goes on to wait for the registration. -/
theorem waits_of_no_identity {r : Except Fault Unit} (hm : m.state = .initial)
    (h : (carryOut .startUp c.tryStartUp .error).Traces m es r m')
    (hl : .asked .loadIdentity (.ok none) ∈ es) : r = .ok () ∧ m'.state = .registering := by
  have hs : m.state.supports .startUp = true := State.supports_eq_true_iff.2 hm
  have hw := State.isWaiting_of_supports hs nofun
  have hstart {id : String} {es : List Event} {r : Except Fault Unit} {m' : Memory}
      (hrest : (c.start id).run.Traces m es r m') : .asked .loadIdentity (.ok none) ∉ es :=
    fun hl => (announced_start hw hrest).2 _ hl
  have htry {es : List Event} {r : Except Fault Unit} {m' : Memory}
      (h : c.tryStartUp.run.Traces m es r m') (hl : .asked .loadIdentity (.ok none) ∈ es) :
      r = .ok () ∧ m'.state = .registering := by
    rcases (traces_tryStartUp hm).1 h with ⟨_, -, rfl, -⟩ | ⟨-, ⟨_, rfl, -⟩ | ⟨rfl, rfl, rfl⟩ |
      ⟨id, rest, rfl, hrest⟩⟩
    · simp at hl
    · simp at hl
    · exact ⟨rfl, rfl⟩
    · exact absurd (by simpa using hl) (hstart hrest)
  rcases (traces_carryOut_of_accepted hs).1 h with
    ⟨htried, rfl⟩ | ⟨es₁, fault, m₁, htried, -, rfl, -⟩
  · exact htry htried hl
  · have hmoved : .asked .loadIdentity (.ok none) ∉ m₁.state.turn (.fatal fault) :=
      fun hturn => @goesBy_of_mem_turn "" _ _ _ hturn
    have hr := (htry htried ((List.mem_append.1 hl).resolve_right hmoved)).1
    contradiction

theorem countP_isStoring_eq_zero (h : ∀ e ∈ es, e.GoesBy id) : es.countP Event.isStoring = 0 :=
  List.countP_eq_zero.2 fun e he => by simp [(h e he).isStoring]

/-- More identities come from registrations than are stored, as long as this is so for attempts. -/
theorem storings_le_of_carryOut {operation : Operation} {attempt : Attempt Unit}
    {answer : Fault → Except Fault Unit} {r : Except Fault Unit}
    (ha : m.state.supports operation = true → ∀ {es r m'}, attempt.run.Traces m es r m' →
      es.countP Event.isStoring ≤ es.countP Event.isRegistration)
    (h : (carryOut operation attempt answer).Traces m es r m') :
    es.countP Event.isStoring ≤ es.countP Event.isRegistration := by
  cases hs : m.state.supports operation with
  | false =>
    obtain ⟨rfl, -⟩ := (traces_carryOut_of_refused hs).1 h
    exact Nat.le_refl 0
  | true =>
    obtain ⟨front, r₁, m₁, tail, htry, rfl, htail⟩ := exists_traces_attempt hs h
    have hfront := ha hs htry
    rw [List.countP_append, List.countP_append, countP_isStoring_eq_zero (htail "")]
    omega

theorem storings_le_of_duty {invocation : Invocation} {t : Call (Except Fault Unit)}
    {r : Except Fault Unit} (ht : c.duty? invocation = some t) (h : t.Traces m es r m') :
    es.countP Event.isStoring ≤ es.countP Event.isRegistration := by
  cases invocation with
  | startUp =>
    cases ht
    refine storings_le_of_carryOut (fun hs es r m' htry => ?_) h
    rcases (traces_tryStartUp (State.supports_eq_true_iff.1 hs)).1 htry with
      ⟨reason, -, rfl, -⟩ | ⟨-, ⟨failure, rfl, -⟩ | ⟨rfl, -⟩ | ⟨id, rest, rfl, hstart⟩⟩
    · exact Nat.le_refl 0
    · exact Nat.le_refl 0
    · exact Nat.le_refl 0
    · have hw := State.isWaiting_of_supports hs nofun
      have hrest := (announced_start hw hstart).2
      simp [List.countP_cons, countP_isStoring_eq_zero hrest, Event.isStoring]
  | register location =>
    cases ht
    refine storings_le_of_carryOut (fun hs es r m' htry => ?_) h
    rcases traces_tryRegister.1 htry with
      ⟨reason, -, rfl, -⟩ | ⟨-, ⟨failure, rfl, -⟩ | ⟨id, stored, rest, rfl, hstart⟩⟩
    · exact Nat.le_refl 0
    · exact Nat.zero_le 1
    · have hw := State.isWaiting_of_supports hs nofun
      have hrest := (announced_start hw hstart).2
      simp [List.countP_cons, countP_isStoring_eq_zero hrest, Event.isStoring, Event.isRegistration]
  | pollService id => contradiction

/-! ### Runs -/

namespace Pool

variable {invocations : List Invocation} {duty : Nat → Option (Call (Except Fault Unit))}
  {turns : List (Turn (Except Fault Unit))}

theorem Serial.storings_le (hd : Serves c invocations duty) (h : Serial duty m turns m') :
    ((shown turns).map Prod.snd).countP Event.isStoring ≤
      ((shown turns).map Prod.snd).countP Event.isRegistration := by
  induction h with
  | nil => exact Nat.le_refl 0
  | @cons duty t m m₁ m' turn turns todo traces _ ih =>
    obtain ⟨_, -, ht⟩ := hd _ _ todo
    have hturn := storings_le_of_duty ht traces
    have hrest := ih (hd.update turn.call)
    rw [map_snd_shown_cons, List.countP_append, List.countP_append]
    omega

/-- The first that a fresh coordinator shows is that it looks for its identity. If it finds one, it is
announced under it, and goes by it. -/
theorem Serial.load_first (hd : Serves c invocations duty) (hc : c.requireAll = .ok ())
    (h : Serial duty m turns m') (hm : m.state = .initial) :
    ((∀ turn ∈ turns, invocations[turn.call]? ≠ some .startUp) ∧ shown turns = []) ∨
      ∃ x rest, (shown turns).map Prod.snd = .asked .loadIdentity x :: rest ∧
        ∀ id, x = .ok (some id) → Announced id rest := by
  induction h with
  | nil => exact .inl ⟨by simp, rfl⟩
  | @cons duty t m m₁ m' turn turns todo traces hserial ih =>
    obtain ⟨invocation, hinv, ht⟩ := hd _ _ todo
    rw [map_snd_shown_cons]
    cases invocation with
    | startUp =>
      cases ht
      obtain ⟨x, rest, hes, hx⟩ := traces_startUp_load hc hm traces
      refine .inr ⟨x, rest ++ (shown turns).map Prod.snd, by rw [hes]; rfl, fun id hid => ?_⟩
      obtain ⟨hannounced, hdone⟩ := hx id hid
      obtain ⟨hnone, -⟩ := (hserial.life (hd.update turn.call)).of_not_waiting hdone
      rwa [hnone, List.append_nil]
    | register location =>
      cases ht
      have hs : m.state.supports .register = false := by
        rw [hm]
        rfl
      obtain ⟨hes, -, rfl⟩ := (traces_carryOut_of_refused hs).1 traces
      rw [hes]
      rcases ih (hd.update _) hm with ⟨hturns, hnone⟩ | hload
      · refine .inl ⟨fun other ho => ?_, by simp [hes, hnone]⟩
        rcases List.mem_cons.1 ho with rfl | ho
        · simp [hinv]
        · exact hturns other ho
      · exact .inr hload
    | pollService id => contradiction

end Pool

section Runs

variable {listeners : Listeners} {invocations : List Invocation} {os : List Occurrence}
  {q : Pool (Except Fault Unit)}

/-- A coordinator stores one identity at most. -/
theorem Coordinator.storings_le_one (h : (c.pool listeners invocations).Run os q) :
    ((events os).map Prod.snd).countP Event.isStoring ≤ 1 := by
  obtain ⟨rest, r, hrest, hr, -⟩ := c.exists_run_isDone h Request.someAnswer
  have hrun := h.trans hrest
  obtain ⟨turns, hserial, hshown, -⟩ := hrun.serial hr (c.keeps_pool listeners invocations)
  have hserves := Pool.serves_pool c invocations
  have hle := hserial.storings_le hserves
  have hone : _ ≤ 1 := Nat.le_of_add_right_le (hserial.life hserves).course.registrations
  rw [← hshown, Pool.events_append, List.map_append] at hle hone
  rw [List.countP_append] at hle
  omega

/-- What a run has shown so far is nothing, or starts with the look at the identity. -/
theorem Coordinator.load_first (hc : c.requireAll = .ok ())
    (h : (c.pool listeners invocations).Run os q) (hq : q.IsDone) :
    (.startUp ∉ invocations ∧ events os = []) ∨
      ∃ x rest, (events os).map Prod.snd = .asked .loadIdentity x :: rest ∧
        ∀ id, x = .ok (some id) → Announced id rest := by
  obtain ⟨turns, hserial, hshown, -⟩ := h.serial hq (c.keeps_pool listeners invocations)
  rw [hshown]
  rcases hserial.load_first (Pool.serves_pool c invocations) hc rfl with ⟨hturns, hnone⟩ | hload
  · refine .inl ⟨fun hmem => ?_, hnone⟩
    obtain ⟨i, hi⟩ := List.mem_iff_getElem?.1 hmem
    obtain ⟨turn, hturn, rfl⟩ := hserial.exists_turn (i := i)
      (t := carryOut .startUp c.tryStartUp .error) (by simp [hi, duty?])
    exact hturns turn hturn hi
  · exact .inr hload

/-- All that is shown is that an identity was found, and what goes by it. -/
def Settled (id : String) (es : List Event) : Prop :=
  ∀ e ∈ es, e = .asked .loadIdentity (.ok (some id)) ∨ e.GoesBy id

theorem Announced.settled (h : Announced id es) :
    Settled id (.asked .loadIdentity (.ok (some id)) :: es) := by
  intro e he
  rcases List.mem_cons.1 he with rfl | he
  · exact .inl rfl
  · exact .inr (h.2 e he)

variable {σ : Type} {store : IdentityStore (StateM σ)} {w w' : σ}

theorem IdentityStore.step_of_goesBy {e : Event} (h : e.GoesBy id) : store.Step w e w' ↔ w' = w := by
  cases e with
  | asked r x => cases r <;> first | contradiction | rfl
  | fired change => rfl
  | moved a b => rfl

theorem IdentityStore.steps_of_settled (hload : store.load.run w = (.ok (some id), w))
    (h : Settled id es) : store.Steps w es w' ↔ w' = w := by
  induction es with
  | nil => rfl
  | cons e es ih =>
    have hstep (w₁ : σ) : store.Step w e w₁ ↔ w₁ = w := by
      rcases h e List.mem_cons_self with rfl | he
      · change store.load.run w = _ ↔ _
        rw [hload]
        exact ⟨fun heq => (Prod.mk.inj heq).2.symm, fun heq => heq ▸ rfl⟩
      · exact step_of_goesBy he
    simp only [Steps, hstep, exists_eq_left]
    exact ih fun e he => h e (List.mem_cons_of_mem _ he)

namespace Coordinator

/-- A coordinator that is done went by the identity that was there. -/
theorem settled_of_isDone (hc : c.requireAll = .ok ()) (h : (c.pool listeners invocations).Run os q)
    (hq : q.IsDone) (hload : store.load.run w = (.ok (some id), w))
    (hw : store.Steps w ((events os).map Prod.snd) w') : Settled id ((events os).map Prod.snd) ∧
      (.startUp ∈ invocations → ∃ details x,
        .asked (.announce id details) x ∈ (events os).map Prod.snd) := by
  rcases load_first hc h hq with ⟨hnone, hes⟩ | ⟨x, rest, hes, hx⟩
  · rw [hes]
    exact ⟨by simp [Settled], fun hmem => (hnone hmem).elim⟩
  · rw [hes] at hw ⊢
    obtain ⟨w₁, hstep, -⟩ := hw
    obtain rfl : x = .ok (some id) := congrArg Prod.fst (hstep.symm.trans hload)
    have hannounced := hx id rfl
    obtain ⟨details, y, hmem⟩ := hannounced.1
    exact ⟨hannounced.settled, fun _ => ⟨details, y, List.mem_cons_of_mem _ hmem⟩⟩

/-- Answers of collaborators where an identity is found. -/
def found (id : String) : (r : Request) → r.Answer
  | .loadIdentity => .ok (some id)
  | r => r.someAnswer

/-- From wherever it is, a coordinator can come to its end with the identity that is there. -/
theorem exists_run_steps (hc : c.requireAll = .ok ()) (h : (c.pool listeners invocations).Run os q)
    (hload : store.load.run w = (.ok (some id), w))
    (hw : store.Steps w ((events os).map Prod.snd) w') :
    ∃ rest r, q.Run rest r ∧ r.IsDone ∧ store.Steps w ((events (os ++ rest)).map Prod.snd) w := by
  obtain ⟨rest, r, hrest, hr, hanswered⟩ := c.exists_run_isDone h (found id)
  refine ⟨rest, r, hrest, hr, ?_⟩
  rcases load_first hc (h.trans hrest) hr with ⟨-, hes⟩ | ⟨x, tail, hes, hx⟩
  · rw [hes]
    rfl
  · have hfound : x = .ok (some id) := by
      rw [Pool.events_append, List.map_append] at hes
      generalize (events os).map Prod.snd = es at hes hw
      cases es with
      | nil =>
        refine hanswered .loadIdentity x ?_
        rw [List.nil_append] at hes
        rw [hes]
        exact List.mem_cons_self
      | cons e es =>
        obtain ⟨rfl, -⟩ := List.cons.inj hes
        obtain ⟨w₁, hstep, -⟩ := hw
        exact congrArg Prod.fst (hstep.symm.trans hload)
    subst hfound
    rw [hes]
    exact (IdentityStore.steps_of_settled hload (hx id rfl).settled).2 rfl

end Coordinator

end Runs

/-- Let a coordinator hand an identity to a file that a faithful file system keeps, and let this
succeed. Wherever the run goes from there, the file then holds the identity. A complete coordinator
that starts over with the file goes by it whatever it is asked to do, and is announced under it once
it has started up; nothing keeps it from that. -/
theorem Coordinator.identity_survives_restart {σ : Type} {fs : FileSystem (StateM σ)}
    (hfs : fs.Faithful) (p : FilePath) (c : Coordinator) {listeners : Listeners}
    {invocations : List Invocation} {os : List Occurrence} {q : Pool (Except Fault Unit)} {w w₁ : σ}
    {id : String} (h : (c.pool listeners invocations).Run os q)
    (hw : (IdentityStore.inFile fs p).Steps w ((events os).map Prod.snd) w₁)
    (hid : .asked (.storeIdentity id) (.ok ()) ∈ (events os).map Prod.snd) :
    (IdentityFile.load fs p).run w₁ = (.ok (some id), w₁) ∧
    ∀ (c' : Coordinator) listeners' invocations' os' q' w₂, c'.requireAll = .ok () →
      (c'.pool listeners' invocations').Run os' q' →
      (IdentityStore.inFile fs p).Steps w₁ ((events os').map Prod.snd) w₂ →
        w₂ = w₁ ∧ Settled id ((events os').map Prod.snd) ∧
        (q'.IsDone → .startUp ∈ invocations' → ∃ details x,
          .asked (.announce id details) x ∈ (events os').map Prod.snd) ∧
        ∃ rest r, q'.Run rest r ∧ r.IsDone ∧
          (IdentityStore.inFile fs p).Steps w₂ ((events rest).map Prod.snd) w₂ := by
  have hload : (IdentityFile.load fs p).run w₁ = (.ok (some id), w₁) := by
    obtain ⟨before, after, hes⟩ := List.append_of_mem hid
    rw [hes] at hw
    obtain ⟨w₂, -, w₃, hsave, hafter⟩ := IdentityStore.steps_append.1 hw
    -- behind the one storing of a run, nothing is stored
    have hone := Coordinator.storings_le_one h
    rw [hes, List.countP_append, List.countP_cons_of_pos rfl] at hone
    have hnone : after.countP Event.isStoring = 0 := by omega
    obtain rfl : w₁ = w₃ := IdentityStore.Steps.world_eq (IdentityFile.load_world hfs p) hafter
      fun e he => by simpa using List.countP_eq_zero.1 hnone e he
    exact IdentityFile.load_of_save hfs hsave
  have hstore : (IdentityStore.inFile fs p).load.run w₁ = (.ok (some id), w₁) :=
    IdentityStore.load_inFile hload
  refine ⟨hload, fun c' listeners' invocations' os' q' w₂ hc' h' hw' => ?_⟩
  obtain ⟨rest, r, hrest, hr, hsteps⟩ := Coordinator.exists_run_steps hc' h' hstore hw'
  have hall := (Coordinator.settled_of_isDone hc' (h'.trans hrest) hr hstore hsteps).1
  rw [Pool.events_append, List.map_append] at hall hsteps
  have hsettled : Settled id ((events os').map Prod.snd) :=
    fun e he => hall e (List.mem_append_left _ he)
  obtain rfl : w₂ = w₁ := (IdentityStore.steps_of_settled hstore hsettled).1 hw'
  refine ⟨rfl, hsettled, fun hq' => (Coordinator.settled_of_isDone hc' h' hq' hstore hw').2,
    rest, r, hrest, hr, ?_⟩
  exact (IdentityStore.steps_of_settled hstore fun e he => hall e (List.mem_append_right _ he)).2 rfl

theorem Coordinator.identity_survives_restart_sample :
    let file : FilePath := ⟨"settings.json"⟩
    let store := IdentityStore.inFile Disk.fileSystem file
    let disk := Disk.atDirectory ["srv"]
    let id := "\"7\"\n"
    let refused : Failure := ⟨"refused", []⟩
    ∃ os q disk', (Coordinator.pool {} {} [.startUp, .register "Berlin"]).Run os q ∧
      store.Steps disk ((events os).map Prod.snd) disk' ∧
      q.memory.state = .fatal (.backend refused) ∧
      (IdentityFile.load Disk.fileSystem file).run disk' = (.ok (some id), disk') ∧
      ∃ os' q', (Coordinator.pool {} {} [.startUp]).Run os' q' ∧ q'.IsDone ∧
        store.Steps disk' ((events os').map Prod.snd) disk' ∧
        ∃ details x, .asked (.announce id details) x ∈ (events os').map Prod.snd := by
  intro file store disk id refused
  let details : HostDetails := ⟨none, none, "x86_64", .v4 127 0 0 1, none⟩
  let disk' := disk.put "/srv/settings.json" (IdentityFile.render id)
  have waits : (carryOut .startUp (Coordinator.tryStartUp {}) .error).Traces {}
      [.asked .loadIdentity (.ok none), .moved .initial .registering] (.ok ())
      { state := .registering } :=
    (traces_carryOut_of_accepted rfl).2
      (.inl ⟨(traces_tryStartUp rfl).2 (.inr ⟨rfl, .inr (.inl ⟨rfl, rfl, rfl⟩)⟩), rfl⟩)
  have start : (Coordinator.start {} id).run.Traces { state := .registering }
      [.asked .hostDetails details, .asked (.announce id details) (.error refused)]
      (.error (.backend refused)) { state := .registering } :=
    (traces_start rfl).2 ⟨details, .inl ⟨refused, rfl, rfl, rfl⟩⟩
  have fails : (carryOut .register (Coordinator.tryRegister {} "Berlin") fun _ => .ok ()).Traces
      { state := .registering } [.asked (.registerAt "Berlin") (.ok id),
        .asked (.storeIdentity id) (.ok ()), .asked .hostDetails details,
        .asked (.announce id details) (.error refused),
        .moved .registering (.fatal (.backend refused))] (.ok ())
      { state := .fatal (.backend refused) } :=
    (traces_carryOut_of_accepted rfl).2 (.inr ⟨_, _, _,
      traces_tryRegister.2 (.inr ⟨rfl, .inr ⟨id, .ok (), _, rfl, start⟩⟩), rfl, rfl, rfl⟩)
  obtain ⟨os₁, h₁, hes₁⟩ := Pool.exists_run_guarded (i := 0)
    (p := Coordinator.pool {} {} [.startUp, .register "Berlin"]) rfl rfl waits
  obtain ⟨os₂, h₂, hes₂⟩ := Pool.exists_run_guarded (i := 1) (p := ⟨{ state := .registering }, none,
    [.done (.ok ()), Coordinator.register {} "Berlin"]⟩) rfl rfl fails
  have hes : (events (os₁ ++ os₂)).map Prod.snd = [.asked .loadIdentity (.ok none),
      .moved .initial .registering, .asked (.registerAt "Berlin") (.ok id),
      .asked (.storeIdentity id) (.ok ()), .asked .hostDetails details,
      .asked (.announce id details) (.error refused),
      .moved .registering (.fatal (.backend refused))] := by
    rw [Pool.events_append, hes₁, hes₂]
    rfl
  have hload : store.load.run disk = (.ok none, disk) := by
    have hnone : (Disk.fileSystem.contains file).run disk = (false, disk) := by
      change (disk.contains file, disk) = _
      rw [show disk.contains file = false by decide]
    exact IdentityStore.load_inFile (run_bind_of_run hnone)
  have hsave : (store.save id).run disk = (.ok (), disk') := by
    have hparent : file.parent? = some ⟨""⟩ := by decide
    have hcreate : (IdentityFile.createParent Disk.fileSystem file).run disk = (.ok (), disk) := by
      unfold IdentityFile.createParent
      rw [hparent]
      rfl
    have hwrite : (Disk.fileSystem.write file (IdentityFile.render id)).run disk = (.ok (), disk') :=
      Disk.writeStep_eq_ok_iff.2 (Disk.write_eq_ok_iff.2 ⟨_, by decide, by decide, by decide, rfl⟩)
    change (IdentityFile.save Disk.fileSystem file id).run disk = _
    unfold IdentityFile.save
    rw [run_bind_of_run hcreate]
    exact run_bind_of_run hwrite
  have hsteps : store.Steps disk ((events (os₁ ++ os₂)).map Prod.snd) disk' := by
    rw [hes]
    exact ⟨disk, hload, disk, rfl, disk, rfl, disk', hsave, disk', rfl, disk', rfl, disk', rfl, rfl⟩
  have hstored : .asked (.storeIdentity id) (.ok ()) ∈ (events (os₁ ++ os₂)).map Prod.snd := by
    rw [hes]
    simp
  obtain ⟨hfound, hlater⟩ := Coordinator.identity_survives_restart Disk.faithful_fileSystem file {}
    (h₁.trans h₂) hsteps hstored
  -- the later coordinator has not taken a step yet, and can go on to its end
  obtain ⟨-, -, -, os', q', h', hq', hsteps'⟩ := hlater {} {} [.startUp] [] _ disk' rfl (.refl _) rfl
  obtain ⟨-, -, hannounced, -⟩ := hlater {} {} [.startUp] os' q' disk' rfl h' hsteps'
  exact ⟨_, _, disk', h₁.trans h₂, hsteps, rfl, hfound, os', q', h', hq', hsteps',
    hannounced hq' List.mem_cons_self⟩

end ServiceWatch.Poller
