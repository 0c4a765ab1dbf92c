import ServiceWatch.Proofs.Poller.Errands
import ServiceWatch.Proofs.Poller.Listeners

/-!
Listeners come and go while changes are fired and told, one step of some call at a time. Who is told
is decided as a change is fired; and since only the call with the guard fires changes, all
deliveries of one change are made before the next one is fired. So what happens to the listeners in
a run is what a registry allows, and each listener is told what is fired while it is registered.
-/
namespace ServiceWatch.Poller

variable {α β : Type}

/-! ### Visits -/

/-- What can be at work on a coordinator and its listeners: all errands, and calls that fire changes
one after the other while they have the guard. -/
inductive Visit where
  | errand (errand : Errand)
  | fires (changes : List Change)

inductive Reply where
  | listener (id : ListenerId)
  | found (found : Bool)
  | nothing
  deriving DecidableEq

def Visit.deals : Visit → Bool
  | errand .addListener | errand (.removeListener _) => true
  | _ => false

theorem Visit.eq_of_deals {v : Visit} (hv : v.deals = true) :
    v = errand .addListener ∨ ∃ id, v = errand (.removeListener id) := by
  cases v with
  | fires changes => contradiction
  | errand errand =>
    cases errand with
    | addListener => exact .inl rfl
    | removeListener id => exact .inr ⟨id, rfl⟩
    | _ => contradiction

def Visit.dealing? : Visit → Reply → Option Dealing
  | errand .addListener, .listener id => some (.added id)
  | errand (.removeListener id), .found found => some (.removed id found)
  | _, _ => none

/-- What an occurrence is for the listeners, with the replies that the calls come to. -/
def Occurrence.dealing? (visits : List Visit) (reply : Nat → Option Reply) :
    Occurrence → Option Dealing
  | .accessed i _ _ => do (← visits[i]?).dealing? (← reply i)
  | .fired _ change => some (.fired change)
  | .told _ id change => some (.told id change)
  | .asked _ _ _ | .entered _ | .left _ => none

/-- What happens to the listeners in a run. -/
def history (visits : List Visit) (reply : Nat → Option Reply) (os : List Occurrence) : History :=
  os.filterMap (Occurrence.dealing? visits reply)

/-- The deliveries that a call makes before anything else. -/
def Call.telling : Call α → List Delivery
  | .tell id change next => (id, change) :: next.telling
  | _ => []

def Pool.due (p : Pool α) : List Delivery := p.calls.flatMap Call.telling

namespace Coordinator

def visit (c : Coordinator) : Visit → Call Reply
  | .errand .addListener => .listener <$> c.addListener
  | .errand (.removeListener id) => .found <$> c.removeListener id
  | .errand errand => (fun _ => .nothing) <$> c.errand errand
  | .fires changes => (fun _ => .nothing) <$> Call.guarded (changes.forM fire)

def counter (c : Coordinator) (visits : List Visit) : Pool Reply := { calls := visits.map c.visit }

end Coordinator

/-! ### What a call is about to tell -/

namespace Call

theorem Within.telling_eq {s : Scope} {t : Call α} (ht : t.Within s) (h : ¬s.tells) :
    t.telling = [] := by
  cases t with
  | tell l c next => exact absurd ht.1 h
  | _ => rfl

theorem telling_tellAll (c : Change) (t : Call α) (ls : List ListenerId) :
    (tellAll c t ls).telling = ls.map (·, c) ++ t.telling := by
  induction ls with
  | nil => rfl
  | cons l ls ih => exact congrArg ((l, c) :: ·) ih

end Call

/-! ### What is due -/

namespace Pool

theorem flatMap_set_of_eq {f : α → List β} {l : List α} {i : Nat} {a b : α} (hi : l[i]? = some a)
    (h : f b = f a) : (l.set i b).flatMap f = l.flatMap f := by
  obtain ⟨hlt, rfl⟩ := List.getElem?_eq_some_iff.1 hi
  have hmap : (l.map f).set i (f b) = l.map f := by
    have hlt' : i < (l.map f).length := List.length_map f ▸ hlt
    rw [h, ← List.getElem_map f (h := hlt'), List.set_getElem_self]
  rw [List.flatMap_def, List.flatMap_def, List.map_set, hmap]

theorem flatMap_of_alone {f : α → List β} {l : List α} {i : Nat} {a : α} (hi : l[i]? = some a)
    (h : ∀ j b, l[j]? = some b → j ≠ i → f b = []) : l.flatMap f = f a := by
  induction l generalizing i with
  | nil => contradiction
  | cons b l ih =>
    rw [List.flatMap_cons]
    cases i with
    | zero =>
      cases hi
      have hnone : l.flatMap f = [] := List.flatMap_eq_nil_iff.2 fun b hb => by
        obtain ⟨j, hj⟩ := List.getElem?_of_mem hb
        exact h (j + 1) b hj (Nat.succ_ne_zero j)
      rw [hnone, List.append_nil]
    | succ i =>
      rw [h 0 b rfl (Nat.succ_ne_zero i).symm, List.nil_append]
      exact ih hi fun j b hj hne => h (j + 1) b hj (by simpa using hne)

/-- Nothing but the guard is to be upheld. -/
abbrev UpholdsGuard (p : Pool α) : Prop := p.Upholds (fun _ _ => True) (fun _ => True) []

variable {p q : Pool α} {o : Occurrence} {i : Nat}

theorem Step.upholdsGuard (hs : p.Step o q) (hu : p.UpholdsGuard) : q.UpholdsGuard := by
  have hu := hs.upholds hu
  exact ⟨hu.free, hu.held, hu.apart⟩

theorem IsDone.due_eq (h : p.IsDone) : p.due = [] := by
  refine List.flatMap_eq_nil_iff.2 fun s hs => ?_
  obtain ⟨i, hi⟩ := List.getElem?_of_mem hs
  obtain ⟨hlt, -⟩ := List.getElem?_eq_some_iff.1 hi
  obtain ⟨a, ha⟩ := Option.isSome_iff_exists.1 (h i hlt)
  rw [result?_eq_some, hi] at ha
  cases ha
  rfl

theorem Upholds.telling_eq_nil {s : Call α} (hu : p.UpholdsGuard) (hi : p.calls[i]? = some s)
    (hh : p.holder ≠ some i) : s.telling = [] := by
  rcases hu.apart i s hi hh with ⟨-, t, rfl, -⟩ | hs
  · rfl
  · exact hs.telling_eq id

/-- Only the call with the guard is about to tell anybody. -/
theorem Upholds.due_eq {s : Call α} (hu : p.UpholdsGuard) (hh : p.holder = some i)
    (hi : p.calls[i]? = some s) : p.due = s.telling :=
  flatMap_of_alone hi fun _ _ hj hne =>
    hu.telling_eq_nil hj fun hh' => hne (Option.some.inj (hh'.symm.trans hh))

/-- What is due can be told at once. -/
theorem Upholds.exists_tell {id : ListenerId} {change : Change} {rest : List Delivery}
    (hu : p.UpholdsGuard) (hdue : p.due = (id, change) :: rest) :
    ∃ i q, p.Step (.told i id change) q ∧ q.due = rest := by
  have hmem : (id, change) ∈ p.due := hdue ▸ List.mem_cons_self
  obtain ⟨s, hs, htelling⟩ := List.mem_flatMap.1 hmem
  obtain ⟨i, hi⟩ := List.getElem?_of_mem hs
  have hheld : p.holder = some i := by
    by_contra hh
    rw [hu.telling_eq_nil hi hh] at htelling
    contradiction
  have hfirst := (hu.due_eq hheld hi).symm.trans hdue
  cases s with
  | tell id' change' next =>
    cases hfirst
    obtain ⟨hlt, -⟩ := List.getElem?_eq_some_iff.1 hi
    have hstep := Step.tell hi
    exact ⟨i, _, hstep, (hstep.upholdsGuard hu).due_eq hheld (List.getElem?_set_self hlt)⟩
  | _ => contradiction

theorem Upholds.holder_of_fire {change : Change} {next : Call α} (hu : p.UpholdsGuard)
    (hi : p.calls[i]? = some (.fire change next)) : p.holder = some i := by
  by_contra hh
  rcases hu.apart i _ hi hh with ⟨-, t, heq, -⟩ | hs
  · contradiction
  · exact hs.1

theorem Upholds.holder_of_tell {id : ListenerId} {change : Change} {next : Call α}
    (hu : p.UpholdsGuard) (hi : p.calls[i]? = some (.tell id change next)) :
    p.holder = some i := by
  by_contra hh
  have hnone := hu.telling_eq_nil hi hh
  contradiction

end Pool

/-! ### How far visits have come -/

namespace Coordinator

variable {c : Coordinator} {visits : List Visit} {h : History} {v : Visit} {s : Call Reply}

theorem modest_fires (changes : List Change) : (changes.forM fire).Within .modest := by
  induction changes with
  | nil => trivial
  | cons change changes ih => exact ⟨trivial, ih⟩

theorem visit_errand {errand : Errand} (hv : (Visit.errand errand).deals = false) :
    c.visit (.errand errand) = (fun _ => .nothing) <$> c.errand errand := by
  cases errand with
  | addListener => contradiction
  | removeListener id => contradiction
  | _ => rfl

/-- A visit that does not add or remove a listener has something to do under the guard, or it only
looks. -/
theorem visit_cases {v : Visit} (hv : v.deals = false) :
    (∃ t, c.visit v = .guarded t ∧ t.Within .modest) ∨ (c.visit v).Within .looking := by
  cases v with
  | fires changes =>
    exact .inl ⟨_, Call.map_guarded _ _, (modest_fires changes).bind fun _ => trivial⟩
  | errand errand =>
    rw [visit_errand hv]
    rcases c.errand_kinds errand with ⟨_, t, -, ht, heq⟩ | hlooks | rfl | ⟨id, rfl⟩
    · have hforget : t.forget.Within .modest := (modest_duty ht).bind fun _ => trivial
      refine .inl ⟨_, (congrArg _ heq).trans (Call.map_guarded _ _), ?_⟩
      exact hforget.bind fun _ => trivial
    · exact .inr (hlooks.bind fun _ => trivial)
    · contradiction
    · contradiction

theorem unlistened_visit {v : Visit} (hv : v.deals = false) : (c.visit v).Within .unlistened := by
  rcases visit_cases hv with ⟨t, heq, ht⟩ | hlooks
  · rw [heq]
    exact (ht.mono Scope.modest_le_unlistened).guarded trivial
  · exact hlooks.mono Scope.looking_le_unlistened

theorem aside_visit {v : Visit} (hv : v.deals = true) : (c.visit v).Within .aside := by
  rcases v.eq_of_deals hv with rfl | ⟨id, rfl⟩
  · exact c.aside_addListener.bind fun _ => trivial
  · exact (c.aside_removeListener id).bind fun _ => trivial

theorem calls_counter (c : Coordinator) (visits : List Visit) (i : Nat) :
    (c.counter visits).calls[i]? = visits[i]?.map c.visit := by
  simp [counter]

theorem upholdsGuard_counter (c : Coordinator) (visits : List Visit) :
    (c.counter visits).UpholdsGuard := by
  refine ⟨fun _ => trivial, nofun, fun i s hs _ => ?_⟩
  rw [calls_counter] at hs
  obtain ⟨v, -, rfl⟩ := Option.map_eq_some_iff.1 hs
  cases hv : v.deals with
  | true => exact .inr (aside_visit hv)
  | false =>
    rcases visit_cases hv with ⟨t, heq, ht⟩ | hlooks
    · exact .inl ⟨trivial, t, heq, ht, fun _ _ _ _ _ _ _ _ => trivial⟩
    · exact .inr (hlooks.mono Scope.looking_le_aside)

end Coordinator

/-- How far a visit has come. -/
inductive Visit.Reaches (v : Visit) (c : Coordinator) (h : History) (s : Call Reply) : Prop
  | untouched (hv : v.deals = true) (hs : s = c.visit v)
  | replied (r : Reply) (d : Dealing) (hs : s = .done r) (hd : v.dealing? r = some d) (hmem : d ∈ h)
  | beside (hv : v.deals = false) (hs : s.Within .unlistened)
  /-- Listeners are told about a change before the visit goes on. -/
  | telling (hv : v.deals = false) (id : ListenerId) (change : Change) (t : Call Reply)
    (ls : List ListenerId) (hs : s = .tell id change (.tellAll change t ls))
    (ht : t.Within .unlistened)

section Reaches

variable {c : Coordinator} {h : History} {v : Visit} {s t : Call Reply}

theorem Visit.Reaches.append (hv : v.Reaches c h s) (h' : History) : v.Reaches c (h ++ h') s := by
  cases hv with
  | untouched hv hs => exact .untouched hv hs
  | replied r d hs hd hmem => exact .replied r d hs hd (List.mem_append_left _ hmem)
  | beside hv hs => exact .beside hv hs
  | telling hv id change t ls hs ht => exact .telling hv id change t ls hs ht

theorem Visit.Reaches.tellAll (hv : v.deals = false) (ht : t.Within .unlistened) (change : Change)
    (ls : List ListenerId) : v.Reaches c h (.tellAll change t ls) := by
  cases ls with
  | nil => exact .beside hv ht
  | cons l ls => exact .telling hv l change t ls rfl ht

/-- A visit that adds or removes a listener has one access of the memory before it. -/
theorem Visit.exists_access (hv : v.deals = true) :
    ∃ update next, c.visit v = .access update next := by
  rcases v.eq_of_deals hv with rfl | ⟨id, rfl⟩
  · exact ⟨_, _, rfl⟩
  · exact ⟨_, _, rfl⟩

/-- By its access, a visit adds or removes a listener as a registry allows it, and comes to its
reply. -/
theorem Visit.exists_dealing {update : Memory → Memory} {next : Memory → Call Reply}
    (hv : v.deals = true) (hs : c.visit v = .access update next) (m : Memory) :
    ∃ r d, next m = .done r ∧ v.dealing? r = some d ∧
      ∀ h, m.listeners.Records h → (History.added (h ++ [d])).length < UInt64.size →
        (update m).listeners.Records (h ++ [d]) ∧ ∀ due, Happens h due d due := by
  rcases v.eq_of_deals hv with rfl | ⟨id, rfl⟩
  · cases hs
    refine ⟨_, _, rfl, rfl, fun h hr hfew => ?_⟩
    have hfew : h.added.length < UInt64.size := by
      refine lt_of_le_of_lt ?_ hfew
      simp
    obtain ⟨hnew, hrecords⟩ := hr.add hfew
    exact ⟨hrecords, fun due => .added hnew⟩
  · cases hs
    refine ⟨_, _, rfl, rfl, fun h hr _ => ?_⟩
    obtain ⟨hfound, hrecords⟩ := hr.remove id
    exact ⟨hrecords, fun due => .removed hfound⟩

theorem Visit.Reaches.unlistened (hv : v.Reaches c h s)
    (haccess : ∀ update next, s ≠ .access update next)
    (htell : ∀ id change next, s ≠ .tell id change next) (hdone : ∀ r, s ≠ .done r) :
    v.deals = false ∧ s.Within .unlistened := by
  cases hv with
  | untouched hv hs =>
    obtain ⟨update, next, heq⟩ := v.exists_access (c := c) hv
    exact (haccess _ _ (hs.trans heq)).elim
  | replied r d hs => exact (hdone r hs).elim
  | beside hv hs => exact ⟨hv, hs⟩
  | telling hv id change t ls hs ht => exact (htell _ _ _ hs).elim

/-- What came of adding or removing a listener is in the history. -/
theorem Visit.Reaches.exists_mem {r : Reply} (hv : v.Reaches c h (.done r))
    (hdeals : v.deals = true) :
    ∃ d ∈ h, v.dealing? r = some d := by
  cases hv with
  | untouched hv hs =>
    obtain ⟨update, next, heq⟩ := v.exists_access (c := c) hv
    cases hs.trans heq
  | replied r' d hs hd hmem =>
    cases hs
    exact ⟨d, hmem, hd⟩
  | beside hno =>
    rw [hdeals] at hno
    contradiction
  | telling hno =>
    rw [hdeals] at hno
    contradiction

theorem Visit.dealing?_eq_none (hv : v.deals = false) (r : Reply) : v.dealing? r = none := by
  cases v with
  | fires changes => rfl
  | errand errand =>
    cases errand with
    | addListener => contradiction
    | removeListener id => contradiction
    | _ => rfl

end Reaches

/-! ### Runs -/

theorem history_cons (visits : List Visit) (reply : Nat → Option Reply) (o : Occurrence)
    (os : List Occurrence) :
    history visits reply (o :: os) = history visits reply [o] ++ history visits reply os := by
  rw [history, history, history, ← List.filterMap_append, List.singleton_append]

theorem Visit.fired?_of_dealing {v : Visit} {r : Reply} {d : Dealing} (hd : v.dealing? r = some d) :
    d.fired? = none := by
  unfold dealing? at hd
  split at hd
  · cases hd
    rfl
  · cases hd
    rfl
  · contradiction

/-- All changes of a run, by whatever calls, are in the history. -/
theorem fired_history (visits : List Visit) (reply : Nat → Option Reply) (os : List Occurrence) :
    (history visits reply os).fired = changes os := by
  induction os with
  | nil => rfl
  | cons o os ih =>
    have hfirst : (history visits reply [o]).fired = changes [o] := by
      cases o with
      | accessed i before after =>
        rw [changes_accessed]
        refine List.filterMap_eq_nil_iff.2 fun d hd => ?_
        obtain ⟨_, ho, hd⟩ := List.mem_filterMap.1 hd
        cases List.mem_singleton.1 ho
        obtain ⟨v, -, hd⟩ := Option.bind_eq_some_iff.1 hd
        obtain ⟨r, -, hd⟩ := Option.bind_eq_some_iff.1 hd
        exact Visit.fired?_of_dealing hd
      | _ => rfl
    calc (history visits reply (o :: os)).fired
        = (history visits reply [o]).fired ++ (history visits reply os).fired := by
          rw [history_cons]
          exact List.filterMap_append
      _ = changes [o] ++ changes os := by rw [hfirst, ih]
      _ = changes (o :: os) := (changes_append [o] os).symm

namespace Pool

variable {c : Coordinator} {visits : List Visit} {reply : Nat → Option Reply} {h : History}
  {p q : Pool Reply} {o : Occurrence} {os : List Occurrence} {i : Nat}

/-- The pool and what happened to its listeners. -/
structure Booked (c : Coordinator) (visits : List Visit) (h : History) (p : Pool Reply) : Prop where
  guard : p.UpholdsGuard
  records : p.memory.listeners.Records h
  reached : ∀ (i : Nat) s, p.calls[i]? = some s → ∃ v, visits[i]? = some v ∧ v.Reaches c h s

theorem Booked.resume (hb : p.Booked c visits h) {s s' : Call Reply} {v : Visit} (h' : History)
    (hi : p.calls[i]? = some s) (hv : visits[i]? = some v) (hguard : q.UpholdsGuard)
    (hcalls : q.calls = p.calls.set i s') (hrecords : q.memory.listeners.Records (h ++ h'))
    (hs : v.Reaches c (h ++ h') s') : q.Booked c visits (h ++ h') := by
  refine ⟨hguard, hrecords, fun j s₁ hj => ?_⟩
  obtain ⟨hlt, -⟩ := List.getElem?_eq_some_iff.1 hi
  rw [hcalls] at hj
  by_cases hij : i = j
  · subst hij
    rw [List.getElem?_set_self hlt] at hj
    cases hj
    exact ⟨v, hv, hs⟩
  · rw [List.getElem?_set_ne hij] at hj
    obtain ⟨w, hw, hs₁⟩ := hb.reached j s₁ hj
    exact ⟨w, hw, hs₁.append h'⟩

/-- A step that has nothing to do with listeners. -/
theorem Booked.aside (hb : p.Booked c visits h) {s s' : Call Reply} {v : Visit}
    (hi : p.calls[i]? = some s) (hv : visits[i]? = some v) (hguard : q.UpholdsGuard)
    (hcalls : q.calls = p.calls.set i s') (hmemory : q.memory.listeners = p.memory.listeners)
    (hdeals : v.deals = false) (hs : s.Within .unlistened) (hs' : s'.Within .unlistened)
    (ho : o.dealing? visits reply = none) :
    q.Booked c visits (h ++ history visits reply [o]) ∧
      Unfolds h p.due (history visits reply [o]) q.due := by
  have hnone : history visits reply [o] = [] := by simp [history, ho]
  have hdue : q.due = p.due := by
    rw [due, due, hcalls]
    exact flatMap_set_of_eq hi ((hs'.telling_eq id).trans (hs.telling_eq id).symm)
  rw [hnone, hdue]
  refine ⟨hb.resume [] hi hv hguard hcalls ?_ (.beside hdeals hs'), .nil⟩
  rw [hmemory, List.append_nil]
  exact hb.records

theorem Booked.fire {change : Change} {next : Call Reply} (hb : p.Booked c visits h)
    (hi : p.calls[i]? = some (.fire change next))
    (hguard : (p.resume i (.tellAll change next p.memory.listeners.ids)).UpholdsGuard) :
    (p.resume i (.tellAll change next p.memory.listeners.ids)).Booked c visits
        (h ++ [.fired change]) ∧
      Happens h p.due (.fired change)
        (p.resume i (.tellAll change next p.memory.listeners.ids)).due := by
  obtain ⟨v, hv, hreach⟩ := hb.reached _ _ hi
  obtain ⟨hdeals, hleaves⟩ := hreach.unlistened nofun nofun nofun
  have hnext : next.Within .unlistened := hleaves.2
  obtain ⟨hlt, -⟩ := List.getElem?_eq_some_iff.1 hi
  have hheld := hb.guard.holder_of_fire hi
  have hidle : p.due = [] := hb.guard.due_eq hheld hi
  have hdue : (p.resume i (.tellAll change next p.memory.listeners.ids)).due =
      h.listening.map (·, change) := by
    rw [hguard.due_eq hheld (List.getElem?_set_self hlt), Call.telling_tellAll, hnext.telling_eq id,
      List.append_nil, hb.records.ids]
  refine ⟨hb.resume _ hi hv hguard rfl hb.records.fired (.tellAll hdeals hnext _ _), ?_⟩
  rw [hdue]
  exact .fired hidle

theorem Booked.tell {id : ListenerId} {change : Change} {next : Call Reply}
    (hb : p.Booked c visits h) (hi : p.calls[i]? = some (.tell id change next))
    (hguard : (p.resume i next).UpholdsGuard) :
    (p.resume i next).Booked c visits (h ++ [.told id change]) ∧
      Happens h p.due (.told id change) (p.resume i next).due := by
  obtain ⟨v, hv, hreach⟩ := hb.reached _ _ hi
  obtain ⟨hlt, -⟩ := List.getElem?_eq_some_iff.1 hi
  have hheld := hb.guard.holder_of_tell hi
  have hfirst : p.due = (id, change) :: (p.resume i next).due := by
    rw [hb.guard.due_eq hheld hi, hguard.due_eq hheld (List.getElem?_set_self hlt)]
    rfl
  refine ⟨hb.resume _ hi hv hguard rfl hb.records.told ?_, .told hfirst⟩
  cases hreach with
  | untouched hv hs =>
    obtain ⟨update, next, heq⟩ := v.exists_access (c := c) hv
    cases hs.trans heq
  | replied r d hs => contradiction
  | beside hv hs => exact hs.1.elim
  | telling hv id change t ls hs ht =>
    cases hs
    exact .tellAll hv ht change ls

/-- A visit adds or removes a listener. -/
theorem Booked.access {v : Visit} {update : Memory → Memory} {next : Memory → Call Reply}
    (hb : p.Booked c visits h) (hi : p.calls[i]? = some (.access update next))
    (hv : visits[i]? = some v) (hdeals : v.deals = true) (hs : c.visit v = .access update next)
    (hguard : q.UpholdsGuard) (hcalls : q.calls = p.calls.set i (next p.memory))
    (hmemory : q.memory = update p.memory)
    (hreply : ∀ i r, q.result? i = some r → reply i = some r)
    (ho : o = .accessed i p.memory q.memory)
    (hfew : (History.added (h ++ history visits reply [o])).length < UInt64.size) :
    q.Booked c visits (h ++ history visits reply [o]) ∧
      Unfolds h p.due (history visits reply [o]) q.due := by
  obtain ⟨hlt, -⟩ := List.getElem?_eq_some_iff.1 hi
  obtain ⟨r, d, hr, hd, hdealt⟩ := Visit.exists_dealing hdeals hs p.memory
  rw [hr] at hcalls
  have hresult : reply i = some r := by
    refine hreply i r ?_
    rw [result?_eq_some, hcalls, List.getElem?_set_self hlt]
  have hhistory : history visits reply [o] = [d] := by
    simp [history, Occurrence.dealing?, ho, hv, hresult, hd]
  have hdue : q.due = p.due := by
    rw [due, due, hcalls]
    exact flatMap_set_of_eq hi rfl
  rw [hhistory] at hfew ⊢
  obtain ⟨hrecords, hhappens⟩ := hdealt h hb.records hfew
  rw [← hmemory] at hrecords
  rw [hdue]
  refine ⟨hb.resume [d] hi hv hguard hcalls hrecords ?_, .cons (hhappens p.due) .nil⟩
  exact .replied r d rfl hd List.mem_concat_self

theorem Step.booked (hs : p.Step o q) (hb : p.Booked c visits h)
    (hreply : ∀ i r, q.result? i = some r → reply i = some r)
    (hfew : (History.added (h ++ history visits reply [o])).length < UInt64.size) :
    q.Booked c visits (h ++ history visits reply [o]) ∧
      Unfolds h p.due (history visits reply [o]) q.due := by
  have hguard := hs.upholdsGuard hb.guard
  -- a visit that adds or removes a listener has its access before it; all others leave that alone
  cases hs with
  | @ask i r next hi x =>
    obtain ⟨v, hv, hreach⟩ := hb.reached _ _ hi
    obtain ⟨hdeals, hleaves⟩ := hreach.unlistened nofun nofun nofun
    exact hb.aside hi hv hguard rfl rfl hdeals hleaves (hleaves.2 x) rfl
  | @fire i change next hi =>
    obtain ⟨hbooked, hhappens⟩ := hb.fire hi hguard
    exact ⟨hbooked, .cons hhappens .nil⟩
  | @tell i id change next hi =>
    obtain ⟨hbooked, hhappens⟩ := hb.tell hi hguard
    exact ⟨hbooked, .cons hhappens .nil⟩
  | @access i update next hi =>
    obtain ⟨v, hv, hreach⟩ := hb.reached _ _ hi
    cases hreach with
    | untouched hdeals hs =>
      exact hb.access hi hv hdeals hs.symm hguard rfl rfl hreply rfl hfew
    | replied r d hs => contradiction
    | beside hdeals hleaves =>
      have hnone :
          (Occurrence.accessed i p.memory (update p.memory)).dealing? visits reply = none := by
        cases hr : reply i with
        | none => simp [Occurrence.dealing?, hr]
        | some r => simp [Occurrence.dealing?, hr, hv, Visit.dealing?_eq_none hdeals]
      exact hb.aside hi hv hguard rfl (hleaves.1 _) hdeals hleaves (hleaves.2.2 _) hnone
    | telling hv id change t ls hs => contradiction
  | @enter i next hi free =>
    obtain ⟨v, hv, hreach⟩ := hb.reached _ _ hi
    obtain ⟨hdeals, hleaves⟩ := hreach.unlistened nofun nofun nofun
    exact hb.aside hi hv hguard rfl rfl hdeals hleaves hleaves.2 rfl
  | @leave i next hi held =>
    obtain ⟨v, hv, hreach⟩ := hb.reached _ _ hi
    obtain ⟨hdeals, hleaves⟩ := hreach.unlistened nofun nofun nofun
    exact hb.aside hi hv hguard rfl rfl hdeals hleaves hleaves.2 rfl

theorem Run.booked (hr : p.Run os q) (hb : p.Booked c visits h)
    (hfew : (History.added (h ++ history visits q.result? os)).length < UInt64.size) :
    q.Booked c visits (h ++ history visits q.result? os) ∧
      Unfolds h p.due (history visits q.result? os) q.due := by
  induction hr generalizing h with
  | refl p =>
    rw [show history visits p.result? [] = [] from rfl, List.append_nil]
    exact ⟨hb, .nil⟩
  | @step p q r o os hs hrest ih =>
    rw [history_cons, ← List.append_assoc] at hfew ⊢
    have hfew' : (History.added (h ++ history visits r.result? [o])).length < UInt64.size := by
      refine lt_of_le_of_lt ?_ hfew
      rw [History.added_append (h ++ _), List.length_append]
      exact Nat.le_add_right _ _
    obtain ⟨hbooked, hfirst⟩ := hs.booked hb (fun i a ha => hrest.result? ha) hfew'
    obtain ⟨hbooked, hunfolds⟩ := ih hbooked hfew
    exact ⟨hbooked, unfolds_append.2 ⟨_, hfirst, hunfolds⟩⟩

end Pool

namespace Coordinator

variable {c : Coordinator} {visits : List Visit} {os : List Occurrence} {q : Pool Reply}

theorem booked_counter (c : Coordinator) (visits : List Visit) :
    (c.counter visits).Booked c visits [] := by
  refine ⟨c.upholdsGuard_counter visits, Listeners.records_nil, fun i s hs => ?_⟩
  rw [calls_counter] at hs
  obtain ⟨v, hv, rfl⟩ := Option.map_eq_some_iff.1 hs
  cases hdeals : v.deals with
  | true => exact ⟨v, hv, .untouched hdeals rfl⟩
  | false => exact ⟨v, hv, .beside hdeals (unlistened_visit hdeals)⟩

theorem due_counter (c : Coordinator) (visits : List Visit) : (c.counter visits).due = [] := by
  refine List.flatMap_eq_nil_iff.2 fun s hs => ?_
  obtain ⟨v, -, rfl⟩ := List.mem_map.1 hs
  cases hdeals : v.deals with
  | true =>
    obtain ⟨update, next, heq⟩ := Visit.exists_access (c := c) hdeals
    rw [heq]
    rfl
  | false => exact (unlistened_visit hdeals).telling_eq id

/-- At any moment of any run, the history of the listeners is one to rely on: each of them has a
number of its own and can be removed once, and it is told what is fired in the run from its
registration up to its removal. What is still due can be told at once, and nothing is due when all
calls took their last steps. What calls reply about listeners is in the history. -/
theorem each_told_while_registered (hrun : (c.counter visits).Run os q)
    (hfew : (history visits q.result? os).added.length < UInt64.size) :
    Dependable (history visits q.result? os) q.due ∧
      q.memory.listeners.ids = (history visits q.result? os).listening ∧
      (history visits q.result? os).fired = changes os ∧
      (q.IsDone → q.due = []) ∧
      (∀ id change rest, q.due = (id, change) :: rest →
        ∃ i q', q.Step (.told i id change) q' ∧ q'.due = rest) ∧
      ∀ (i : Nat) v r, visits[i]? = some v → v.deals = true → q.result? i = some r →
        ∃ d ∈ history visits q.result? os, v.dealing? r = some d := by
  obtain ⟨hbooked, hunfolds⟩ := hrun.booked (c.booked_counter visits) hfew
  rw [due_counter] at hunfolds
  rw [List.nil_append] at hbooked
  refine ⟨hunfolds.dependable, hbooked.records.ids, fired_history _ _ os, Pool.IsDone.due_eq,
    fun id change rest => hbooked.guard.exists_tell, fun i v r hv hdeals hr => ?_⟩
  obtain ⟨w, hw, hreach⟩ := hbooked.reached i _ (Pool.result?_eq_some.1 hr)
  cases hv.symm.trans hw
  exact hreach.exists_mem hdeals

/-- A listener is removed when a change is already due for it, and another one comes before the next
change. -/
theorem each_told_while_registered_sample :
    ∃ visits os q, (counter {} visits).Run os q ∧
      (history visits q.result? os).added.length < UInt64.size ∧
      history visits q.result? os = [.added ⟨0⟩, .added ⟨1⟩, .fired (.started false true),
        .told ⟨0⟩ (.started false true), .removed ⟨1⟩ true, .told ⟨1⟩ (.started false true),
        .added ⟨2⟩, .fired (.registered false true), .told ⟨0⟩ (.registered false true),
        .removed ⟨1⟩ false, .told ⟨2⟩ (.registered false true)] ∧
      Dependable (history visits q.result? os) q.due ∧ q.memory.listeners.ids = [⟨0⟩, ⟨2⟩] ∧
      q.due = [] ∧ (history visits q.result? os).received ⟨1⟩ = [.started false true] := by
  have hruns : ∃ visits os q, (counter {} visits).Run os q ∧
      q.calls = [.done (.listener ⟨0⟩), .done (.listener ⟨1⟩), .done .nothing, .done (.found true),
        .done (.listener ⟨2⟩), .done (.found false)] ∧
      history visits q.result? os = [.added ⟨0⟩, .added ⟨1⟩, .fired (.started false true),
        .told ⟨0⟩ (.started false true), .removed ⟨1⟩ true, .told ⟨1⟩ (.started false true),
        .added ⟨2⟩, .fired (.registered false true), .told ⟨0⟩ (.registered false true),
        .removed ⟨1⟩ false, .told ⟨2⟩ (.registered false true)] :=
    ⟨[.errand .addListener, .errand .addListener,
      .fires [.started false true, .registered false true], .errand (.removeListener ⟨1⟩),
      .errand .addListener, .errand (.removeListener ⟨1⟩)], _, _,
      .step (.access (i := 0) rfl) <| .step (.access (i := 1) rfl) <|
      .step (.enter (i := 2) rfl rfl) <| .step (.fire (i := 2) rfl) <|
      .step (.tell (i := 2) rfl) <| .step (.access (i := 3) rfl) <|
      .step (.tell (i := 2) rfl) <| .step (.access (i := 4) rfl) <|
      .step (.fire (i := 2) rfl) <| .step (.tell (i := 2) rfl) <|
      .step (.access (i := 5) rfl) <| .step (.tell (i := 2) rfl) <|
      .step (.leave (i := 2) rfl rfl) <| .refl _, rfl, by decide +kernel⟩
  obtain ⟨visits, os, q, hrun, hdone, hhistory⟩ := hruns
  have hfew : (history visits q.result? os).added.length < UInt64.size := by
    rw [hhistory]
    decide
  obtain ⟨hdependable, hids, -, hdue, -⟩ := each_told_while_registered hrun hfew
  have hdue : q.due = [] := hdue (Pool.isDone_of_calls
    [.listener ⟨0⟩, .listener ⟨1⟩, .nothing, .found true, .listener ⟨2⟩, .found false] hdone)
  have hreceived := hdependable.received [.added ⟨0⟩] ⟨1⟩ _ hhistory
  rw [hdue] at hreceived
  refine ⟨visits, os, q, hrun, hfew, hhistory, hdependable, ?_, hdue, ?_⟩
  · rw [hids, hhistory]
    decide
  · exact (List.append_nil _).symm.trans hreceived

end Coordinator

end ServiceWatch.Poller
