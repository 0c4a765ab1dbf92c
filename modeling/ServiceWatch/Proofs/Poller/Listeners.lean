import Mathlib.Data.List.Nodup
import Mathlib.Data.List.TakeWhile
import ServiceWatch.Poller.Notification

/-!
Who listens, by the history of additions, removals, fired changes and deliveries. In a history that
grows by what a registry allows, each listener is told what is fired from its registration up to its
removal, and nothing else. A registry whose numbers do not start again allows what it should.
-/
namespace ServiceWatch.Poller

abbrev Delivery := ListenerId × Change

inductive Dealing where
  | added (id : ListenerId)
  /-- A listener was to be removed, and it was found or not. -/
  | removed (id : ListenerId) (found : Bool)
  | fired (change : Change)
  | told (id : ListenerId) (change : Change)
  deriving DecidableEq

namespace Dealing

@[simp] def added? : Dealing → Option ListenerId
  | added id => some id
  | _ => none

@[simp] def fired? : Dealing → Option Change
  | fired change => some change
  | _ => none

@[simp] def told? : Dealing → Option Delivery
  | told id change => some (id, change)
  | _ => none

end Dealing

/-- What happened to listeners, the latest last. -/
abbrev History := List Dealing

/-- The changes for one listener among deliveries to all. -/
def addressed (id : ListenerId) (deliveries : List Delivery) : List Change :=
  (deliveries.filter (·.1 = id)).map Prod.snd

namespace History

def added (h : History) : List ListenerId := h.filterMap Dealing.added?

def fired (h : History) : List Change := h.filterMap Dealing.fired?

def told (h : History) : List Delivery := h.filterMap Dealing.told?

/-- All who were added and not removed, in the order of their registration. -/
def listening (h : History) : List ListenerId := h.added.filter fun id => .removed id true ∉ h

def received (h : History) (id : ListenerId) : List Change := addressed id h.told

end History

/-- What can be relied on in a history behind which some deliveries are still to be made. -/
structure Dependable (h : History) (due : List Delivery) : Prop where
  /-- No two listeners share a number. -/
  fresh : h.added.Nodup
  /-- A removal finds a listener that was added and not removed. -/
  found : ∀ before id found after, h = before ++ .removed id found :: after →
    (found = true ↔ id ∈ History.listening before)
  /-- It removes this listener and leaves all others. -/
  parted : ∀ before id found after, h = before ++ .removed id found :: after →
    History.listening (before ++ [.removed id found]) = (History.listening before).filter (· ≠ id)
  atMostOnce : ∀ id, h.count (.removed id true) ≤ 1
  /-- Whoever is to be removed behind its registration is removed once. -/
  once : ∀ before id found after, h = before ++ .added id :: after → .removed id found ∈ after →
    h.count (.removed id true) = 1
  /-- Before the next change, all are told who listened as this one was fired, each once and in the
  order of their registration. -/
  delivered : ∀ before change between next after,
    h = before ++ .fired change :: between ++ .fired next :: after → History.fired between = [] →
      History.told between = (History.listening before).map (·, change)
  /-- For the last change, deliveries can still be due. -/
  delivering : ∀ before change after, h = before ++ .fired change :: after →
    History.fired after = [] →
      History.told after ++ due = (History.listening before).map (·, change)
  /-- Each listener is told what is fired from its registration up to its removal. -/
  received : ∀ before id after, h = before ++ .added id :: after →
    h.received id ++ addressed id due =
      History.fired (after.takeWhile (· ≠ .removed id true))
  /-- Who was never added is neither removed nor told anything. -/
  strangers : ∀ id, id ∉ h.added →
    .removed id true ∉ h ∧ h.received id = [] ∧ addressed id due = []

/-! ### Views of a history -/

section Views

variable {h h' : History} {id : ListenerId} {change : Change} {x : Dealing}

namespace History

@[simp] theorem added_append (h h' : History) : added (h ++ h') = added h ++ added h' :=
  List.filterMap_append

@[simp] theorem added_singleton (x : Dealing) : added [x] = x.added?.toList := by
  cases x <;> rfl

@[simp] theorem mem_added : id ∈ h.added ↔ .added id ∈ h := by
  constructor
  · intro hid
    obtain ⟨x, hx, hid⟩ := List.mem_filterMap.1 hid
    cases x <;> cases hid
    exact hx
  · exact fun hid => List.mem_filterMap.2 ⟨_, hid, rfl⟩

@[simp] theorem mem_listening : id ∈ h.listening ↔ .added id ∈ h ∧ .removed id true ∉ h := by
  simp [listening]

theorem nodup_listening (hn : h.added.Nodup) : h.listening.Nodup := hn.filter _

theorem listening_added (hid : .removed id true ∉ h) :
    listening (h ++ [.added id]) = h.listening ++ [id] := by
  simp [listening, hid]

/-- A removal that finds whoever listens takes this listener away. -/
theorem listening_removed {found : Bool} (hfound : found = true ↔ id ∈ h.listening) :
    listening (h ++ [.removed id found]) = h.listening.filter (· ≠ id) := by
  have hadded : added (h ++ [.removed id found]) = h.added := by simp
  rw [listening, hadded, listening, List.filter_filter]
  refine List.filter_congr fun other hother => ?_
  rw [mem_added] at hother
  rw [mem_listening] at hfound
  by_cases heq : other = id
  · subst heq
    simp [eq_comm, hfound, hother]
  · simp [heq]

theorem listening_fired : listening (h ++ [.fired change]) = h.listening := by
  simp [listening]

theorem listening_told : listening (h ++ [.told id change]) = h.listening := by
  simp [listening]

/-- Whether a listener listens changes only when it is added or removed. -/
theorem mem_listening_concat (hadded : x ≠ .added id) (hremoved : x ≠ .removed id true) :
    id ∈ listening (h ++ [x]) ↔ id ∈ h.listening := by
  simp [hadded.symm, hremoved.symm]

end History

@[simp] theorem addressed_append (d d' : List Delivery) :
    addressed id (d ++ d') = addressed id d ++ addressed id d' := by
  simp [addressed]

theorem addressed_cons (d : Delivery) (ds : List Delivery) :
    addressed id (d :: ds) = addressed id [d] ++ addressed id ds :=
  addressed_append [d] ds

theorem History.received_append (h h' : History) (id : ListenerId) :
    received (h ++ h') id = h.received id ++ h'.received id := by
  rw [received, told, List.filterMap_append]
  exact addressed_append _ _

theorem History.received_told (h : History) (other : ListenerId) :
    received (.told other change :: h) id = addressed id [(other, change)] ++ h.received id :=
  addressed_cons (other, change) h.told

/-- A change that goes to all of some listeners goes once to each of them. -/
theorem addressed_map {ids : List ListenerId} (hn : ids.Nodup) :
    addressed id (ids.map (·, change)) = if id ∈ ids then [change] else [] := by
  have hfilter : (ids.map (·, change)).filter (·.1 = id) =
      (ids.filter (· = id)).map (·, change) := by
    rw [List.filter_map]
    rfl
  rw [addressed, hfilter, List.filter_eq, hn.count]
  split <;> rfl

end Views

/-! ### What a registry allows -/

/-- This can happen behind the history `h` while some deliveries are due, and leaves others due. -/
inductive Happens (h : History) (due : List Delivery) : Dealing → List Delivery → Prop
  | added {id : ListenerId} (new : id ∉ h.added) : Happens h due (.added id) due
  | removed {id : ListenerId} {found : Bool} (iff : found = true ↔ id ∈ h.listening) :
    Happens h due (.removed id found) due
  /-- The deliveries of one change are made before the next one is fired. -/
  | fired {change : Change} (idle : due = []) :
    Happens h due (.fired change) (h.listening.map (·, change))
  | told {id : ListenerId} {change : Change} {rest : List Delivery}
    (first : due = (id, change) :: rest) : Happens h due (.told id change) rest

inductive Unfolds : History → List Delivery → List Dealing → List Delivery → Prop
  | nil {h : History} {due : List Delivery} : Unfolds h due [] due
  | cons {h : History} {due due₁ due' : List Delivery} {x : Dealing} {l : List Dealing}
    (first : Happens h due x due₁) (rest : Unfolds (h ++ [x]) due₁ l due') :
    Unfolds h due (x :: l) due'

section Unfolds

variable {h l l' : History} {due due' : List Delivery} {id : ListenerId} {x : Dealing}

theorem unfolds_append : Unfolds h due (l ++ l') due' ↔
    ∃ due₁, Unfolds h due l due₁ ∧ Unfolds (h ++ l) due₁ l' due' := by
  induction l generalizing h due with
  | nil =>
    rw [List.append_nil]
    constructor
    · exact fun hu => ⟨due, .nil, hu⟩
    · rintro ⟨_, ⟨⟩, hu⟩
      exact hu
  | cons x l ih =>
    constructor
    · rintro ⟨⟩
      rename_i due₁ hx hu
      obtain ⟨due₂, hl, hu⟩ := ih.1 hu
      exact ⟨due₂, .cons hx hl, by simpa using hu⟩
    · rintro ⟨due₂, ⟨⟩, hu⟩
      rename_i due₁ hx hl
      exact .cons hx (ih.2 ⟨due₂, hl, by simpa using hu⟩)

/-- What happened at some moment was allowed by what was before it. -/
theorem Unfolds.split {before after : List Dealing}
    (hu : Unfolds [] [] (before ++ x :: after) due) :
    ∃ due₁ due₂, Unfolds [] [] before due₁ ∧ Happens before due₁ x due₂ ∧
      Unfolds (before ++ [x]) due₂ after due := by
  obtain ⟨due₁, hbefore, hafter⟩ := unfolds_append.1 hu
  cases hafter with
  | cons hx hafter => exact ⟨due₁, _, hbefore, hx, hafter⟩

theorem Unfolds.found {found : Bool} {before after : List Dealing}
    (hu : Unfolds [] [] (before ++ .removed id found :: after) due) :
    found = true ↔ id ∈ History.listening before := by
  obtain ⟨_, _, -, hx, -⟩ := hu.split
  cases hx with
  | removed iff => exact iff

theorem Happens.nodup (hx : Happens h due x due') (hn : h.added.Nodup) :
    (History.added (h ++ [x])).Nodup := by
  rw [History.added_append, History.added_singleton]
  cases hx with
  | added new => exact List.concat_eq_append ▸ hn.concat new
  | removed => simpa using hn
  | fired => simpa using hn
  | told => simpa using hn

theorem Unfolds.nodup (hu : Unfolds h due l due') (hn : h.added.Nodup) :
    (History.added (h ++ l)).Nodup := by
  induction hu with
  | nil => rwa [List.append_nil]
  | cons hx _ ih =>
    rw [List.append_cons]
    exact ih (hx.nodup hn)

/-- Only a new change makes more deliveries due. -/
theorem Unfolds.told_append (hu : Unfolds h due l due') (hl : l.fired = []) :
    l.told ++ due' = due := by
  induction hu with
  | nil => rfl
  | cons hx _ ih =>
    cases hx with
    | added => exact ih hl
    | removed => exact ih hl
    | fired => contradiction
    | told first =>
      rw [first, ← ih hl]
      rfl

/-- As long as a listener is neither added nor removed, it is told what is fired if it listens, and
otherwise nothing but what is due. -/
theorem Unfolds.received (hu : Unfolds h due l due') (hn : h.added.Nodup)
    (hadded : .added id ∉ l) (hremoved : .removed id true ∉ l) :
    l.received id ++ addressed id due' =
      addressed id due ++ if id ∈ h.listening then l.fired else [] := by
  induction hu with
  | nil => simp [History.received, History.told, History.fired, addressed]
  | @cons h due due₁ due' x l hx _ ih =>
    obtain ⟨hxa, hla⟩ := not_or.1 (mt List.mem_cons.2 hadded)
    obtain ⟨hxr, hlr⟩ := not_or.1 (mt List.mem_cons.2 hremoved)
    have hrest := ih (hx.nodup hn) hla hlr
    rw [if_congr (History.mem_listening_concat (Ne.symm hxa) (Ne.symm hxr)) rfl rfl] at hrest
    cases hx with
    | added => exact hrest
    | removed => exact hrest
    | @fired change idle =>
      -- nothing was due before, and now this change is, once for each who listens
      rw [addressed_map (History.nodup_listening hn)] at hrest
      refine Eq.trans hrest ?_
      rw [idle]
      split <;> rfl
    | @told other change rest first =>
      rw [first, addressed_cons, History.received_told, List.append_assoc, List.append_assoc, hrest]
      rfl

/-- Only listeners that were added are removed. -/
theorem Unfolds.mem_added_of_removed (hu : Unfolds [] [] h due) (hid : .removed id true ∈ h) :
    .added id ∈ h := by
  obtain ⟨before, after, rfl⟩ := List.append_of_mem hid
  have hlistens := hu.found.1 rfl
  exact List.mem_append_left _ (History.mem_listening.1 hlistens).1

/-- Whoever was removed is not removed again. -/
theorem Unfolds.removed_notMem {before after : List Dealing}
    (hu : Unfolds [] [] (before ++ .removed id true :: after) due) :
    .removed id true ∉ before ∧ .removed id true ∉ after := by
  refine ⟨(History.mem_listening.1 (hu.found.1 rfl)).2, fun hid => ?_⟩
  obtain ⟨between, rest, rfl⟩ := List.append_of_mem hid
  rw [← List.cons_append, ← List.append_assoc] at hu
  have hlistens := hu.found.1 rfl
  simp at hlistens

theorem Unfolds.added_notMem {before after : List Dealing}
    (hu : Unfolds [] [] (before ++ .added id :: after) due) : .added id ∉ after := by
  have hn := hu.nodup .nil
  rw [List.nil_append, List.append_cons, History.added_append, List.nodup_append'] at hn
  exact fun hid => hn.2.2 (by simp) (History.mem_added.2 hid)

theorem Unfolds.count_removed (hu : Unfolds [] [] h due) (hid : .removed id true ∈ h) :
    h.count (.removed id true) = 1 := by
  obtain ⟨before, after, rfl⟩ := List.append_of_mem hid
  obtain ⟨hbefore, hafter⟩ := hu.removed_notMem
  simp [List.count_eq_zero.2 hbefore, List.count_eq_zero.2 hafter]

theorem Unfolds.received_of_stranger (hu : Unfolds [] [] h due) (hid : id ∉ h.added) :
    h.received id = [] ∧ addressed id due = [] := by
  rw [History.mem_added] at hid
  have hreceived := hu.received .nil hid (mt hu.mem_added_of_removed hid)
  rw [if_neg (by simp)] at hreceived
  exact List.append_eq_nil_iff.1 hreceived

/-- From its registration on, a listener that is not removed is told what is fired. -/
theorem Unfolds.received_of_added {before after : List Dealing}
    (hu : Unfolds [] [] (before ++ .added id :: after) due) (hid : .removed id true ∉ after) :
    History.received (before ++ .added id :: after) id ++ addressed id due =
      History.fired after := by
  obtain ⟨due₁, due₂, hbefore, hx, hafter⟩ := hu.split
  have hn := hx.nodup (hbefore.nodup .nil)
  cases hx with | added new => ?_
  obtain ⟨hnone, hdue⟩ := hbefore.received_of_stranger new
  have hnew : .removed id true ∉ before :=
    mt hbefore.mem_added_of_removed (mt History.mem_added.2 new)
  have hlistens : id ∈ History.listening (before ++ [.added id]) := by simp [hnew]
  calc
    History.received (before ++ .added id :: after) id ++ addressed id due
        = History.received after id ++ addressed id due := by
      rw [History.received_append, hnone]
      rfl
    _ = History.fired after := by
      rw [hafter.received hn hu.added_notMem hid, if_pos hlistens, hdue, List.nil_append]

/-- Behind its removal, a listener is told no more than was due. -/
theorem Unfolds.received_of_removed {before after : List Dealing}
    (hu : Unfolds [] [] (before ++ .removed id true :: after) due) :
    ∃ due₁, Unfolds [] [] before due₁ ∧
      History.received after id ++ addressed id due = addressed id due₁ := by
  have hlistens := History.mem_listening.1 (hu.found.1 rfl)
  have hnever : .added id ∉ after := by
    obtain ⟨earlier, later, rfl⟩ := List.append_of_mem hlistens.1
    rw [List.append_assoc, List.cons_append] at hu
    exact fun hid => hu.added_notMem (List.mem_append_right _ (List.mem_cons_of_mem _ hid))
  obtain ⟨due₁, due₂, hbefore, hx, hafter⟩ := hu.split
  have hn := hx.nodup (hbefore.nodup .nil)
  cases hx with | removed => ?_
  refine ⟨due₁, hbefore, ?_⟩
  rw [hafter.received hn hnever hu.removed_notMem.2, if_neg (by simp), List.append_nil]

/-- A listener is told what is fired from its registration up to its removal. -/
theorem Unfolds.received_eq {before after : List Dealing}
    (hu : Unfolds [] [] (before ++ .added id :: after) due) :
    History.received (before ++ .added id :: after) id ++ addressed id due =
      History.fired (after.takeWhile (· ≠ .removed id true)) := by
  by_cases hid : .removed id true ∈ after
  · obtain ⟨listened, rest, rfl, hnot⟩ := List.eq_append_cons_of_mem hid
    have hlistened : (listened ++ .removed id true :: rest).takeWhile (· ≠ .removed id true) =
        listened := by
      rw [List.takeWhile_append_of_pos fun x hx => decide_eq_true (ne_of_mem_of_not_mem hx hnot)]
      simp
    rw [← List.cons_append, ← List.append_assoc] at hu ⊢
    obtain ⟨due₁, hu₁, hrest⟩ := hu.received_of_removed
    rw [hlistened, ← hu₁.received_of_added hnot, ← hrest, History.received_append,
      List.append_assoc]
    rfl
  · have hall : after.takeWhile (· ≠ .removed id true) = after :=
      List.takeWhile_eq_self_iff.2 fun x hx => decide_eq_true (ne_of_mem_of_not_mem hx hid)
    rw [hall, hu.received_of_added hid]

theorem Unfolds.dependable (hu : Unfolds [] [] h due) : Dependable h due where
  fresh := hu.nodup .nil
  found before id found after heq := by
    subst heq
    exact hu.found
  parted before id found after heq := by
    subst heq
    exact History.listening_removed hu.found
  atMostOnce id := by
    by_cases hid : .removed id true ∈ h
    · exact (hu.count_removed hid).le
    · exact (List.count_eq_zero.2 hid).trans_le (Nat.zero_le 1)
  once before id found after heq hasked := by
    refine hu.count_removed ?_
    obtain ⟨between, rest, rfl⟩ := List.append_of_mem hasked
    rw [heq, ← List.cons_append, ← List.append_assoc] at hu ⊢
    cases found with
    | true => simp
    | false =>
      -- it was not found, hence it was removed before
      have hgone := mt hu.found.2 Bool.false_ne_true
      rw [History.mem_listening, not_and_not_right] at hgone
      exact List.mem_append_left _ (hgone (by simp))
  delivered before change between next after heq hbetween := by
    subst heq
    rw [List.append_assoc, List.cons_append] at hu
    obtain ⟨due₁, due₂, -, hfired, hrest⟩ := hu.split
    obtain ⟨due₃, hdelivered, hnext⟩ := unfolds_append.1 hrest
    cases hfired
    cases hnext with | cons hnext _ => ?_
    cases hnext with | fired idle => ?_
    rw [← hdelivered.told_append hbetween, idle, List.append_nil]
  delivering before change after heq hafter := by
    subst heq
    obtain ⟨due₁, due₂, -, hfired, hrest⟩ := hu.split
    cases hfired
    exact hrest.told_append hafter
  received before id after heq := by
    subst heq
    exact hu.received_eq
  strangers id hid := ⟨mt hu.mem_added_of_removed (mt History.mem_added.2 hid),
    hu.received_of_stranger hid⟩

end Unfolds

/-! ### The registry -/

namespace Listeners

variable {l : Listeners} {h : History} {id : ListenerId} {change : Change}

/-- The registry is what its history makes of it. -/
structure Records (l : Listeners) (h : History) : Prop where
  ids : l.ids = h.listening
  next : l.next = .ofNat h.added.length
  /-- The numbers were given one after the other. -/
  numbers : h.added = (List.range h.added.length).map fun n => ⟨.ofNat n⟩
  removed : ∀ id, .removed id true ∈ h → id ∈ h.added

theorem records_nil : Records {} [] := ⟨rfl, rfl, rfl, by simp⟩

/-- The next number is a new one as long as the numbers do not start again. -/
theorem Records.next_notMem (hr : l.Records h) (hfew : h.added.length < UInt64.size) :
    ⟨l.next⟩ ∉ h.added := by
  rw [hr.numbers, hr.next]
  intro hid
  obtain ⟨n, hn, heq⟩ := List.mem_map.1 hid
  have hlt : n < h.added.length := List.mem_range.1 hn
  have hnumber : n = h.added.length :=
    calc
      n = (UInt64.ofNat n).toNat := (UInt64.toNat_ofNat_of_lt (hlt.trans hfew)).symm
      _ = (UInt64.ofNat h.added.length).toNat := by rw [ListenerId.mk.inj heq]
      _ = h.added.length := UInt64.toNat_ofNat_of_lt hfew
  exact hlt.ne hnumber

/-- Whoever is added has a new number, and listens last. -/
theorem Records.add (hr : l.Records h) (hfew : h.added.length < UInt64.size) :
    l.add.1 ∉ h.added ∧ l.add.2.Records (h ++ [.added l.add.1]) := by
  have hnew := hr.next_notMem hfew
  refine ⟨hnew, ?_, ?_, ?_, ?_⟩
  · have hnever : .removed l.add.1 true ∉ h := mt (hr.removed _) hnew
    rw [History.listening_added hnever, ← hr.ids]
    rfl
  · simp [Listeners.add, hr.next, UInt64.ofNat_add]
  · simp [Listeners.add, hr.next, List.range_succ, ← hr.numbers]
  · intro id hid
    simp only [List.mem_append, List.mem_singleton, reduceCtorEq, or_false] at hid
    simp [hr.removed id hid]

theorem remove_found : (l.remove id).1 = true ↔ id ∈ l.ids := by
  simp [remove]

theorem Records.remove (hr : l.Records h) (id : ListenerId) :
    ((l.remove id).1 = true ↔ id ∈ h.listening) ∧
      (l.remove id).2.Records (h ++ [.removed id (l.remove id).1]) := by
  have hfound : (l.remove id).1 = true ↔ id ∈ h.listening := by
    rw [remove_found, hr.ids]
  refine ⟨hfound, ?_, ?_, ?_, ?_⟩
  · rw [History.listening_removed hfound, ← hr.ids]
    rfl
  · simp [Listeners.remove, hr.next]
  · simpa using hr.numbers
  · intro other hother
    rw [History.added_append]
    refine List.mem_append_left _ ?_
    rcases List.mem_append.1 hother with hother | hother
    · exact hr.removed other hother
    · obtain ⟨rfl, htrue⟩ := Dealing.removed.inj (List.mem_singleton.1 hother)
      exact History.mem_added.2 (History.mem_listening.1 (hfound.1 htrue.symm)).1

theorem Records.fired (hr : l.Records h) : l.Records (h ++ [.fired change]) :=
  ⟨hr.ids.trans History.listening_fired.symm, by simpa using hr.next, by simpa using hr.numbers,
    by simpa using hr.removed⟩

theorem Records.told (hr : l.Records h) : l.Records (h ++ [.told id change]) :=
  ⟨hr.ids.trans History.listening_told.symm, by simpa using hr.next, by simpa using hr.numbers,
    by simpa using hr.removed⟩

end Listeners

end ServiceWatch.Poller
