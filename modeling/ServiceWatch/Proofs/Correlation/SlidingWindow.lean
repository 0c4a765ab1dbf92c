import ServiceWatch.Proofs.Correlation.FlapTracker

/-! Whatever is done to a tracker, it counts exactly the transitions that never left a window. -/
namespace ServiceWatch.FlapTracker

inductive Operation where
  | record (now window : Nat)
  | prune (now window : Nat)
  | markReported
  | reset
  deriving DecidableEq

namespace Operation

/-- The instant of an operation; a mark and a reset have none. -/
def instant? : Operation → Option Nat
  | record now _ | prune now _ => some now
  | markReported | reset => none

def recorded? : Operation → Option Nat
  | record now _ => some now
  | prune _ _ | markReported | reset => none

/-- A transition of the instant `since` that was entered until an operation is counted behind it too. -/
def keeps (since : Nat) : Operation → Bool
  | record now window | prune now window => elapsed since now < window
  | markReported => true
  | reset => false

end Operation

def apply (t : FlapTracker) : Operation → FlapTracker
  | .record now window => t.record now window
  | .prune now window => t.prune now window
  | .markReported => t.markReported
  | .reset => t.reset

def run (t : FlapTracker) (ops : List Operation) : FlapTracker := ops.foldl apply t

/-- The recorded transitions, each with the operations from its own record on. -/
def recordings : List Operation → List (Nat × List Operation)
  | [] => []
  | op :: later => op.recorded?.toList.map (·, op :: later) ++ recordings later

/-- The transitions that a tracker of a cycle is given, in their order, each with all that is done to
the tracker from its entry on. -/
def entered (lost regained window : Nat) (ops : List Operation) : List (Nat × List Operation) :=
  (if elapsed lost regained < window then [lost, regained] else [regained]).map (·, ops) ++
    recordings ops

/-- The transitions that neither a reset nor the window of any operation since has taken away. -/
def remaining (lost regained window : Nat) (ops : List Operation) : List Nat :=
  ((entered lost regained window ops).filter fun e => e.2.all (·.keeps e.1)).map Prod.fst

theorem run_concat (t : FlapTracker) (ops : List Operation) (op : Operation) :
    t.run (ops ++ [op]) = (t.run ops).apply op := by
  simp [run]

section Reference

variable (lost regained window : Nat) (ops : List Operation) (op : Operation)

theorem recordings_concat :
    recordings (ops ++ [op]) = (recordings ops).map (fun e => (e.1, e.2 ++ [op])) ++
      op.recorded?.toList.map (·, [op]) := by
  induction ops with
  | nil => simp [recordings]
  | cons first later ih =>
    rw [List.cons_append, recordings, recordings, ih]
    cases first.recorded? <;> simp

theorem entered_concat :
    entered lost regained window (ops ++ [op]) =
      (entered lost regained window ops).map (fun e => (e.1, e.2 ++ [op])) ++
        op.recorded?.toList.map (·, [op]) := by
  unfold entered
  rw [recordings_concat, List.map_append, List.map_map, List.append_assoc]
  rfl

/-- One more operation goes over what remains, together with the transition that it records. -/
theorem remaining_concat :
    remaining lost regained window (ops ++ [op]) =
      (remaining lost regained window ops ++ op.recorded?.toList).filter op.keeps := by
  unfold remaining
  rw [entered_concat, List.filter_append, List.map_append, List.filter_append]
  congr 1
  · rw [List.filter_map, List.map_map, List.filter_map, List.filter_filter]
    congr 1
    apply List.filter_congr
    intro e _
    simp [Bool.and_comm]
  · rw [List.filter_map, List.map_map]
    cases op.recorded? <;> simp [Function.comp_def]

theorem map_fst_entered : (entered lost regained window ops).map Prod.fst =
    (if elapsed lost regained < window then [lost, regained] else [regained]) ++
      ops.filterMap Operation.recorded? := by
  have hrecordings : (recordings ops).map Prod.fst = ops.filterMap Operation.recorded? := by
    induction ops with
    | nil => rfl
    | cons op later ih =>
      rw [recordings, List.map_append, ih]
      cases h : op.recorded? <;> simp [h]
  unfold entered
  rw [List.map_append, hrecordings, List.map_map]
  simp [Function.comp_def]

end Reference

variable {lost regained window : Nat} {ops : List Operation}

theorem pairwise_recorded (ho : (regained :: ops.filterMap Operation.instant?).Pairwise (· ≤ ·)) :
    (regained :: ops.filterMap Operation.recorded?).Pairwise (· ≤ ·) := by
  have hrecorded : (ops.filterMap Operation.recorded?).Sublist (ops.filterMap Operation.instant?) := by
    clear ho
    induction ops with
    | nil => exact List.Sublist.slnil
    | cons op later ih =>
      cases op with
      | record now window => exact ih.cons_cons now
      | prune now window => exact ih.cons now
      | markReported => exact ih
      | reset => exact ih
  exact ho.sublist (hrecorded.cons_cons regained)

/-- Transitions are entered in the order of time. -/
theorem pairwise_entered (hl : lost ≤ regained)
    (ho : (regained :: ops.filterMap Operation.instant?).Pairwise (· ≤ ·)) :
    ((entered lost regained window ops).map Prod.fst).Pairwise (· ≤ ·) := by
  have hrecorded := pairwise_recorded ho
  rw [map_fst_entered]
  split
  · refine List.pairwise_cons.2 ⟨?_, hrecorded⟩
    intro now hnow
    rcases List.mem_cons.1 hnow with rfl | hnow
    · exact hl
    · have hle : regained ≤ now := (List.pairwise_cons.1 hrecorded).1 now hnow
      omega
  · exact hrecorded

theorem le_getLast?_getD {first now : Nat} {rest : List Nat}
    (h : (first :: rest).Pairwise (· ≤ ·)) (hnow : now ∈ first :: rest) :
    now ≤ rest.getLast?.getD first := by
  cases rest using List.reverseRecOn with
  | nil =>
    rw [List.mem_singleton.1 hnow]
    exact Nat.le_refl first
  | append_singleton rest last =>
    rw [List.getLast?_concat, Option.getD_some]
    rw [← List.cons_append] at h hnow
    rcases List.mem_append.1 hnow with hnow | hnow
    · exact (List.pairwise_append.1 h).2.2 now hnow last (List.mem_singleton.2 rfl)
    · exact Nat.le_of_eq (List.mem_singleton.1 hnow)

theorem remaining_sublist (lost regained window : Nat) (ops : List Operation) :
    (remaining lost regained window ops).Sublist ((entered lost regained window ops).map Prod.fst) :=
  List.filter_sublist.map Prod.fst

/-- In a tracker whose transitions ascend, what is dropped from the front is all that is too old. -/
theorem transitions_apply (t : FlapTracker) (op : Operation)
    (h : (t.transitions ++ op.recorded?.toList).Pairwise (· ≤ ·)) :
    (t.apply op).transitions = (t.transitions ++ op.recorded?.toList).filter op.keeps := by
  cases op with
  | record now window => exact dropWhile_eq_filter id h now window
  | prune now window =>
    simp only [Operation.recorded?, Option.toList_none, List.append_nil] at h ⊢
    exact dropWhile_eq_filter id h now window
  | markReported => simp [apply, markReported, Operation.recorded?, Operation.keeps]
  | reset => simp [apply, reset, Operation.keeps]

theorem last_apply (t : FlapTracker) (op : Operation) :
    (t.apply op).last = op.recorded?.getD t.last := by
  cases op <;> rfl

theorem last_run (t : FlapTracker) (ops : List Operation) :
    (t.run ops).last = ((ops.filterMap Operation.recorded?).getLast?).getD t.last := by
  induction ops using List.reverseRecOn with
  | nil => rfl
  | append_singleton ops op ih =>
    rw [run_concat, last_apply, ih, List.filterMap_append]
    cases h : op.recorded? <;> simp [h]

theorem transitions_run (hl : lost ≤ regained)
    (ho : (regained :: ops.filterMap Operation.instant?).Pairwise (· ≤ ·)) :
    ((ofCycle lost regained window).run ops).transitions = remaining lost regained window ops := by
  induction ops using List.reverseRecOn with
  | nil =>
    unfold remaining entered
    rw [recordings, List.append_nil, List.filter_eq_self.2 (by simp), List.map_map]
    exact (List.map_id _).symm
  | append_singleton ops op ih =>
    have hordered : ((entered lost regained window (ops ++ [op])).map Prod.fst).Pairwise (· ≤ ·) :=
      pairwise_entered hl ho
    rw [List.filterMap_append, ← List.cons_append] at ho
    have hops := ih (List.pairwise_append.1 ho).1
    rw [run_concat, remaining_concat, ← hops]
    apply transitions_apply
    rw [hops]
    refine hordered.sublist ?_
    rw [entered_concat, List.map_append, List.map_map]
    refine (remaining_sublist lost regained window ops).append ?_
    cases op.recorded? <;> simp

/-- A tracker is made for a loss and the return behind it, and then used at instants that never go
back, each time with any window. Then it counts, in ascending order, exactly the transitions entered
since the last reset that lay in the window of each operation from their entry on, and its latest
transition is the one recorded last, whatever else was done. -/
theorem transitions_never_left_window (lost regained window : Nat) (ops : List Operation)
    (hl : lost ≤ regained)
    (ho : (regained :: ops.filterMap Operation.instant?).Pairwise (· ≤ ·)) :
    let t := (ofCycle lost regained window).run ops
    t.transitions.Pairwise (· ≤ ·) ∧
      t.transitions = remaining lost regained window ops ∧
      t.last = ((ops.filterMap Operation.recorded?).getLast?).getD regained ∧
      ∀ now ∈ regained :: ops.filterMap Operation.recorded?, now ≤ t.last := by
  intro t
  have htransitions : t.transitions = remaining lost regained window ops := transitions_run hl ho
  have hlast : t.last = ((ops.filterMap Operation.recorded?).getLast?).getD regained :=
    last_run _ ops
  have hordered : ((entered lost regained window ops).map Prod.fst).Pairwise (· ≤ ·) :=
    pairwise_entered hl ho
  refine ⟨?_, htransitions, hlast, ?_⟩
  · rw [htransitions]
    exact hordered.sublist (remaining_sublist lost regained window ops)
  · intro now hnow
    rw [hlast]
    exact le_getLast?_getD (pairwise_recorded ho) hnow

theorem transitions_never_left_window_sample :
    let ops : List Operation :=
      [.record 10 5, .markReported, .prune 12 4, .record 12 3, .reset, .record 14 9, .record 14 9,
        .record 17 4, .prune 18 5]
    let t := (ofCycle 6 8 5).run ops
    6 ≤ 8 ∧ (8 :: ops.filterMap Operation.instant?).Pairwise (· ≤ ·) ∧ t.transitions = [14, 14, 17] ∧
      remaining 6 8 5 ops = [14, 14, 17] ∧ t.last = 17 := by
  intro ops t
  have ho : (8 :: ops.filterMap Operation.instant?).Pairwise (· ≤ ·) := by decide
  obtain ⟨-, htransitions, hlast, -⟩ := transitions_never_left_window 6 8 5 ops (by decide) ho
  have hremaining : remaining 6 8 5 ops = [14, 14, 17] := by decide
  exact ⟨by decide, ho, htransitions.trans hremaining, hremaining, hlast⟩

end ServiceWatch.FlapTracker
