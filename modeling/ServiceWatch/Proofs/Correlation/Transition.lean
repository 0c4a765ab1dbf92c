import Mathlib.Data.List.Chain
import Mathlib.Data.List.DropRight
import ServiceWatch.Proofs.Correlation.Engine

/-! The transitions of a sighting in a run, and those among them that flapping is told by. -/
namespace ServiceWatch

/-- A report about a sighting that told something new. -/
structure Transition where
  kind : SignalKind
  instant : Nat
  /-- Flapping was reported along with it. -/
  reported : Bool
  deriving DecidableEq

namespace Transition

/-- Each transition comes less than the window after the one before it. -/
def Linked (window : Nat) (history : List Transition) : Prop :=
  history.IsChain fun a b => FlapTracker.elapsed a.instant b.instant < window

instance (window : Nat) (history : List Transition) : Decidable (Linked window history) :=
  inferInstanceAs (Decidable (List.IsChain _ _))

/-- The longest end of a history that is linked. -/
def chain (window : Nat) : List Transition → List Transition
  | [] => []
  | t :: rest => if Linked window (t :: rest) then t :: rest else chain window rest

theorem chain_suffix (window : Nat) (history : List Transition) :
    chain window history <:+ history := by
  induction history with
  | nil => exact List.suffix_rfl
  | cons t rest ih =>
    unfold chain
    split
    · exact List.suffix_rfl
    · exact ih.trans (List.suffix_cons t rest)

theorem length_le_chain {window : Nat} {history l : List Transition} (hs : l <:+ history)
    (hl : Linked window l) : l.length ≤ (chain window history).length := by
  induction history with
  | nil => simpa [chain] using hs
  | cons t rest ih =>
    unfold chain
    split
    · exact hs.length_le
    · rename_i hn
      rcases List.suffix_cons_iff.1 hs with rfl | hs
      · contradiction
      · exact ih hs

theorem linked_concat {window : Nat} {history : List Transition} {x : Transition} :
    Linked window (history ++ [x]) ↔ Linked window history ∧
      ∀ t ∈ history.getLast?, FlapTracker.elapsed t.instant x.instant < window := by
  unfold Linked
  rw [List.isChain_append]
  simp

theorem chain_of_linked {window : Nat} {history : List Transition} (h : Linked window history) :
    chain window history = history := by
  cases history with
  | nil => rfl
  | cons t rest => exact if_pos h

theorem chain_of_not_linked {window : Nat} {t : Transition} {rest : List Transition}
    (h : ¬Linked window (t :: rest)) : chain window (t :: rest) = chain window rest :=
  if_neg h

/-- One more transition lengthens the chain, or starts it over. -/
theorem chain_concat (window : Nat) (history : List Transition) (x : Transition) :
    chain window (history ++ [x]) =
      if ∀ t ∈ history.getLast?, FlapTracker.elapsed t.instant x.instant < window then
        chain window history ++ [x]
      else [x] := by
  induction history with
  | nil => exact chain_of_linked (List.isChain_singleton x)
  | cons t rest ih =>
    by_cases hc : ∀ t' ∈ (t :: rest).getLast?, FlapTracker.elapsed t'.instant x.instant < window
    · rw [if_pos hc]
      by_cases hl : Linked window (t :: rest)
      · rw [chain_of_linked hl, chain_of_linked (linked_concat.2 ⟨hl, hc⟩)]
      · have hn : ¬Linked window (t :: (rest ++ [x])) := fun h => hl (linked_concat.1 h).1
        rw [chain_of_not_linked hl, List.cons_append, chain_of_not_linked hn, ih]
        cases rest with
        | nil => exact absurd (List.isChain_singleton t) hl
        | cons t' rest => rw [if_pos (by simpa using hc)]
    · have hn : ¬Linked window (t :: (rest ++ [x])) := fun h => hc (linked_concat.1 h).2
      rw [if_neg hc, List.cons_append, chain_of_not_linked hn, ih]
      cases rest with
      | nil => simp [chain]
      | cons t' rest => rw [if_neg (by simpa using hc)]

/-- The transitions from the one before the first return of the chain on. -/
def credited (window : Nat) (history : List Transition) : List Transition :=
  let c := chain window history
  history.drop (history.length - c.length + c.findIdx (fun t => t.kind = .regained) - 1)

/-- What a report has not used up: all transitions, or those behind the latest one that flapping was
reported along with. -/
def unspent (policy : FlapPolicy) (history : List Transition) : List Transition :=
  match policy with
  | .retain => history
  | .reset => history.rtakeWhile fun t => !t.reported

/-- The transitions that flapping is told by when the last one of a history arrives: those from the
one before the first return of the chain on that lie in the window and that no report before has used
up. -/
def counted (config : CorrelationConfig) (history : List Transition) (now : Nat) :
    List Transition :=
  let l := credited config.flapInterval history
  (unspent config.flapPolicy l.dropLast ++ l.getLast?.toList).filter fun t =>
    FlapTracker.elapsed t.instant now < config.flapInterval

theorem length_chain_le (window : Nat) (history : List Transition) :
    (chain window history).length ≤ history.length :=
  (chain_suffix window history).length_le

/-- Within a chain that has seen a return, one more transition is credited beside the others. -/
theorem credited_concat {window : Nat} {history : List Transition} {x : Transition}
    (hc : ∀ t ∈ history.getLast?, FlapTracker.elapsed t.instant x.instant < window)
    (hr : ∃ t ∈ chain window history, t.kind = .regained) :
    credited window (history ++ [x]) = credited window history ++ [x] := by
  have hi : (chain window history).findIdx (fun t => t.kind = .regained) <
      (chain window history).length := by
    rw [List.findIdx_lt_length]
    simpa using hr
  have hle := length_chain_le window history
  unfold credited
  dsimp only
  rw [chain_concat, if_pos hc, List.findIdx_append, if_pos hi, List.length_append,
    List.length_append, Nat.add_sub_add_right, List.drop_append_of_le_length (by omega)]

/-- The first return of a chain is credited along with the transition before it. -/
theorem credited_first {window : Nat} {history : List Transition} {t x : Transition}
    (hx : x.kind = .regained)
    (hr : FlapTracker.elapsed t.instant x.instant < window →
      ∀ t' ∈ chain window (history ++ [t]), t'.kind = .lost) :
    credited window (history ++ [t] ++ [x]) = [t, x] := by
  have hle := length_chain_le window (history ++ [t])
  have hd : credited window (history ++ [t] ++ [x]) =
      (history ++ [t] ++ [x]).drop history.length := by
    unfold credited
    dsimp only
    congr 1
    rw [chain_concat]
    by_cases hc : FlapTracker.elapsed t.instant x.instant < window
    · have hn : (chain window (history ++ [t])).findIdx (fun t => t.kind = .regained) =
          (chain window (history ++ [t])).length := by
        rw [List.findIdx_eq_length]
        intro t' ht'
        simp [hr hc t' ht']
      rw [if_pos (by simpa using hc), List.findIdx_append, hn, if_neg (by omega)]
      simp only [List.length_append, List.length_singleton] at hle ⊢
      simp [hx]
      omega
    · rw [if_neg (by simpa using hc)]
      simp [hx]
  rw [hd]
  simp

/-- Where the chain has seen a return, the last transition of the history is credited last. -/
theorem exists_credited_eq_concat {window : Nat} {history : List Transition} {x : Transition}
    (hr : ∃ t ∈ chain window (history ++ [x]), t.kind = .regained) :
    ∃ l, credited window (history ++ [x]) = l ++ [x] := by
  have hi : (chain window (history ++ [x])).findIdx (fun t => t.kind = .regained) <
      (chain window (history ++ [x])).length := by
    rw [List.findIdx_lt_length]
    simpa using hr
  have hle := length_chain_le window (history ++ [x])
  rw [List.length_append, List.length_singleton] at hle
  unfold credited
  dsimp only
  rw [List.drop_append_of_le_length (by simp; omega)]
  exact ⟨_, rfl⟩

/-- The last transition of a history ends its chain. -/
theorem exists_chain_eq_concat (window : Nat) (history : List Transition) (x : Transition) :
    ∃ l, chain window (history ++ [x]) = l ++ [x] := by
  rw [chain_concat]
  split
  · exact ⟨_, rfl⟩
  · exact ⟨[], rfl⟩

theorem mem_chain_concat (window : Nat) (history : List Transition) (x : Transition) :
    x ∈ chain window (history ++ [x]) := by
  obtain ⟨l, hl⟩ := exists_chain_eq_concat window history x
  simp [hl]

@[simp] theorem unspent_nil (policy : FlapPolicy) : unspent policy [] = [] := by
  cases policy <;> rfl

theorem unspent_concat (policy : FlapPolicy) (history : List Transition) (x : Transition) :
    unspent policy (history ++ [x]) =
      if policy = .reset ∧ x.reported = true then [] else unspent policy history ++ [x] := by
  cases policy with
  | retain => simp [unspent]
  | reset =>
    unfold unspent
    cases hx : x.reported <;> simp [hx]

theorem unspent_suffix (policy : FlapPolicy) (history : List Transition) :
    unspent policy history <:+ history := by
  cases policy with
  | retain => exact List.suffix_rfl
  | reset => exact List.rtakeWhile_suffix _ history

theorem counted_of_credited {config : CorrelationConfig} {history l : List Transition}
    {x : Transition} (h : credited config.flapInterval history = l ++ [x]) (now : Nat) :
    counted config history now = (unspent config.flapPolicy l ++ [x]).filter fun t =>
      FlapTracker.elapsed t.instant now < config.flapInterval := by
  unfold counted
  rw [h]
  simp

end Transition

end ServiceWatch
