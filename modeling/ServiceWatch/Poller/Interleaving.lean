import ServiceWatch.Poller.Call

/-!
Calls of one coordinator that run at the same time: any of them can take the next step, and the
collaborators answer as they like. What happens in a run is kept as a list of occurrences.
-/
namespace ServiceWatch.Poller

variable {α : Type}

/-- Calls at work on one memory, and which of them holds the guard. -/
structure Pool (α : Type) where
  memory : Memory := {}
  holder : Option Nat := none
  /-- The calls by their numbers, each with the steps that it has before it. -/
  calls : List (Call α)

/-- What a step of a call lets others see. -/
inductive Occurrence where
  | asked (call : Nat) (request : Request) (answer : request.Answer)
  | fired (call : Nat) (change : Change)
  | told (call : Nat) (listener : ListenerId) (change : Change)
  /-- The memory was looked at, and perhaps changed. -/
  | accessed (call : Nat) (before after : Memory)
  | entered (call : Nat)
  | left (call : Nat)

namespace Pool

def resume (p : Pool α) (i : Nat) (rest : Call α) : Pool α := { p with calls := p.calls.set i rest }

inductive Step : Pool α → Occurrence → Pool α → Prop where
  | ask {p : Pool α} {i : Nat} {r : Request} {next : r.Answer → Call α}
      (h : p.calls[i]? = some (.ask r next)) (answer : r.Answer) :
      Step p (.asked i r answer) (p.resume i (next answer))
  | fire {p : Pool α} {i : Nat} {c : Change} {next : Call α}
      (h : p.calls[i]? = some (.fire c next)) :
      Step p (.fired i c) (p.resume i (.tellAll c next p.memory.listeners.ids))
  | tell {p : Pool α} {i : Nat} {l : ListenerId} {c : Change} {next : Call α}
      (h : p.calls[i]? = some (.tell l c next)) :
      Step p (.told i l c) (p.resume i next)
  | access {p : Pool α} {i : Nat} {update : Memory → Memory} {next : Memory → Call α}
      (h : p.calls[i]? = some (.access update next)) :
      Step p (.accessed i p.memory (update p.memory))
        ({ p with memory := update p.memory }.resume i (next p.memory))
  | enter {p : Pool α} {i : Nat} {next : Call α}
      (h : p.calls[i]? = some (.enter next)) (free : p.holder = none) :
      Step p (.entered i) ({ p with holder := some i }.resume i next)
  | leave {p : Pool α} {i : Nat} {next : Call α}
      (h : p.calls[i]? = some (.leave next)) (held : p.holder = some i) :
      Step p (.left i) ({ p with holder := none }.resume i next)

/-- Steps one after the other, with what occurred. -/
inductive Run : Pool α → List Occurrence → Pool α → Prop where
  | refl (p : Pool α) : Run p [] p
  | step {p q r : Pool α} {o : Occurrence} {os : List Occurrence} (h : p.Step o q) (rest : q.Run os r) :
      Run p (o :: os) r

theorem Run.trans {p q r : Pool α} {os os' : List Occurrence} (h : p.Run os q) (h' : q.Run os' r) :
    p.Run (os ++ os') r := by
  induction h with
  | refl => exact h'
  | step hs _ ih => exact .step hs (ih h')

def result? (p : Pool α) (i : Nat) : Option α :=
  match p.calls[i]? with
  | some (.done a) => some a
  | _ => none

def IsDone (p : Pool α) : Prop := ∀ i < p.calls.length, (p.result? i).isSome

end Pool

end ServiceWatch.Poller
