import Mathlib.Data.Prod.Lex
import Mathlib.Data.String.Basic
import ServiceWatch.Proofs.Correlation.Freshness
import ServiceWatch.Proofs.Correlation.Independence

/-! What expiry drops, and the order in which it tells of the outages that end with it: both follow
from the facts alone, however the tables that hold them are laid out. -/
namespace ServiceWatch

theorem Table.get?_of_perm {κ α : Type} [DecidableEq κ] {t t' : Table κ α}
    (h : t.entries.Perm t'.entries) (k : κ) : t.get? k = t'.get? k := by
  ext a
  rw [← Table.mem_entries, ← Table.mem_entries, h.mem_iff]

/-! ### The order of services -/

theorem Address.le_iff {x y : Address} : x.le y = true ↔ x.key ≤ y.key := by
  unfold Address.le
  rw [Bool.not_eq_true', List.lex_eq_false_iff_not_lex, ← not_lt]
  simp only [decide_eq_true_eq]
  exact Iff.rfl

theorem Address.key_injective : Function.Injective Address.key := by
  intro x y h
  cases x <;> cases y <;>
    simp_all [Address.key, Address.parts, UInt8.toNat_inj, UInt16.toNat_inj]

namespace ServiceId

def rank (s : ServiceId) : ℕ ×ₗ List ℕ ×ₗ List Char :=
  toLex (s.node.toNat, toLex (s.address.key, s.name.toList))

theorem rank_injective : Function.Injective rank := by
  rintro ⟨node, address, name⟩ ⟨node', address', name'⟩ h
  obtain ⟨hn, ha, hs⟩ : node = node' ∧ address = address' ∧ name = name' := by
    simpa [rank, UInt32.toNat_inj, Address.key_injective.eq_iff, String.toList_inj] using h
  rw [hn, ha, hs]

theorem le_iff_rank {a b : ServiceId} : a.le b = true ↔ a.rank ≤ b.rank := by
  obtain ⟨node, address, name⟩ := a
  obtain ⟨node', address', name'⟩ := b
  unfold le rank
  simp only [Prod.Lex.toLex_le_toLex]
  by_cases hn : node = node'
  · subst hn
    by_cases ha : address = address'
    · subst ha
      simp only [if_true, lt_irrefl, true_and, false_or, Bool.not_eq_true', decide_eq_false_iff_not]
      rw [← not_lt]
      exact Iff.rfl
    · have hk : address.key ≠ address'.key := fun h => ha (Address.key_injective h)
      simp [ha, hk, Address.le_iff, le_iff_lt_or_eq]
  · have hk : node.toNat ≠ node'.toNat := fun h => hn (UInt32.toNat_inj.1 h)
    simp [hn, hk, UInt32.le_iff_toNat_le, le_iff_lt_or_eq]

end ServiceId

namespace Afflictions

/-- The services that lost a report are told in their order, each once. -/
theorem ascending_affected (a : Afflictions) (now timeout : Nat) :
    (a.affected now timeout).Pairwise fun x y => x.rank < y.rank := by
  have hle : (a.affected now timeout).Pairwise fun x y => x.le y = true := by
    refine List.pairwise_mergeSort (fun x y z hxy hyz => ?_) (fun x y => ?_) _
    · rw [ServiceId.le_iff_rank] at *
      exact hxy.trans hyz
    · rw [Bool.or_eq_true, ServiceId.le_iff_rank, ServiceId.le_iff_rank]
      exact le_total x.rank y.rank
  refine hle.imp₂ (fun x y hxy hne => ?_) (a.nodup_affected now timeout)
  exact lt_of_le_of_ne (ServiceId.le_iff_rank.1 hxy) fun h => hne (ServiceId.rank_injective h)

end Afflictions

namespace Engine

/-! ### What expiry tells -/

/-- What is told of an outage that ends with an expiry. -/
def resolved (now : Nat) (service : ServiceId) : Finding :=
  ⟨.wideSpreadOutageResolved, service, none, .expiry now⟩

/-- Where no outage is due, an evaluation ends the outages that too few monitors are left for, each
once and in the order in which the services are evaluated. -/
theorem found_evaluateServices {config : CorrelationConfig} {m : WorkingMemory}
    {services : List ServiceId} (hn : services.Nodup)
    (hd : ∀ service, isWideSpread config (m.afflictedMonitors service) = true →
      m.hasOutage service = true) (now : Nat) :
    (evaluateServices config now (.expiry now) services m).1 = (services.filter fun service =>
      m.hasOutage service && !isWideSpread config (m.afflictedMonitors service)).map
        (resolved now) := by
  induction services generalizing m with
  | nil => rfl
  | cons service services ih =>
    obtain ⟨hnotMem, hn⟩ := List.nodup_cons.1 hn
    have hmonitors (s : ServiceId) :
        (evaluateWideSpread config m service now (.expiry now)).2.afflictedMonitors s =
          m.afflictedMonitors s := by
      simp [WorkingMemory.afflictedMonitors]
    have hothers (s : ServiceId) (hs : s ∈ services) :
        (evaluateWideSpread config m service now (.expiry now)).2.hasOutage s = m.hasOutage s := by
      rw [hasOutage_evaluateWideSpread, if_neg (ne_of_mem_of_not_mem hs hnotMem)]
    have hrest := ih (m := (evaluateWideSpread config m service now (.expiry now)).2) hn fun s hw => by
      rw [hmonitors] at hw
      rw [hasOutage_evaluateWideSpread]
      split
      · rename_i he
        rwa [he] at hw
      · exact hd s hw
    have hfilter : (services.filter fun s =>
        (evaluateWideSpread config m service now (.expiry now)).2.hasOutage s &&
          !isWideSpread config
            ((evaluateWideSpread config m service now (.expiry now)).2.afflictedMonitors s)) =
        services.filter fun s => m.hasOutage s && !isWideSpread config (m.afflictedMonitors s) := by
      refine List.filter_congr fun s hs => ?_
      rw [hmonitors, hothers s hs]
    simp only [evaluateServices, hrest, hfilter, List.filter_cons]
    rcases evaluateWideSpread_cases config m now (.expiry now) service with ⟨hw, he⟩ | ⟨hw, he⟩
    · rw [he, hw]
      cases m.hasOutage service <;> rfl
    · have ho : m.hasOutage service = true := by
        cases ho : m.hasOutage service with
        | true => rfl
        | false => exact ho.symm.trans (hd service (by rw [hw, ho]; rfl))
      rw [he, hw, ho]
      rfl

/-- What is handed out next time behind an expiry. -/
theorem pending_expire {e : Engine} {timeout : Nat} (ht : e.config.afflictionTimeout = some timeout)
    (now : Nat) :
    (e.expire now).pending = e.pending ++ (evaluateServices e.config now (.expiry now)
      (e.memory.afflictions.affected now timeout)
      ((e.memory.expireTrackers now e.config.flapInterval).2.expireAfflictions now timeout).2).1 := by
  unfold expire
  rw [ht]
  rfl

section Expire

variable {e : Engine} (h : OutagesMatch e.config e.memory) (now : Nat)

include h

/-- Expiry tells of the outages that end with it, in the order of their services. -/
theorem exists_pending_expire : ∃ services : List ServiceId,
    (services.Pairwise fun x y => x.rank < y.rank) ∧
    (∀ service, service ∈ services ↔
      e.memory.hasOutage service = true ∧ (e.expire now).memory.hasOutage service = false) ∧
    (e.expire now).pending = e.pending ++ services.map (resolved now) := by
  unfold expire
  cases ht : e.config.afflictionTimeout with
  | none =>
    refine ⟨[], .nil, fun service => ?_, (List.append_nil _).symm⟩
    simp [WorkingMemory.hasOutage, WorkingMemory.expireTrackers]
  | some timeout =>
    let m := (e.memory.expireTrackers now e.config.flapInterval).2
    let m' := (m.expireAfflictions now timeout).2
    have hd (service : ServiceId) (hw : isWideSpread e.config (m'.afflictedMonitors service) = true) :
        m'.hasOutage service = true :=
      (h service).trans (isWideSpread_mono (m.afflictedMonitors_expire_le now timeout service) hw)
    have hfound := found_evaluateServices (m.afflictions.nodup_affected now timeout) hd now
    refine ⟨_, (m.afflictions.ascending_affected now timeout).filter _, fun service => ?_,
      congrArg (e.pending ++ ·) hfound⟩
    have hm' : m'.hasOutage service = e.memory.hasOutage service := rfl
    dsimp only
    rw [hasOutage_evaluateServices, List.mem_filter, Bool.and_eq_true, Bool.not_eq_true', hm']
    change _ ↔ _ ∧ (if service ∈ m.afflictions.affected now timeout then
      isWideSpread e.config (m'.afflictedMonitors service) else m'.hasOutage service) = false
    by_cases hs : service ∈ m.afflictions.affected now timeout
    · simp only [hs, true_and, if_true]
    · simp only [hs, false_and, if_false, hm', false_iff]
      rintro ⟨ho, ho'⟩
      rw [ho] at ho'
      contradiction

end Expire

/-! ### The layout of tables -/

/-- Two engines hold the same facts, perhaps in tables that are laid out in different ways. -/
structure Like (e r : Engine) : Prop where
  config : e.config = r.config
  pending : e.pending = r.pending
  facts : ∀ service, e.memory.about service = r.memory.about service

/-- Tables whose entries stand in another order hold the same facts. -/
theorem Like.of_perm {e r : Engine} (config : e.config = r.config) (pending : e.pending = r.pending)
    (afflictions : e.memory.afflictions.byService.entries.Perm r.memory.afflictions.byService.entries)
    (trackers : e.memory.trackers.entries.Perm r.memory.trackers.entries)
    (outages : e.memory.outages.entries.Perm r.memory.outages.entries) : e.Like r where
  config := config
  pending := pending
  facts service := by
    ext1
    · funext monitor
      simp only [WorkingMemory.about, Afflictions.get?, Afflictions.monitors,
        Table.get?_of_perm afflictions]
    · funext monitor
      exact Table.get?_of_perm trackers _
    · exact Table.get?_of_perm outages service

theorem Like.outagesMatch {e r : Engine} (h : e.Like r) (hr : OutagesMatch r.config r.memory) :
    OutagesMatch e.config e.memory := by
  intro service
  rw [WorkingMemory.hasOutage_eq, WorkingMemory.afflictedMonitors_eq, h.facts, h.config,
    ← WorkingMemory.hasOutage_eq, ← WorkingMemory.afflictedMonitors_eq]
  exact hr service

/-- Services in ascending order are told apart by what they are. -/
theorem eq_of_ascending {services services' : List ServiceId}
    (h : services.Pairwise fun x y => x.rank < y.rank)
    (h' : services'.Pairwise fun x y => x.rank < y.rank)
    (hmem : ∀ service, service ∈ services ↔ service ∈ services') : services = services' := by
  have nodup {l : List ServiceId} (hl : l.Pairwise fun x y => x.rank < y.rank) : l.Nodup :=
    hl.imp fun hlt => ne_of_apply_ne ServiceId.rank (ne_of_lt hlt)
  have hperm := (List.perm_ext_iff_of_nodup (nodup h) (nodup h')).2 hmem
  exact hperm.eq_of_pairwise (fun _ _ _ _ hab hba => (lt_asymm hab hba).elim) h h'

/-- Expiry does not depend on the layout of tables. -/
theorem Like.expire {e r : Engine} (h : e.Like r) (hr : OutagesMatch r.config r.memory) (now : Nat) :
    (e.expire now).Like (r.expire now) := by
  have he := h.outagesMatch hr
  have hfacts (service : ServiceId) :
      (e.expire now).memory.about service = (r.expire now).memory.about service := by
    rw [about_expire he, about_expire hr, h.facts, h.config]
  obtain ⟨services, hasc, hmem, hpending⟩ := exists_pending_expire he now
  obtain ⟨services', hasc', hmem', hpending'⟩ := exists_pending_expire hr now
  have heq : services = services' := by
    refine eq_of_ascending hasc hasc' fun service => ?_
    rw [hmem, hmem', WorkingMemory.hasOutage_eq, WorkingMemory.hasOutage_eq,
      WorkingMemory.hasOutage_eq, WorkingMemory.hasOutage_eq, hfacts, h.facts]
  exact ⟨by simpa using h.config, by rw [hpending, hpending', heq, h.pending], hfacts⟩

/-- Take an engine that holds what some run leads to, with its tables laid out in any way. Expiry drops
just the trackers whose latest transition, and the afflictions whose loss, have reached the age at
which they are dropped, and just the outages that the remaining afflictions ask for no more. What
stays is as it was. Of each outage that ends it tells once, in the order of the services, behind what
waits already. All that depends on the facts alone. And unless facts are dropped at once, none is too
old behind an operation. -/
theorem expiry_drops_stale_facts (config : CorrelationConfig) (ops : List (Operation × Nat))
    (e : Engine) (h : e.Like ((new config).run ops).2) (now : Nat) :
    let m := e.memory
    let m' := (e.expire now).memory
    (∀ s, m'.trackers.get? s =
      (m.trackers.get? s).filter fun t => now - t.last < config.flapInterval) ∧
    (∀ s, m'.afflictions.get? s = (m.afflictions.get? s).filter fun created =>
      config.afflictionTimeout.all fun timeout => now - created < timeout) ∧
    (∀ service, m'.outages.get? service = (m.outages.get? service).filter fun _ =>
      1 ≤ (m'.afflictedBy service).ncard ∧ config.threshold ≤ (m'.afflictedBy service).ncard) ∧
    (∃ services : List ServiceId, (services.Pairwise fun x y => x.rank < y.rank) ∧
      (∀ service, service ∈ services ↔
        m.hasOutage service = true ∧ m'.hasOutage service = false) ∧
      (e.expire now).pending = e.pending ++ services.map (resolved now)) ∧
    (e.expire now).Like (((new config).run ops).2.expire now) ∧
    (0 < config.flapInterval → config.afflictionTimeoutSecs ≠ some 0 →
      ∀ operation, Fresh config (e.apply operation now).2.memory now) := by
  intro m m'
  have hc : e.config = config := h.config.trans (run_config ..)
  have hr : OutagesMatch ((new config).run ops).2.config ((new config).run ops).2.memory := by
    rw [run_config]
    exact outagesMatch_run config ops
  have he := h.outagesMatch hr
  refine ⟨fun s => ?_, fun s => ?_, fun service => ?_, exists_pending_expire he now,
    h.expire hr now, fun hw ht operation => ?_⟩
  · rw [get?_trackers_expire, hc]
    congr 1
    funext t
    rw [FlapTracker.isExpired, FlapTracker.elapsed, ← decide_not, decide_eq_decide, not_le]
  · rw [get?_afflictions_expire, hc]
    congr 1
    funext created
    unfold isStale Afflictions.isStale FlapTracker.elapsed
    cases config.afflictionTimeout with
    | none => rfl
    | some timeout =>
      rw [Option.any_some, Option.all_some, ← decide_not, decide_eq_decide, not_le]
  · have hmatch : m'.hasOutage service = isWideSpread config (m'.afflictedMonitors service) := by
      rw [← hc]
      exact he.expire now service
    rw [get?_outages_expire he, hmatch, m'.afflictedMonitors_eq_ncard, isWideSpread]
    cases m.outages.get? service <;> simp [Option.filter, Nat.one_le_iff_ne_zero,
      Nat.pos_iff_ne_zero]
  · rw [← hc] at hw ht ⊢
    exact fresh_apply hw ht operation now

theorem expiry_drops_stale_facts_sample :
    let config : CorrelationConfig := { wideSpreadThreshold := 1, afflictionTimeoutSecs := some 1 }
    let first : Signal := .sample .lost 7
    let second : Signal := { first with service := { first.service with node := 0 } }
    let r := ((new config).run [(.correlate first, 0), (.correlate second, 0)]).2
    let e := ((new config).run [(.correlate second, 0), (.correlate first, 0)]).2
    e.memory.outages.entries ≠ r.memory.outages.entries ∧ e.Like r ∧
      (e.expire 1000).pending = [resolved 1000 second.service, resolved 1000 first.service] ∧
      (r.expire 1000).pending = [resolved 1000 second.service, resolved 1000 first.service] ∧
      ∀ operation, Fresh config (e.apply operation 1000).2.memory 1000 := by
  intro config first second r e
  have hlike : e.Like r := .of_perm ((run_config ..).trans (run_config ..).symm)
    (by decide +kernel) (by decide +kernel) (by decide +kernel) (by decide +kernel)
  obtain ⟨-, -, -, -, hr, hfresh⟩ := expiry_drops_stale_facts config _ e hlike 1000
  -- the table of one of the two is in order, so that there is nothing to sort
  have haffected : e.memory.afflictions.affected 1000 1000 = [second.service, first.service] :=
    (List.mergeSort_of_pairwise (by decide +kernel)).trans (by decide +kernel)
  have hpending : (e.expire 1000).pending =
      [resolved 1000 second.service, resolved 1000 first.service] := by
    rw [pending_expire (by decide +kernel : e.config.afflictionTimeout = some 1000)]
    rw [haffected]
    decide +kernel
  exact ⟨by decide +kernel, hlike, hpending, hr.pending.symm.trans hpending,
    hfresh (by decide) (by decide)⟩

end Engine

end ServiceWatch
