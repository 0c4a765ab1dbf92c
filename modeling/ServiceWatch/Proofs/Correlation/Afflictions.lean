import Mathlib.Data.Set.Card
import ServiceWatch.Correlation.Afflictions

/-! What the operations on afflictions do to a look-up, and the number of monitors as a cardinality. -/
namespace ServiceWatch

theorem Table.setOf_isSome {κ α : Type} [DecidableEq κ] (t : Table κ α) :
    {k | (t.get? k).isSome} = (t.keys.toFinset : Set κ) := by
  ext k
  simp [Table.keys, Option.isSome_iff_exists, ← Table.mem_entries]

theorem Table.size_eq_ncard {κ α : Type} [DecidableEq κ] (t : Table κ α) :
    t.size = {k | (t.get? k).isSome}.ncard := by
  have hn : t.keys.Nodup := t.nodup_keys
  rw [t.setOf_isSome, Set.ncard_coe_finset, List.toFinset_card_of_nodup hn]
  simp [Table.keys, Table.size]

theorem Table.size_filter_ne_iff {κ α : Type} [DecidableEq κ] (t : Table κ α)
    (keep : κ → α → Bool) :
    (t.filter keep).size ≠ t.size ↔ ∃ k a, t.get? k = some a ∧ keep k a = false := by
  unfold Table.size Table.filter
  rw [Ne, List.length_filter_eq_length_iff]
  simp [Table.mem_entries]

theorem Table.filter_eq_self {κ α : Type} [DecidableEq κ] {t : Table κ α} {keep : κ → α → Bool}
    (h : ∀ k a, t.get? k = some a → keep k a = true) : t.filter keep = t := by
  have he : (t.filter keep).entries = t.entries := by
    unfold Table.filter
    rw [List.filter_eq_self]
    rintro ⟨k, a⟩ hm
    exact h k a (Table.mem_entries.1 hm)
  cases t
  exact (Table.mk.injEq ..).mpr he

theorem Table.filterMap_eq_self {κ α : Type} [DecidableEq κ] {t : Table κ α}
    {f : κ → α → Option α} (h : ∀ k a, t.get? k = some a → f k a = some a) :
    t.filterMap f = t := by
  have he : (t.filterMap f).entries = t.entries := by
    unfold Table.filterMap
    refine (List.filterMap_congr fun e hm => ?_).trans List.filterMap_some
    rw [h e.1 e.2 (Table.mem_entries.1 hm)]
    rfl
  cases t
  exact (Table.mk.injEq ..).mpr he

namespace Afflictions

@[simp] theorem get?_empty (s : Sighting) : (∅ : Afflictions).get? s = none := rfl

theorem insert_fst (a : Afflictions) (s : Sighting) (now : Nat) :
    (a.insert s now).1 = (a.get? s).isNone := by
  unfold insert get? Table.contains
  cases h : (a.monitors s.service).get? s.monitor <;> simp [h]

theorem insert_of_some {a : Afflictions} {s : Sighting} {created : Nat} (h : a.get? s = some created)
    (now : Nat) : a.insert s now = (false, a) := by
  unfold get? at h
  simp [insert, Table.contains, h]

theorem monitors_insert {a : Afflictions} {s : Sighting} (h : a.get? s = none) (now : Nat)
    (service : ServiceId) :
    (a.insert s now).2.monitors service =
      if service = s.service then (a.monitors service).insert s.monitor now
      else a.monitors service := by
  unfold get? at h
  have hc : (a.monitors s.service).contains s.monitor = false := by simp [Table.contains, h]
  unfold insert
  rw [if_neg (by simp [hc])]
  by_cases hs : service = s.service
  · subst hs
    simp [monitors, Table.get?_insert]
  · simp [monitors, Table.get?_insert, hs]

/-- A report that is there already keeps its instant. -/
theorem get?_insert (a : Afflictions) (s s' : Sighting) (now : Nat) :
    (a.insert s now).2.get? s' = if s' = s then some ((a.get? s).getD now) else a.get? s' := by
  cases h : a.get? s with
  | some created =>
    rw [insert_of_some h]
    by_cases hs : s' = s <;> simp [hs, h]
  | none =>
    obtain ⟨service, monitor⟩ := s
    obtain ⟨service', monitor'⟩ := s'
    simp only [get?, monitors_insert h]
    by_cases hs : service' = service
    · subst hs
      simp [Table.get?_insert]
    · simp [hs]

theorem remove_fst (a : Afflictions) (s : Sighting) : (a.remove s).1 = a.get? s := by
  unfold remove get? monitors
  cases a.byService.get? s.service <;> simp

theorem get?_remove (a : Afflictions) (s s' : Sighting) :
    (a.remove s).2.get? s' = if s' = s then none else a.get? s' := by
  obtain ⟨service, monitor⟩ := s
  obtain ⟨service', monitor'⟩ := s'
  cases h : a.byService.get? service with
  | none =>
    have hr : a.remove ⟨service, monitor⟩ = (none, a) := by simp [remove, h]
    rw [hr]
    by_cases hs : service' = service
    · subst hs
      simp [get?, monitors, h]
    · simp [hs]
  | some reports =>
    have hm : a.monitors service = reports := by simp [monitors, h]
    by_cases hs : service' = service
    · subst hs
      have hrest : (a.remove ⟨service', monitor⟩).2.get? ⟨service', monitor'⟩ =
          (reports.erase monitor).get? monitor' := by
        unfold remove
        simp only [h, get?]
        split
        · rename_i hempty
          rw [Table.get?_eq_none_of_isEmpty hempty]
          simp [monitors, Table.get?_erase]
        · simp [monitors, Table.get?_insert]
      rw [hrest, Table.get?_erase]
      simp [get?, hm]
    · unfold remove
      simp only [h, get?]
      split <;> simp [hs, monitors, Table.get?_insert, Table.get?_erase]

theorem get?_fresh (now timeout : Nat) (reports : Table MonitorId Nat) (monitor : MonitorId) :
    (fresh now timeout reports).get? monitor =
      (reports.get? monitor).filter fun created => !isStale now timeout created := by
  simp [fresh]

/-- Expiry keeps exactly the reports that are not stale. -/
theorem get?_expire (a : Afflictions) (now timeout : Nat) (s : Sighting) :
    (a.expire now timeout).2.get? s =
      (a.get? s).filter fun created => !isStale now timeout created := by
  unfold get? monitors expire
  cases h : a.byService.get? s.service with
  | none => simp [h]
  | some reports =>
    simp only [Table.get?_filterMap, h, Option.bind_some, Option.getD_some, ← get?_fresh]
    unfold remaining
    dsimp only
    split
    · rename_i hempty
      rw [Table.get?_eq_none_of_isEmpty hempty]
      simp
    · rfl

/-- Expiry names the services that have a stale report. -/
theorem mem_affected {a : Afflictions} {now timeout : Nat} {service : ServiceId} :
    service ∈ a.affected now timeout ↔
      ∃ monitor created, a.get? ⟨service, monitor⟩ = some created ∧
        isStale now timeout created = true := by
  have hstale : ∀ reports : Table MonitorId Nat,
      (fresh now timeout reports).size ≠ reports.size ↔
        ∃ monitor created, reports.get? monitor = some created ∧
          isStale now timeout created = true := by
    intro reports
    simpa [fresh] using reports.size_filter_ne_iff fun _ created => !isStale now timeout created
  unfold affected get? monitors
  simp only [List.mem_mergeSort, Table.keys, Table.filter, List.mem_map, List.mem_filter,
    decide_eq_true_eq, Prod.exists, exists_and_right, exists_eq_right, Table.mem_entries]
  constructor
  · rintro ⟨reports, hg, hn⟩
    simpa [hg] using (hstale reports).1 hn
  · rintro ⟨monitor, created, hg, hs⟩
    cases h : a.byService.get? service with
    | none => simp [h] at hg
    | some reports =>
      exact ⟨reports, rfl, (hstale reports).2 ⟨monitor, created, by simpa [h] using hg, hs⟩⟩

/-- Where no report is stale, expiry changes nothing. -/
theorem expire_of_fresh {a : Afflictions} {now timeout : Nat}
    (h : ∀ s created, a.get? s = some created → isStale now timeout created = false) :
    a.expire now timeout = ([], a) := by
  have hnone : a.affected now timeout = [] := by
    rw [List.eq_nil_iff_forall_not_mem]
    intro service hm
    obtain ⟨monitor, created, hg, hs⟩ := mem_affected.1 hm
    rw [h _ created hg] at hs
    contradiction
  have hkept : a.byService.filterMap (fun _ => remaining now timeout) = a.byService := by
    apply Table.filterMap_eq_self
    intro service reports hr
    have hm : a.monitors service = reports := by simp [monitors, hr]
    have hf : fresh now timeout reports = reports := by
      apply Table.filter_eq_self
      intro monitor created hg
      rw [h ⟨service, monitor⟩ created (by rw [get?, hm]; exact hg)]
      rfl
    have ho : reports.isEmpty = false := a.occupied (service, reports) (Table.mem_entries.2 hr)
    simp [remaining, hf, ho]
  unfold expire
  simp only [hnone, hkept]

theorem nodup_affected (a : Afflictions) (now timeout : Nat) : (a.affected now timeout).Nodup :=
  (List.mergeSort_perm _ _).nodup_iff.2 (Table.nodup_keys _)

/-- The number of distinct monitors that report a service. -/
theorem count_eq_ncard (a : Afflictions) (service : ServiceId) :
    a.count service = {monitor | (a.get? ⟨service, monitor⟩).isSome}.ncard :=
  Table.size_eq_ncard _

theorem count_congr {a b : Afflictions} {service : ServiceId}
    (h : ∀ monitor, (a.get? ⟨service, monitor⟩).isSome = (b.get? ⟨service, monitor⟩).isSome) :
    a.count service = b.count service := by
  simp only [count_eq_ncard, h]

theorem count_le_of_imp {a b : Afflictions} {service : ServiceId}
    (h : ∀ monitor, (a.get? ⟨service, monitor⟩).isSome → (b.get? ⟨service, monitor⟩).isSome) :
    a.count service ≤ b.count service := by
  simp only [count_eq_ncard]
  have hf : {monitor | (b.get? ⟨service, monitor⟩).isSome}.Finite := by
    unfold get?
    rw [(b.monitors service).setOf_isSome]
    exact Finset.finite_toSet _
  exact Set.ncard_le_ncard h hf

end Afflictions

end ServiceWatch
