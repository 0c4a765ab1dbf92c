/-! Finite maps: a list of entries whose keys are distinct. The order of entries carries no meaning. -/
namespace ServiceWatch

/-- A finite map from keys to values. -/
structure Table (κ α : Type) where
  entries : List (κ × α)
  nodup_keys : (entries.map Prod.fst).Nodup
  deriving DecidableEq

namespace Table

variable {κ α β : Type}

def empty : Table κ α := ⟨[], by simp⟩

instance : EmptyCollection (Table κ α) := ⟨empty⟩

instance : Inhabited (Table κ α) := ⟨empty⟩

def size (t : Table κ α) : Nat := t.entries.length

def keys (t : Table κ α) : List κ := t.entries.map Prod.fst

def filter (t : Table κ α) (keep : κ → α → Bool) : Table κ α where
  entries := t.entries.filter fun e => keep e.1 e.2
  nodup_keys := t.nodup_keys.sublist (List.filter_sublist.map Prod.fst)

def values (t : Table κ α) : List α := t.entries.map Prod.snd

def isEmpty (t : Table κ α) : Bool := t.entries.isEmpty

/-- The entries with a new value each, less those for which `f` has none. -/
def filterMap (t : Table κ α) (f : κ → α → Option β) : Table κ β where
  entries := t.entries.filterMap fun e => (f e.1 e.2).map (e.1, ·)
  nodup_keys := by
    have h : ∀ l : List (κ × α),
        ((l.filterMap fun e => (f e.1 e.2).map (e.1, ·)).map Prod.fst).Sublist (l.map Prod.fst) := by
      intro l
      induction l with
      | nil => simp
      | cons e l ih => cases hf : f e.1 e.2 <;> simp [hf, ih, List.Sublist.cons]
    exact t.nodup_keys.sublist (h t.entries)

theorem mem_entries_filterMap {t : Table κ α} {f : κ → α → Option β} {e : κ × β} :
    e ∈ (t.filterMap f).entries ↔ ∃ a, (e.1, a) ∈ t.entries ∧ f e.1 a = some e.2 := by
  obtain ⟨k, b⟩ := e
  simp only [filterMap, List.mem_filterMap, Option.map_eq_some_iff, Prod.mk.injEq, Prod.exists]
  constructor
  · rintro ⟨k', a, hm, b', hf, rfl, rfl⟩
    exact ⟨a, hm, hf⟩
  · rintro ⟨a, hm, hf⟩
    exact ⟨k, a, hm, b, hf, rfl, rfl⟩

variable [DecidableEq κ]

def get? (t : Table κ α) (k : κ) : Option α := t.entries.lookup k

def contains (t : Table κ α) (k : κ) : Bool := (t.get? k).isSome

def erase (t : Table κ α) (k : κ) : Table κ α := t.filter fun k' _ => k' ≠ k

def insert (t : Table κ α) (k : κ) (a : α) : Table κ α where
  entries := (t.erase k).entries ++ [(k, a)]
  nodup_keys := by
    have h := (t.erase k).nodup_keys
    have hk : k ∉ (t.erase k).entries.map Prod.fst := by
      simp [erase, filter]
    rw [List.map_append, List.nodup_append]
    refine ⟨h, by simp, ?_⟩
    intro a ha b hb
    simp only [List.map_cons, List.map_nil, List.mem_singleton] at hb
    subst hb
    intro hab
    exact hk (hab ▸ ha)

/-- The map of a list of entries; of several entries with one key the last one counts. -/
def ofList (entries : List (κ × α)) : Table κ α :=
  entries.foldl (fun t e => t.insert e.1 e.2) empty

/-! ### Reading -/

theorem mem_entries {t : Table κ α} {k : κ} {a : α} : (k, a) ∈ t.entries ↔ t.get? k = some a := by
  unfold get?
  have h := t.nodup_keys
  generalize t.entries = l at h ⊢
  induction l with
  | nil => simp
  | cons e l ih =>
    obtain ⟨k', a'⟩ := e
    simp only [List.map_cons, List.nodup_cons] at h
    by_cases hk : k = k'
    · subst hk
      have hl : (k, a) ∉ l := fun hm => h.1 (List.mem_map.2 ⟨_, hm, rfl⟩)
      simp [hl, eq_comm]
    · have hb : (k == k') = false := by simpa using hk
      simp [hk, List.lookup_cons, hb, ih h.2]

@[simp] theorem get?_empty (k : κ) : (∅ : Table κ α).get? k = none := rfl

theorem mem_entries_erase {t : Table κ α} {k : κ} {e : κ × α} :
    e ∈ (t.erase k).entries ↔ e ∈ t.entries ∧ e.1 ≠ k := by
  simp [erase, filter]

theorem mem_entries_insert {t : Table κ α} {k : κ} {a : α} {e : κ × α} :
    e ∈ (t.insert k a).entries ↔ e = (k, a) ∨ e ∈ t.entries ∧ e.1 ≠ k := by
  simp [insert, mem_entries_erase, or_comm]

theorem isEmpty_insert (t : Table κ α) (k : κ) (a : α) : (t.insert k a).isEmpty = false := by
  simp [isEmpty, insert]

@[simp] theorem get?_filter (t : Table κ α) (keep : κ → α → Bool) (k : κ) :
    (t.filter keep).get? k = (t.get? k).filter (keep k) := by
  ext a
  rw [← mem_entries]
  simp [filter, mem_entries]

@[simp] theorem get?_filterMap (t : Table κ α) (f : κ → α → Option β) (k : κ) :
    (t.filterMap f).get? k = (t.get? k).bind (f k) := by
  ext b
  rw [← mem_entries, mem_entries_filterMap]
  simp only [mem_entries, Option.bind_eq_some_iff]

theorem get?_erase (t : Table κ α) (k k' : κ) :
    (t.erase k).get? k' = if k' = k then none else t.get? k' := by
  ext b
  rw [← mem_entries, mem_entries_erase]
  simp only [mem_entries]
  by_cases h : k' = k <;> simp [h]

theorem get?_insert (t : Table κ α) (k k' : κ) (a : α) :
    (t.insert k a).get? k' = if k' = k then some a else t.get? k' := by
  ext b
  rw [← mem_entries, mem_entries_insert]
  simp only [mem_entries, Prod.mk.injEq]
  by_cases h : k' = k <;> simp [h, eq_comm]

theorem get?_eq_none_of_isEmpty {t : Table κ α} (h : t.isEmpty) (k : κ) : t.get? k = none := by
  have he : t.entries = [] := by simpa [isEmpty] using h
  simp [get?, he]

end Table

end ServiceWatch
