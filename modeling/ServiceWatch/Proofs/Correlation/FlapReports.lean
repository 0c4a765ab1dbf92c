import ServiceWatch.Proofs.Correlation.Flapping

/-! The findings of flapping: one signal reports at most one, of its own sighting. -/
namespace ServiceWatch.Engine

def flapReports (found : List Finding) (s : Sighting) : List Finding :=
  found.filter fun f =>
    f.kind = .serviceFlapping ∧ f.service = s.service ∧ f.monitor = some s.monitor

theorem flapReports_append (found found' : List Finding) (s : Sighting) :
    flapReports (found ++ found') s = flapReports found s ++ flapReports found' s := by
  simp [flapReports]

theorem reportsFlapping_eq_true_iff {found : List Finding} {s : Sighting} :
    reportsFlapping found s = true ↔ flapReports found s ≠ [] := by
  unfold reportsFlapping flapReports
  rw [List.any_eq_true, Ne, List.filter_eq_nil_iff]
  push Not
  rfl

theorem flapReports_of_kind_ne {found : List Finding} (h : ∀ f ∈ found, f.kind ≠ .serviceFlapping)
    (s : Sighting) : flapReports found s = [] := by
  unfold flapReports
  rw [List.filter_eq_nil_iff]
  intro f hf
  simp [h f hf]

theorem kind_evaluateWideSpread (config : CorrelationConfig) (m : WorkingMemory) (now : Nat)
    (cause : Cause) (service : ServiceId) :
    ∀ f ∈ (evaluateWideSpread config m service now cause).1, f.kind ≠ .serviceFlapping := by
  unfold evaluateWideSpread
  split <;> simp

theorem flapReports_evaluate (config : CorrelationConfig) (m : WorkingMemory) (signal : Signal)
    (now : Nat) (s : Sighting) :
    flapReports (evaluate config m signal now).1 s =
      if s = signal.sighting ∧ (m.trackers.get? s).any (·.isFlapping config) then
        [⟨.serviceFlapping, s.service, some s.monitor, .signal signal.time⟩]
      else [] := by
  have hw := fun m' => flapReports_of_kind_ne
    (kind_evaluateWideSpread config m' now (.signal signal.time) signal.service) s
  unfold evaluate
  simp only [flapReports_append, hw, List.append_nil, (evaluateFlapping_spec ..).1]
  by_cases hs : s = signal.sighting
  · subst hs
    simp only [true_and]
    split
    · simp [flapReports]
    · rfl
  · have hne : signal.sighting.service = s.service → signal.sighting.monitor ≠ s.monitor := by
      intro hservice hmonitor
      cases s
      subst hservice hmonitor
      exact hs rfl
    have hright : ¬(s = signal.sighting ∧
        (m.trackers.get? s).any (·.isFlapping config) = true) := fun h => hs h.1
    rw [if_neg hright]
    split
    · simpa [flapReports] using hne
    · rfl

/-- A finding of flapping names the monitor of the signal behind it. -/
theorem sighting_of_mem_evaluate {config : CorrelationConfig} {m : WorkingMemory} {signal : Signal}
    {now : Nat} {f : Finding} (hf : f ∈ (evaluate config m signal now).1)
    (hk : f.kind = .serviceFlapping) :
    f.service = signal.service ∧ f.monitor = some signal.monitor := by
  unfold evaluate at hf
  rcases List.mem_append.1 hf with hf | hf
  · rcases evaluateFlapping_found config m (.signal signal.time) signal.sighting with h | h
    · rw [h] at hf
      contradiction
    · rw [h, List.mem_singleton] at hf
      subst hf
      exact ⟨rfl, rfl⟩
  · exact absurd hk (kind_evaluateWideSpread _ _ _ _ _ f hf)

theorem kind_evaluateServices (config : CorrelationConfig) (m : WorkingMemory) (now : Nat)
    (cause : Cause) (services : List ServiceId) :
    ∀ f ∈ (evaluateServices config now cause services m).1, f.kind ≠ .serviceFlapping := by
  induction services generalizing m with
  | nil => simp [evaluateServices]
  | cons service services ih =>
    intro f hf
    rcases List.mem_append.1 hf with hf | hf
    · exact kind_evaluateWideSpread _ _ _ _ _ f hf
    · exact ih _ f hf

theorem kind_pending_expire {e : Engine} (h : ∀ f ∈ e.pending, f.kind ≠ .serviceFlapping)
    (now : Nat) : ∀ f ∈ (e.expire now).pending, f.kind ≠ .serviceFlapping := by
  unfold expire
  split
  · exact h
  · intro f hf
    rcases List.mem_append.1 hf with hf | hf
    · exact h f hf
    · exact kind_evaluateServices _ _ _ _ _ f hf

/-- Flapping is always told of one monitor, and never by expiry. -/
theorem flapping_names_monitor (config : CorrelationConfig) (ops : List (Operation × Nat)) :
    (∀ f ∈ ((new config).run ops).1.flatten, f.kind = .serviceFlapping →
        ∃ monitor, f.monitor = some monitor) ∧
      ∀ f ∈ ((new config).run ops).2.pending, f.kind ≠ .serviceFlapping := by
  refine run_induction config (P := fun found e =>
    (∀ f ∈ found, f.kind = .serviceFlapping → ∃ monitor, f.monitor = some monitor) ∧
      ∀ f ∈ e.pending, f.kind ≠ .serviceFlapping) ?_ ?_ ?_ ?_ ops
  · rintro found e now - ⟨hf, hp⟩
    exact ⟨hf, kind_pending_expire hp now⟩
  · rintro found e ⟨hf, hp⟩
    refine ⟨fun f hm hk => ?_, by simp⟩
    rcases List.mem_append.1 hm with hm | hm
    · exact hf f hm hk
    · exact absurd hk (hp f hm)
  · rintro found e signal now m - - ⟨hf, hp⟩ -
    refine ⟨fun f hm hk => ?_, hp⟩
    rcases List.mem_append.1 hm with hm | hm
    · exact hf f hm hk
    · exact ⟨signal.monitor, (sighting_of_mem_evaluate hm hk).2⟩
  · exact ⟨by simp, by simp [new]⟩

end ServiceWatch.Engine
