import ServiceWatch.Proofs.Correlation.Transition

/-! A tracker that records every transition of a sighting counts what the whole history tells. -/
namespace ServiceWatch.FlapTracker

/-- Dropping the oldest transitions drops all that have left the window. -/
theorem dropWhile_eq_filter {α : Type} (instant : α → Nat) {l : List α}
    (h : l.Pairwise (instant · ≤ instant ·)) (now window : Nat) :
    (l.dropWhile fun a => window ≤ elapsed (instant a) now) =
      l.filter fun a => elapsed (instant a) now < window := by
  induction l with
  | nil => rfl
  | cons first rest ih =>
    obtain ⟨hle, hr⟩ := List.pairwise_cons.1 h
    by_cases hw : window ≤ elapsed (instant first) now
    · rw [List.dropWhile_cons_of_pos (by simpa using hw), ih hr,
        List.filter_cons_of_neg (by simpa using hw)]
    · rw [List.dropWhile_cons_of_neg (by simpa using hw), eq_comm, List.filter_eq_self]
      intro a ha
      have hs : instant first ≤ instant a := by
        rcases List.mem_cons.1 ha with rfl | ha
        · exact Nat.le_refl (instant a)
        · exact hle a ha
      unfold elapsed at hw ⊢
      simp only [decide_eq_true_eq]
      omega

/-- The tracker gives reason to report flapping. -/
def isFlapping (config : CorrelationConfig) (t : FlapTracker) : Bool :=
  config.flapCount ≠ 0 ∧ t.reported = false ∧ config.flapCount.toNat ≤ t.count

/-- The tracker after the rule of flapping was evaluated. -/
def settle (config : CorrelationConfig) (t : FlapTracker) : FlapTracker :=
  if t.isFlapping config then
    match config.flapPolicy with
    | .retain => t.markReported
    | .reset => t.reset
  else t

/-- The latest transition of the tracker ends a history whose chain has seen a return. -/
structure Ends (config : CorrelationConfig) (history : List Transition) (t : FlapTracker) : Prop where
  last : ∃ x ∈ history.getLast?, x.instant = t.last
  returned : ∃ x ∈ Transition.chain config.flapInterval history, x.kind = .regained

/-- The tracker counts what flapping is told by when the last transition of a history arrives. -/
structure Counts (config : CorrelationConfig) (history : List Transition) (t : FlapTracker) : Prop
    extends Ends config history t where
  transitions :
    t.transitions = (Transition.counted config history t.last).map Transition.instant
  reported : t.reported = true ↔ config.flapPolicy = .retain ∧
    ∃ x ∈ (Transition.chain config.flapInterval history).dropLast, x.reported = true

/-- The tracker holds what flapping can be told by after the last transition of a history. -/
structure Follows (config : CorrelationConfig) (history : List Transition) (t : FlapTracker) : Prop
    extends Ends config history t where
  transitions :
    t.transitions = ((Transition.unspent config.flapPolicy
      (Transition.credited config.flapInterval history)).filter fun x =>
        elapsed x.instant t.last < config.flapInterval).map Transition.instant
  reported : t.reported = true ↔ config.flapPolicy = .retain ∧
    ∃ x ∈ Transition.chain config.flapInterval history, x.reported = true

theorem Ends.last_eq {config : CorrelationConfig} {history : List Transition} {t : FlapTracker}
    {x : Transition} (h : t.Ends config (history ++ [x])) : t.last = x.instant := by
  obtain ⟨y, hy, hl⟩ := h.last
  rw [List.getLast?_concat] at hy
  rw [← hl, Option.some.inj hy]

/-- There is reason to report flapping just if plain counting finds enough transitions, and retained
trackers have not reported it before. -/
theorem Counts.isFlapping_iff {config : CorrelationConfig} {history : List Transition}
    {t : FlapTracker} (h : t.Counts config history) :
    t.isFlapping config = true ↔ config.flapCount ≠ 0 ∧
      config.flapCount.toNat ≤ (Transition.counted config history t.last).length ∧
        (config.flapPolicy = .retain →
          ∀ x ∈ (Transition.chain config.flapInterval history).dropLast, x.reported = false) := by
  have hr : t.reported = false ↔ (config.flapPolicy = .retain →
      ∀ x ∈ (Transition.chain config.flapInterval history).dropLast, x.reported = false) := by
    rw [← Bool.not_eq_true, h.reported]
    simp
  unfold isFlapping count
  rw [h.transitions, List.length_map, decide_eq_true_iff, hr]
  tauto

/-- What lies in a window lies in every earlier one of the same length. -/
theorem filter_filter_elapsed (l : List Transition) (window : Nat) {last now : Nat}
    (h : last ≤ now) :
    (l.filter fun x => elapsed x.instant last < window).filter
        (fun x => elapsed x.instant now < window) =
      l.filter fun x => elapsed x.instant now < window := by
  rw [List.filter_filter]
  apply List.filter_congr
  intro x _
  unfold elapsed
  rw [Bool.and_eq_left_iff_imp]
  simp only [decide_eq_true_eq]
  omega

/-- A transition within the window of the one before it is counted like any other. -/
theorem Follows.record {config : CorrelationConfig} {history : List Transition} {t : FlapTracker}
    {x : Transition} (h : t.Follows config history)
    (hs : (history ++ [x]).Pairwise fun a b => a.instant ≤ b.instant)
    (hx : elapsed t.last x.instant < config.flapInterval) :
    (t.record x.instant config.flapInterval).Counts config (history ++ [x]) := by
  obtain ⟨y, hy, hl⟩ := h.last
  have hle : t.last ≤ x.instant := by
    rw [← hl]
    exact (List.pairwise_append.1 hs).2.2 y (List.mem_of_mem_getLast? hy) x (List.mem_singleton.2 rfl)
  have hc : ∀ a ∈ history.getLast?, elapsed a.instant x.instant < config.flapInterval := by
    intro a ha
    rw [Option.mem_unique ha hy, hl]
    exact hx
  have hch : Transition.chain config.flapInterval (history ++ [x]) =
      Transition.chain config.flapInterval history ++ [x] := by
    rw [Transition.chain_concat, if_pos hc]
  refine ⟨⟨⟨x, by simp, rfl⟩, ?_⟩, ?_, ?_⟩
  · obtain ⟨r, hr, hk⟩ := h.returned
    exact ⟨r, by simp [hch, hr], hk⟩
  · let kept := Transition.unspent config.flapPolicy
      (Transition.credited config.flapInterval history)
    have hk : t.transitions ++ [x.instant] =
        ((kept.filter fun a => elapsed a.instant t.last < config.flapInterval) ++ [x]).map
          Transition.instant := by
      rw [h.transitions, List.map_append]
      rfl
    have hp : (t.transitions ++ [x.instant]).Pairwise (· ≤ ·) := by
      have hsub : kept.Sublist history :=
        (Transition.unspent_suffix ..).sublist.trans (List.drop_sublist ..)
      rw [hk, List.pairwise_map]
      exact hs.sublist ((List.filter_sublist.trans hsub).append (List.Sublist.refl [x]))
    have hl' : (t.record x.instant config.flapInterval).last = x.instant := rfl
    rw [Transition.counted_of_credited (Transition.credited_concat hc h.returned), hl',
      List.filter_append, ← filter_filter_elapsed kept config.flapInterval hle]
    unfold FlapTracker.record prune
    dsimp only
    rw [dropWhile_eq_filter (fun since => since) hp, hk, List.filter_map, List.filter_append]
    rfl
  · rw [hch, List.dropLast_concat]
    exact h.reported

/-- A tracker that is made at the first return of a chain counts it and the loss before it. -/
theorem counts_ofCycle {config : CorrelationConfig} {history : List Transition} {l x : Transition}
    (hw : 0 < config.flapInterval) (hx : x.kind = .regained)
    (hl : elapsed l.instant x.instant < config.flapInterval →
      ∀ y ∈ Transition.chain config.flapInterval (history ++ [l]),
        y.kind = .lost ∧ y.reported = false) :
    (ofCycle l.instant x.instant config.flapInterval).Counts config (history ++ [l] ++ [x]) := by
  have hself : elapsed x.instant x.instant < config.flapInterval := by
    unfold elapsed
    omega
  refine ⟨⟨⟨x, by simp, rfl⟩, ⟨x, Transition.mem_chain_concat .., hx⟩⟩, ?_, ?_⟩
  · have hc : Transition.credited config.flapInterval (history ++ [l] ++ [x]) = [l] ++ [x] :=
      Transition.credited_first hx fun hn y hy => (hl hn y hy).1
    have hu : Transition.unspent config.flapPolicy [l] =
        if config.flapPolicy = .reset ∧ l.reported = true then [] else [l] := by
      simpa using Transition.unspent_concat config.flapPolicy [] l
    rw [Transition.counted_of_credited hc, hu]
    unfold ofCycle
    dsimp only
    by_cases hn : elapsed l.instant x.instant < config.flapInterval
    · have hr : l.reported = false := (hl hn l (Transition.mem_chain_concat ..)).2
      simp [hn, hr, hself]
    · by_cases hr : config.flapPolicy = .reset ∧ l.reported = true
      · simp [hn, hr, hself]
      · rw [if_neg hn, if_neg hr]
        simp [hn, hself]
  · have hn : ∀ y ∈ (Transition.chain config.flapInterval (history ++ [l] ++ [x])).dropLast,
        y.reported = false := by
      intro y hy
      rw [Transition.chain_concat] at hy
      split at hy
      · rename_i hn
        rw [List.dropLast_concat] at hy
        exact (hl (hn l (by simp)) y hy).2
      · simp at hy
    unfold ofCycle
    simp only [Bool.false_eq_true, false_iff, not_and, not_exists]
    intro _ y hy
    simp [hn y hy]

/-- Once the rule of flapping was evaluated, the tracker holds what is left to be counted. -/
theorem Counts.settle {config : CorrelationConfig} {history : List Transition} {t : FlapTracker}
    {x : Transition} (h : t.Counts config (history ++ [x]))
    (hx : x.reported = t.isFlapping config) :
    (t.settle config).Follows config (history ++ [x]) := by
  obtain ⟨l, hl⟩ := Transition.exists_credited_eq_concat h.returned
  obtain ⟨c, hc⟩ := Transition.exists_chain_eq_concat config.flapInterval history x
  have ht := h.transitions
  have hr := h.reported
  have hu := Transition.unspent_concat config.flapPolicy l x
  rw [Transition.counted_of_credited hl] at ht
  rw [hc, List.dropLast_concat] at hr
  rw [← hl, hx] at hu
  unfold FlapTracker.settle
  by_cases hf : t.isFlapping config = true
  · rw [if_pos hf]
    cases hp : config.flapPolicy with
    | retain =>
      refine ⟨⟨h.last, h.returned⟩, ?_, ?_⟩
      · rw [hu, if_neg (by simp [hp])]
        exact ht
      · rw [hc]
        simp [markReported, hp, hx, hf]
    | reset =>
      refine ⟨⟨h.last, h.returned⟩, ?_, ?_⟩
      · rw [hu, if_pos ⟨hp, hf⟩]
        rfl
      · simp [reset, hp]
  · rw [if_neg hf]
    refine ⟨⟨h.last, h.returned⟩, ?_, ?_⟩
    · rw [hu, if_neg (by simp [hf])]
      exact ht
    · rw [hc, hr]
      simp [hx, hf]

end ServiceWatch.FlapTracker
