import Mathlib.Data.Set.Pairwise.Basic
import Mathlib.Order.Interval.Finset.Nat
import ServiceWatch.Proofs.Correlation.FlapReports

/-! Every report of flapping is backed by transitions of its own. -/
namespace ServiceWatch

namespace Transition

/-- The transitions that are younger than the window end a history. -/
theorem filter_elapsed_suffix {l : List Transition}
    (h : l.Pairwise fun a b => a.instant ≤ b.instant) (now window : Nat) :
    (l.filter fun t => FlapTracker.elapsed t.instant now < window) <:+ l := by
  rw [← FlapTracker.dropWhile_eq_filter Transition.instant h]
  exact List.dropWhile_suffix _

theorem linked_of_window {l : List Transition} {x : Transition} {window : Nat}
    (hs : (l ++ [x]).Pairwise fun a b => a.instant ≤ b.instant)
    (hl : ∀ t ∈ l, FlapTracker.elapsed t.instant x.instant < window) :
    Linked window (l ++ [x]) := by
  obtain ⟨hfront, -, hlast⟩ := List.pairwise_append.1 hs
  rw [linked_concat]
  constructor
  · apply List.Pairwise.isChain
    refine hfront.imp_of_mem fun {a b} ha hb hab => ?_
    have ha' := hl a ha
    have hb' := hlast b hb x (List.mem_singleton.2 rfl)
    unfold FlapTracker.elapsed at ha' ⊢
    omega
  · intro t ht
    exact hl t (List.mem_of_mem_getLast? ht)

/-- Behind every report stand so many transitions in a row, with it as the last one, all within the
window and none of the others reported. -/
def Backed (config : CorrelationConfig) (history : List Transition) : Prop :=
  ∀ front x, front ++ [x] <+: history → x.reported = true →
    ∃ earlier block, front = earlier ++ block ∧ config.flapCount.toNat ≤ block.length + 1 ∧
      ∀ t ∈ block, t.reported = false ∧
        FlapTracker.elapsed t.instant x.instant < config.flapInterval

theorem Backed.of_prefix {config : CorrelationConfig} {history history' : List Transition}
    (h : Backed config history) (hp : history' <+: history) : Backed config history' :=
  fun front x hf hr => h front x (hf.trans hp) hr

/-- The same by places: with a report go the transitions at the places right before it. -/
theorem Backed.of_getElem? {config : CorrelationConfig} {history : List Transition}
    (h : Backed config history) {i : Nat} {x : Transition} (hx : history[i]? = some x)
    (hr : x.reported = true) :
    config.flapCount.toNat ≤ i + 1 ∧ ∀ j y, history[j]? = some y →
      i + 1 - config.flapCount.toNat ≤ j → j < i →
        y.reported = false ∧ FlapTracker.elapsed y.instant x.instant < config.flapInterval := by
  have hi : i < history.length := (List.getElem?_eq_some_iff.1 hx).1
  have hp : history.take i ++ [x] <+: history := by
    have htake : history.take (i + 1) = history.take i ++ [x] := by
      rw [List.take_add_one, hx, Option.toList_some]
    rw [← htake]
    exact List.take_prefix ..
  obtain ⟨earlier, block, heq, hlen, hblock⟩ := h _ x hp hr
  have htotal : earlier.length + block.length = i := by
    rw [← List.length_append, ← heq, List.length_take]
    omega
  refine ⟨by omega, fun j y hy hj hji => hblock y ?_⟩
  rw [← List.getElem?_take_of_lt hji, heq, List.getElem?_append_right (by omega)] at hy
  exact List.mem_of_getElem? hy

/-- Since no transition backs two reports, there are not more of them than the transitions allow. -/
theorem Backed.countP_mul_le {config : CorrelationConfig} {history : List Transition}
    (h : Backed config history) :
    history.countP (·.reported) * config.flapCount.toNat ≤ history.length := by
  induction hn : history.length using Nat.strong_induction_on generalizing history with
  | _ n ih =>
    cases history using List.reverseRecOn with
    | nil => simp
    | append_singleton front x _ =>
      rw [List.length_append, List.length_singleton] at hn
      rw [List.countP_append, List.countP_singleton]
      cases hr : x.reported with
      | false =>
        have hfront := ih front.length (by omega) (h.of_prefix (List.prefix_append ..)) rfl
        rw [if_neg (by simp), Nat.add_zero]
        omega
      | true =>
        obtain ⟨earlier, block, rfl, hlen, hblock⟩ := h front x (List.prefix_refl _) hr
        have hquiet : block.countP (·.reported) = 0 := by
          rw [List.countP_eq_zero]
          intro t ht
          simp [(hblock t ht).1]
        rw [List.length_append] at hn
        have hearlier := ih earlier.length (by omega)
          (h.of_prefix (by rw [List.append_assoc]; exact List.prefix_append ..)) rfl
        rw [if_pos rfl, List.countP_append, hquiet, Nat.add_zero, Nat.add_mul, Nat.one_mul]
        omega

end Transition

/-- What a tracker counts where flapping is reported is a block of the history, without a report. -/
theorem FlapTracker.Counts.exists_block {config : CorrelationConfig} {history : List Transition}
    {x : Transition} {t : FlapTracker} (h : t.Counts config (history ++ [x]))
    (hf : t.isFlapping config = true) (hw : 0 < config.flapInterval)
    (hs : (history ++ [x]).Pairwise fun a b => a.instant ≤ b.instant) :
    ∃ earlier block, history = earlier ++ block ∧
      config.flapCount.toNat ≤ block.length + 1 ∧
        ∀ t ∈ block, t.reported = false ∧ elapsed t.instant x.instant < config.flapInterval := by
  obtain ⟨-, hcount, hsilent⟩ := h.isFlapping_iff.1 hf
  rw [h.last_eq] at hcount
  obtain ⟨l, hl⟩ := Transition.exists_credited_eq_concat h.returned
  have hsuffix : l <:+ history := by
    obtain ⟨front, hfront⟩ : l ++ [x] <:+ history ++ [x] := hl ▸ List.drop_suffix ..
    rw [← List.append_assoc] at hfront
    exact ⟨front, List.append_cancel_right hfront⟩
  have hself : elapsed x.instant x.instant < config.flapInterval := by
    unfold elapsed
    omega
  let unspent := Transition.unspent config.flapPolicy l
  let block := unspent.filter fun t => elapsed t.instant x.instant < config.flapInterval
  have hwindow : ∀ t ∈ block, elapsed t.instant x.instant < config.flapInterval := by
    intro t ht
    simpa using (List.mem_filter.1 ht).2
  have hcounted : Transition.counted config (history ++ [x]) x.instant = block ++ [x] := by
    rw [Transition.counted_of_credited hl, List.filter_append, List.filter_singleton]
    simp [hself, block, unspent]
  have hblock : block <:+ history := by
    have hu : unspent <:+ history := (Transition.unspent_suffix ..).trans hsuffix
    have hsorted := (List.pairwise_append.1 hs).1.sublist hu.sublist
    exact (Transition.filter_elapsed_suffix hsorted _ _).trans hu
  obtain ⟨earlier, hearlier⟩ := hblock
  refine ⟨earlier, block, hearlier.symm, ?_, fun t ht => ⟨?_, hwindow t ht⟩⟩
  · rwa [hcounted, List.length_append, List.length_singleton] at hcount
  · cases hp : config.flapPolicy with
    | reset =>
      have hm : t ∈ unspent := (List.mem_filter.1 ht).1
      unfold unspent Transition.unspent at hm
      rw [hp] at hm
      simpa using List.mem_rtakeWhile_imp hm
    | retain =>
      have hlinked : Transition.Linked config.flapInterval (block ++ [x]) := by
        apply Transition.linked_of_window _ hwindow
        rw [← hearlier, List.append_assoc] at hs
        exact (List.pairwise_append.1 hs).2.1
      have hchain : block ++ [x] <:+ Transition.chain config.flapInterval (history ++ [x]) := by
        have hends : block ++ [x] <:+ history ++ [x] :=
          ⟨earlier, by rw [← List.append_assoc, hearlier]⟩
        exact List.suffix_of_suffix_length_le hends (Transition.chain_suffix ..)
          (Transition.length_le_chain hends hlinked)
      obtain ⟨c, hc⟩ := Transition.exists_chain_eq_concat config.flapInterval history x
      obtain ⟨front, hfront⟩ := hchain
      rw [hc, ← List.append_assoc] at hfront
      have hfront := List.append_cancel_right hfront
      apply hsilent hp
      rw [hc, List.dropLast_concat, ← hfront]
      exact List.mem_append_right front ht

namespace Engine

theorem transition?_eq_some {e : Engine} {s : Sighting} {operation : Operation} {now : Nat}
    {x : Transition} (h : e.transition? s operation now = some x) :
    ∃ signal, operation = .correlate signal ∧ signal.sighting = s ∧
      isNews (e.expire now).memory signal = true ∧
      x = ⟨signal.kind, now, reportsFlapping (e.correlate signal now).1 s⟩ := by
  unfold transition? at h
  cases operation with
  | correlate signal =>
    obtain ⟨⟨hs, hn⟩, hx⟩ := Option.ite_none_right_eq_some.1 h
    exact ⟨signal, rfl, hs, hn, (Option.some.inj hx).symm⟩
  | sweep => contradiction
  | memorySize => contradiction
  | stats => contradiction

/-- Behind a report of flapping stands a tracker that gives reason to it. -/
theorem exists_tracker_of_reported {config : CorrelationConfig} {s : Sighting}
    {ops : List (Operation × Nat)} {operation : Operation} {now : Nat} {x : Transition}
    (hx : ((new config).run ops).2.transition? s operation now = some x)
    (hr : x.reported = true) :
    ∃ signal m t, signal.sighting = s ∧ x = ⟨signal.kind, now, true⟩ ∧
      observe config (((new config).run ops).2.expire now).memory signal now = some m ∧
        m.trackers.get? s = some t ∧ t.isFlapping config = true := by
  obtain ⟨signal, -, rfl, hn, rfl⟩ := transition?_eq_some hx
  have hc : ((new config).run ops).2.config = config := run_config ..
  obtain ⟨m, ho⟩ : ∃ m, observe config (((new config).run ops).2.expire now).memory signal now =
      some m := by
    rw [← Option.isSome_iff_exists, observe_isSome]
    exact hn
  have hfound := reportsFlapping_correlate (by rwa [hc]) (pending_expire_run config ops now)
  dsimp only at hr
  rw [hfound, hc, Option.any_eq_true] at hr
  obtain ⟨t, ht, hf⟩ := hr
  refine ⟨signal, m, t, rfl, ?_, ho, ht, hf⟩
  rw [hfound, hc, ht, Option.any_some, hf]

section Run

variable {config : CorrelationConfig} (hw : 0 < config.flapInterval) {s : Sighting}
  {ops : List (Operation × Nat)} {operation : Operation} {now : Nat}
  (hs : (ops.map Prod.snd ++ [now]).Pairwise (· ≤ ·)) {x : Transition}
  (hx : ((new config).run ops).2.transition? s operation now = some x)

include hw hs hx

theorem ordered_transitions_concat :
    ((new config).transitions s ops ++ [x]).Pairwise fun a b => a.instant ≤ b.instant := by
  obtain ⟨signal, -, -, -, rfl⟩ := transition?_eq_some hx
  exact (tracks_run config hw s ops now hs).ordered_concat

theorem exists_counts_of_reported (hr : x.reported = true) :
    ∃ t : FlapTracker, t.Counts config ((new config).transitions s ops ++ [x]) ∧
      t.isFlapping config = true := by
  obtain ⟨signal, m, t, rfl, rfl, ho, ht, hf⟩ := exists_tracker_of_reported hx hr
  exact ⟨t, (weighs_run config hw ops signal now hs ho true).tracked t ht, hf⟩

end Run

theorem ordered_transitions (config : CorrelationConfig) (hw : 0 < config.flapInterval)
    (s : Sighting) (ops : List (Operation × Nat)) (hs : (ops.map Prod.snd).Pairwise (· ≤ ·)) :
    ((new config).transitions s ops).Pairwise fun a b => a.instant ≤ b.instant := by
  cases ops using List.reverseRecOn with
  | nil => exact List.Pairwise.nil
  | append_singleton ops op =>
    obtain ⟨operation, now⟩ := op
    rw [List.map_append] at hs
    rw [transitions_concat]
    cases hx : ((new config).run ops).2.transition? s operation now with
    | none => simpa using (tracks_run config hw s ops now hs).ordered
    | some x => exact ordered_transitions_concat hw hs hx

theorem backed_run (config : CorrelationConfig) (hw : 0 < config.flapInterval) (s : Sighting)
    (ops : List (Operation × Nat)) (hs : (ops.map Prod.snd).Pairwise (· ≤ ·)) :
    Transition.Backed config ((new config).transitions s ops) := by
  induction ops using List.reverseRecOn with
  | nil =>
    intro front x hp
    simp [transitions] at hp
  | append_singleton ops op ih =>
    obtain ⟨operation, now⟩ := op
    rw [List.map_append] at hs
    have hfront := ih (List.pairwise_append.1 hs).1
    rw [transitions_concat]
    cases hx : ((new config).run ops).2.transition? s operation now with
    | none => simpa using hfront
    | some x =>
      intro front y hp hr
      rcases List.prefix_concat_iff.1 hp with heq | hp
      · obtain ⟨rfl, hy⟩ := List.append_inj' heq rfl
        obtain rfl : y = x := by simpa using hy
        obtain ⟨t, ht, hf⟩ := exists_counts_of_reported hw hs hx hr
        exact ht.exists_block hf hw (ordered_transitions_concat hw hs hx)
      · exact hfront front y hp hr

/-- An operation finds flapping of a sighting just if it makes a transition that reports it. -/
theorem length_flapReports_apply {e : Engine} (hp : ∀ f ∈ e.pending, f.kind ≠ .serviceFlapping)
    (s : Sighting) (operation : Operation) (now : Nat) :
    (flapReports (e.apply operation now).1 s).length =
      (e.transition? s operation now).toList.countP (·.reported) := by
  have hq := flapReports_of_kind_ne (kind_pending_expire hp now) s
  cases operation with
  | sweep => exact congrArg List.length hq
  | memorySize => rfl
  | stats => rfl
  | correlate signal =>
    show (flapReports (e.correlate signal now).1 s).length = _
    cases ho : observe e.config (e.expire now).memory signal now with
    | none =>
      have hfound : (e.correlate signal now).1 = (e.expire now).pending := by
        simp [correlate, ho]
      have hn := isNews_of_observe_eq_none ho
      rw [hfound, hq]
      simp [transition?, hn]
    | some m =>
      have hn := (observe_eq_some ho).1
      have hfound : flapReports (e.correlate signal now).1 s =
          flapReports (evaluate e.config m signal now).1 s := by
        simp [correlate, ho, flapReports_append, hq]
      have hlen : (flapReports (e.correlate signal now).1 s).length ≤ 1 := by
        rw [hfound, flapReports_evaluate]
        split <;> simp
      by_cases hs : signal.sighting = s
      · have hx : e.transition? s (.correlate signal) now =
            some ⟨signal.kind, now, reportsFlapping (e.correlate signal now).1 s⟩ :=
          if_pos ⟨hs, hn⟩
        rw [hx, Option.toList_some, List.countP_singleton]
        by_cases hr : reportsFlapping (e.correlate signal now).1 s = true
        · rw [if_pos hr]
          have hpos := List.length_pos_iff.2 (reportsFlapping_eq_true_iff.1 hr)
          omega
        · rw [if_neg hr, List.length_eq_zero_iff]
          exact not_not.1 (mt reportsFlapping_eq_true_iff.2 hr)
      · have hx : e.transition? s (.correlate signal) now = none := if_neg fun h => hs h.1
        rw [hx, hfound, flapReports_evaluate, if_neg fun h => hs h.1.symm]
        rfl

theorem exists_transition_of_reportsFlapping {e : Engine}
    (hp : ∀ f ∈ e.pending, f.kind ≠ .serviceFlapping) {s : Sighting} {operation : Operation}
    {now : Nat} (h : reportsFlapping (e.apply operation now).1 s = true) :
    ∃ x, e.transition? s operation now = some x ∧ x.reported = true := by
  have hpos := List.length_pos_iff.2 (reportsFlapping_eq_true_iff.1 h)
  rw [length_flapReports_apply hp, List.countP_pos_iff] at hpos
  obtain ⟨x, hx, hr⟩ := hpos
  exact ⟨x, Option.mem_toList.1 hx, hr⟩

theorem length_flapReports_run (config : CorrelationConfig) (s : Sighting)
    (ops : List (Operation × Nat)) :
    (flapReports ((new config).run ops).1.flatten s).length =
      ((new config).transitions s ops).countP (·.reported) := by
  induction ops using List.reverseRecOn with
  | nil => rfl
  | append_singleton ops op ih =>
    obtain ⟨operation, now⟩ := op
    have hp := (flapping_names_monitor config ops).2
    rw [run_concat, transitions_concat, List.flatten_append, List.flatten_singleton,
      flapReports_append, List.length_append, List.countP_append, ih,
      length_flapReports_apply hp]

/-- Let the operations of a run come in order of time. Then the findings that a sighting is flapping
are as many as its transitions that report it, and to each of these a set of as many transitions of
the sighting as flapping takes can be assigned, none of them later than the report or as much as the
flap interval before it, so that no transition is in the sets of two reports. So there are at least
as many transitions as all reports take together. -/
theorem flapping_backed_by_own_transitions (config : CorrelationConfig)
    (hw : 0 < config.flapInterval) (ops : List (Operation × Nat))
    (hs : (ops.map Prod.snd).Pairwise (· ≤ ·)) (s : Sighting) :
    let history := (new config).transitions s ops
    let reports := flapReports ((new config).run ops).1.flatten s
    let reported : Set Nat := {i | ∃ x, history[i]? = some x ∧ x.reported = true}
    reports.length = history.countP (·.reported) ∧
      (∃ backing : Nat → Finset Nat,
        (∀ i x, history[i]? = some x → x.reported = true →
          (backing i).card = config.flapCount.toNat ∧
            ∀ j ∈ backing i, j ≤ i ∧ ∃ y, history[j]? = some y ∧ y.instant ≤ x.instant ∧
              FlapTracker.elapsed y.instant x.instant < config.flapInterval) ∧
          reported.PairwiseDisjoint backing) ∧
      reports.length * config.flapCount.toNat ≤ history.length := by
  intro history reports reported
  have hbacked := backed_run config hw s ops hs
  have hordered := ordered_transitions config hw s ops hs
  have hcount : reports.length = history.countP (·.reported) := length_flapReports_run config s ops
  refine ⟨hcount, ⟨fun i => Finset.Ico (i + 1 - config.flapCount.toNat) (i + 1), ?_, ?_⟩, ?_⟩
  · intro i x hx hr
    obtain ⟨hlen, hblock⟩ := hbacked.of_getElem? hx hr
    constructor
    · rw [Nat.card_Ico]
      omega
    · intro j hj
      obtain ⟨hle, hlt⟩ := Finset.mem_Ico.1 hj
      have hi : i < history.length := (List.getElem?_eq_some_iff.1 hx).1
      have hy : history[j]? = some history[j] := List.getElem?_eq_getElem (by omega)
      refine ⟨by omega, history[j], hy, ?_⟩
      by_cases hji : j < i
      · rw [List.getElem?_eq_getElem hi, Option.some.injEq] at hx
        rw [← hx]
        exact ⟨List.pairwise_iff_getElem.1 hordered j i _ hi hji, hx ▸ (hblock j _ hy hle hji).2⟩
      · obtain rfl : j = i := by omega
        obtain rfl : x = history[j] := Option.some.inj (hx.symm.trans hy)
        unfold FlapTracker.elapsed
        omega
  · intro i hi i' hi' hne
    obtain ⟨x, hx, hr⟩ := hi
    obtain ⟨x', hx', hr'⟩ := hi'
    -- the earlier of two reports is none of the transitions that go with the later one
    have hapart : ∀ {i i' : Nat} {x x' : Transition}, history[i]? = some x → x.reported = true →
        history[i']? = some x' → x'.reported = true → i < i' →
          i + 1 ≤ i' + 1 - config.flapCount.toNat := by
      intro i i' x x' hx hr hx' hr' hlt
      by_contra hle
      have hquiet := ((hbacked.of_getElem? hx' hr').2 i x hx (by omega) hlt).1
      rw [hr] at hquiet
      contradiction
    show Disjoint (Finset.Ico _ _) (Finset.Ico _ _)
    rw [Finset.disjoint_left]
    intro j hj hj'
    rw [Finset.mem_Ico] at hj hj'
    rcases Nat.lt_or_gt_of_ne hne with hlt | hlt
    · have := hapart hx hr hx' hr' hlt
      omega
    · have := hapart hx' hr' hx hr hlt
      omega
  · rw [hcount]
    exact hbacked.countP_mul_le

theorem flapping_backed_by_own_transitions_sample :
    let config : CorrelationConfig := { flapIntervalMs := 10, flapPolicy := .reset }
    let s := (Signal.sample .lost 7).sighting
    let ops : List (Operation × Nat) :=
      [(.correlate (.sample .lost 7), 1), (.correlate (.sample .regained 7), 4),
        (.correlate (.sample .lost 8), 5), (.correlate (.sample .lost 7), 6),
        (.correlate (.sample .lost 7), 7), (.correlate (.sample .regained 7), 8), (.sweep, 9),
        (.correlate (.sample .lost 7), 16), (.correlate (.sample .regained 7), 17)]
    let history := (new config).transitions s ops
    let reports := flapReports ((new config).run ops).1.flatten s
    0 < config.flapInterval ∧ (ops.map Prod.snd).Pairwise (· ≤ ·) ∧
      history.map (·.reported) = [false, false, true, false, false, true] ∧
      reports.length = 2 ∧ reports.length = history.countP (·.reported) ∧
      reports.length * config.flapCount.toNat ≤ history.length := by
  intro config s ops history reports
  have hw : 0 < config.flapInterval := by decide
  have hs : (ops.map Prod.snd).Pairwise (· ≤ ·) := by decide
  obtain ⟨hcount, -, hle⟩ := flapping_backed_by_own_transitions config hw ops hs s
  exact ⟨hw, hs, by decide, by decide, hcount, hle⟩

end Engine

end ServiceWatch
