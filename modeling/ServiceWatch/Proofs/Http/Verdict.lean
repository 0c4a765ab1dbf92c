import Mathlib
import ServiceWatch.Http.Polling
import ServiceWatch.Proofs.Text.Digits

/-! Which services can be checked over HTTP, and which results their checks have: both follow from
the parameters of a service. -/
namespace ServiceWatch.Http

open ServiceWatch.Text

namespace Check

/-! ### What the parameters of a service say -/

def ExpectsMethod (s : PolledService) (method : Method) : Prop :=
  match s.parameters.get? "method" with
  | none => method = .get
  | some text => sameButCase text method.name = true

def ExpectsStatus (s : PolledService) (status : UInt16) : Prop :=
  match s.parameters.get? "expected_status" with
  | none => 200 ≤ status.toNat ∧ status.toNat < 300
  | some text => ∃ part ∈ split ',' text.toList, Word.Denotes (trim part) status

def ExpectsBody (s : PolledService) (body : String) : Prop :=
  ∀ text ∈ s.parameters.get? "body_pattern",
    ∃ pattern ∈ Pattern.read text.toList, pattern.isMatch body = true

/-- The parameters of a service make up a check. -/
structure Fits (s : PolledService) : Prop where
  port : (s.parameters.get? "url").isSome = true ∨
    ∀ text ∈ s.parameters.get? "port", ∃ port, Word.Denotes text.toList port
  method : ∀ text ∈ s.parameters.get? "method",
    ∃ method : Method, sameButCase text method.name = true
  statuses : ∀ text ∈ s.parameters.get? "expected_status", ∀ part ∈ split ',' text.toList,
    ∃ status, Word.Denotes (trim part) status
  pattern : ∀ text ∈ s.parameters.get? "body_pattern", (Pattern.read text.toList).isSome = true

variable {s : PolledService}

/-! ### How they are read -/

theorem readPort_eq_ok {port : UInt16} : readPort s = .ok port ↔
    match s.parameters.get? "port" with
    | none => port = if isSecure s then 443 else 80
    | some text => Word.Denotes text.toList port := by
  unfold readPort
  cases s.parameters.get? "port" with
  | none =>
    dsimp only
    rw [Except.ok.injEq, eq_comm]
  | some text =>
    dsimp only
    rw [← Word.read_eq_ok]
    cases Word.read text.toList <;> simp

theorem exists_readUrl : (∃ url, readUrl s = .ok url) ↔ (s.parameters.get? "url").isSome = true ∨
    ∀ text ∈ s.parameters.get? "port", ∃ port, Word.Denotes text.toList port := by
  unfold readUrl
  cases s.parameters.get? "url" with
  | some url => simp
  | none =>
    have hread : (∃ port, readPort s = .ok port) ↔
        ∀ text ∈ s.parameters.get? "port", ∃ port, Word.Denotes text.toList port := by
      simp only [readPort_eq_ok]
      cases s.parameters.get? "port" <;> simp
    rw [← hread]
    cases readPort s <;> simp [bind, Except.bind, pure, Except.pure]

theorem sameButCase_iff {a b : String} :
    sameButCase a b = true ↔ a.toList.map Char.toUpper = b.toList.map Char.toUpper := by
  have hlower (l : List Char) : (l.map Char.toLower).map Char.toUpper = l.map Char.toUpper := by
    simp [Function.comp_def]
  have hupper (l : List Char) : (l.map Char.toUpper).map Char.toLower = l.map Char.toLower := by
    simp [Function.comp_def]
  rw [sameButCase, decide_eq_true_eq]
  constructor
  · intro h
    rw [← hlower a.toList, h, hlower]
  · intro h
    rw [← hupper a.toList, h, hupper]

theorem readMethod_eq_ok {method : Method} : readMethod s = .ok method ↔ ExpectsMethod s method := by
  unfold readMethod ExpectsMethod
  cases s.parameters.get? "method" with
  | none => simp [eq_comm]
  | some text =>
    dsimp only
    have hname : sameButCase text method.name = true ↔
        method.name = String.ofList (text.toList.map Char.toUpper) := by
      rw [sameButCase_iff, eq_comm, ← String.toList_inj, String.toList_ofList]
      cases method <;> rfl
    rw [hname]
    generalize String.ofList (text.toList.map Char.toUpper) = name
    constructor
    · intro h
      split at h
      · rename_i hfind
        cases h
        simpa using List.find?_some hfind
      · contradiction
    · rintro rfl
      cases method <;> rfl

theorem mapM_eq_ok {α β ε : Type} {f : α → Except ε β} {xs : List α} {ys : List β} :
    xs.mapM f = .ok ys ↔ List.Forall₂ (fun x y => f x = .ok y) xs ys := by
  induction xs generalizing ys with
  | nil => simp [pure, Except.pure, eq_comm]
  | cons x xs ih =>
    rw [List.mapM_cons, List.forall₂_cons_left_iff]
    cases hx : f x with
    | error e => simp [bind, Except.bind]
    | ok y =>
      cases hxs : xs.mapM f with
      | error e =>
        simp only [hxs] at ih
        simp [bind, Except.bind, ← ih]
      | ok zs =>
        simp only [hxs, Except.ok.injEq] at ih
        simp [bind, Except.bind, pure, Except.pure, ← ih, eq_comm]

section Forall₂

variable {α β : Type} {R : α → β → Prop} {xs : List α}

theorem exists_forall₂ : (∃ ys, List.Forall₂ R xs ys) ↔ ∀ x ∈ xs, ∃ y, R x y := by
  induction xs with
  | nil => simp
  | cons x xs ih =>
    simp only [List.forall₂_cons_left_iff, List.forall_mem_cons, ← ih]
    constructor
    · rintro ⟨_, y, ys, hy, hys, rfl⟩
      exact ⟨⟨y, hy⟩, ys, hys⟩
    · rintro ⟨⟨y, hy⟩, ys, hys⟩
      exact ⟨_, y, ys, hy, hys, rfl⟩

theorem mem_forall₂ {ys : List β} (hR : Relator.RightUnique R) (h : List.Forall₂ R xs ys) {y : β} :
    y ∈ ys ↔ ∃ x ∈ xs, R x y := by
  induction h with
  | nil => simp
  | cons hxy _ ih =>
    rw [List.mem_cons, ih, List.exists_mem_cons_iff]
    exact or_congr_left ⟨fun h => h ▸ hxy, fun h => hR h hxy⟩

end Forall₂

theorem readStatus_eq_ok {part : List Char} {status : UInt16} :
    readStatus part = .ok status ↔ Word.Denotes (trim part) status := by
  rw [readStatus, ← Word.read_eq_ok]
  cases Word.read (trim part) <;> simp

theorem readExpectedStatus_eq_ok {statuses : Option (List UInt16)} :
    readExpectedStatus s = .ok statuses ↔
      match s.parameters.get? "expected_status" with
      | none => statuses = none
      | some text => ∃ l, statuses = some l ∧
        List.Forall₂ (fun part status => Word.Denotes (trim part) status)
          (split ',' text.toList) l := by
  unfold readExpectedStatus
  cases s.parameters.get? "expected_status" with
  | none => simp [eq_comm]
  | some text =>
    dsimp only
    have hread (l : List UInt16) := @mapM_eq_ok _ _ _ readStatus (split ',' text.toList) l
    simp only [readStatus_eq_ok] at hread
    simp only [← hread]
    cases (split ',' text.toList).mapM readStatus <;> simp [Except.map, eq_comm]

theorem readBodyPattern_eq_ok {bodyPattern : Option BodyPattern} :
    readBodyPattern s = .ok bodyPattern ↔
      match s.parameters.get? "body_pattern" with
      | none => bodyPattern = none
      | some text => ∃ pattern ∈ Pattern.read text.toList, bodyPattern = some ⟨text, pattern⟩ := by
  unfold readBodyPattern
  cases s.parameters.get? "body_pattern" with
  | none => simp [eq_comm]
  | some text =>
    dsimp only
    cases Pattern.read text.toList <;> simp [eq_comm]

theorem ofService_eq_ok {check : Check} : ofService s = .ok check ↔
    readUrl s = .ok check.url ∧ readMethod s = .ok check.method ∧
      readExpectedStatus s = .ok check.expectedStatus ∧
      readBodyPattern s = .ok check.bodyPattern := by
  obtain ⟨url, method, expectedStatus, bodyPattern⟩ := check
  unfold ofService
  cases readUrl s <;> cases readMethod s <;> cases readExpectedStatus s <;> cases readBodyPattern s <;>
    simp [bind, Except.bind, pure, Except.pure]

/-- Just the services whose parameters fit can be checked. -/
theorem exists_ofService : (∃ check, ofService s = .ok check) ↔ Fits s := by
  have hmethod : (∃ method, readMethod s = .ok method) ↔
      ∀ text ∈ s.parameters.get? "method", ∃ method : Method, sameButCase text method.name = true := by
    simp only [readMethod_eq_ok, ExpectsMethod]
    cases s.parameters.get? "method" <;> simp
  have hstatuses : (∃ statuses, readExpectedStatus s = .ok statuses) ↔
      ∀ text ∈ s.parameters.get? "expected_status", ∀ part ∈ split ',' text.toList,
        ∃ status, Word.Denotes (trim part) status := by
    simp only [readExpectedStatus_eq_ok]
    cases s.parameters.get? "expected_status" with
    | none => simp
    | some text =>
      simp only [Option.mem_some_iff, forall_eq', ← exists_forall₂]
      constructor
      · rintro ⟨_, l, _, hl⟩
        exact ⟨l, hl⟩
      · rintro ⟨l, hl⟩
        exact ⟨_, l, rfl, hl⟩
  have hpattern : (∃ bodyPattern, readBodyPattern s = .ok bodyPattern) ↔
      ∀ text ∈ s.parameters.get? "body_pattern", (Pattern.read text.toList).isSome = true := by
    simp only [readBodyPattern_eq_ok]
    cases s.parameters.get? "body_pattern" with
    | none => simp
    | some text => cases h : Pattern.read text.toList <;> simp [h]
  simp only [ofService_eq_ok]
  constructor
  · rintro ⟨check, hurl, hm, hs, hp⟩
    exact ⟨exists_readUrl.1 ⟨_, hurl⟩, hmethod.1 ⟨_, hm⟩, hstatuses.1 ⟨_, hs⟩, hpattern.1 ⟨_, hp⟩⟩
  · intro h
    obtain ⟨url, hurl⟩ := exists_readUrl.2 h.port
    obtain ⟨method, hm⟩ := hmethod.2 h.method
    obtain ⟨statuses, hs⟩ := hstatuses.2 h.statuses
    obtain ⟨bodyPattern, hp⟩ := hpattern.2 h.pattern
    exact ⟨⟨url, method, statuses, bodyPattern⟩, hurl, hm, hs, hp⟩

/-! ### Responses -/

/-- An exchange was completed with a status and a body, which a response to `HEAD` does not have. -/
inductive Completed : Method → Except Failure Response → UInt16 → String → Prop
  | head (status : UInt16) (body : Except Failure (List UInt8)) :
    Completed .head (.ok ⟨status, body⟩) status ""
  | full {method : Method} (hm : method ≠ .head) (status : UInt16) (bytes : List UInt8) :
    Completed method (.ok ⟨status, .ok bytes⟩) status (String.ofList (Utf8.decodeLossy bytes))

variable {check : Check}

theorem read_eq_ok {answer : Except Failure Response} {status : UInt16} {body : String} :
    check.read answer = .ok (status, body) ↔ Completed check.method answer status body := by
  unfold read
  constructor
  · intro h
    rcases answer with failure | ⟨code, content⟩
    · contradiction
    · dsimp only at h
      split at h
      · rename_i hm
        cases h
        rw [hm]
        exact .head status content
      · rename_i hm
        cases content with
        | error failure => contradiction
        | ok bytes =>
          cases h
          exact .full hm status bytes
  · intro h
    generalize check.method = method at h ⊢
    cases h with
    | head => rfl
    | full hm => exact if_neg hm

theorem accepts_iff (h : ofService s = .ok check) (status : UInt16) :
    check.accepts status = true ↔ ExpectsStatus s status := by
  have hs := readExpectedStatus_eq_ok.1 (ofService_eq_ok.1 h).2.2.1
  unfold ExpectsStatus accepts
  cases hget : s.parameters.get? "expected_status" with
  | none =>
    rw [hget] at hs
    rw [hs]
    simp [isSuccess, UInt16.le_iff_toNat_le, UInt16.lt_iff_toNat_lt]
  | some text =>
    rw [hget] at hs
    obtain ⟨l, hl, hparts⟩ := hs
    have hunique : Relator.RightUnique fun part status => Word.Denotes (trim part) status := by
      intro part status status' hd hd'
      rw [← Word.read_eq_ok] at hd hd'
      exact Except.ok.inj (hd.symm.trans hd')
    rw [hl]
    dsimp only
    rw [List.contains_iff_mem, mem_forall₂ hunique hparts]

/-- The pattern of a check is looked for in each body, and named where it is not found. -/
theorem bodyPattern_cases (h : ofService s = .ok check) :
    check.bodyPattern = none ∧ (∀ body, ExpectsBody s body) ∨
      ∃ p, check.bodyPattern = some p ∧ s.parameters.get? "body_pattern" = some p.text ∧
        ∀ body, p.pattern.isMatch body = true ↔ ExpectsBody s body := by
  have hp := readBodyPattern_eq_ok.1 (ofService_eq_ok.1 h).2.2.2
  unfold ExpectsBody
  cases hget : s.parameters.get? "body_pattern" with
  | none =>
    rw [hget] at hp
    exact .inl ⟨hp, nofun⟩
  | some text =>
    rw [hget] at hp
    obtain ⟨pattern, hread, hp⟩ := hp
    refine .inr ⟨_, hp, rfl, fun body => ?_⟩
    simp [Option.mem_def.1 hread]

/-! ### Complaints -/

section Complaint

variable (h : ofService s = .ok check) {status : UInt16} {body : String}

include h

theorem complaint_of_unexpected_status (hs : ¬ExpectsStatus s status) :
    check.complaint status body =
      some ("Unexpected status code: " ++ Text.Decimal.text status.toNat) := by
  rw [← accepts_iff h, Bool.not_eq_true] at hs
  rw [complaint, hs]
  rfl

theorem complaint_of_expected (hs : ExpectsStatus s status) (hb : ExpectsBody s body) :
    check.complaint status body = none := by
  rw [complaint, (accepts_iff h status).2 hs]
  rcases bodyPattern_cases h with ⟨hnone, -⟩ | ⟨p, hp, -, hbody⟩
  · rw [hnone]
    rfl
  · rw [hp]
    exact if_pos ((hbody body).2 hb)

theorem complaint_of_unexpected_body (hs : ExpectsStatus s status) (hb : ¬ExpectsBody s body) :
    ∃ text ∈ s.parameters.get? "body_pattern",
      check.complaint status body = some ("Response body does not match '" ++ text ++ "'") := by
  rcases bodyPattern_cases h with ⟨-, hall⟩ | ⟨p, hp, htext, hbody⟩
  · exact absurd (hall body) hb
  · refine ⟨p.text, htext, ?_⟩
    rw [complaint, (accepts_iff h status).2 hs, hp]
    exact if_neg fun hmatch => hb ((hbody body).1 hmatch)

theorem complaint_eq_none :
    check.complaint status body = none ↔ ExpectsStatus s status ∧ ExpectsBody s body := by
  refine ⟨fun hnone => ?_, fun ⟨hs, hb⟩ => complaint_of_expected h hs hb⟩
  by_cases hs : ExpectsStatus s status
  · refine ⟨hs, by_contra fun hb => ?_⟩
    obtain ⟨text, -, hsome⟩ := complaint_of_unexpected_body h hs hb
    rw [hnone] at hsome
    contradiction
  · rw [complaint_of_unexpected_status h hs] at hnone
    contradiction

end Complaint

end Check

namespace Polling

open Check (Completed ExpectsMethod ExpectsStatus ExpectsBody Fits)

/-- What the parameters of a service make of an answer. -/
structure Judged (s : PolledService) (method : Method) (answer : Except Failure Response)
    (elapsed : Nat) (result : PollStatus) : Prop where
  up_iff : result.status = .up ↔ ∃ status body, Completed method answer status body ∧
    ExpectsStatus s status ∧ ExpectsBody s body
  down : result.status ≠ .up → result.status = .down
  /-- The status is looked at first. -/
  reason_status : ∀ status body, Completed method answer status body → ¬ExpectsStatus s status →
    result.reason = some ("Unexpected status code: " ++ Text.Decimal.text status.toNat)
  reason_body : ∀ status body, Completed method answer status body → ExpectsStatus s status →
    ¬ExpectsBody s body → ∃ text ∈ s.parameters.get? "body_pattern",
      result.reason = some ("Response body does not match '" ++ text ++ "'")
  reason_failure : ∀ failure, answer = .error failure →
    result.reason = some (failure.during "HTTP request failed").text
  time : (∃ status body, Completed method answer status body) →
    result.responseTime = some elapsed.toUInt64
  untimed : (¬∃ status body, Completed method answer status body) → result.responseTime = none

section Verdict

variable {s : PolledService} {check : Check} {service : UInt32} {answer : Except Failure Response}
  {time : Timestamp} {elapsed : Nat}

/-- The result of a completed exchange depends on whether there is a complaint about it. -/
theorem verdict_of_completed {status : UInt16} {body : String}
    (hc : Completed check.method answer status body) :
    verdict service check (check.read answer) time elapsed =
      PollStatus.withResponseTime
        (match check.complaint status body with
        | none => .up service time
        | some reason => .down service reason time) elapsed.toUInt64 := by
  rw [Check.read_eq_ok.2 hc]
  rfl

/-- Without a completed exchange there is a failure to tell of. -/
theorem verdict_of_not_completed (hn : ¬∃ status body, Completed check.method answer status body) :
    ∃ failure : Failure,
      verdict service check (check.read answer) time elapsed = .down service failure.text time := by
  cases hread : check.read answer with
  | error failure => exact ⟨failure, rfl⟩
  | ok received => exact absurd ⟨received.1, received.2, Check.read_eq_ok.1 hread⟩ hn

theorem service_verdict (answer : Except Failure (UInt16 × String)) :
    (verdict service check answer time elapsed).service = service ∧
      (verdict service check answer time elapsed).time = time := by
  unfold verdict
  split
  · exact ⟨rfl, rfl⟩
  · dsimp only
    split <;> exact ⟨rfl, rfl⟩

theorem judged_verdict (h : Check.ofService s = .ok check) :
    Judged s check.method answer elapsed (verdict service check (check.read answer) time elapsed) where
  up_iff := by
    constructor
    · intro hup
      obtain ⟨status, body, hc⟩ : ∃ status body, Completed check.method answer status body := by
        by_contra hn
        obtain ⟨failure, hdown⟩ := verdict_of_not_completed hn
        rw [hdown] at hup
        contradiction
      refine ⟨status, body, hc, (Check.complaint_eq_none h).1 ?_⟩
      rw [verdict_of_completed hc] at hup
      split at hup
      · assumption
      · contradiction
    · rintro ⟨status, body, hc, hexpected⟩
      rw [verdict_of_completed hc, (Check.complaint_eq_none h).2 hexpected]
      rfl
  down := by
    unfold verdict
    split
    · exact fun _ => rfl
    · dsimp only
      split
      · exact fun hne => absurd rfl hne
      · exact fun _ => rfl
  reason_status := by
    intro status body hc hs
    rw [verdict_of_completed hc, Check.complaint_of_unexpected_status h hs]
    rfl
  reason_body := by
    intro status body hc hs hb
    obtain ⟨text, htext, hcomplaint⟩ := Check.complaint_of_unexpected_body h hs hb
    rw [verdict_of_completed hc, hcomplaint]
    exact ⟨text, htext, rfl⟩
  reason_failure := by
    rintro failure rfl
    rfl
  time := by
    rintro ⟨status, body, hc⟩
    rw [verdict_of_completed hc]
    rfl
  untimed := by
    intro hn
    obtain ⟨failure, hdown⟩ := verdict_of_not_completed hn
    rw [hdown]
    rfl

end Verdict

/-- A service can be checked exactly if its parameters fit. A poll of a service number that this check
is ready for sends one request, by the method that the parameters ask for, and its result follows by
those parameters: the service is up if the exchange was completed with a status and a body that they
ask for, and down otherwise, with the status as the first reason. -/
theorem parameters_decide_verdict (s : PolledService) :
    ((∃ check, Check.ofService s = .ok check) ↔ Fits s) ∧
    ∀ check, Check.ofService s = .ok check → ExpectsMethod s check.method ∧
      (∀ {m : Type → Type} [Monad m] [LawfulMonad m] (around : Surroundings m) (p : Polling)
          (t : PolledService),
        p.checks.get? t.id = some check → p.poll around t = do
          let start ← around.ticks
          let answer ← around.exchange { method := check.method, url := check.url }
          let stop ← around.ticks
          let time ← around.now
          return some (verdict t.id check (check.read answer) time (stop - start))) ∧
      ∀ service answer time elapsed,
        let result := verdict service check (check.read answer) time elapsed
        result.service = service ∧ result.time = time ∧
          Judged s check.method answer elapsed result := by
  refine ⟨Check.exists_ofService, fun check h => ⟨?_, ?_, ?_⟩⟩
  · exact Check.readMethod_eq_ok.1 (Check.ofService_eq_ok.1 h).2.1
  · intro m _ _ around p t hready
    unfold poll examine
    rw [hready]
    simp only [bind_assoc, pure_bind]
    rfl
  · intro service answer time elapsed result
    exact ⟨(service_verdict _).1, (service_verdict _).2, judged_verdict h⟩

theorem parameters_decide_verdict_sample :
    let s : PolledService := ⟨1, 7, none, .v4 10 0 0 1, "https", .ofList [("port", "+0443"),
      ("method", "Post"), ("expected_status", "204, +0418"), ("body_pattern", "te")]⟩
    let tea : List UInt8 := "teapot".toUTF8.toList
    ∃ check, Check.ofService s = .ok check ∧ ∀ time,
      let result status := verdict 1 check (check.read (.ok ⟨status, .ok tea⟩)) time 5
      (result 418).status = .up ∧ (result 418).responseTime = some 5 ∧
        (result 200).reason = some ("Unexpected status code: " ++ Text.Decimal.text 200) := by
  intro s tea
  have hport : s.parameters.get? "port" = some "+0443" := by decide
  have hmethod : s.parameters.get? "method" = some "Post" := by decide
  have hstatuses : s.parameters.get? "expected_status" = some "204, +0418" := by decide
  have hpattern : s.parameters.get? "body_pattern" = some "te" := by decide
  have hsplit : split ',' "204, +0418".toList = ["204".toList, " +0418".toList] := by decide
  have h204 : Word.read (trim "204".toList) = .ok 204 := by decide
  have h418 : Word.read (trim " +0418".toList) = .ok 418 := by decide
  have hmatch : (Pattern.read "te".toList).any (·.isMatch "teapot") = true := by decide +kernel
  have hbytes : String.ofList (Utf8.decodeLossy tea) = "teapot" := by decide +kernel
  have hexpects (status : UInt16) : ExpectsStatus s status ↔ status = 204 ∨ status = 418 := by
    rw [ExpectsStatus, hstatuses]
    dsimp only
    simp only [hsplit, ← Word.read_eq_ok, List.exists_mem_cons_iff, List.not_mem_nil, h204, h418,
      Except.ok.injEq, false_and, exists_false, or_false, eq_comm]
  obtain ⟨hfits, hall⟩ := parameters_decide_verdict s
  obtain ⟨check, hcheck⟩ := hfits.2 {
    port := .inr fun text htext => by
      cases hport.symm.trans htext
      exact ⟨443, Word.read_eq_ok.1 (by decide)⟩
    method := fun text htext => by
      cases hmethod.symm.trans htext
      exact ⟨.post, by decide⟩
    statuses := fun text htext => by
      cases hstatuses.symm.trans htext
      rw [hsplit]
      simp only [List.forall_mem_cons, ← Word.read_eq_ok, h204, h418]
      exact ⟨⟨204, rfl⟩, ⟨418, rfl⟩, nofun⟩
    pattern := fun text htext => by
      cases hpattern.symm.trans htext
      decide +kernel }
  obtain ⟨hpost, -, hjudged⟩ := hall check hcheck
  have hm : check.method ≠ .head := by
    intro hm
    rw [ExpectsMethod, hmethod, hm] at hpost
    contradiction
  refine ⟨check, hcheck, fun time => ?_⟩
  obtain ⟨-, -, hgood⟩ := hjudged 1 (.ok ⟨418, .ok tea⟩) time 5
  obtain ⟨-, -, hbad⟩ := hjudged 1 (.ok ⟨200, .ok tea⟩) time 5
  refine ⟨hgood.up_iff.2 ⟨418, _, .full hm 418 tea, (hexpects 418).2 (.inr rfl), fun text htext => ?_⟩,
    hgood.time ⟨418, _, .full hm 418 tea⟩,
    hbad.reason_status 200 _ (.full hm 200 tea) (mt (hexpects 200).1 (by decide))⟩
  cases hpattern.symm.trans htext
  rw [hbytes]
  exact (Option.any_eq_true ..).1 hmatch

end Polling

end ServiceWatch.Http
