import ServiceWatch.CommandLine.CorrelatorProgram
import ServiceWatch.Proofs.CommandLine.Wire
import ServiceWatch.Proofs.Correlation.Serving
import ServiceWatch.Proofs.Text.Utf8

/-!
What the correlator makes of its input: lines that are no signals are passed over, up to a line that is
no text, which ends the program where it is.
-/
namespace ServiceWatch.CommandLine.CorrelatorProgram

open ServiceWatch.Text

/-! ### Lines -/

def signal? (line : List UInt8) : Option Signal :=
  match Utf8.decode line with
  | .ok cs => (Json.decodeText Signal.decode (withoutEnd cs)).toOption
  | .error _ => none

/-- What is wrong with a line that is no text. -/
def fault? (line : List UInt8) : Option Utf8.Malformed :=
  match Utf8.decode line with
  | .ok _ => none
  | .error malformed => some malformed

/-- The signals in the lines ahead of the first one that is no text. -/
def heard (ls : List (List UInt8)) : List Signal :=
  (ls.takeWhile fun line => (fault? line).isNone).filterMap signal?

/-- Blank lines need no case of their own, since white space is no signal either. -/
theorem readSignal_eq (cs : List Char) :
    readSignal cs = (Json.decodeText Signal.decode cs).toOption := by
  unfold readSignal
  split
  · rename_i hblank
    have hvalue : Signal.decode (Json.Document.read cs).value = .error .malformed := by
      rw [Json.value_of_isAllBlank hblank]
      rfl
    simp only [Json.decodeText, hvalue]
    rfl
  · cases Json.decodeText Signal.decode cs <;> rfl

section Lines

variable {a b : List (List UInt8)} {line : List UInt8} {malformed : Utf8.Malformed}

theorem heard_of_text (h : a.findSome? fault? = none) : heard a = a.filterMap signal? := by
  rw [List.findSome?_eq_none_iff] at h
  rw [heard, List.takeWhile_eq_self_iff.2]
  intro line hline
  rw [h line hline]
  rfl

theorem heard_cons_of_text (h : fault? line = none) (ls : List (List UInt8)) :
    heard (line :: ls) = (signal? line).toList ++ heard ls := by
  rw [heard, List.takeWhile_cons_of_pos (by rw [h]; rfl), List.filterMap_cons, heard]
  cases signal? line <;> rfl

theorem heard_cons_of_fault (h : fault? line = some malformed) (ls : List (List UInt8)) :
    heard (line :: ls) = [] := by
  rw [heard, List.takeWhile_cons_of_neg (by rw [h]; exact Bool.false_ne_true), List.filterMap_nil]

theorem heard_append_of_text (h : a.findSome? fault? = none) :
    heard (a ++ b) = heard a ++ heard b := by
  induction a with
  | nil => rfl
  | cons line a ih =>
    rw [List.findSome?_cons] at h
    cases hline : fault? line with
    | none =>
      rw [hline] at h
      rw [List.cons_append, heard_cons_of_text hline, heard_cons_of_text hline, ih h, List.append_assoc]
    | some malformed => simp [hline] at h

theorem heard_append_of_fault (h : a.findSome? fault? = some malformed) : heard (a ++ b) = heard a := by
  induction a with
  | nil => contradiction
  | cons line a ih =>
    rw [List.findSome?_cons] at h
    cases hline : fault? line with
    | none =>
      rw [hline] at h
      rw [List.cons_append, heard_cons_of_text hline, heard_cons_of_text hline, ih h]
    | some malformed => rw [List.cons_append, heard_cons_of_fault hline, heard_cons_of_fault hline]

end Lines

/-! ### Feeding -/

section Feeding

variable {s t u : Schedule} {a b ls : List (List UInt8)} {result : Except Ending Unit}

/-- What it means that lines are fed up to the first one that is no text. -/
def verdict (ls : List (List UInt8)) : Except Ending Unit :=
  match ls.findSome? fault? with
  | none => .ok ()
  | some malformed => .error (.error malformed.message)

theorem verdict_of_text (h : ls.findSome? fault? = none) : verdict ls = .ok () := by
  rw [verdict, h]

theorem verdict_of_fault {malformed : Utf8.Malformed} (h : ls.findSome? fault? = some malformed) :
    verdict ls = .error (.error malformed.message) := by
  rw [verdict, h]

theorem submit_spec (h : s.Idle) (signal : Signal) :
    s.Serves [.submit signal] (submit s signal) ∧ (submit s signal).Idle := by
  obtain ⟨reply, t, hcall, hserves, hidle, -⟩ := Schedule.call_spec h (.submit signal)
  rw [submit, hcall]
  exact ⟨hserves, hidle (by simp)⟩

theorem feed_spec (h : s.Idle) {line : List UInt8} {cs : List Char} (hcs : Utf8.decode line = .ok cs) :
    s.Serves ((signal? line).toList.map .submit) (feed s (withoutEnd cs)) ∧
      (feed s (withoutEnd cs)).Idle := by
  have hsignal : signal? line = readSignal (withoutEnd cs) := by
    rw [readSignal_eq, signal?, hcs]
  rw [hsignal, feed]
  cases readSignal (withoutEnd cs) with
  | none => exact ⟨.of_eq rfl rfl, h⟩
  | some signal => exact submit_spec h signal

theorem feedLines_spec (h : s.Idle) (ls : List (List UInt8)) :
    (feedLines s ls).1 = verdict ls ∧ s.Serves ((heard ls).map .submit) (feedLines s ls).2 ∧
      (feedLines s ls).2.Idle := by
  induction ls generalizing s with
  | nil => exact ⟨rfl, .of_eq rfl rfl, h⟩
  | cons line ls ih =>
    cases hcs : Utf8.decode line with
    | error malformed =>
      have hfault : fault? line = some malformed := by rw [fault?, hcs]
      simp only [feedLines, hcs, verdict, List.findSome?_cons, hfault, heard_cons_of_fault hfault]
      exact ⟨trivial, .of_eq rfl rfl, h⟩
    | ok cs =>
      have hfault : fault? line = none := by rw [fault?, hcs]
      obtain ⟨hserves, hidle⟩ := feed_spec h hcs
      obtain ⟨hverdict, hrest, hend⟩ := ih hidle
      simp only [feedLines, hcs, heard_cons_of_text hfault, List.map_append]
      refine ⟨?_, hserves.trans hrest, hend⟩
      rw [hverdict, verdict, verdict, List.findSome?_cons, hfault]

/-- Behind the last line the size of the memory is asked for, and the correlator stopped. -/
theorem finish_spec (h : s.Idle) :
    s.Serves [.memorySize, .shutdown] (finish s) ∧ (finish s).correlator.running = false ∧
      (finish s).correlator.engine.pending = [] := by
  obtain ⟨size, t, hsize, hserves, hidle, -⟩ := Schedule.call_spec h .memorySize
  obtain ⟨reply, u, hshutdown, hserves', -, hstopped⟩ :=
    Schedule.call_spec (hidle (by simp)) .shutdown
  have hfinish : finish s = u := by simp only [finish, hsize, hshutdown]
  rw [hfinish]
  exact ⟨hserves.trans hserves', hstopped rfl⟩

/-- How the program ends that hears some lines and then the end of the input. -/
def Concludes (s : Schedule) (ls : List (List UInt8)) (result : Except Ending Unit) (t : Schedule) :
    Prop :=
  result = verdict ls ∧
    match ls.findSome? fault? with
    | none => s.Serves ((heard ls).map .submit ++ [.memorySize, .shutdown]) t ∧
        t.correlator.running = false ∧ t.correlator.engine.pending = []
    | some _ => s.Serves ((heard ls).map .submit) t ∧ t.correlator.running = true

theorem Concludes.behind (ha : a.findSome? fault? = none) (hs : s.Serves ((heard a).map .submit) t)
    (h : Concludes t b result u) : Concludes s (a ++ b) result u := by
  have hfault : (a ++ b).findSome? fault? = b.findSome? fault? := by
    rw [List.findSome?_append, ha, Option.none_or]
  obtain ⟨hverdict, hend⟩ := h
  refine ⟨by rw [hverdict, verdict, verdict, hfault], ?_⟩
  rw [hfault, heard_append_of_text ha, List.map_append]
  split at hend
  · rw [List.append_assoc]
    exact ⟨hs.trans hend.1, hend.2⟩
  · exact ⟨hs.trans hend.1, hend.2⟩

theorem Concludes.of_fault {malformed : Utf8.Malformed} (ha : a.findSome? fault? = some malformed)
    (hs : s.Serves ((heard a).map .submit) t) (hr : t.correlator.running = true)
    (b : List (List UInt8)) : Concludes s (a ++ b) (.error (.error malformed.message)) t := by
  have hfault : (a ++ b).findSome? fault? = some malformed := by
    rw [List.findSome?_append, ha, Option.some_or]
  refine ⟨by rw [verdict, hfault], ?_⟩
  rw [hfault, heard_append_of_fault ha]
  exact ⟨hs, hr⟩

end Feeding

/-! ### Sessions -/

/-- What a session lives through until its input ends. -/
inductive Stimulus where
  /-- Bytes arrive from the input. -/
  | bytes (chunk : List UInt8)
  /-- Time passes up to an instant. -/
  | time (instant : Nat)

def Stimulus.input : Stimulus → List UInt8
  | .bytes chunk => chunk
  | .time _ => []

/-- Takes what comes, one after the other, and then the end of the input, unless the program ends
before. -/
def Session.attend (s : Session) : List Stimulus → Except Ending Unit × Session
  | [] => s.close
  | .bytes chunk :: rest =>
    match s.arrive chunk with
    | (.ok (), s) => s.attend rest
    | (.error ending, s) => (.error ending, s)
  | .time instant :: rest => (s.passTo instant).attend rest

/-- An input that comes all at once is one stimulus. -/
theorem digest_eq_attend (s : Session) (input : List UInt8) :
    digest s input = ((s.attend [.bytes input]).2.schedule.published,
      match (s.attend [.bytes input]).1 with
      | .error ending => ending
      | .ok () => .success) := by
  simp only [digest, Session.attend]
  split
  · simp only [*]
  · simp only [*]
    split <;> simp only [*]

theorem close_concludes {s : Session} (h : s.schedule.Idle) :
    Concludes s.schedule (lines s.pending) s.close.1 s.close.2.schedule := by
  obtain ⟨hverdict, hserves, hidle⟩ := feedLines_spec h (lines s.pending)
  obtain ⟨hfinish, hstopped⟩ := finish_spec hidle
  rw [Session.close]
  generalize feedLines s.schedule (lines s.pending) = fed at hverdict hserves hidle hfinish hstopped
  obtain ⟨result, t⟩ := fed
  subst hverdict
  unfold Concludes
  cases hfault : (lines s.pending).findSome? fault? with
  | none =>
    rw [verdict_of_text hfault]
    exact ⟨rfl, hserves.trans hfinish, hstopped⟩
  | some malformed =>
    rw [verdict_of_fault hfault]
    exact ⟨rfl, hserves, hidle.running⟩

theorem attend_concludes {s : Session} (h : s.schedule.Idle) (stimuli : List Stimulus) :
    Concludes s.schedule (lines (s.pending ++ stimuli.flatMap Stimulus.input)) (s.attend stimuli).1
      (s.attend stimuli).2.schedule := by
  induction stimuli generalizing s with
  | nil =>
    rw [List.flatMap_nil, List.append_nil]
    exact close_concludes h
  | cons stimulus stimuli ih =>
    rw [List.flatMap_cons]
    cases stimulus with
    | time instant =>
      obtain ⟨hserves, hidle⟩ := Schedule.pass_spec h (instant - s.schedule.now)
      exact .behind (a := []) rfl hserves (ih (s := s.passTo instant) hidle)
    | bytes chunk =>
      -- whole lines are fed at once, and the rest waits in front of what comes next
      rw [Stimulus.input, ← List.append_assoc, lines_cut]
      obtain ⟨hverdict, hserves, hidle⟩ :=
        feedLines_spec h (lines (cutBehindLines (s.pending ++ chunk)).1)
      simp only [Session.attend, Session.arrive]
      generalize (cutBehindLines (s.pending ++ chunk)).2 = pending
      generalize lines (cutBehindLines (s.pending ++ chunk)).1 = whole at hverdict hserves hidle ⊢
      generalize feedLines s.schedule whole = fed at hverdict hserves hidle ⊢
      obtain ⟨result, t⟩ := fed
      subst hverdict
      cases hfault : whole.findSome? fault? with
      | none =>
        rw [verdict_of_text hfault]
        exact (ih (s := ⟨t, pending⟩) hidle).behind hfault hserves
      | some malformed =>
        rw [verdict_of_fault hfault]
        exact .of_fault hfault hserves hidle.running _

/-- For every input, however it comes in pieces and whatever time passes meanwhile: the correlator
carries out the signals in the lines of the input, in their order, and nothing comes of any other line
that is text. If every line is text, the program asks for the size of the memory behind the last one and
stops the correlator, which leaves no finding to be published. A line that is no text ends the program
there: what follows it is not heard, and the correlator is not stopped. The program that is given its
input all at once is a case of this. -/
theorem attend_up_to_undecodable_line (config : CorrelationConfig) :
    (∀ stimuli : List Stimulus,
      let ls := lines (stimuli.flatMap Stimulus.input)
      let ended := Session.attend { schedule := .new config } stimuli
      let correlator := ended.2.schedule.correlator
      ∃ os, (Correlator.new config).Run os correlator ∧
        ended.2.schedule.published = Correlator.stream os ∧
          Correlator.taken os = Correlator.arrivals os ∧
            match ls.findSome? fault? with
            | none => ended.1 = .ok () ∧
                Correlator.arrivals os =
                  (ls.filterMap signal?).map .submit ++ [.memorySize, .shutdown] ∧
                correlator.running = false ∧ correlator.engine.pending = []
            | some malformed => ended.1 = .error (.error malformed.message) ∧
                Correlator.arrivals os =
                  ((ls.takeWhile fun line => (fault? line).isNone).filterMap signal?).map .submit ∧
                correlator.running = true) ∧
      ∀ input, digest { schedule := .new config } input =
        let ended := Session.attend { schedule := .new config } [.bytes input]
        (ended.2.schedule.published,
          match ended.1 with
          | .error ending => ending
          | .ok () => .success) := by
  refine ⟨fun stimuli => ?_, digest_eq_attend _⟩
  intro ls ended correlator
  have hends : Concludes (.new config) ls ended.1 ended.2.schedule :=
    attend_concludes (s := { schedule := .new config }) (Schedule.idle_new config) stimuli
  obtain ⟨hverdict, hend⟩ := hends
  cases hfault : ls.findSome? fault? with
  | none =>
    rw [hfault] at hend
    obtain ⟨⟨os, hrun, harrivals, htaken, hpublished⟩, hstopped⟩ := hend
    refine ⟨os, hrun, hpublished, htaken.trans harrivals.symm, ?_, ?_, hstopped⟩
    · rw [hverdict, verdict_of_text hfault]
    · rw [harrivals, heard_of_text hfault]
  | some malformed =>
    rw [hfault] at hend
    obtain ⟨⟨os, hrun, harrivals, htaken, hpublished⟩, hrunning⟩ := hend
    refine ⟨os, hrun, hpublished, htaken.trans harrivals.symm, ?_, harrivals, hrunning⟩
    rw [hverdict, verdict_of_fault hfault]

/-- A line is read with its end, so that a character in front of it is wrong, and not only cut off. -/
example : fault? [0xE2, 0x82, 10] = some ⟨0, .invalid 2⟩ := rfl

/-! ### A line that is no text -/

theorem decode_line (text : String) :
    Utf8.decode (text.toUTF8.toList ++ [10]) = .ok (text.toList ++ ['\n']) := by
  have hline : text.toUTF8.toList ++ [10] = (text ++ "\n").toUTF8.toList := by
    rw [Utf8.toList_toUTF8, Utf8.toList_toUTF8, String.toList_append, List.flatMap_append]
    rfl
  rw [hline, Utf8.decode_toUTF8, String.toList_append]
  rfl

theorem withoutEnd_toJson (s : Signal) :
    withoutEnd (s.toJson.compact.toList ++ ['\n']) = s.toJson.compact.toList := by
  obtain ⟨cs, hcs⟩ : ∃ cs, s.toJson.render = cs ++ ['}'] := ⟨'{' :: Json.renderMembers _, rfl⟩
  refine withoutEnd_concat ?_
  rw [Json.compact, String.toList_ofList, hcs, List.getLast?_concat]
  decide

theorem signal?_toJson (s : Signal) : signal? (s.toJson.compact.toUTF8.toList ++ [10]) = some s := by
  rw [signal?, decode_line]
  dsimp only
  rw [withoutEnd_toJson, Signal.lossless.decodeText]
  rfl

theorem lines_toJson (s : Signal) :
    lines (s.toJson.compact.toUTF8.toList ++ [10]) = [s.toJson.compact.toUTF8.toList ++ [10]] := by
  refine lines_append (Utf8.newline_not_mem_toUTF8 ?_) []
  rw [Json.compact, String.toList_ofList]
  exact (Signal.lossless.written s).newline_not_mem

theorem digest_toJson (s : Schedule) (signal : Signal) :
    digest { schedule := s } (signal.toJson.compact.toUTF8.toList ++ [10]) =
      ((finish (submit s signal)).published, .success) := by
  have hread : readSignal signal.toJson.compact.toList = some signal := by
    rw [readSignal_eq, Signal.lossless.decodeText]
    rfl
  have hfed : feedLines s (lines (signal.toJson.compact.toUTF8.toList ++ [10])) =
      (.ok (), submit s signal) := by
    rw [lines_toJson]
    simp only [feedLines, decode_line, withoutEnd_toJson, feed, hread]
  have harrive : Session.arrive { schedule := s } (signal.toJson.compact.toUTF8.toList ++ [10]) =
      (.ok (), { schedule := submit s signal }) := by
    simp only [Session.arrive, List.nil_append, cutBehindLines_concat, hfed]
  have hclose : Session.close { schedule := submit s signal } =
      (.ok (), { schedule := finish (submit s signal) }) := by
    simp only [Session.close, lines, feedLines]
  simp only [digest, harrive, hclose]

theorem decode_undecodable : Utf8.decode [0xFF, 10] = .error ⟨0, .invalid 1⟩ := rfl

theorem lines_undecodable (rest : List UInt8) :
    lines (0xFF :: 10 :: rest) = [0xFF, 10] :: lines rest := rfl

theorem digest_undecodable (s : Schedule) (bytes : List UInt8) :
    digest { schedule := s } (0xFF :: 10 :: (bytes ++ [10])) =
      (s.published, .error (Utf8.Malformed.message ⟨0, .invalid 1⟩)) := by
  have hcut : cutBehindLines (0xFF :: 10 :: (bytes ++ [10])) =
      (0xFF :: 10 :: (bytes ++ [10]), []) := cutBehindLines_concat (0xFF :: 10 :: bytes)
  have harrive : Session.arrive { schedule := s } (0xFF :: 10 :: (bytes ++ [10])) =
      (.error (.error (Utf8.Malformed.message ⟨0, .invalid 1⟩)), { schedule := s }) := by
    simp only [Session.arrive, List.nil_append, hcut, lines_undecodable, feedLines, decode_undecodable]
  simp only [digest, harrive]

/-- A line that is no text in front of a signal: the signal is not heard, its event is not printed, and
the program ends with an error. Without that line it prints the event. -/
theorem undecodable_line_drops_signal :
    let config : CorrelationConfig := { wideSpreadThreshold := 1 }
    let signal : Signal := .sample .lost 7
    let line := signal.toJson.compact.toUTF8.toList ++ [10]
    let input := 0xFF :: 10 :: line
    (lines input).filterMap signal? = [signal] ∧
      digest { schedule := .new config } line =
        ([⟨.wideSpreadOutage, signal.service, none, .signal signal.time⟩], .success) ∧
      digest { schedule := .new config } input =
        ([], .error (Utf8.Malformed.message ⟨0, .invalid 1⟩)) := by
  intro config signal line input
  have hnone : signal? [0xFF, 10] = none := by rw [signal?, decode_undecodable]
  have hfound : (finish (submit (.new config) signal)).published =
      [⟨.wideSpreadOutage, signal.service, none, .signal signal.time⟩] := by decide
  refine ⟨?_, ?_, digest_undecodable (.new config) signal.toJson.compact.toUTF8.toList⟩
  · rw [lines_undecodable, lines_toJson, List.filterMap_cons_none hnone,
      List.filterMap_cons_some (signal?_toJson signal)]
    rfl
  · rw [digest_toJson, hfound]

end ServiceWatch.CommandLine.CorrelatorProgram
