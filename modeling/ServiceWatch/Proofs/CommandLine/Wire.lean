import ServiceWatch.CommandLine.CorrelatorProgram
import ServiceWatch.Poller.PollStatus
import ServiceWatch.Proofs.Json.Records
import ServiceWatch.Proofs.Net.Address
import ServiceWatch.Proofs.Time.Reader

/-! What the programs say to each other, one JSON value a line, is read as what was said. -/
namespace ServiceWatch

open ServiceWatch.Json (Lossless)
open ServiceWatch.Json.Shape (Reads)

/-! ### Texts and names -/

theorem Address.lossless : Lossless Address.toJson Address.decode := by
  refine Json.lossless_parsed "IP address" fun x => ?_
  rw [Address.text, String.toList_ofList, Address.read_render]

theorem Timestamp.lossless : Lossless Timestamp.toJson Timestamp.decode := by
  refine Json.lossless_parsed "an RFC 3339 formatted date and time string" fun t => ?_
  rw [Timestamp.text, String.toList_ofList, Timestamp.read_render]

/-- A kind is written by its short name, which is one of the two texts that it is read from. -/
theorem SignalKind.lossless : Lossless SignalKind.toJson SignalKind.decode := by
  refine Json.lossless_parsed "a string" fun k => ?_
  rw [String.ofList_toList]
  cases k <;> rfl

theorem EventKind.lossless : Lossless EventKind.toJson EventKind.decode := by
  refine Json.lossless_name fun k => ?_
  cases k <;> rfl

theorem StatusCode.lossless : Lossless StatusCode.toJson StatusCode.decode := by
  refine Json.lossless_name fun c => ?_
  cases c <;> rfl

/-! ### Records -/

theorem ServiceId.lossless : Lossless ServiceId.toJson ServiceId.decode := by
  refine Json.lossless_record "struct ServiceId" (by decide) fun s => ?_
  exact (((Reads.pure _).and
    (.required Json.lossless_uint32 _ _ s.node)).and
    (.required Address.lossless _ _ s.address)).and
    (.required Json.lossless_string _ _ s.name)

theorem Signal.lossless : Lossless Signal.toJson Signal.decode := by
  refine Json.lossless_record "struct Signal" (by decide) fun s => ?_
  exact ((((((Reads.pure _).and
    (.required SignalKind.lossless _ _ s.kind)).and
    (.required Json.lossless_uint32 _ _ s.service.node)).and
    (.required Address.lossless _ _ s.service.address)).and
    (.required Json.lossless_string _ _ s.service.name)).and
    (.required Json.lossless_uint32 _ _ s.monitor)).and
    (.required Timestamp.lossless _ _ s.time)

theorem CorrelatedEvent.lossless : Lossless CorrelatedEvent.toJson CorrelatedEvent.decode := by
  refine Json.lossless_record "struct CorrelatedEvent" (by decide) fun e => ?_
  exact (((((((Reads.pure _).and
    (.required EventKind.lossless _ _ e.kind)).and
    (.required Json.lossless_string _ _ e.uei)).and
    (.required Json.lossless_uint32 _ _ e.service.node)).and
    (.required Address.lossless _ _ e.service.address)).and
    (.required Json.lossless_string _ _ e.service.name)).and
    (.optional (Json.lossless_uint32.option nofun) _ e.monitor)).and
    (.required Timestamp.lossless _ _ e.time)

theorem PollStatus.lossless : Lossless PollStatus.toJson PollStatus.decode := by
  refine Json.lossless_record "struct PollStatus" (by decide) fun s => ?_
  exact (((((Reads.pure _).and
    (.required Json.lossless_uint32 _ _ s.service)).and
    (.required StatusCode.lossless _ _ s.status)).and
    (.optional (Json.lossless_string.option nofun) _ s.reason)).and
    (.required Timestamp.lossless _ _ s.time)).and
    (.optional ((Json.lossless_uint64 "u64").option nofun) _ s.responseTime)

theorem ScanReport.lossless : Lossless ScanReport.toJson ScanReport.decode := by
  have htext : Lossless (Json.ofOption Json.ofString) (Json.decodeOption Json.decodeString) :=
    Json.lossless_string.option nofun
  refine Json.lossless_record "struct ScanReport" (by decide) fun r => ?_
  exact ((((Reads.pure _).and
    (.optional htext _ r.customerAccountNumber)).and
    (.optional htext _ r.customerName)).and
    (.optional htext _ r.referenceId)).and
    (.required PollStatus.lossless.list _ _ r.statuses)

namespace CommandLine.CorrelatorProgram

open ServiceWatch.Text

/-- The lines of a text end where they were written to end. -/
theorem split_eventLines (es : List CorrelatedEvent) :
    split '\n' (String.join (es.map eventLine)).toList = es.map (·.toJson.render) ++ [[]] := by
  induction es with
  | nil => rfl
  | cons e es ih =>
    have hline : (String.join ((e :: es).map eventLine)).toList =
        e.toJson.render ++ '\n' :: (String.join (es.map eventLine)).toList := by
      simp [eventLine, Json.compact]
    rw [hline, split_append (CorrelatedEvent.lossless.written e).newline_not_mem, ih]
    rfl

theorem mapM_decodeText (es : List CorrelatedEvent) :
    (es.map (·.toJson.render)).mapM (Json.decodeText CorrelatedEvent.decode) = .ok es := by
  induction es with
  | nil => rfl
  | cons e es ih =>
    have hread := CorrelatedEvent.lossless.decodeText e
    rw [Json.compact, String.toList_ofList] at hread
    rw [List.map_cons, List.mapM_cons, hread, ih]
    rfl

theorem kind_toJson (s : Signal) : (s.toJson.field? "kind").bind Json.string? = some s.kind.name := by
  have hfield : s.toJson.field? "kind" = some (.ofString s.kind.name) := by
    rw [Signal.toJson, Json.field?, Json.members_record]
    rfl
  rw [hfield, Option.bind_some]
  exact Json.text?_encode s.kind.name

/-- The lines that events are printed on are read as these events: none of them is lost, split in two
or changed. A signal is written with the short name of its kind and read as the same signal, and so
are the results of checks and the reports made of them. -/
theorem wire_format_lossless :
    (∀ es : List CorrelatedEvent, ∃ lines,
      split '\n' (String.join (es.map eventLine)).toList = lines ++ [[]] ∧
        lines.mapM (Json.decodeText CorrelatedEvent.decode) = .ok es) ∧
    (∀ s : Signal, Json.decodeText Signal.decode s.toJson.compact.toList = .ok s ∧
      (s.toJson.field? "kind").bind Json.string? = some s.kind.name) ∧
    (∀ s : PollStatus, Json.decodeText PollStatus.decode s.toJson.compact.toList = .ok s) ∧
    ∀ r : ScanReport, Json.decodeText ScanReport.decode r.toJson.compact.toList = .ok r :=
  ⟨fun es => ⟨_, split_eventLines es, mapM_decodeText es⟩,
    fun s => ⟨Signal.lossless.decodeText s, kind_toJson s⟩, PollStatus.lossless.decodeText,
    ScanReport.lossless.decodeText⟩

end CommandLine.CorrelatorProgram

end ServiceWatch
