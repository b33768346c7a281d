import OsdpTrace.Settings.Json
import OsdpTrace.Proofs.JsonResults

/-! Settings read back from their JSON text. The text writes every count as it is and every span
in whole milliseconds, cut down to the largest 64-bit value; reading gives each count back and
each span as its milliseconds. So the text of any settings reads back as the settings with their
spans cut to whole milliseconds, and settings read from any text are already of that form:
parsing the text of parsed settings gives them back. -/
namespace OsdpTrace

open Json Json.Decode

namespace Span

/-- The span the JSON form keeps: whole milliseconds, at most the largest 64-bit value. -/
def printed (t : Span) : Span := ofMillis (min t.millis maxU64)

theorem printed_ofMillis {n : Nat} (fits : n ≤ maxU64) : (ofMillis n).printed = ofMillis n := by
  have whole : (ofMillis n).millis = n := Nat.mul_div_cancel n (by decide)
  rw [printed, whole, Nat.min_eq_left fits]

end Span

namespace Settings

/-- The settings the JSON form keeps: each span cut to whole milliseconds of at most the largest
64-bit value. -/
def printed (s : Settings) : Settings :=
  { s with maxAge := s.maxAge.map Span.printed, sweepInterval := s.sweepInterval.printed }

/-- Settings the JSON form holds exactly. -/
structure Exact (s : Settings) : Prop where
  maxAge : s.maxAge.map Span.printed = s.maxAge
  sweepInterval : s.sweepInterval.printed = s.sweepInterval

theorem exact_iff (s : Settings) : s.Exact ↔ s.printed = s := by
  constructor
  · intro exact
    rw [printed, exact.maxAge, exact.sweepInterval]
  · intro same
    exact ⟨congrArg maxAge same, congrArg sweepInterval same⟩

/-! Reading the text back. -/

/-- The members of the JSON form, each with the field its key names and what reading its value
does to the settings read so far. -/
def members (s : Settings) : List (Member Settings) :=
  [⟨"enabled", .bool s.enabled, 0, fun acc => { acc with enabled := s.enabled }⟩,
    ⟨"filter_poll_commands", .bool s.filterPollCommands, 1,
      fun acc => { acc with filterPollCommands := s.filterPollCommands }⟩,
    ⟨"filter_ack_replies", .bool s.filterAckReplies, 2, fun acc => { acc with filterAckReplies := s.filterAckReplies }⟩,
    ⟨"memory_limit_bytes", .int s.memoryLimitBytes.toNat, 3, fun acc => { acc with memoryLimitBytes := s.memoryLimitBytes }⟩,
    ⟨"max_entries_per_reader", .int s.maxEntriesPerReader.toNat, 4,
      fun acc => { acc with maxEntriesPerReader := s.maxEntriesPerReader }⟩,
    ⟨"max_total_entries", .int s.maxTotalEntries.toNat, 5, fun acc => { acc with maxTotalEntries := s.maxTotalEntries }⟩,
    ⟨"max_memory_per_reader_bytes", .int s.maxMemoryPerReaderBytes.toNat, 6,
      fun acc => { acc with maxMemoryPerReaderBytes := s.maxMemoryPerReaderBytes }⟩,
    ⟨"max_age", Value.ofOption spanMillisJson s.maxAge, 7, fun acc => { acc with maxAge := s.maxAge.map Span.printed }⟩,
    ⟨"eviction_mode", s.evictionMode.toJson, 8, fun acc => { acc with evictionMode := s.evictionMode }⟩,
    ⟨"capture_raw_data", .bool s.captureRawData, 9, fun acc => { acc with captureRawData := s.captureRawData }⟩,
    ⟨"decode_payloads", .bool s.decodePayloads, 10, fun acc => { acc with decodePayloads := s.decodePayloads }⟩,
    ⟨"sweep_interval", spanMillisJson s.sweepInterval, 11,
      fun acc => { acc with sweepInterval := s.sweepInterval.printed }⟩]

theorem toJson_eq_members (s : Settings) : s.toJson = .obj (s.members.map Member.pair) := rfl

theorem fields_members (s : Settings) : s.members.map (·.field) = List.range 12 := rfl

theorem foldl_members (s : Settings) : s.members.foldl (fun acc m => m.update acc) default = s.printed := rfl

theorem spanMillisJson_eq (t : Span) : spanMillisJson t = .int (min t.millis maxU64 : Nat) := by
  rw [spanMillisJson]
  congr 1
  omega

theorem keys_members (s : Settings) : s.members.map (fun m => (m.key, m.field)) = fieldNames.zip (List.range 12) :=
  rfl

theorem fieldNames_plain : ∀ p ∈ fieldNames.zip (List.range 12), PlainText p.1 ∧ fieldNames.idxOf? p.1 = some p.2 := by
  have checked : (fieldNames.zip (List.range 12)).all
      (fun p => decide (PlainText p.1 ∧ fieldNames.idxOf? p.1 = some p.2)) = true := by
    decide
  exact fun p member => of_decide_eq_true (List.all_eq_true.mp checked p member)

theorem blank_after_colon : Blanks [0x20] := by
  intro w member
  rw [List.mem_singleton.mp member]
  rfl

theorem bool_value_reads (b : Bool) : Reads Decode.bool ([0x20] ++ octets ((Value.bool b).prettyAt 1)) b := by
  rw [Value.prettyAt]
  exact bool_reads b blank_after_colon

theorem count_reads (n : UInt64) : Reads count ([0x20] ++ octets ((Value.int n.toNat).prettyAt 1)) n := by
  have fits : n.toNat ≤ maxU64 := Nat.le_pred_of_lt n.toNat_lt
  have reads := (unsigned_reads "usize" fits (Nat.le_refl _) blank_after_colon).map UInt64.ofNat
  rw [UInt64.ofNat_toNat] at reads
  rw [Value.prettyAt]
  exact reads

theorem millis_reads (t : Span) : Reads millis ([0x20] ++ octets ((spanMillisJson t).prettyAt 1)) t.printed := by
  rw [spanMillisJson_eq, Value.prettyAt]
  exact (unsigned_reads "u64" (Nat.min_le_right t.millis maxU64) (Nat.le_refl _) blank_after_colon).map Span.ofMillis

theorem maxAge_reads (age : Option Span) :
    Reads (Decode.option millis) ([0x20] ++ octets ((Value.ofOption spanMillisJson age).prettyAt 1))
      (age.map Span.printed) := by
  cases age with
  | none =>
    rw [Value.ofOption, Value.prettyAt]
    exact option_reads_none millis blank_after_colon
  | some t =>
    obtain ⟨b, tail, digits, _, notBlank, _, notNull⟩ := octets_toString_head (min t.millis maxU64)
    have reads : Reads (unsigned "u64" maxU64) ([] ++ octets (toString (min t.millis maxU64))) (min t.millis maxU64) :=
      unsigned_reads "u64" (Nat.min_le_right _ _) (Nat.le_refl _) (fun _ none => by cases none)
    rw [List.nil_append, digits] at reads
    rw [Value.ofOption, spanMillisJson_eq, Value.prettyAt]
    exact digits ▸ option_reads_some (reads.map Span.ofMillis) notBlank notNull blank_after_colon

theorem evictionMode_reads (m : EvictionMode) :
    Reads EvictionMode.decode ([0x20] ++ octets (m.toJson.prettyAt 1)) m := by
  rw [EvictionMode.toJson, Value.prettyAt]
  cases m with
  | sizeOnly =>
    exact (variant_reads (by decide) (show EvictionMode.names.idxOf? "size_only" = some 0 by decide)
      blank_after_colon).map EvictionMode.ofIndex
  | ageOnly =>
    exact (variant_reads (by decide) (show EvictionMode.names.idxOf? "age_only" = some 1 by decide)
      blank_after_colon).map EvictionMode.ofIndex
  | hybrid =>
    exact (variant_reads (by decide) (show EvictionMode.names.idxOf? "hybrid" = some 2 by decide)
      blank_after_colon).map EvictionMode.ofIndex

theorem members_taken (s : Settings) : ∀ m ∈ s.members, m.Takes reader := by
  intro m member
  have named := fieldNames_plain (m.key, m.field) (keys_members s ▸ List.mem_map_of_mem member)
  refine ⟨named.1, named.2, fun acc => ?_⟩
  simp only [members, List.mem_cons, List.not_mem_nil, or_false] at member
  -- each field's reader reads its printed value into that field
  rcases member with rfl | rfl | rfl | rfl | rfl | rfl | rfl | rfl | rfl | rfl | rfl | rfl
  · exact (bool_value_reads _).bind_pure _
  · exact (bool_value_reads _).bind_pure _
  · exact (bool_value_reads _).bind_pure _
  · exact (count_reads _).bind_pure _
  · exact (count_reads _).bind_pure _
  · exact (count_reads _).bind_pure _
  · exact (count_reads _).bind_pure _
  · exact (maxAge_reads s.maxAge).bind_pure _
  · exact (evictionMode_reads s.evictionMode).bind_pure _
  · exact (bool_value_reads _).bind_pure _
  · exact (bool_value_reads _).bind_pure _
  · exact (millis_reads s.sweepInterval).bind_pure _

theorem ofJsonText_toJsonText (s : Settings) : ofJsonText s.toJsonText = .ok s.printed := by
  have at_ : ahead s.toJsonText.toUTF8 0 = octets (Value.obj (s.members.map Member.pair)).pretty ++ [] := by
    rw [List.append_nil, ← toJson_eq_members]
    rfl
  have read := record_of (members_taken s) (by rw [fields_members]; decide) (by simp [members])
    (congrArg Except.ok (foldl_members s)) at_
  rw [Nat.zero_add, ← toJson_eq_members] at read
  exact run_of read

/-! Settings read from any text. -/

theorem readField_exact (i : Nat) {acc : Settings} (holds : acc.Exact) : Yields Exact (readField i acc) := by
  have span : Yields (fun t => t.printed = t) millis :=
    Yields.map (Yields.unsigned "u64" maxU64) fun _ fits => Span.printed_ofMillis fits
  obtain ⟨age, sweep⟩ := holds
  match i with
  | 0 | 1 | 2 | 3 | 4 | 5 | 6 | 8 | 9 | 10 =>
    exact Yields.bind (Yields.any _) fun _ _ => Yields.pure ⟨age, sweep⟩
  | 7 =>
    refine Yields.bind (Yields.option span) fun o whole => Yields.pure ⟨?_, sweep⟩
    cases o with
    | none => rfl
    | some t => exact congrArg some (whole t rfl)
  | _ + 11 =>
    exact Yields.bind span fun _ whole => Yields.pure ⟨age, whole⟩

/-- Settings read from any text are exact: their spans are whole milliseconds of at most the
largest 64-bit value. -/
theorem ofJsonText_exact {text : String} {s : Settings} (read : ofJsonText text = .ok s) : s.Exact := by
  have start : (default : Settings).Exact := ⟨by decide, by decide⟩
  -- completion gives the settings read so far, both after an object and after a short array
  have given : ∀ (acc s : Settings), acc.Exact → (Except.ok acc : Except Problem Settings) = .ok s → s.Exact := by
    intro acc s exact same
    cases same
    exact exact
  exact Yields.run (@Yields.record _ _ reader Exact Exact start (fun i _ holds => readField_exact i holds)
    (fun _ => given) (fun _ => given)) read

theorem parse_eq_ok {text : String} {s : Settings} :
    parse text = .ok s ↔ ofJsonText text = .ok s ∧ s.validate = .ok () := by
  unfold parse
  cases read : ofJsonText text with
  | error e => simp
  | ok parsed =>
    cases valid : parsed.validate with
    | error reason =>
      simp only [valid, reduceCtorEq, false_iff, not_and, Except.ok.injEq]
      rintro rfl
      rw [valid]
      exact fun failed => by cases failed
    | ok u =>
      simp only [valid, Except.ok.injEq]
      constructor
      · rintro rfl
        exact ⟨rfl, valid⟩
      · exact And.left

/-! The round trip. -/

/-- The JSON text of any settings reads back as the settings with every span cut to whole
milliseconds (at most the largest 64-bit value). Parsing the text gives the settings back exactly
when they are valid and have whole-millisecond spans; and parsing the text of settings parsed
from any text gives them back. -/
theorem toJsonText_roundTrip (s : Settings) :
    ofJsonText s.toJsonText = .ok s.printed ∧
    (parse s.toJsonText = .ok s ↔ s.validate = .ok () ∧ s.printed = s) ∧
    ∀ text, parse text = .ok s → parse s.toJsonText = .ok s := by
  have back : s.validate = .ok () ∧ s.printed = s → parse s.toJsonText = .ok s := by
    intro ⟨valid, same⟩
    rw [parse_eq_ok, ofJsonText_toJsonText s, same]
    exact ⟨rfl, valid⟩
  have parsed : ∀ text, parse text = .ok s → s.validate = .ok () ∧ s.printed = s := by
    intro text done
    obtain ⟨read, valid⟩ := parse_eq_ok.mp done
    exact ⟨valid, (exact_iff s).mp (ofJsonText_exact read)⟩
  exact ⟨ofJsonText_toJsonText s, ⟨parsed _, back⟩, fun text done => back (parsed text done)⟩

theorem toJsonText_roundTrip_default :
    Settings.default.validate = .ok () ∧ Settings.default.printed = Settings.default ∧
      parse Settings.default.toJsonText = .ok Settings.default :=
  ⟨rfl, by decide, (toJsonText_roundTrip Settings.default).2.1.mpr ⟨rfl, by decide⟩⟩

/-- Valid settings with a sweep interval of one and a half milliseconds come back from their text
with an interval of one millisecond, so not as they were. -/
theorem sub_millisecond_interval_not_kept :
    ({ Settings.default with sweepInterval := ⟨1500000⟩ } : Settings).validate = .ok () ∧
    parse ({ Settings.default with sweepInterval := ⟨1500000⟩ } : Settings).toJsonText =
      .ok { Settings.default with sweepInterval := Span.ofMillis 1 } ∧
    ({ Settings.default with sweepInterval := Span.ofMillis 1 } : Settings) ≠
      { Settings.default with sweepInterval := ⟨1500000⟩ } := by
  refine ⟨rfl, parse_eq_ok.mpr ⟨?_, rfl⟩, by decide⟩
  rw [ofJsonText_toJsonText]
  exact congrArg Except.ok (by decide)

end Settings

end OsdpTrace
