import OsdpTrace.Events.Feedback

/-! Feedback read back from its JSON value. The value names the colour and gives the beeps and the
message as they are, and the duration in whole milliseconds; reading takes the members in the
order of their keys and gives each field back, the duration as the span of its milliseconds. So
feedback whose duration is below 2^64 milliseconds comes back with the duration cut to whole
milliseconds, and comes back as it was exactly when that duration is a whole number of
milliseconds. -/
namespace OsdpTrace

open Json

theorem Json.Value.toUnsigned_of_le (expected : String) {n max : Nat} (fits : n ≤ max) :
    (Value.int n).toUnsigned expected max = .ok n := by
  rw [Value.toUnsigned, if_neg (Int.not_lt.mpr (Int.natCast_nonneg n)), Int.toNat_natCast,
    if_neg (Nat.not_lt.mpr fits)]

theorem LedColor.fromValue_name (c : LedColor) : fromValue (.str c.name) = .ok c := by
  cases c <;> rfl

theorem Span.ofMillis_millis_eq_iff (t : Span) : ofMillis t.millis = t ↔ t.nanos % nanosPerMilli = 0 := by
  rw [ofMillis, millis, Span.mk.injEq]
  constructor
  · intro whole
    rw [← whole, Nat.mul_mod_left]
  · intro whole
    exact Nat.div_mul_cancel (Nat.dvd_of_mod_eq_zero whole)

namespace Feedback

theorem sortMembers_toJson (led beeps message duration : Value) :
    Value.sortMembers [("led", led), ("beep_count", beeps), ("display_message", message), ("duration", duration)] =
      [("beep_count", beeps), ("display_message", message), ("duration", duration), ("led", led)] := by
  simp [Value.sortMembers, List.mergeSort, List.MergeSort.Internal.splitInTwo]

/-- Feedback with a duration below 2^64 milliseconds is read back from its JSON value with every
field as it was, the duration cut to whole milliseconds. -/
theorem ofValue_toJson (f : Feedback) (fits : f.duration.millis < Nat.pow 2 64) :
    ofValue f.toJson = .ok { f with duration := Span.ofMillis f.duration.millis } := by
  have beeps : f.beepCount.toNat ≤ 255 := Nat.le_of_lt_succ f.beepCount.toNat_lt
  -- the duration is written whole, as it is below 2^64
  have kept : (f.duration.millis : Int) % (Nat.pow 2 64 : Nat) = f.duration.millis :=
    Int.emod_eq_of_lt (Int.natCast_nonneg _) (by omega)
  have durationFits : f.duration.millis ≤ Nat.pow 2 64 - 1 := by omega
  -- the beeps are read back as the byte of the count written
  have byte : ({ f with duration := Span.ofMillis f.duration.millis } : Feedback) =
      { f with beepCount := UInt8.ofNat f.beepCount.toNat, duration := Span.ofMillis f.duration.millis } := by
    rw [UInt8.ofNat_toNat]
  rw [byte, ofValue, toJson, TreeRecord.read, sortMembers_toJson]
  simp only [List.foldlM_cons, List.foldlM_nil, treeReader, fieldOfValue,
    Value.toUnsigned_of_le _ beeps, LedColor.fromValue_name, kept, Value.toUnsigned_of_le _ durationFits]
  -- the message is read back as it was written, present or not
  cases f.displayMessage <;> rfl

/-- Reading the JSON value of feedback back, as serializing to a value and deserializing from it
does: for feedback with a duration below 2^64 milliseconds, every field comes back, the colour,
the beeps and the message as they were and the duration cut to whole milliseconds. So the
feedback comes back as it was exactly when its duration is a whole number of milliseconds. -/
theorem toJson_roundTrip (f : Feedback) (fits : f.duration.millis < Nat.pow 2 64) :
    ofValue f.toJson = .ok { f with duration := Span.ofMillis f.duration.millis } ∧
      (ofValue f.toJson = .ok f ↔ f.duration.nanos % Span.nanosPerMilli = 0) := by
  have read := ofValue_toJson f fits
  refine ⟨read, ?_⟩
  rw [read, Except.ok.injEq, ← Span.ofMillis_millis_eq_iff]
  constructor
  · intro same
    exact congrArg Feedback.duration same
  · intro whole
    rw [whole]

theorem toJson_roundTrip_granted :
    (Span.ofMillis 2500).millis < Nat.pow 2 64 ∧
      ofValue { granted with duration := Span.ofMillis 2500 }.toJson = .ok { granted with duration := Span.ofMillis 2500 } :=
  ⟨by decide, (toJson_roundTrip { granted with duration := Span.ofMillis 2500 } (by decide)).2.mpr (by decide)⟩

/-- Access granted for one and a half milliseconds comes back from its JSON value lasting one
millisecond. -/
theorem sub_millisecond_duration_not_kept :
    ofValue { granted with duration := ⟨1500000⟩ }.toJson = .ok { granted with duration := Span.ofMillis 1 } ∧
      ({ granted with duration := Span.ofMillis 1 } : Feedback) ≠ { granted with duration := ⟨1500000⟩ } :=
  ⟨ofValue_toJson _ (by decide), by decide⟩

end Feedback

end OsdpTrace
