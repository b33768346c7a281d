import OsdpTrace.Trace.Report

/-! Exports written to a writer that takes a fixed number of bytes. Writing buffers in turn leaves
what writing them joined does, so the text report, written line by line, leaves what writing its
whole text does: a writer with room for fewer bytes than the report holds exactly the report's
first bytes, and the report fails with the writer's error. JSON lines are written the same way,
but the failure is reported by what was being written when the writer stopped taking bytes: an
entry's JSON, a JSON failure, or the line break after it, an I/O failure. -/
namespace OsdpTrace

namespace Sink

variable {held chunk : List UInt8} {room : Nat}

theorem writeAll_of_fits (fits : chunk.length ≤ room) :
    writeAll chunk ⟨held, room⟩ = .ok () ⟨held ++ chunk, room - chunk.length⟩ := if_pos fits

theorem writeAll_of_short (short : room < chunk.length) :
    writeAll chunk ⟨held, room⟩ = .error writeZeroMessage ⟨held ++ chunk.take room, 0⟩ :=
  if_neg (Nat.not_le.mpr short)

theorem writeAll_nil : writeAll [] = pure () := by
  funext ⟨held, room⟩
  rw [writeAll_of_fits (Nat.zero_le _)]
  simp only [List.append_nil, List.length_nil, Nat.sub_zero]
  rfl

/-- Writing two buffers in turn leaves what writing them joined does: the second is written only
when the first fitted whole. -/
theorem writeAll_append (c d : List UInt8) : (writeAll c >>= fun _ => writeAll d) = writeAll (c ++ d) := by
  funext ⟨held, room⟩
  show EStateM.bind (writeAll c) (fun _ => writeAll d) ⟨held, room⟩ = writeAll (c ++ d) ⟨held, room⟩
  have length : (c ++ d).length = c.length + d.length := List.length_append
  by_cases first : c.length ≤ room
  · rw [EStateM.bind, writeAll_of_fits first]
    dsimp only
    by_cases second : d.length ≤ room - c.length
    · rw [writeAll_of_fits second, writeAll_of_fits (by omega)]
      simp only [List.append_assoc, length, Nat.sub_sub]
    · rw [writeAll_of_short (Nat.lt_of_not_le second), writeAll_of_short (by omega)]
      simp only [List.append_assoc, List.take_append, List.take_of_length_le first]
  · rw [EStateM.bind, writeAll_of_short (Nat.lt_of_not_le first), writeAll_of_short (by omega)]
    simp only [List.take_append, Nat.sub_eq_zero_of_le (Nat.le_of_lt (Nat.lt_of_not_le first)), List.take_zero,
      List.append_nil]

theorem adaptExcept_writeAll_of_fits {ε : Type} (f : String → ε) (fits : chunk.length ≤ room) :
    ((writeAll chunk).adaptExcept f).run ⟨held, room⟩ = .ok () ⟨held ++ chunk, room - chunk.length⟩ := by
  rw [EStateM.run_adaptExcept, EStateM.run, writeAll_of_fits fits]

theorem adaptExcept_writeAll_of_short {ε : Type} (f : String → ε) (short : room < chunk.length) :
    ((writeAll chunk).adaptExcept f).run ⟨held, room⟩ = .error (f writeZeroMessage) ⟨held ++ chunk.take room, 0⟩ := by
  rw [EStateM.run_adaptExcept, EStateM.run, writeAll_of_short short]

theorem writeLines_cons (line : String) (rest : List String) :
    writeLines (line :: rest) = (writeLine line >>= fun _ => writeLines rest) := rfl

theorem writeLines_eq (lines : List String) : writeLines lines = writeStr (String.join (lines.map (· ++ "\n"))) := by
  induction lines with
  | nil =>
    rw [writeLines, writeStr, List.map_nil, String.join_nil, octets_empty, writeAll_nil]
  | cons line rest ih =>
    rw [writeLines_cons, ih, writeLine, writeStr, writeStr, writeAll_append, List.map_cons, String.join_cons, writeStr]
    simp only [octets_append]

theorem writeLines_append (first later : List String) :
    writeLines (first ++ later) = (writeLines first >>= fun _ => writeLines later) := by
  rw [writeLines_eq, writeLines_eq, writeLines_eq, writeStr, writeStr, writeStr, writeAll_append, List.map_append,
    String.join_append, octets_append]

end Sink

end OsdpTrace

namespace OsdpTrace.Report

theorem intercalate_blank (first : List String) (rest : List (List String)) :
    List.intercalate [""] (first :: rest) = first ++ rest.flatMap ("" :: ·) := by
  induction rest generalizing first with
  | nil => rw [List.intercalate_singleton, List.flatMap_nil, List.append_nil]
  | cons next rest ih =>
    rw [List.intercalate_cons_cons, ih, List.flatMap_cons, List.append_assoc]
    rfl

theorem writePackets_first_cons (e : Entry) (rest : List Entry) :
    writePackets true (e :: rest) = (writePacket e >>= fun _ => writePackets false rest) := rfl

theorem writePackets_later_cons (e : Entry) (rest : List Entry) :
    writePackets false (e :: rest) =
      (Sink.writeLine "" >>= fun _ => writePacket e >>= fun _ => writePackets false rest) := rfl

theorem writePackets_later (es : List Entry) :
    writePackets false es = Sink.writeLines (es.flatMap ("" :: packetLines ·)) := by
  induction es with
  | nil => rfl
  | cons e rest ih =>
    rw [writePackets_later_cons, ih, List.flatMap_cons, List.cons_append, Sink.writeLines_cons,
      Sink.writeLines_append]
    rfl

theorem writePackets_first (es : List Entry) :
    writePackets true es = Sink.writeLines (List.intercalate [""] (es.map packetLines)) := by
  cases es with
  | nil => rfl
  | cons e rest =>
    rw [writePackets_first_cons, writePackets_later, List.map_cons, intercalate_blank, List.flatMap_map,
      Sink.writeLines_append]
    rfl

theorem writeText_eq (entries : List Entry) (generatedAt : Instant) :
    writeText entries generatedAt = Sink.writeStr (text entries generatedAt) := by
  rw [writeText, writePackets_first, ← Sink.writeLines_append, Sink.writeLines_eq, text, lines]

/-- The text report written to a writer with room for `room` more bytes: taken whole when it fits,
else cut after its first `room` bytes with the writer's error. -/
theorem writeText_run (entries : List Entry) (generatedAt : Instant) (held : List UInt8) (room : Nat) :
    (writeText entries generatedAt).run ⟨held, room⟩ =
      if (octets (text entries generatedAt)).length ≤ room then
        .ok () ⟨held ++ octets (text entries generatedAt), room - (octets (text entries generatedAt)).length⟩
      else .error Sink.writeZeroMessage ⟨held ++ (octets (text entries generatedAt)).take room, 0⟩ := by
  rw [writeText_eq]
  rfl

theorem octets_text (entries : List Entry) (generatedAt : Instant) :
    octets (text entries generatedAt) =
      octets ("OSDP trace export" ++ "\n") ++ octets (String.join ((lines entries generatedAt).tail.map (· ++ "\n"))) := by
  rw [text, lines, header, List.cons_append, List.map_cons, String.join_cons, octets_append, List.tail_cons]

theorem octets_toJsonText_pos (e : Entry) : 0 < (octets e.toJsonText).length := by
  rw [Entry.toJsonText, Entry.toJson, Json.Value.compact, octets_append, octets_append]
  simp only [List.length_append]
  have brace : (octets "\x7b").length = 1 := rfl
  omega

/-! JSON lines. -/

/-- The byte at position `k` (from zero) of the JSON lines of `es` is the line break after an
entry: the bytes before it are the lines of the entries before that entry, then its JSON. -/
def OnLineBreak (es : List Entry) (k : Nat) : Prop :=
  ∃ done e later, es = done ++ e :: later ∧ k = (octets (jsonLines done ++ e.toJsonText)).length

theorem octets_jsonLines_nil : octets (jsonLines []) = [] := rfl

theorem octets_lineBreak : octets "\n" = [0x0A] := rfl

theorem octets_jsonLines_cons (e : Entry) (rest : List Entry) :
    octets (jsonLines (e :: rest)) = octets e.toJsonText ++ 0x0A :: octets (jsonLines rest) := by
  rw [jsonLines, jsonLines, List.map_cons, String.join_cons, octets_append, octets_append, octets_lineBreak,
    List.append_assoc, List.singleton_append]

theorem length_octets_jsonLines_cons (e : Entry) (rest : List Entry) (tail : String) :
    (octets (jsonLines (e :: rest) ++ tail)).length =
      (octets e.toJsonText).length + 1 + (octets (jsonLines rest ++ tail)).length := by
  simp only [octets_append, octets_jsonLines_cons, List.length_append, List.length_cons]
  omega

theorem onLineBreak_cons {e : Entry} {rest : List Entry} {k : Nat} :
    OnLineBreak (e :: rest) k ↔
      k = (octets e.toJsonText).length ∨ ∃ k', k = (octets e.toJsonText).length + 1 + k' ∧ OnLineBreak rest k' := by
  constructor
  · rintro ⟨done, e', later, split, rfl⟩
    cases done with
    | nil =>
      obtain ⟨rfl, -⟩ := List.cons.inj split
      exact .inl (by rw [octets_append, octets_jsonLines_nil, List.nil_append])
    | cons d done =>
      obtain ⟨rfl, tail⟩ := List.cons.inj split
      exact .inr ⟨_, length_octets_jsonLines_cons _ _ _, done, e', later, tail, rfl⟩
  · rintro (rfl | ⟨k', rfl, done, e', later, split, rfl⟩)
    · exact ⟨[], e, rest, rfl, by rw [octets_append, octets_jsonLines_nil, List.nil_append]⟩
    · exact ⟨e :: done, e', later, by rw [split, List.cons_append], (length_octets_jsonLines_cons _ _ _).symm⟩

theorem not_onLineBreak_inside {e : Entry} {rest : List Entry} {k : Nat} (inside : k < (octets e.toJsonText).length) :
    ¬ OnLineBreak (e :: rest) k := by
  rw [onLineBreak_cons]
  rintro (same | ⟨k', past, -⟩) <;> omega

theorem onLineBreak_past {e : Entry} {rest : List Entry} {k : Nat} (past : (octets e.toJsonText).length < k) :
    OnLineBreak (e :: rest) k ↔ OnLineBreak rest (k - (octets e.toJsonText).length - 1) := by
  rw [onLineBreak_cons]
  constructor
  · rintro (same | ⟨k', rfl, breaks⟩)
    · omega
    · rwa [show (octets e.toJsonText).length + 1 + k' - (octets e.toJsonText).length - 1 = k' by omega]
  · exact fun breaks => .inr ⟨_, by omega, breaks⟩

theorem take_append_cons_past {α : Type} {l tail : List α} {x : α} {k : Nat} (past : l.length < k) :
    (l ++ x :: tail).take k = l ++ x :: tail.take (k - l.length - 1) := by
  obtain ⟨n, rfl⟩ : ∃ n, k = l.length + 1 + n := ⟨k - l.length - 1, by omega⟩
  rw [List.take_append, List.take_of_length_le (by omega), show l.length + 1 + n - l.length = n + 1 by omega,
    List.take_succ_cons, Nat.add_sub_cancel]

theorem writeJsonLines_cons (e : Entry) (rest : List Entry) :
    writeJsonLines (e :: rest) =
      ((Sink.writeStr e.toJsonText).adaptExcept (fun reason => .json ⟨.custom reason, none⟩) >>= fun _ =>
        (Sink.writeStr "\n").adaptExcept .io >>= fun _ => writeJsonLines rest) := rfl

/-- JSON lines written to a writer with room for `room` more bytes. When they fit, the writer takes
them all; when not, it holds their first `room` bytes and the export fails, with an I/O failure
exactly when the first refused byte is the line break after an entry, and a JSON failure when it
lies in an entry's JSON. -/
theorem writeJsonLines_run (es : List Entry) (held : List UInt8) (room : Nat) :
    ((octets (jsonLines es)).length ≤ room →
      (writeJsonLines es).run ⟨held, room⟩ =
        .ok () ⟨held ++ octets (jsonLines es), room - (octets (jsonLines es)).length⟩) ∧
    (room < (octets (jsonLines es)).length →
      ∃ failure, (writeJsonLines es).run ⟨held, room⟩ = .error failure ⟨held ++ (octets (jsonLines es)).take room, 0⟩ ∧
        (failure = .io Sink.writeZeroMessage ∧ OnLineBreak es room ∨
          failure = .json ⟨.custom Sink.writeZeroMessage, none⟩ ∧ ¬ OnLineBreak es room)) := by
  -- one entry a step: its JSON, then its line break, each written or refused
  induction es generalizing held room with
  | nil =>
    rw [octets_jsonLines_nil]
    refine ⟨fun _ => ?_, fun short => absurd short (Nat.not_lt_zero room)⟩
    simp only [List.append_nil, List.length_nil, Nat.sub_zero]
    rfl
  | cons e rest ih =>
    have length : (octets e.toJsonText ++ 0x0A :: octets (jsonLines rest)).length =
        (octets e.toJsonText).length + 1 + (octets (jsonLines rest)).length := by simp; omega
    rw [octets_jsonLines_cons, length, writeJsonLines_cons, EStateM.run_bind, Sink.writeStr]
    by_cases inside : room < (octets e.toJsonText).length
    · -- the writer stops inside the entry's JSON
      rw [Sink.adaptExcept_writeAll_of_short _ inside, List.take_append_of_le_length (Nat.le_of_lt inside)]
      exact ⟨fun fits => by omega, fun _ => ⟨_, rfl, .inr ⟨rfl, not_onLineBreak_inside inside⟩⟩⟩
    rw [Sink.adaptExcept_writeAll_of_fits _ (Nat.le_of_not_lt inside)]
    dsimp only
    rw [EStateM.run_bind, Sink.writeStr, octets_lineBreak]
    by_cases atBreak : room = (octets e.toJsonText).length
    · -- the writer stops at the line break after the entry
      subst atBreak
      rw [Sink.adaptExcept_writeAll_of_short _ (by simp), Nat.sub_self, List.take_zero, List.append_nil,
        List.take_append_of_le_length (Nat.le_refl _), List.take_length]
      exact ⟨fun fits => by omega, fun _ => ⟨_, rfl, .inl ⟨rfl, onLineBreak_cons.mpr (.inl rfl)⟩⟩⟩
    -- the entry's line is taken whole; the lines after it meet the room left
    have past : (octets e.toJsonText).length < room := by omega
    rw [Sink.adaptExcept_writeAll_of_fits _ (by simp; omega)]
    dsimp only
    obtain ⟨complete, refused⟩ := ih (held ++ octets e.toJsonText ++ [0x0A]) (room - (octets e.toJsonText).length - 1)
    simp only [List.length_singleton, Nat.sub_sub] at complete refused ⊢
    refine ⟨fun fits => ?_, fun short => ?_⟩
    · rw [complete (by omega)]
      simp only [List.append_assoc, List.cons_append]
      congr 2
    · obtain ⟨failure, run, kind⟩ := refused (by omega)
      refine ⟨failure, ?_, ?_⟩
      · rw [run, take_append_cons_past past]
        simp only [List.append_assoc, List.singleton_append, Nat.sub_sub]
      · rw [onLineBreak_past past, Nat.sub_sub]
        exact kind

/-! Exports to a writer that runs out of room. -/

/-- An export to a writer with room for fewer bytes than it holds fails, and leaves the writer
holding exactly its first bytes: whole lines, then part of the line the writer stopped in. The
text report fails with the writer's own error. JSON lines fail with an I/O failure exactly when the
first refused byte is the line break after an entry; when it lies in an entry's JSON, the writer's
refusal comes out as a JSON failure. -/
theorem exports_to_short_writer (entries : List Entry) (generatedAt : Instant) (k : Nat) :
    (k < (octets (text entries generatedAt)).length →
      (writeText entries generatedAt).run (Sink.withRoom k) =
        .error Sink.writeZeroMessage ⟨(octets (text entries generatedAt)).take k, 0⟩) ∧
    (k < (octets (jsonLines entries)).length →
      ∃ failure, (writeJsonLines entries).run (Sink.withRoom k) = .error failure ⟨(octets (jsonLines entries)).take k, 0⟩ ∧
        (failure = .io Sink.writeZeroMessage ∧ OnLineBreak entries k ∨
          failure = .json ⟨.custom Sink.writeZeroMessage, none⟩ ∧ ¬ OnLineBreak entries k)) := by
  refine ⟨fun short => ?_, (writeJsonLines_run entries [] k).2⟩
  rw [Sink.withRoom, writeText_run, if_neg (Nat.not_le.mpr short), List.nil_append]

theorem exports_to_short_writer_of_one_entry :
    (0 < (octets (text [default] default)).length ∧
      (writeText [default] default).run (Sink.withRoom 0) = .error Sink.writeZeroMessage ⟨[], 0⟩) ∧
    (0 < (octets (jsonLines [default])).length ∧
      ∃ failure, (writeJsonLines [default]).run (Sink.withRoom 0) = .error failure ⟨[], 0⟩ ∧
        (failure = .io Sink.writeZeroMessage ∧ OnLineBreak [default] 0 ∨
          failure = .json ⟨.custom Sink.writeZeroMessage, none⟩ ∧ ¬ OnLineBreak [default] 0)) := by
  have report : 0 < (octets (text [default] default)).length := by
    rw [octets_text, List.length_append]
    have title : (octets ("OSDP trace export" ++ "\n")).length = 18 := rfl
    omega
  have lines : 0 < (octets (jsonLines [default])).length := by
    rw [octets_jsonLines_cons, List.length_append, List.length_cons]
    omega
  exact ⟨⟨report, (exports_to_short_writer [default] default 0).1 report⟩,
    ⟨lines, (exports_to_short_writer [default] default 0).2 lines⟩⟩

theorem writeJsonLines_without_room (e : Entry) (rest : List Entry) :
    (writeJsonLines (e :: rest)).run (Sink.withRoom 0) = .error (.json ⟨.custom Sink.writeZeroMessage, none⟩) ⟨[], 0⟩ := by
  rw [Sink.withRoom, writeJsonLines_cons, EStateM.run_bind, Sink.writeStr,
    Sink.adaptExcept_writeAll_of_short _ (octets_toJsonText_pos e), List.take_zero, List.nil_append]

/-- A writer with no room fails on an entry's JSON, and this failure of the writer is reported as a
JSON failure, not an I/O one. -/
theorem writer_refusal_reported_as_json :
    (writeJsonLines [default]).run (Sink.withRoom 0) = .error (.json ⟨.custom Sink.writeZeroMessage, none⟩) ⟨[], 0⟩ ∧
      (Failure.json ⟨.custom Sink.writeZeroMessage, none⟩).kind ≠ "Io" :=
  ⟨writeJsonLines_without_room default [], by decide⟩

end OsdpTrace.Report
