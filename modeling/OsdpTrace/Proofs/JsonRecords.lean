import OsdpTrace.Proofs.JsonReading

/-! Reading a record back from the pretty form of an object. The pretty form writes each member on
a line of its own, two blanks in, after the comma that ends the line before; a record reader
given such text takes the members one by one, in order, and each member's field reader reads
the printed value. -/
namespace OsdpTrace.Json

def memberLine (first : Bool) (k : String) (v : Value) : String :=
  (if first then "" else ",") ++ "\n" ++ indent 1 ++ quote k ++ ": " ++ v.prettyAt 1

def memberLines : Bool → List (String × Value) → String
  | _, [] => ""
  | first, (k, v) :: rest => memberLine first k v ++ memberLines false rest

theorem memberLines_eq_prettyMembers (first : Bool) {members : List (String × Value)} (nonempty : members ≠ []) :
    memberLines first members = (if first then "" else ",") ++ "\n" ++ Value.prettyMembers 1 members := by
  induction members generalizing first with
  | nil => contradiction
  | cons m rest ih =>
    obtain ⟨k, v⟩ := m
    cases rest with
    | nil => simp [memberLines, memberLine, Value.prettyMembers, String.append_assoc]
    | cons m' rest' =>
      rw [memberLines, ih false (List.cons_ne_nil _ _)]
      simp [memberLine, Value.prettyMembers, String.append_assoc]

theorem pretty_obj {members : List (String × Value)} (nonempty : members ≠ []) :
    (Value.obj members).pretty = "\x7b" ++ memberLines true members ++ "\n\x7d" := by
  obtain ⟨m, rest, rfl⟩ := List.exists_cons_of_ne_nil nonempty
  have opening : ("\x7b\n" : String) = "\x7b" ++ "\n" := by decide
  have closing : ("\n\x7d" : String) = "\n" ++ "\x7d" := by decide
  have flush : indent 0 = "" := by decide
  rw [memberLines_eq_prettyMembers true nonempty, Value.pretty, Value.prettyAt]
  · rw [opening, closing, flush, if_pos rfl]
    simp only [String.append_empty, String.empty_append, String.append_assoc]
  · exact nonempty

theorem octets_memberLine (first : Bool) {k : String} (v : Value) (plain : PlainText k) :
    octets (memberLine first k v) =
      (if first then [] else [0x2C]) ++ [0x0A, 0x20, 0x20] ++ 0x22 :: octets k ++ 0x22 :: 0x3A :: [0x20] ++
        octets (v.prettyAt 1) := by
  have sep : octets (if first then "" else ",") = if first then [] else [0x2C] := by cases first <;> rfl
  simp only [memberLine, octets_append, sep, octets_quote plain]
  simp
  rfl

theorem lineBreak_blanks : Decode.Blanks [0x0A, 0x20, 0x20] := by
  intro w member
  simp only [List.mem_cons, List.not_mem_nil, or_false] at member
  rcases member with rfl | rfl | rfl <;> rfl

namespace Decode

variable {α β : Type} {bytes : ByteArray} {i j : Nat}

theorem quotedKey_of {k : String} {rest : List UInt8} (plain : PlainText k)
    (at_ : ahead bytes i = 0x22 :: octets k ++ 0x22 :: rest) :
    (eat >>= fun _ => some <$> stringAfterQuote) bytes i = .ok (some k, i + 1 + (octets k).length + 1) := by
  rw [bind_ok (eat_eq _ _), map_ok (stringAfterQuote_of plain (ahead_succ at_))]

theorem nextKey_member (first : Bool) {k : String} {rest : List UInt8} (plain : PlainText k)
    (at_ : ahead bytes i = (if first then [] else [0x2C]) ++ [0x0A, 0x20, 0x20] ++ 0x22 :: octets k ++ 0x22 :: rest) :
    nextKey first bytes i = .ok (some k, i + (if first then 0 else 1) + 3 + 1 + (octets k).length + 1) := by
  have notClose : ∀ b : UInt8, b ≠ 0x7D → (some b == some 0x7D) = false := by
    intro b differs
    simp [differs]
  cases first with
  | true =>
    rw [if_pos rfl, List.nil_append, List.append_assoc] at at_
    rw [nextKey, bind_ok (skipBlanks_of at_ lineBreak_blanks (fun _ head => by cases head; rfl))]
    simp only [List.cons_append, List.head?_cons, notClose 0x22 (by decide), Bool.false_eq_true, if_false,
      Bool.not_true, Bool.and_false, Option.isNone_some, bind_ok (pure_ok _)]
    rw [quotedKey_of plain (ahead_advance at_)]
    rfl
  | false =>
    rw [if_neg Bool.false_ne_true, List.append_assoc, List.singleton_append, List.cons_append] at at_
    have afterComma := ahead_succ at_
    rw [nextKey, bind_ok (skipBlanks_here at_ rfl)]
    simp only [notClose 0x2C (by decide), Bool.false_eq_true, if_false, Bool.not_false, Bool.and_true,
      beq_self_eq_true, if_true]
    rw [bind_ok (eat_eq _ _), bind_ok (skipBlanks_of afterComma lineBreak_blanks (fun _ head => by cases head; rfl))]
    simp only [List.cons_append, List.head?_cons]
    rw [quotedKey_of plain (ahead_advance afterComma)]
    rfl

theorem nextKey_end (first : Bool) {rest : List UInt8} (at_ : ahead bytes i = 0x0A :: 0x7D :: rest) :
    nextKey first bytes i = .ok (none, i + 1) := by
  have newline : Blanks [0x0A] := fun _ member => by rw [List.mem_singleton.mp member]; rfl
  rw [nextKey, bind_ok (skipBlanks_of (show ahead bytes i = [0x0A] ++ 0x7D :: rest from at_) newline
    (fun _ head => by cases head; rfl))]
  rfl

theorem colon_of {rest : List UInt8} (at_ : ahead bytes i = 0x3A :: rest) : colon bytes i = .ok ((), i + 1) := by
  rw [colon, bind_ok (skipBlanks_here at_ rfl)]
  rfl

theorem closeObject_of {rest : List UInt8} (at_ : ahead bytes i = 0x7D :: rest) :
    closeObject bytes i = .ok ((), i + 1) := by
  rw [closeObject, bind_ok (skipBlanks_here at_ rfl)]
  rfl

theorem finishWith_ok {b : β} : finishWith (.ok b : Except Problem β) bytes i = .ok (b, i) := rfl

end Decode

/-- A member of an object as a record reader takes it: its key and value, the field the key names
and what reading the value does to the accumulator. -/
structure Member (α : Type) where
  key : String
  value : Value
  field : Nat
  update : α → α

def Member.pair {α : Type} (m : Member α) : String × Value := (m.key, m.value)

/-- A record reader takes a member: the key is plain text naming the member's field, and that
field's reader reads the printed value, after the blank that follows the colon. -/
structure Member.Takes {α β : Type} (r : Decode.RecordReader α β) (m : Member α) : Prop where
  plain : PlainText m.key
  named : r.names.idxOf? m.key = some m.field
  reads : ∀ acc, Decode.Reads (r.readField m.field acc) ([0x20] ++ octets (m.value.prettyAt 1)) (m.update acc)

theorem delimited_after_member (members : List (String × Value)) (tail : List UInt8) :
    Decode.Delimited (octets (memberLines false members) ++ 0x0A :: tail) := by
  cases members with
  | nil => exact fun _ head => by cases head; exact Or.inl rfl
  | cons m rest =>
    have comma : octets (memberLine false m.1 m.2) = 0x2C :: octets ("\n" ++ indent 1 ++ quote m.1 ++ ": " ++
        m.2.prettyAt 1) := by
      simp only [memberLine, if_neg Bool.false_ne_true, String.append_assoc, octets_append]
      rfl
    intro b head
    rw [memberLines, octets_append, comma] at head
    cases head
    exact Or.inr (Or.inl rfl)

theorem length_le_memberLines (first : Bool) (members : List (String × Value)) :
    members.length ≤ (octets (memberLines first members)).length := by
  induction members generalizing first with
  | nil => exact Nat.le_refl 0
  | cons m rest ih =>
    have line : 1 ≤ (octets (memberLine first m.1 m.2)).length := by
      simp only [memberLine, octets_append, List.length_append]
      have newline : (octets "\n").length = 1 := rfl
      omega
    rw [memberLines, octets_append, List.length_append, List.length_cons]
    have := ih false
    omega

namespace Decode

variable {α β : Type} {bytes : ByteArray} {i j : Nat}

theorem recordMembers_member {r : RecordReader α β} {m : Member α} (takes : m.Takes r) {fuel : Nat} {first : Bool}
    {seen : List Nat} {acc : α} (fresh : m.field ∉ seen) {rest : List UInt8}
    (at_ : ahead bytes i = octets (memberLine first m.key m.value) ++ rest) (delim : Delimited rest) :
    recordMembers r (fuel + 1) first seen acc bytes i =
      recordMembers r fuel false (m.field :: seen) (m.update acc) bytes
        (i + (octets (memberLine first m.key m.value)).length) := by
  rw [octets_memberLine first m.value takes.plain] at at_ ⊢
  have keyAt : ahead bytes i = (if first then [] else [0x2C]) ++ [0x0A, 0x20, 0x20] ++ 0x22 :: octets m.key ++
      0x22 :: 0x3A :: ([0x20] ++ octets (m.value.prettyAt 1) ++ rest) := by
    rw [at_]
    simp
  have colonAt : ahead bytes (i + (if first then 0 else 1) + 3 + 1 + (octets m.key).length + 1) =
      0x3A :: ([0x20] ++ octets (m.value.prettyAt 1) ++ rest) := by
    refine ahead_at (show ahead bytes i = ((if first then [] else [0x2C]) ++ [0x0A, 0x20, 0x20] ++ 0x22 :: octets m.key ++
      [0x22]) ++ 0x3A :: ([0x20] ++ octets (m.value.prettyAt 1) ++ rest) by rw [keyAt]; simp) ?_
    cases first <;> simp <;> omega
  have valueAt := ahead_succ colonAt
  have fieldFresh : seen.contains m.field = false := by simpa using fresh
  rw [recordMembers, bind_ok (nextKey_member first takes.plain keyAt)]
  simp only [takes.named, fieldFresh, Bool.false_eq_true, if_false]
  rw [bind_ok (colon_of colonAt), bind_ok (takes.reads acc _ _ _ valueAt delim)]
  congr 1
  cases first <;> simp <;> omega

/-- Reading the members of the pretty form one by one: each is taken in turn, and the record is
completed at the closing brace with the fields seen, most recent first. -/
theorem recordMembers_run {r : RecordReader α β} {members : List (Member α)} (takes : ∀ m ∈ members, m.Takes r)
    (distinct : (members.map (·.field)).Nodup) {first : Bool} {seen : List Nat} (fresh : ∀ m ∈ members, m.field ∉ seen)
    {fuel : Nat} (enough : members.length < fuel) (acc : α) {rest : List UInt8}
    (at_ : ahead bytes i = octets (memberLines first (members.map Member.pair)) ++ 0x0A :: 0x7D :: rest) :
    recordMembers r fuel first seen acc bytes i =
      finishWith (r.complete ((members.map (·.field)).reverse ++ seen) (members.foldl (fun a m => m.update a) acc))
        bytes (i + (octets (memberLines first (members.map Member.pair))).length + 1) := by
  obtain ⟨fuel, rfl⟩ : ∃ f, fuel = f + 1 := ⟨fuel - 1, by omega⟩
  -- one member a step, each under the fuel its successors leave
  induction members generalizing first seen fuel acc i with
  | nil =>
    rw [recordMembers, bind_ok (nextKey_end first at_)]
    rfl
  | cons m members ih =>
    rw [List.map_cons, memberLines, octets_append, List.append_assoc] at at_
    have lineAt : ahead bytes i = octets (memberLine first m.key m.value) ++
        (octets (memberLines false (members.map Member.pair)) ++ 0x0A :: 0x7D :: rest) := at_
    obtain ⟨fuel, rfl⟩ : ∃ f, fuel = f + 1 := ⟨fuel - 1, by simp at enough; omega⟩
    have distinctTail := (List.nodup_cons.mp distinct).2
    rw [recordMembers_member (takes m List.mem_cons_self) (fresh m List.mem_cons_self) lineAt
      (delimited_after_member _ _), ih (fun m' member => takes m' (List.mem_cons_of_mem m member)) distinctTail
      (fun m' member => ?_) (m.update acc) (ahead_advance lineAt) fuel (by simp at enough; omega)]
    · simp only [List.map_cons, memberLines, octets_append, List.length_append, List.reverse_cons,
        List.append_assoc, List.singleton_append, List.foldl_cons, Nat.add_assoc]
      rfl
    · rw [List.mem_cons, not_or]
      exact ⟨fun same => (List.nodup_cons.mp distinct).1 (List.mem_map.mpr ⟨m', member, same⟩),
        fresh m' (List.mem_cons_of_mem m member)⟩

/-- A record reader reads the pretty form of an object whose members it takes. -/
theorem record_of {r : RecordReader α β} {members : List (Member α)} (takes : ∀ m ∈ members, m.Takes r)
    (distinct : (members.map (·.field)).Nodup) (nonempty : members ≠ []) {b : β}
    (complete : r.complete (members.map (·.field)).reverse (members.foldl (fun a m => m.update a) r.start) = .ok b)
    {rest : List UInt8} (at_ : ahead bytes i = octets (Value.obj (members.map Member.pair)).pretty ++ rest) :
    record r bytes i = .ok (b, i + (octets (Value.obj (members.map Member.pair)).pretty).length) := by
  have braces : octets (Value.obj (members.map Member.pair)).pretty =
      0x7B :: (octets (memberLines true (members.map Member.pair)) ++ [0x0A, 0x7D]) := by
    rw [pretty_obj (by simpa using nonempty), octets_append, octets_append]
    rfl
  rw [braces] at at_ ⊢
  simp only [List.cons_append, List.append_assoc, List.nil_append] at at_
  have enough : members.length < fuelFor bytes := by
    have lines := length_le_memberLines true (members.map Member.pair)
    have within := length_ahead_le bytes i
    rw [at_] at within
    simp only [List.length_map, List.length_cons, List.length_append] at lines within
    unfold fuelFor
    omega
  have membersAt := ahead_succ at_
  rw [record, bind_ok (skipBlanks_here at_ rfl)]
  simp only []
  rw [bind_ok (eat_eq _ _), bind_ok (read_eq _ _)]
  apply tryCatch_ok
  have fresh : ∀ m ∈ members, m.field ∉ ([] : List Nat) := fun _ _ => List.not_mem_nil
  have contents := recordMembers_run takes distinct fresh enough r.start membersAt
  rw [List.append_nil, complete, finishWith_ok] at contents
  rw [bind_ok contents, bind_ok (closeObject_of (ahead_succ (ahead_advance membersAt)))]
  simp only [List.length_cons, List.length_append, List.length_nil, pure_ok, Except.ok.injEq, Prod.mk.injEq,
    true_and]
  omega

theorem run_of {d : Decode α} {text : String} {a : α} (reads : d text.toUTF8 0 = .ok (a, (octets text).length)) :
    run d text = .ok a := by
  have atEnd : ahead text.toUTF8 (octets text).length = [] ++ [] := by
    simp [ahead, octets]
  rw [run]
  simp only [StateT.run, ReaderT.run]
  rw [bind_ok (fixed_ok reads), bind_ok (skipBlanks_of atEnd (fun _ none => by cases none) (fun _ none => by cases none))]
  rfl

end Decode

end OsdpTrace.Json
