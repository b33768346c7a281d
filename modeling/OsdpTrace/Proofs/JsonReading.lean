import OsdpTrace.Json.Decoder.Typed
import OsdpTrace.Sink

/-! Reading JSON text whose octets are known. Each lemma says what one reader does when the text
ahead of the index starts with a given token: the value it gives and the index just past the
token. Tokens are blanks, literal words, strings of plain octets and decimal numbers; what
follows a token only has to end it. -/
namespace OsdpTrace.Json

theorem octets_eq_flatMap (s : String) : octets s = s.toList.flatMap String.utf8EncodeChar := by
  rw [octets, ← String.utf8Encode_toList]
  simp [List.utf8Encode]

theorem fromUTF8?_toByteArray (s : String) : String.fromUTF8? s.toByteArray = some s := by
  simp only [String.fromUTF8?, dif_pos s.isValidUTF8]
  rfl

def plainChar (c : Char) : Bool := 0x20 ≤ c.toNat && c.toNat < 0x80 && c != '"' && c != '\\'

/-- Text a JSON string holds as it is. -/
def PlainText (k : String) : Prop := k.toList.all plainChar = true

instance (k : String) : Decidable (PlainText k) := inferInstanceAs (Decidable (_ = true))

theorem plainText_iff {k : String} :
    PlainText k ↔ ∀ c ∈ k.toList, 0x20 ≤ c.toNat ∧ c.toNat < 0x80 ∧ c ≠ '"' ∧ c ≠ '\\' := by
  simp [PlainText, plainChar, List.all_eq_true, and_assoc]

def Plain (body : List UInt8) : Prop := ∀ b ∈ body, b ≠ 0x22 ∧ b ≠ 0x5C ∧ 0x20 ≤ b

theorem octets_of_ascii {s : String} (ascii : ∀ c ∈ s.toList, c.toNat < 0x80) :
    octets s = s.toList.map fun c => c.val.toUInt8 := by
  rw [octets_eq_flatMap]
  generalize s.toList = l at ascii ⊢
  induction l with
  | nil => rfl
  | cons c l ih =>
    have one : c.utf8Size = 1 := Char.utf8Size_eq_one_iff.mpr (by
      have := ascii c List.mem_cons_self
      simp only [Char.toNat, UInt32.le_iff_toNat_le] at this ⊢
      exact Nat.le_of_lt_succ this)
    rw [List.flatMap_cons, String.utf8EncodeChar_eq_singleton one, List.map_cons,
      ih fun d member => ascii d (List.mem_cons_of_mem c member)]
    rfl

theorem toNat_toUInt8_of_lt {c : Char} (small : c.toNat < 0x100) : c.val.toUInt8.toNat = c.toNat := by
  rw [UInt32.toNat_toUInt8]
  exact Nat.mod_eq_of_lt small

theorem PlainText.octets_plain {k : String} (plain : PlainText k) : Plain (octets k) := by
  replace plain := plainText_iff.mp plain
  rw [octets_of_ascii fun c member => (plain c member).2.1]
  intro b member
  obtain ⟨c, inText, rfl⟩ := List.mem_map.mp member
  obtain ⟨printable, ascii, unquoted, unescaped⟩ := plain c inText
  have same := toNat_toUInt8_of_lt (Nat.lt_trans ascii (by decide))
  have quote_code : ('"' : Char).toNat = 0x22 := rfl
  have backslash_code : ('\\' : Char).toNat = 0x5C := rfl
  refine ⟨fun eq => unquoted ?_, fun eq => unescaped ?_, ?_⟩
  · exact Char.toNat_inj.mp (by rw [← same, eq, quote_code]; rfl)
  · exact Char.toNat_inj.mp (by rw [← same, eq, backslash_code]; rfl)
  · rw [UInt8.le_iff_toNat_le, same]
    exact printable

theorem escapeChar_of_plain {c : Char} (printable : 0x20 ≤ c.toNat) (unquoted : c ≠ '"') (unescaped : c ≠ '\\') :
    escapeChar c = c.toString := by
  unfold escapeChar
  split
  -- the quote, the backslash and the control characters with short escapes
  any_goals contradiction
  rw [if_neg (Nat.not_lt.mpr printable)]

theorem quote_of_plain {k : String} (plain : PlainText k) : quote k = "\"" ++ k ++ "\"" := by
  have same : String.join (k.toList.map escapeChar) = k := by
    rw [← String.toList_inj, String.toList_join]
    replace plain := plainText_iff.mp plain
    generalize k.toList = l at plain ⊢
    induction l with
    | nil => rfl
    | cons c l ih =>
      obtain ⟨printable, _, unquoted, unescaped⟩ := plain c List.mem_cons_self
      rw [List.map_cons, List.flatMap_cons, escapeChar_of_plain printable unquoted unescaped,
        ih fun d member => plain d (List.mem_cons_of_mem c member)]
      simp
  rw [quote, same]

theorem octets_quote {k : String} (plain : PlainText k) : octets (quote k) = 0x22 :: octets k ++ [0x22] := by
  rw [quote_of_plain plain, octets_append, octets_append]
  rfl

theorem isDigit_iff {c : Char} : c.isDigit = true ↔ 48 ≤ c.toNat ∧ c.toNat ≤ 57 := by
  simp only [Char.isDigit, Bool.and_eq_true, decide_eq_true_eq, UInt32.le_iff_toNat_le]
  have zero : ('0' : Char).val.toNat = 48 := rfl
  have nine : ('9' : Char).val.toNat = 57 := rfl
  rw [zero, nine]
  rfl

theorem octets_toString (n : Nat) : octets (toString n) = (Nat.toDigits 10 n).map fun c => c.val.toUInt8 := by
  have digits : ∀ c ∈ (toString n).toList, c.isDigit = true := by
    rw [Nat.toString_eq_ofList_toDigits, String.toList_ofList]
    exact fun c member => Nat.isDigit_of_mem_toDigits (by decide) (by decide) member
  rw [octets_of_ascii fun c member => ?_, Nat.toString_eq_ofList_toDigits, String.toList_ofList]
  have range := isDigit_iff.mp (digits c member)
  omega

theorem digitOf?_of_isDigit {c : Char} (digit : c.isDigit = true) : digitOf? c.val.toUInt8 = some (c.toNat - 48) := by
  have range := isDigit_iff.mp digit
  simp only [digitOf?, UInt8.le_iff_toNat_le, toNat_toUInt8_of_lt (Nat.lt_of_le_of_lt range.2 (by decide))]
  exact if_pos range

theorem isDigit_of_digitOf? {b : UInt8} {d : Nat} (digit : digitOf? b = some d) : Decode.isDigit b = true := by
  unfold digitOf? at digit
  split at digit
  · rename_i range
    simp [Decode.isDigit, range.1, range.2]
  · cases digit

theorem toDigits_of_pos {n : Nat} (positive : 0 < n) : ∃ c cs, Nat.toDigits 10 n = c :: cs ∧ c ≠ '0' := by
  induction n using Nat.strongRecOn with
  | ind n ih =>
    rw [Nat.toDigits_eq_if (by decide)]
    split
    · exact ⟨_, _, rfl, by simp; omega⟩
    · rename_i large
      obtain ⟨c, cs, digits, nonzero⟩ := ih (n / 10) (by omega) (by omega)
      exact ⟨c, cs ++ _, by rw [digits, List.cons_append], nonzero⟩

theorem le_ofDigitChars (l : List Char) (init : Nat) : init ≤ Nat.ofDigitChars 10 l init := by
  rw [Nat.ofDigitChars_eq_ofDigitChars_zero]
  calc init ≤ 10 ^ l.length * init := Nat.le_mul_of_pos_left init (Nat.pow_pos (by decide))
    _ ≤ _ := Nat.le_add_right _ _

theorem overflows_eq_false {n d limit : Nat} (fits : n * 10 + d ≤ limit) : overflows n d limit = false := by
  unfold overflows
  simp only [Bool.and_eq_false_iff, decide_eq_false_iff_not, Bool.or_eq_false_iff]
  omega

namespace Decode

variable {α β : Type} {bytes : ByteArray} {i j : Nat}

def ahead (bytes : ByteArray) (i : Nat) : List UInt8 := bytes.data.toList.drop i

theorem ahead_advance {tok rest : List UInt8} (at_ : ahead bytes i = tok ++ rest) :
    ahead bytes (i + tok.length) = rest := by
  rw [ahead, ← List.drop_drop, ← ahead, at_, List.drop_left]

theorem ahead_at {tok rest : List UInt8} (at_ : ahead bytes i = tok ++ rest) (past : j = i + tok.length) :
    ahead bytes j = rest :=
  past ▸ ahead_advance at_

theorem ahead_succ {c : UInt8} {rest : List UInt8} (at_ : ahead bytes i = c :: rest) : ahead bytes (i + 1) = rest :=
  ahead_advance (show ahead bytes i = [c] ++ rest from at_)

theorem getElem?_eq_head? (bytes : ByteArray) (i : Nat) : bytes[i]? = (ahead bytes i).head? := by
  rw [ahead, List.head?_drop, Array.getElem?_toList]
  by_cases inside : i < bytes.size
  · rw [getElem?_pos bytes i inside, getElem?_pos bytes.data i inside]
    rfl
  · rw [getElem?_neg bytes i inside, getElem?_neg bytes.data i inside]

theorem getElem?_of_ahead {c : UInt8} {rest : List UInt8} (at_ : ahead bytes i = c :: rest) : bytes[i]? = some c := by
  rw [getElem?_eq_head?, at_]
  rfl

theorem length_ahead_le (bytes : ByteArray) (i : Nat) : i + (ahead bytes i).length ≤ bytes.size + i := by
  simp [ahead]
  omega

/-! The reading monad, on results that succeed. -/

theorem bind_ok {x : Decode α} {f : α → Decode β} {a : α} (first : x bytes i = .ok (a, j)) :
    (x >>= f) bytes i = f a bytes j := by
  simp only [bind, ReaderT.bind, StateT.bind, first]
  rfl

theorem read_eq (bytes : ByteArray) (i : Nat) : (read : Decode ByteArray) bytes i = .ok (bytes, i) := rfl

theorem get_eq (bytes : ByteArray) (i : Nat) : (get : Decode Nat) bytes i = .ok (i, i) := rfl

theorem pure_ok (a : α) : (pure a : Decode α) bytes i = .ok (a, i) := rfl

theorem map_ok {x : Decode α} {f : α → β} {a : α} (first : x bytes i = .ok (a, j)) :
    (f <$> x) bytes i = .ok (f a, j) := by
  show (f <$> x bytes) i = _
  simp only [Functor.map, StateT.map, first]
  rfl

theorem tryCatch_ok {x : Decode α} {handle : Fault → Decode α} {a : α} (first : x bytes i = .ok (a, j)) :
    tryCatch x handle bytes i = .ok (a, j) := by
  show Except.tryCatch (x bytes i) _ = _
  rw [first]
  rfl

theorem fixed_ok {x : Decode α} {a : α} (first : x bytes i = .ok (a, j)) : fixed x bytes i = .ok (a, j) :=
  tryCatch_ok first

/-! Single octets. -/

theorem peek_eq (bytes : ByteArray) (i : Nat) : peek bytes i = .ok ((ahead bytes i).head?, i) := by
  rw [← getElem?_eq_head?]
  rfl

theorem eat_eq (bytes : ByteArray) (i : Nat) : eat bytes i = .ok ((), i + 1) := rfl

theorem next_of {c : UInt8} {rest : List UInt8} (at_ : ahead bytes i = c :: rest) :
    next bytes i = .ok (some c, i + 1) := by
  simp only [next, bind_ok (peek_eq bytes i), at_, List.head?_cons, Option.isSome_some, if_true]
  rfl

/-! Blanks and literal words. -/

theorem blankEnd_of {ws rest : List UInt8} (at_ : ahead bytes i = ws ++ rest) (blanks : ∀ b ∈ ws, isBlank b = true)
    (stops : ∀ b ∈ rest.head?, isBlank b = false) : blankEnd bytes i = i + ws.length := by
  induction ws generalizing i with
  | nil =>
    rw [blankEnd]
    split
    · rename_i inside
      have found : bytes[i]? = some bytes[i] := getElem?_pos bytes i inside
      rw [getElem?_eq_head?, at_, List.nil_append] at found
      rw [stops _ found]
      rfl
    · rfl
  | cons w ws ih =>
    obtain ⟨inside, same⟩ := getElem?_eq_some_iff.mp (getElem?_of_ahead at_)
    rw [blankEnd, dif_pos inside, same, if_pos (blanks w List.mem_cons_self),
      ih (ahead_succ at_) fun b member => blanks b (List.mem_cons_of_mem _ member)]
    simp only [List.length_cons]
    omega

theorem skipBlanks_of {ws rest : List UInt8} (at_ : ahead bytes i = ws ++ rest) (blanks : ∀ b ∈ ws, isBlank b = true)
    (stops : ∀ b ∈ rest.head?, isBlank b = false) :
    skipBlanks bytes i = .ok (rest.head?, i + ws.length) := by
  have moved : (modify (blankEnd bytes) : Decode Unit) bytes i = .ok ((), i + ws.length) := by
    rw [← blankEnd_of at_ blanks stops]
    rfl
  simp only [skipBlanks, bind_ok (show (read : Decode ByteArray) bytes i = .ok (bytes, i) from rfl), bind_ok moved,
    peek_eq, ahead_advance at_]

theorem skipBlanks_here {c : UInt8} {rest : List UInt8} (at_ : ahead bytes i = c :: rest)
    (notBlank : isBlank c = false) : skipBlanks bytes i = .ok (some c, i) :=
  skipBlanks_of (show ahead bytes i = [] ++ c :: rest from at_) (fun _ none => by cases none)
    (fun _ head => by cases head; exact notBlank)

theorem ident_of {word rest : List UInt8} (at_ : ahead bytes i = word ++ rest) :
    ident word bytes i = .ok ((), i + word.length) := by
  induction word generalizing i with
  | nil => rfl
  | cons c word ih =>
    rw [List.cons_append] at at_
    simp only [ident, bind_ok (next_of at_), beq_self_eq_true, if_true, ih (ahead_succ at_), List.length_cons]
    rw [Nat.add_assoc, Nat.add_comm 1]

/-- A literal word once its first letter is seen: the letter is taken, then the rest of the word. -/
theorem word_of {c : UInt8} {word rest : List UInt8} (at_ : ahead bytes i = c :: word ++ rest) (a : α) :
    (do eat; ident word; pure a : Decode α) bytes i = .ok (a, i + (word.length + 1)) := by
  rw [bind_ok (eat_eq _ _), bind_ok (ident_of (ahead_succ at_)), pure_ok, Nat.add_assoc, Nat.add_comm 1]

/-! Strings of plain octets. -/

theorem stringBody_of {body rest : List UInt8} (plain : Plain body) (at_ : ahead bytes i = body ++ 0x22 :: rest)
    {fuel : Nat} (enough : body.length < fuel) (acc : Array UInt8) :
    stringBody bytes fuel i acc = .ok (acc ++ body.toArray, i + body.length + 1) := by
  obtain ⟨fuel, rfl⟩ : ∃ f, fuel = f + 1 := ⟨fuel - 1, by omega⟩
  -- one octet a step: the fuel left always exceeds the octets left
  induction body generalizing i fuel acc with
  | nil =>
    simp [stringBody, getElem?_of_ahead at_]
  | cons c body ih =>
    obtain ⟨unquoted, unescaped, printable⟩ := plain c List.mem_cons_self
    have control : ¬ c < 0x20 := by
      rw [UInt8.lt_iff_toNat_lt]
      rw [UInt8.le_iff_toNat_le] at printable
      exact Nat.not_lt.mpr printable
    rw [List.length_cons] at enough
    obtain ⟨fuel, rfl⟩ : ∃ f, fuel = f + 1 := ⟨fuel - 1, by omega⟩
    rw [List.cons_append] at at_
    have tail := ih (fun b member => plain b (List.mem_cons_of_mem c member)) (ahead_succ at_) (acc.push c) fuel
      (by omega)
    rw [stringBody, getElem?_of_ahead at_]
    simp only [beq_iff_eq, unquoted, unescaped, control, if_false, tail, List.length_cons, Except.ok.injEq,
      Prod.mk.injEq]
    constructor
    · simp
    · omega

theorem lift_ok {step : ByteArray → Nat → Except Fault (α × Nat)} {a : α} (done : step bytes i = .ok (a, j)) :
    lift step bytes i = .ok (a, j) := by
  rw [lift, bind_ok (read_eq bytes i), bind_ok (get_eq bytes i)]
  simp only [done]
  rfl

theorem stringAfterQuote_of {k : String} {rest : List UInt8} (plain : PlainText k)
    (at_ : ahead bytes i = octets k ++ 0x22 :: rest) :
    stringAfterQuote bytes i = .ok (k, i + (octets k).length + 1) := by
  have enough : (octets k).length < bytes.size + 1 := by
    have := length_ahead_le bytes i
    rw [at_, List.length_append] at this
    omega
  apply lift_ok
  have same : ({ data := #[] ++ (octets k).toArray } : ByteArray) = k.toByteArray := by
    simp [octets]
  simp only [stringBody_of plain.octets_plain at_ enough, bind, Except.bind, same, fromUTF8?_toByteArray]
  rfl

/-! Decimal numbers without sign, fraction or exponent. -/

theorem peekOrNull_eq (bytes : ByteArray) (i : Nat) : peekOrNull bytes i = .ok (((ahead bytes i).head?).getD 0, i) := by
  simp only [peekOrNull, bind_ok (peek_eq bytes i)]
  rfl

theorem integerDigits_of {cs : List Char} {rest : List UInt8} {sig : Nat} (digits : ∀ c ∈ cs, c.isDigit = true)
    (at_ : ahead bytes i = cs.map (fun c => c.val.toUInt8) ++ rest) (stops : ∀ b ∈ rest.head?, digitOf? b = none)
    (fits : Nat.ofDigitChars 10 cs sig ≤ u64Max) :
    integerDigits bytes i sig = (Nat.ofDigitChars 10 cs sig, i + cs.length, false) := by
  induction cs generalizing i sig with
  | nil =>
    rw [integerDigits]
    split
    · rename_i inside
      have found : bytes[i]? = some bytes[i] := getElem?_pos bytes i inside
      rw [getElem?_eq_head?, at_, List.map_nil, List.nil_append] at found
      rw [stops _ found]
      rfl
    · rfl
  | cons c cs ih =>
    have digit := digitOf?_of_isDigit (digits c List.mem_cons_self)
    rw [List.map_cons, List.cons_append] at at_
    obtain ⟨inside, same⟩ := getElem?_eq_some_iff.mp (getElem?_of_ahead at_)
    have zero : ('0' : Char).toNat = 48 := rfl
    have shifted : 10 * sig + (c.toNat - '0'.toNat) = sig * 10 + (c.toNat - 48) := by omega
    rw [Nat.ofDigitChars_cons, shifted] at fits ⊢
    have step : sig * 10 + (c.toNat - 48) ≤ u64Max := Nat.le_trans (le_ofDigitChars cs _) fits
    rw [integerDigits, dif_pos inside, same, digit]
    simp only [overflows_eq_false step, Bool.false_eq_true, if_false,
      ih (fun d member => digits d (List.mem_cons_of_mem c member)) (ahead_succ at_) fits, List.length_cons,
      Prod.mk.injEq, true_and, and_true]
    omega

theorem numberTail_of {sig : Nat} (ends : ∀ b ∈ (ahead bytes i).head?, b ≠ 0x2E ∧ b ≠ 0x65 ∧ b ≠ 0x45) :
    numberTail true sig bytes i = .ok (.unsigned sig, i) := by
  rw [numberTail, bind_ok (peekOrNull_eq bytes i)]
  cases head : (ahead bytes i).head? with
  | none => rfl
  | some b =>
    obtain ⟨notPoint, notLower, notUpper⟩ := ends b head
    simp only [Option.getD_some]
    split <;> first | contradiction | rfl

/-- What may follow a value: the end, white space, a comma or a closing bracket or brace. -/
def Delimited (rest : List UInt8) : Prop :=
  ∀ b ∈ rest.head?, isBlank b = true ∨ b = 0x2C ∨ b = 0x5D ∨ b = 0x7D

theorem Delimited.ends {rest : List UInt8} (delim : Delimited rest) :
    ∀ b ∈ rest.head?, digitOf? b = none ∧ b ≠ 0x2E ∧ b ≠ 0x65 ∧ b ≠ 0x45 ∧ b ≠ 0x6E := by
  intro b head
  rcases delim b head with blank | rfl | rfl | rfl
  · simp only [isBlank, Bool.or_eq_true, beq_iff_eq] at blank
    rcases blank with ((rfl | rfl) | rfl) | rfl <;> decide
  all_goals decide

theorem integerPart_of {n : Nat} {rest : List UInt8} (at_ : ahead bytes i = octets (toString n) ++ rest)
    (delim : Delimited rest) (fits : n ≤ u64Max) :
    integerPart true bytes i = .ok (.unsigned n, i + (octets (toString n)).length) := by
  have ends : ∀ b ∈ (ahead bytes (i + (octets (toString n)).length)).head?, b ≠ 0x2E ∧ b ≠ 0x65 ∧ b ≠ 0x45 := by
    rw [ahead_advance at_]
    intro b head
    obtain ⟨_, notPoint, notLower, notUpper, _⟩ := delim.ends b head
    exact ⟨notPoint, notLower, notUpper⟩
  rcases Nat.eq_zero_or_pos n with rfl | positive
  · -- a lone zero, which no digit may follow
    have zero : octets (toString 0) = [0x30] := rfl
    rw [zero, List.singleton_append] at at_
    rw [zero] at ends ⊢
    have noDigit : digitOf? ((ahead bytes (i + 1)).head?.getD 0) = none := by
      rw [ahead_succ at_]
      cases head : rest.head? with
      | none => rfl
      | some b => exact (delim.ends b head).1
    rw [integerPart, bind_ok (next_of at_)]
    simp only []
    rw [bind_ok (peekOrNull_eq bytes (i + 1)), noDigit]
    exact numberTail_of ends
  · obtain ⟨c, cs, digits, nonzero⟩ := toDigits_of_pos positive
    have allDigits : ∀ d ∈ c :: cs, d.isDigit = true := fun d member =>
      Nat.isDigit_of_mem_toDigits (by decide) (by decide) (digits ▸ member)
    have value : Nat.ofDigitChars 10 cs (c.toNat - 48) = n := by
      have whole : Nat.ofDigitChars 10 (Nat.toDigits 10 n) 0 = n := Nat.ofDigitChars_ten_toDigits
      have zero : ('0' : Char).toNat = 48 := rfl
      rw [digits, Nat.ofDigitChars_cons, zero, Nat.mul_zero, Nat.zero_add] at whole
      exact whole
    have length : (octets (toString n)).length = cs.length + 1 := by
      rw [octets_toString, digits, List.length_map, List.length_cons]
    rw [octets_toString, digits, List.map_cons, List.cons_append] at at_
    have range := isDigit_iff.mp (allDigits c List.mem_cons_self)
    have leading : c.val.toUInt8 ≠ 0x30 := by
      intro same
      apply nonzero
      apply Char.toNat_inj.mp
      rw [← toNat_toUInt8_of_lt (by omega), same]
      rfl
    have run := integerDigits_of (fun d member => allDigits d (List.mem_cons_of_mem c member)) (ahead_succ at_)
      (fun b head => (delim.ends b head).1) (value ▸ fits)
    have moved : (set (i + 1 + cs.length) : Decode PUnit) bytes (i + 1) = .ok (⟨⟩, i + (octets (toString n)).length) := by
      rw [length, ← Nat.add_assoc, Nat.add_right_comm]
      rfl
    rw [integerPart, bind_ok (next_of at_)]
    simp only [digitOf?_of_isDigit (allDigits c List.mem_cons_self)]
    rw [bind_ok (read_eq bytes (i + 1)), bind_ok (get_eq bytes (i + 1)), run, value]
    simp only [bind_ok moved, Bool.false_eq_true, if_false]
    exact numberTail_of ends

/-! Typed values. A reader reads a text when, wherever the text stands with a delimiter after
it, the reader gives the value and stops right after the text. -/

/-- `d` reads the octets `text` as `a`. -/
def Reads (d : Decode α) (text : List UInt8) (a : α) : Prop :=
  ∀ (bytes : ByteArray) (i : Nat) (rest : List UInt8), ahead bytes i = text ++ rest → Delimited rest →
    d bytes i = .ok (a, i + text.length)

def Blanks (ws : List UInt8) : Prop := ∀ w ∈ ws, isBlank w = true

theorem Reads.map {d : Decode α} {text : List UInt8} {a : α} (reads : Reads d text a) (f : α → β) :
    Reads (f <$> d) text (f a) :=
  fun _ _ _ at_ delim => map_ok (reads _ _ _ at_ delim)

theorem Reads.bind_pure {d : Decode α} {text : List UInt8} {a : α} (reads : Reads d text a) (f : α → β) :
    Reads (d >>= fun x => pure (f x)) text (f a) :=
  fun _ _ _ at_ delim => by rw [bind_ok (reads _ _ _ at_ delim), pure_ok]

theorem octets_toString_head (n : Nat) : ∃ b tail, octets (toString n) = b :: tail ∧
    isDigit b = true ∧ isBlank b = false ∧ b ≠ 0x2D ∧ b ≠ 0x6E := by
  obtain ⟨c, cs, digits⟩ : ∃ c cs, Nat.toDigits 10 n = c :: cs :=
    List.exists_cons_of_ne_nil Nat.toDigits_ne_nil
  have digit := digitOf?_of_isDigit (Nat.isDigit_of_mem_toDigits (by decide) (by decide)
    (digits ▸ List.mem_cons_self : c ∈ Nat.toDigits 10 n))
  refine ⟨c.val.toUInt8, cs.map fun c => c.val.toUInt8, by rw [octets_toString, digits, List.map_cons],
    isDigit_of_digitOf? digit, ?_⟩
  unfold digitOf? at digit
  split at digit
  · rename_i range
    have outside : ∀ k : UInt8, (k < 0x30 ∨ 0x39 < k) → c.val.toUInt8 ≠ k := by
      rintro k (below | above) rfl
      · exact UInt8.lt_irrefl _ (UInt8.lt_of_lt_of_le below range.1)
      · exact UInt8.lt_irrefl _ (UInt8.lt_of_le_of_lt range.2 above)
    simp only [isBlank, Bool.or_eq_false_iff, beq_eq_false_iff_ne]
    exact ⟨⟨⟨⟨outside _ (by decide), outside _ (by decide)⟩, outside _ (by decide)⟩, outside _ (by decide)⟩,
      outside _ (by decide), outside _ (by decide)⟩
  · cases digit

theorem bool_reads (b : Bool) {ws : List UInt8} (blanks : Blanks ws) :
    Reads bool (ws ++ octets (if b then "true" else "false")) b := by
  intro bytes i rest at_ _
  rw [List.append_assoc] at at_
  apply fixed_ok
  cases b with
  | true =>
    have word : octets "true" = 0x74 :: [0x72, 0x75, 0x65] := rfl
    rw [if_pos rfl, word] at at_ ⊢
    rw [bind_ok (skipBlanks_of at_ blanks (fun _ head => by cases head; rfl))]
    simp only [List.cons_append, List.head?_cons]
    rw [word_of (ahead_advance at_), List.length_append, Nat.add_assoc]
    rfl
  | false =>
    have word : octets "false" = 0x66 :: [0x61, 0x6C, 0x73, 0x65] := rfl
    rw [if_neg Bool.false_ne_true, word] at at_ ⊢
    rw [bind_ok (skipBlanks_of at_ blanks (fun _ head => by cases head; rfl))]
    simp only [List.cons_append, List.head?_cons]
    rw [word_of (ahead_advance at_), List.length_append, Nat.add_assoc]
    rfl

theorem unsigned_reads (expected : String) {n max : Nat} (fits : n ≤ max) (bounded : max ≤ u64Max)
    {ws : List UInt8} (blanks : Blanks ws) : Reads (unsigned expected max) (ws ++ octets (toString n)) n := by
  intro bytes i rest at_ delim
  rw [List.append_assoc] at at_
  obtain ⟨b, tail, digits, digit, notBlank, notMinus, _⟩ := octets_toString_head n
  have number := integerPart_of (ahead_advance at_) delim (Nat.le_trans fits bounded)
  rw [digits, List.cons_append] at at_
  apply fixed_ok
  rw [bind_ok (skipBlanks_of at_ blanks (fun _ head => by cases head; exact notBlank))]
  simp only [List.head?_cons, digit, if_true]
  rw [bind_ok number]
  simp only [unsignedOf, if_pos fits, List.length_append, Nat.add_assoc]
  rfl

theorem option_reads_none (d : Decode α) {ws : List UInt8} (blanks : Blanks ws) :
    Reads (option d) (ws ++ octets "null") none := by
  intro bytes i rest at_ _
  have word : octets "null" = 0x6E :: [0x75, 0x6C, 0x6C] := rfl
  rw [List.append_assoc, word] at at_
  rw [word, option, bind_ok (skipBlanks_of at_ blanks (fun _ head => by cases head; rfl))]
  simp only [List.cons_append, List.head?_cons]
  rw [word_of (ahead_advance at_), List.length_append, Nat.add_assoc]
  rfl

theorem option_reads_some {d : Decode α} {b : UInt8} {tail : List UInt8} {a : α} (reads : Reads d (b :: tail) a)
    (notBlank : isBlank b = false) (notNull : b ≠ 0x6E) {ws : List UInt8} (blanks : Blanks ws) :
    Reads (option d) (ws ++ b :: tail) (some a) := by
  intro bytes i rest at_ delim
  rw [List.append_assoc, List.cons_append] at at_
  rw [option, bind_ok (skipBlanks_of at_ blanks (fun _ head => by cases head; exact notBlank))]
  -- the octet is not the letter of null, so the value is read by d
  simp only [List.head?_cons, Option.some.injEq, notNull, imp_false, not_false_eq_true]
  rw [map_ok (reads _ _ _ (ahead_advance at_) delim), List.length_append, Nat.add_assoc]

theorem stringWith_reads {visit : String → Except Problem α} {k : String} {a : α} (expected : String)
    (plain : PlainText k) (visited : visit k = .ok a) {ws : List UInt8} (blanks : Blanks ws) :
    Reads (stringWith expected visit) (ws ++ octets (quote k)) a := by
  intro bytes i rest at_ _
  rw [octets_quote plain] at at_
  simp only [List.append_assoc, List.cons_append, List.nil_append] at at_
  apply fixed_ok
  rw [bind_ok (skipBlanks_of at_ blanks (fun _ head => by cases head; rfl))]
  simp only [List.head?_cons]
  rw [bind_ok (eat_eq _ _), bind_ok (stringAfterQuote_of plain (ahead_succ (ahead_advance at_))), visited]
  simp only [octets_quote plain, List.length_append, List.length_cons, List.length_nil, pure_ok, Except.ok.injEq,
    Prod.mk.injEq, true_and]
  omega

theorem variant_reads {names : List String} {k : String} {index : Nat} (plain : PlainText k)
    (named : names.idxOf? k = some index) {ws : List UInt8} (blanks : Blanks ws) :
    Reads (variant names) (ws ++ octets (quote k)) index := by
  intro bytes i rest at_ delim
  have visited : variantIndex names k = .ok index := by
    unfold variantIndex
    rw [named]
  have reads : Reads (stringWith "variant identifier" (variantIndex names)) ([] ++ octets (quote k)) index :=
    stringWith_reads _ plain visited (fun _ none => by cases none)
  have head : (octets (quote k) ++ rest).head? = some 0x22 := by
    rw [octets_quote plain]
    rfl
  rw [List.append_assoc] at at_
  rw [variant, bind_ok (skipBlanks_of at_ blanks (fun _ found => by rw [head] at found; cases found; rfl)), head]
  simp only []
  rw [List.nil_append] at reads
  rw [reads _ _ _ (ahead_advance at_) delim, List.length_append, Nat.add_assoc]

end Decode

end OsdpTrace.Json
