import OsdpTrace.Proofs.JsonRecords

/-! What a reader gives when it succeeds. `Yields P d` says that every value `d` gives, on any
text and from any index, satisfies `P`. The rules follow the readers' definitions, so that what
the field readers of a record give carries to the whole record and to a whole text. -/
namespace OsdpTrace.Json.Decode

variable {α β : Type} {bytes : ByteArray} {i : Nat}

/-- Every value `d` gives satisfies `P`. -/
def Yields (P : α → Prop) (d : Decode α) : Prop :=
  ∀ bytes i a j, d bytes i = .ok (a, j) → P a

theorem bind_error {x : Decode α} {f : α → Decode β} {e : Fault} (failed : x bytes i = .error e) :
    (x >>= f) bytes i = .error e := by
  simp only [bind, ReaderT.bind, StateT.bind, failed]
  rfl

theorem tryCatch_error {x : Decode α} {handle : Fault → Decode α} {e : Fault} (failed : x bytes i = .error e) :
    tryCatch x handle bytes i = handle e bytes i := by
  show Except.tryCatch (x bytes i) _ = _
  rw [failed]
  rfl

namespace Yields

theorem any (d : Decode α) : Yields (fun _ => True) d := fun _ _ _ _ _ => trivial

theorem pure {P : α → Prop} {a : α} (holds : P a) : Yields P (Pure.pure a : Decode α) := by
  intro bytes i b j done
  rw [pure_ok, Except.ok.injEq, Prod.mk.injEq] at done
  exact done.1 ▸ holds

theorem bind {Q : α → Prop} {P : β → Prop} {x : Decode α} {f : α → Decode β} (first : Yields Q x)
    (next : ∀ a, Q a → Yields P (f a)) : Yields P (x >>= f) := by
  intro bytes i b j done
  cases result : x bytes i with
  | error e =>
    rw [bind_error result] at done
    cases done
  | ok p =>
    obtain ⟨a, k⟩ := p
    rw [bind_ok result] at done
    exact next a (first _ _ _ _ result) _ _ _ _ done

theorem map {Q : α → Prop} {P : β → Prop} {x : Decode α} {f : α → β} (first : Yields Q x)
    (next : ∀ a, Q a → P (f a)) : Yields P (f <$> x) := by
  intro bytes i b j done
  cases result : x bytes i with
  | error e =>
    have failed : (f <$> x) bytes i = .error e := by
      show (f <$> x bytes) i = _
      simp only [Functor.map, StateT.map, result]
      rfl
    rw [failed] at done
    cases done
  | ok p =>
    obtain ⟨a, k⟩ := p
    rw [map_ok result, Except.ok.injEq, Prod.mk.injEq] at done
    exact done.1 ▸ next a (first _ _ _ _ result)

theorem throw {P : α → Prop} (e : Fault) : Yields P (MonadExcept.throw e : Decode α) := by
  intro _ _ _ _ done
  cases done

theorem failAt {P : α → Prop} (problem : Problem) (k : Nat) : Yields P (Decode.failAt problem k : Decode α) := by
  intro _ _ _ _ done
  cases done

theorem fail {P : α → Prop} (problem : Problem) : Yields P (Decode.fail problem : Decode α) := by
  intro _ _ _ _ done
  cases done

theorem failPeek {P : α → Prop} (problem : Problem) : Yields P (Decode.failPeek problem : Decode α) := by
  intro _ _ _ _ done
  cases done

theorem reject {P : α → Prop} (problem : Problem) : Yields P (Decode.reject problem : Decode α) := by
  intro _ _ _ _ done
  cases done

theorem tryCatch {P : α → Prop} {x : Decode α} {handle : Fault → Decode α} (body : Yields P x)
    (handler : ∀ e, Yields P (handle e)) : Yields P (MonadExcept.tryCatch x handle) := by
  intro bytes i a j done
  cases result : x bytes i with
  | error e =>
    rw [tryCatch_error result] at done
    exact handler e _ _ _ _ done
  | ok p =>
    obtain ⟨b, k⟩ := p
    rw [tryCatch_ok result] at done
    exact body _ _ _ _ (done ▸ result)

theorem fixed {P : α → Prop} {x : Decode α} (body : Yields P x) : Yields P (Decode.fixed x) := by
  refine tryCatch body fun e => ?_
  cases e with
  | located error => exact throw _
  | pending problem index => exact failAt _ _

theorem closedBy {P : α → Prop} {close moves : Decode Unit} {contents : Decode α} (read : Yields P contents) :
    Yields P (Decode.closedBy close moves contents) := by
  refine tryCatch (bind read fun a holds => bind (any _) fun _ _ => pure holds) fun e => ?_
  cases e with
  | located error => exact throw _
  | pending problem index => exact bind (any _) fun _ _ => bind (any _) fun _ _ => fail _

theorem finishWith {P : β → Prop} {outcome : Except Problem β} (done : ∀ b, outcome = .ok b → P b) :
    Yields P (Decode.finishWith outcome) := by
  cases outcome with
  | error problem => exact reject _
  | ok b => exact pure (done b rfl)

theorem invalidType {P : α → Prop} (expected : String) : Yields P (Decode.invalidType expected : Decode α) := by
  refine bind (any _) fun c _ => ?_
  split
  -- every branch ends in a rejection, after reading what it reports
  all_goals first
    | exact reject _
    | exact bind (any _) fun _ _ => bind (any _) fun _ _ => reject _
    | split <;> first
      | exact bind (any _) fun _ _ => reject _
      | exact failPeek _

theorem unsignedOf (expected : String) (max : Nat) (n : Number) :
    Yields (· ≤ max) (Decode.unsignedOf expected max n) := by
  cases n with
  | unsigned n =>
    rw [Decode.unsignedOf]
    split
    · next fits => exact pure fits
    · exact reject _
  | signed n => exact reject _
  | float x => exact reject _

theorem unsigned (expected : String) (max : Nat) : Yields (· ≤ max) (Decode.unsigned expected max) := by
  refine fixed (bind (any _) fun c _ => ?_)
  split
  · exact failPeek _
  · exact bind (any _) fun _ _ => bind (any _) fun n _ => unsignedOf expected max n
  · split
    · exact bind (any _) fun n _ => unsignedOf expected max n
    · exact invalidType expected

theorem option {P : α → Prop} {d : Decode α} (read : Yields P d) :
    Yields (fun o => ∀ a ∈ o, P a) (Decode.option d) := by
  refine bind (any _) fun c _ => ?_
  split
  · exact bind (any _) fun _ _ => bind (any _) fun _ _ => pure fun _ none => by cases none
  · exact map read fun a holds _ same => by cases same; exact holds

section Records

variable {r : RecordReader α β} {Inv : α → Prop} {P : β → Prop}

/-- The members of an object keep an invariant of the accumulator that every field reader keeps,
and the record completed from it satisfies what completion gives. -/
theorem recordMembers (fields : ∀ i acc, Inv acc → Yields Inv (r.readField i acc))
    (complete : ∀ seen acc b, Inv acc → r.complete seen acc = .ok b → P b) :
    ∀ fuel first seen acc, Inv acc → Yields P (Decode.recordMembers r fuel first seen acc)
  | 0, _, seen, acc, holds => finishWith (complete seen acc · holds)
  | fuel + 1, first, seen, acc, holds => by
    rw [Decode.recordMembers]
    refine bind (any _) fun key _ => ?_
    split
    · exact finishWith (complete seen acc · holds)
    · split
      · split
        · exact reject _
        · exact bind (any _) fun _ _ => bind (fields _ acc holds) fun acc' kept =>
            recordMembers fields complete fuel false _ acc' kept
      · exact bind (any _) fun _ _ => bind (any _) fun _ _ => recordMembers fields complete fuel false seen acc holds

theorem recordElements (fields : ∀ i acc, Inv acc → Yields Inv (r.readField i acc))
    (complete : ∀ seen acc b, Inv acc → r.complete seen acc = .ok b → P b)
    (short : ∀ n acc b, Inv acc → r.short n acc = .ok b → P b) :
    ∀ positions first acc, Inv acc → Yields P (Decode.recordElements r positions first acc)
  | [], _, acc, holds => finishWith (complete _ acc · holds)
  | i :: rest, first, acc, holds => by
    rw [Decode.recordElements]
    refine bind (any _) fun present _ => ?_
    split
    · exact bind (fields i acc holds) fun acc' kept => recordElements fields complete short rest false acc' kept
    · exact finishWith (short i acc · holds)

/-- A record read from text satisfies what completion gives from an accumulator that every field
reader keeps invariant, starting from the reader's start. -/
theorem record (start : Inv r.start) (fields : ∀ i acc, Inv acc → Yields Inv (r.readField i acc))
    (complete : ∀ seen acc b, Inv acc → r.complete seen acc = .ok b → P b)
    (short : ∀ n acc b, Inv acc → r.short n acc = .ok b → P b) : Yields P (Decode.record r) := by
  refine bind (any _) fun c _ => ?_
  split
  · exact failPeek _
  · exact bind (any _) fun _ _ => closedBy (recordElements fields complete short _ true r.start start)
  · exact bind (any _) fun _ _ => bind (any _) fun _ _ =>
      closedBy (recordMembers fields complete _ true [] r.start start)
  · exact fixed (invalidType _)

end Records

theorem run {P : α → Prop} {d : Decode α} (read : Yields P d) {text : String} {a : α}
    (done : Decode.run d text = .ok a) : P a := by
  rw [Decode.run] at done
  simp only [StateT.run, ReaderT.run] at done
  split at done
  · next b j result =>
    cases done
    -- the value read, provided only white space follows it
    refine (bind (fixed read) fun a holds => bind (any _) fun c _ => ?_) _ _ _ _ result
    split
    · exact failPeek _
    · exact pure holds
  · cases done
  · cases done

end Yields

end OsdpTrace.Json.Decode
