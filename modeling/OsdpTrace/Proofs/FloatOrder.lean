import Mathlib

/-! Floats of positive sign and their order. A binary64 value is computed by unpacking its operands,
computing on sign, mantissa and exponent, rounding, and packing the result again. Rounding keeps
the sign, and packing a value of positive sign gives back one: positive zero, a positive number
or positive infinity. A float built from a count and divided by a positive float is one of them,
so a count of microseconds in milliseconds, as the reply statistics compute it, is never below
zero.

On values of positive sign the comparison of floats is a linear order. They compare by kind,
zero below numbers below infinity, and two numbers by exponent, then mantissa; and a value
other than NaN is stored in one bit pattern only, so two floats of positive sign that compare
both ways are the same float. Hence `min` and `max` keep, of two such floats, the least and the
greatest, and the least and the greatest of a list of them do not depend on its order. -/
namespace OsdpTrace

open Float.Model (Format UnpackedFloat)
open Float.Model.UnpackedFloat

/-- An unpacked float of positive sign that is not NaN: positive zero, a positive number, or
positive infinity. -/
inductive PositiveSign : UnpackedFloat → Prop
  | zero : PositiveSign (.zero .positive)
  | finite (mantissa : Nat) (exponent : Int) (pos : 0 < mantissa) :
      PositiveSign (.finite .positive mantissa exponent pos)
  | infinity : PositiveSign (.infinity .positive)

theorem unpackSign_packComponents {spec : Format} {sign : Sign} {exponent mantissa} :
    unpackSign (packComponents spec sign exponent mantissa) = sign.toBitVec := by
  ext i within
  simp [unpackSign, packComponents, BitVec.getLsbD_append]
  have first : i = 0 := by omega
  subst first
  simp

theorem ofNat_ne_allOnes {w n : Nat} (below : n + 1 < 2 ^ w) : BitVec.ofNat w n ≠ -1#w := by
  intro same
  have values := congrArg BitVec.toNat same
  rw [BitVec.toNat_ofNat, Nat.mod_eq_of_lt (by omega), BitVec.toNat_neg, BitVec.toNat_ofNat] at values
  have one : 1 % 2 ^ w = 1 := Nat.mod_eq_of_lt (by omega)
  rw [one, Nat.mod_eq_of_lt (by omega)] at values
  omega

theorem zero_ne_allOnes {w : Nat} (wide : 0 < w) : (0#w : BitVec w) ≠ -1#w :=
  ofNat_ne_allOnes (Nat.one_lt_two_pow (by omega))

theorem positiveSign_unpack_packComponents {spec : Format} {exponent mantissa}
    (finite : exponent = -1#_ → mantissa = 0#_) :
    PositiveSign (unpack spec (packComponents spec .positive exponent mantissa)) := by
  have sign : Sign.ofBitVec (unpackSign (packComponents spec .positive exponent mantissa)) = .positive := by
    rw [unpackSign_packComponents]
    rfl
  unfold unpack
  simp only [unpackMantissa_packComponents, unpackExponent_packComponents, sign]
  split
  · rename_i top
    rw [if_pos (finite top)]
    exact .infinity
  · split
    · split
      · exact .zero
      · exact .finite _ _ _
    · exact .finite _ _ _

theorem positiveSign_unpack_pack {spec : Format} {f : UnpackedFloat} (positive : PositiveSign f) :
    PositiveSign (unpack spec (pack spec f)) := by
  cases positive with
  | zero => exact positiveSign_unpack_packComponents fun top => absurd top (zero_ne_allOnes spec.he)
  | finite m e pos =>
    -- too large for the format, normal, or subnormal
    simp only [pack]
    split
    · exact positiveSign_unpack_packComponents fun _ => rfl
    · rename_i fits
      split
      · exact positiveSign_unpack_packComponents fun top => absurd top (ofNat_ne_allOnes (by omega))
      · exact positiveSign_unpack_packComponents fun top => absurd top (zero_ne_allOnes spec.he)
  | infinity => exact positiveSign_unpack_packComponents fun _ => rfl

theorem positiveSign_roundWithAccuracy {spec : Format} (m : Nat) (e : Int) (accuracy : Accuracy) :
    PositiveSign (roundWithAccuracy spec .positive m e accuracy) := by
  unfold roundWithAccuracy
  dsimp only
  split_ifs
  · exact .zero
  · exact .finite _ _ _

theorem positiveSign_ofUInt64 {spec : Format} (n : UInt64) : PositiveSign (ofUInt64 spec n) := by
  unfold ofUInt64 ofNat ofInt UnpackedFloat.normalize UnpackedFloat.round
  split
  · rename_i below
    have negative : ((n.toNat : Nat) : Int) < 0 := Int.compare_eq_lt.mp below
    omega
  · exact .zero
  · exact positiveSign_roundWithAccuracy _ _ _

theorem positiveSign_div {spec : Format} {a b : UnpackedFloat} (dividend : PositiveSign a)
    (divisor : ∃ m e pos, b = .finite .positive m e pos) : PositiveSign (div spec a b) := by
  obtain ⟨m, e, pos, rfl⟩ := divisor
  cases dividend with
  | zero => exact .zero
  | finite m' e' pos' => exact positiveSign_roundWithAccuracy _ _ _
  | infinity => exact .infinity

theorem positiveSign_micros_div_thousand (n : Nat) :
    PositiveSign ((UInt64.ofNat n).toFloat / 1000.0).toModel.unpack := by
  have thousand : ∃ m e pos, (1000.0 : Float).toModel.unpack = .finite .positive m e pos := ⟨_, _, _, rfl⟩
  have count : PositiveSign (UInt64.ofNat n).toFloat.toModel.unpack :=
    positiveSign_unpack_pack (positiveSign_ofUInt64 _)
  exact positiveSign_unpack_pack (positiveSign_div count thousand)

theorem isLE_then_compare (e e' : Int) (m m' : Nat) :
    ((compare e e').then (compare m m')).isLE = true ↔ e < e' ∨ e = e' ∧ m ≤ m' := by
  rcases lt_trichotomy e e' with earlier | same | later
  · simp [compare_lt_iff_lt.mpr earlier, earlier]
  · simp [same, Nat.isLE_compare]
  · simp [compare_gt_iff_gt.mpr later, not_lt.mpr later.le, later.ne']

theorem compare_positive : compare Sign.positive Sign.positive = .eq := rfl

namespace PositiveSign

variable {u v w : UnpackedFloat}

theorem le_total (hu : PositiveSign u) (hv : PositiveSign v) : u.le v = true ∨ v.le u = true := by
  cases hu <;> cases hv <;> simp [UnpackedFloat.le, UnpackedFloat.compare, isLE_then_compare, compare_positive]
  omega

theorem le_trans (hu : PositiveSign u) (hv : PositiveSign v) (hw : PositiveSign w) :
    u.le v = true → v.le w = true → u.le w = true := by
  cases hu <;> cases hv <;> cases hw <;> simp [UnpackedFloat.le, UnpackedFloat.compare, isLE_then_compare, compare_positive]
  omega

theorem eq_of_le_of_le (hu : PositiveSign u) (hv : PositiveSign v) : u.le v = true → v.le u = true → u = v := by
  cases hu <;> cases hv <;> simp [UnpackedFloat.le, UnpackedFloat.compare, isLE_then_compare, compare_positive]
  omega

theorem zero_le (hu : PositiveSign u) : (UnpackedFloat.zero .positive).le u = true := by
  cases hu <;> rfl

theorem ne_notANumber (hu : PositiveSign u) : u ≠ .notANumber := by
  cases hu <;> nofun

end PositiveSign

theorem toNat_unpackMantissa (b : BitVec Format.binary64.numBits) : (unpackMantissa b).toNat = b.toNat % 2 ^ 52 := by
  simp [unpackMantissa, BitVec.extractLsb]

theorem toNat_unpackExponent (b : BitVec Format.binary64.numBits) :
    (unpackExponent b).toNat = b.toNat / 2 ^ 52 % 2 ^ 11 := by
  simp [unpackExponent, BitVec.extractLsb, Nat.shiftRight_eq_div_pow]

theorem toNat_unpackSign (b : BitVec Format.binary64.numBits) : (unpackSign b).toNat = b.toNat / 2 ^ 63 := by
  have bound : b.toNat < 2 ^ 64 := b.isLt
  simp [unpackSign, BitVec.extractLsb, Nat.shiftRight_eq_div_pow]
  omega

theorem toNat_toBitVec_ofBitVec (v : BitVec 1) : (Sign.ofBitVec v).toBitVec.toNat = v.toNat := by
  have bound := v.isLt
  unfold Sign.ofBitVec
  split
  · rename_i zero
    rw [zero]
    rfl
  · rename_i nonzero
    have ne : v.toNat ≠ 0 := fun h => nonzero (BitVec.eq_of_toNat_eq h)
    show 1 = v.toNat
    omega

/-- The bit pattern, as a number, of a binary64 value other than NaN. -/
def storedBits : UnpackedFloat → Nat
  | .infinity s => s.toBitVec.toNat * 2 ^ 63 + 2047 * 2 ^ 52
  | .notANumber => 0
  | .zero s => s.toBitVec.toNat * 2 ^ 63
  | .finite s m e _ =>
    s.toBitVec.toNat * 2 ^ 63 + if m < 2 ^ 52 then m else (e + 1075).toNat * 2 ^ 52 + (m - 2 ^ 52)

theorem storedBits_unpack (b : BitVec Format.binary64.numBits) (number : unpack .binary64 b ≠ .notANumber) :
    storedBits (unpack .binary64 b) = b.toNat := by
  have bound := b.isLt
  have sign := toNat_unpackSign b
  have exponent := toNat_unpackExponent b
  have mantissa := toNat_unpackMantissa b
  have signBit := toNat_toBitVec_ofBitVec (unpackSign b)
  unfold unpack at number ⊢
  simp only at number ⊢
  -- infinity or NaN, zero or subnormal, normal
  split
  · rename_i top
    rw [top] at exponent
    split
    · rename_i empty
      rw [empty] at mantissa
      simp only [storedBits, signBit, sign]
      simp at exponent mantissa
      omega
    · simp_all
  · rename_i notTop
    split
    · rename_i bottom
      rw [bottom] at exponent
      simp at exponent
      split
      · rename_i empty
        rw [empty] at mantissa
        simp only [storedBits, signBit, sign]
        simp at mantissa
        omega
      · simp only [storedBits, signBit, sign]
        rw [if_pos (unpackMantissa b).isLt]
        omega
    · rename_i notBottom
      have top : (unpackExponent b).toNat ≠ 2047 := fun h => notTop (BitVec.eq_of_toNat_eq (by simpa using h))
      have bottom : (unpackExponent b).toNat ≠ 0 := fun h => notBottom (BitVec.eq_of_toNat_eq (by simpa using h))
      have low : (unpackExponent b).toNat < 2 ^ 11 := (unpackExponent b).isLt
      have implicit : (1#1 ++ unpackMantissa b).toNat = 2 ^ 52 + (unpackMantissa b).toNat := by
        rw [BitVec.toNat_append, ← Nat.shiftLeft_add_eq_or_of_lt (unpackMantissa b).isLt]
        simp [Nat.shiftLeft_eq]
      simp only [storedBits, signBit, sign, implicit]
      rw [if_neg (by omega)]
      simp only [Format.exponentBias] at *
      omega

/-- Two floats that unpack to the same value other than NaN are the same float. -/
theorem eq_of_unpack_eq {x y : Float} (same : x.toModel.unpack = y.toModel.unpack)
    (number : x.toModel.unpack ≠ .notANumber) : x = y := by
  obtain ⟨⟨a, valid⟩⟩ := x
  obtain ⟨⟨b, valid'⟩⟩ := y
  have bits : a.toBitVec.toNat = b.toBitVec.toNat := by
    rw [← storedBits_unpack _ number, ← storedBits_unpack _ fun nan => number (same.trans nan)]
    exact congrArg storedBits same
  obtain rfl : a = b := UInt64.toBitVec_inj.mp (BitVec.eq_of_toNat_eq bits)
  rfl

theorem le_iff_unpack (x y : Float) : x ≤ y ↔ x.toModel.unpack.le y.toModel.unpack = true := by
  show Float.le x y = true ↔ _
  unfold Float.le
  rw [decide_eq_true_eq]
  rfl

theorem zero_le_micros_div_thousand (n : Nat) : (0 : Float) ≤ (UInt64.ofNat n).toFloat / 1000.0 := by
  have zero : (0 : Float).toModel.unpack = .zero .positive := rfl
  rw [le_iff_unpack, zero]
  exact (positiveSign_micros_div_thousand n).zero_le

section Floats

variable {x y z : Float}

theorem le_refl_of_positiveSign (hx : PositiveSign x.toModel.unpack) : x ≤ x := by
  rw [le_iff_unpack]
  exact (hx.le_total hx).elim id id

theorem le_total_of_positiveSign (hx : PositiveSign x.toModel.unpack) (hy : PositiveSign y.toModel.unpack) :
    x ≤ y ∨ y ≤ x := by
  rw [le_iff_unpack, le_iff_unpack]
  exact hx.le_total hy

theorem le_trans_of_positiveSign (hx : PositiveSign x.toModel.unpack) (hy : PositiveSign y.toModel.unpack)
    (hz : PositiveSign z.toModel.unpack) : x ≤ y → y ≤ z → x ≤ z := by
  rw [le_iff_unpack, le_iff_unpack, le_iff_unpack]
  exact hx.le_trans hy hz

theorem eq_of_le_of_le_of_positiveSign (hx : PositiveSign x.toModel.unpack) (hy : PositiveSign y.toModel.unpack)
    (below : x ≤ y) (above : y ≤ x) : x = y := by
  rw [le_iff_unpack] at below above
  exact eq_of_unpack_eq (hx.eq_of_le_of_le hy below above) hx.ne_notANumber

end Floats

/-- `f` keeps, of two values satisfying `P`, one that is `R`-related to both, where `R` orders
the values satisfying `P`: the least of two, or the greatest. -/
structure Picks {α : Type} (P : α → Prop) (R : α → α → Prop) (f : α → α → α) : Prop where
  pick : ∀ x y, f x y = x ∨ f x y = y
  bound : ∀ x y, P x → P y → R (f x y) x ∧ R (f x y) y
  refl : ∀ x, P x → R x x
  trans : ∀ x y z, P x → P y → P z → R x y → R y z → R x z
  antisymm : ∀ x y, P x → P y → R x y → R y x → x = y

namespace Picks

variable {α : Type} {P : α → Prop} {R : α → α → Prop} {f : α → α → α} (picks : Picks P R f)
include picks

theorem keeps (a y : α) (ha : P a) (hy : P y) : P (f a y) := by
  rcases picks.pick a y with kept | kept <;> rw [kept] <;> assumption

theorem foldl_extreme (a : α) (l : List α) (all : ∀ x ∈ a :: l, P x) :
    l.foldl f a ∈ a :: l ∧ ∀ x ∈ a :: l, R (l.foldl f a) x := by
  induction l generalizing a with
  | nil =>
    refine ⟨List.mem_singleton_self a, fun x member => ?_⟩
    rw [List.mem_singleton.mp member]
    exact picks.refl a (all a List.mem_cons_self)
  | cons y l ih =>
    -- the fold goes on from the one of `a` and `y` kept
    have ha := all a List.mem_cons_self
    have hy := all y (List.mem_cons_of_mem _ List.mem_cons_self)
    have rest : ∀ x ∈ f a y :: l, P x := by
      intro x member
      rcases List.mem_cons.mp member with rfl | later
      · exact picks.keeps a y ha hy
      · exact all x (List.mem_cons_of_mem _ (List.mem_cons_of_mem _ later))
    obtain ⟨member, least⟩ := ih (f a y) rest
    have hm := rest _ member
    have hf := rest (f a y) List.mem_cons_self
    have below := least (f a y) List.mem_cons_self
    have bound := picks.bound a y ha hy
    rw [List.foldl_cons]
    refine ⟨?_, fun x present => ?_⟩
    · rcases List.mem_cons.mp member with same | later
      · rcases picks.pick a y with kept | kept <;> rw [same, kept] <;> simp
      · exact List.mem_cons_of_mem _ (List.mem_cons_of_mem _ later)
    · rcases List.mem_cons.mp present with rfl | present
      · exact picks.trans _ _ _ hm hf ha below bound.1
      rcases List.mem_cons.mp present with rfl | later
      · exact picks.trans _ _ _ hm hf hy below bound.2
      · exact least x (List.mem_cons_of_mem _ later)

/-- Folding with `f` gives the same value for every order of the same values. -/
theorem foldl_perm {a a' : α} {l l' : List α} (perm : (a' :: l').Perm (a :: l)) (all : ∀ x ∈ a :: l, P x) :
    l'.foldl f a' = l.foldl f a := by
  have all' : ∀ x ∈ a' :: l', P x := fun x member => all x (perm.subset member)
  obtain ⟨member, least⟩ := picks.foldl_extreme a l all
  obtain ⟨member', least'⟩ := picks.foldl_extreme a' l' all'
  exact picks.antisymm _ _ (all' _ member') (all _ member) (least' _ (perm.symm.subset member))
    (least _ (perm.subset member'))

end Picks

theorem picks_min : Picks (fun x : Float => PositiveSign x.toModel.unpack) (· ≤ ·) min where
  pick x y := by
    show (if x ≤ y then x else y) = x ∨ (if x ≤ y then x else y) = y
    split <;> simp
  bound x y hx hy := by
    show (if x ≤ y then x else y) ≤ x ∧ (if x ≤ y then x else y) ≤ y
    split
    · exact ⟨le_refl_of_positiveSign hx, by assumption⟩
    · rename_i above
      exact ⟨(le_total_of_positiveSign hx hy).resolve_left above, le_refl_of_positiveSign hy⟩
  refl _ := le_refl_of_positiveSign
  trans _ _ _ := le_trans_of_positiveSign
  antisymm _ _ := eq_of_le_of_le_of_positiveSign

theorem picks_max : Picks (fun x : Float => PositiveSign x.toModel.unpack) (fun x y => y ≤ x) max where
  pick x y := by
    show (if x ≤ y then y else x) = x ∨ (if x ≤ y then y else x) = y
    split <;> simp
  bound x y hx hy := by
    show x ≤ (if x ≤ y then y else x) ∧ y ≤ (if x ≤ y then y else x)
    split
    · exact ⟨by assumption, le_refl_of_positiveSign hy⟩
    · rename_i above
      exact ⟨le_refl_of_positiveSign hx, (le_total_of_positiveSign hx hy).resolve_left above⟩
  refl _ := le_refl_of_positiveSign
  trans _ _ _ hx hy hz below above := le_trans_of_positiveSign hz hy hx above below
  antisymm _ _ hx hy below above := eq_of_le_of_le_of_positiveSign hx hy above below

section Extremes

variable {l l' : List Float} (perm : l'.Perm l) (signs : ∀ x ∈ l, PositiveSign x.toModel.unpack)
include perm signs

/-- The least of floats of positive sign does not depend on their order. -/
theorem min?_perm : l'.min? = l.min? := by
  cases l' with
  | nil => rw [← perm.nil_eq]
  | cons a' l' =>
    cases l with
    | nil => exact absurd perm.length_eq (by simp)
    | cons a l => rw [List.min?_cons', List.min?_cons', picks_min.foldl_perm perm signs]

/-- The greatest of floats of positive sign does not depend on their order. -/
theorem max?_perm : l'.max? = l.max? := by
  cases l' with
  | nil => rw [← perm.nil_eq]
  | cons a' l' =>
    cases l with
    | nil => exact absurd perm.length_eq (by simp)
    | cons a l => rw [List.max?_cons', List.max?_cons', picks_max.foldl_perm perm signs]

end Extremes

end OsdpTrace
