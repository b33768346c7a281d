/-!
Shortest decimal digits of a binary64 value. Among the decimals that read back as the value
(round to nearest, ties to even), take one with the fewest significant digits, and of those
the nearest to the value; an exact tie between two goes to the larger. Everything is exact
arithmetic on naturals; no float operation is used.
-/
namespace OsdpTrace.Decimal

structure Binary where
  mantissa : Nat
  exponent : Int
  narrowBelow : Bool
deriving Repr, DecidableEq

def Binary.ofBits (bits : UInt64) : Binary :=
  let biased := ((bits >>> 52) &&& 0x7FF).toNat
  let fraction := (bits &&& 0xFFFFFFFFFFFFF).toNat
  if biased = 0 then ⟨fraction, -1074, false⟩
  else ⟨Nat.pow 2 52 + fraction, (biased : Int) - 1075, fraction = 0 && biased > 1⟩

structure Scientific where
  digits : Nat
  exponent : Int
deriving Repr, DecidableEq

def cmpScaled (a : Nat) (i : Int) (n : Nat) (j : Int) : Ordering :=
  compare (a * Nat.pow 10 i.toNat * Nat.pow 2 (-j).toNat) (n * Nat.pow 2 j.toNat * Nat.pow 10 (-i).toNat)

/-- The decimal lies among the reals that round to the value: between the midpoints to the
two neighbours, the midpoints themselves included exactly when the mantissa is even. Bounds
are counted in quarters of the last binary place. -/
def Binary.readsBack (x : Binary) (d : Scientific) : Bool :=
  let lower := if x.narrowBelow then 4 * x.mantissa - 1 else 4 * x.mantissa - 2
  let upper := 4 * x.mantissa + 2
  let closed := x.mantissa % 2 == 0
  let atLower := cmpScaled d.digits d.exponent lower (x.exponent - 2)
  let atUpper := cmpScaled d.digits d.exponent upper (x.exponent - 2)
  (atLower == .gt || (closed && atLower == .eq)) && (atUpper == .lt || (closed && atUpper == .eq))

def Binary.floorOnGrid (x : Binary) (g : Int) : Nat :=
  (x.mantissa * Nat.pow 2 x.exponent.toNat * Nat.pow 10 (-g).toNat) / (Nat.pow 2 (-x.exponent).toNat * Nat.pow 10 g.toNat)

def Binary.below (x : Binary) (s : Int) : Bool :=
  cmpScaled 1 s x.mantissa x.exponent == .gt

def Binary.scaleFrom (x : Binary) (start : Int) : Nat → Int
  | 0 => start
  | fuel + 1 => if x.below start then start else x.scaleFrom (start + 1) fuel

/-- The least `s` with the value below `10 ^ s`. The estimate from the binary logarithm is
at most two steps too small, so a short upward search from below it finds `s`. -/
def Binary.scale (x : Binary) : Int :=
  let binary : Int := (Nat.log2 x.mantissa : Int) + x.exponent
  x.scaleFrom ((binary * 30103).fdiv 100000 - 2) 8

def Scientific.strip (d : Scientific) : Scientific :=
  if h : d.digits ≠ 0 ∧ d.digits % 10 = 0 then
    have : d.digits / 10 < d.digits := Nat.div_lt_self (Nat.pos_of_ne_zero h.1) (by decide)
    Scientific.strip ⟨d.digits / 10, d.exponent + 1⟩
  else d
termination_by d.digits

def Binary.exact (x : Binary) : Scientific :=
  if x.exponent < 0 then (Scientific.strip ⟨x.mantissa * Nat.pow 5 (-x.exponent).toNat, x.exponent⟩)
  else Scientific.strip ⟨x.mantissa * Nat.pow 2 x.exponent.toNat, 0⟩

/-- Of the two neighbours of `x` on the grid `10 ^ g`, the ones that read back, nearer first;
on an exact tie the one with the even last digit comes first. -/
def Binary.onGrid (x : Binary) (g : Int) : List Scientific :=
  let low := x.floorOnGrid g
  let lowD : Scientific := ⟨low, g⟩
  let highD : Scientific := ⟨low + 1, g⟩
  -- the sum of the two neighbours against twice the value
  let lowFirst := match cmpScaled (2 * low + 1) g (2 * x.mantissa) x.exponent with
    | .gt => true
    | .lt => false
    | .eq => low % 2 == 0
  let ordered := if lowFirst then [lowD, highD] else [highD, lowD]
  ordered.filter x.readsBack

def Binary.search (x : Binary) (s : Int) (n : Nat) : Nat → Option Scientific
  | 0 => none
  | fuel + 1 =>
    match x.onGrid (s - n) with
    | d :: _ => some d
    | [] => x.search s (n + 1) fuel

def Binary.shortest (x : Binary) : Scientific :=
  if x.mantissa = 0 then ⟨0, 0⟩
  else match x.search x.scale 1 17 with
    | some d => d.strip
    | none => x.exact

end OsdpTrace.Decimal
