import OsdpTrace.Decimal.Shortest

/-!
Writing a decimal `digits * 10 ^ exponent` as text. A `Layout` records the choices a number
format makes: which magnitudes are written positionally, and how an exponent is marked.
-/
namespace OsdpTrace.Decimal

/-- The choices of a number format. A value whose leading digit has decimal exponent `e` is
written positionally when `minPositional ≤ e < maxPositional`, else as `d.ddd` with an
exponent after `exponentMark`, a `+` on non-negative exponents when `signedExponent`; integral
values written positionally end in `.0` when `pointZero`. -/
structure Layout where
  minPositional : Int
  maxPositional : Int
  exponentMark : String
  signedExponent : Bool
  pointZero : Bool

def zeros (n : Nat) : String := String.ofList (List.replicate n '0')

def Layout.render (l : Layout) (d : Scientific) : String :=
  if d.digits = 0 then (if l.pointZero then "0.0" else "0")
  else
    let s := toString d.digits
    let len := s.length
    let lead : Int := (len : Int) - 1 + d.exponent
    if l.minPositional ≤ lead ∧ lead < l.maxPositional then
      if 0 ≤ d.exponent then s ++ zeros d.exponent.toNat ++ (if l.pointZero then ".0" else "")
      else if 0 ≤ lead then
        let whole := lead.toNat + 1
        String.ofList (s.toList.take whole) ++ "." ++ String.ofList (s.toList.drop whole)
      else "0." ++ zeros (-lead - 1).toNat ++ s
    else
      let mantissa :=
        if len = 1 then s else String.ofList (s.toList.take 1) ++ "." ++ String.ofList (s.toList.drop 1)
      let sign := if lead < 0 then "-" else if l.signedExponent then "+" else ""
      mantissa ++ l.exponentMark ++ sign ++ toString lead.natAbs

/-- The shortest text of a finite float under the layout, with a leading `-` for a negative
sign bit (also on zero). -/
def Layout.shortest (l : Layout) (x : Float) : String :=
  let bits := x.toBits
  let negative := bits >>> 63 == 1
  (if negative then "-" else "") ++ l.render (Binary.ofBits bits).shortest

end OsdpTrace.Decimal
