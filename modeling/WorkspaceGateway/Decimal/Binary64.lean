/-!
# Binary64 numbers in exact arithmetic

A finite binary64 number is a mantissa below `2 ^ 53` times a power of two whose exponent is
at least `-1074`. A decimal is read as the nearest of them, a tie going to the even mantissa;
one that rounds to `2 ^ 1024` or more has none.
-/

set_option autoImplicit false

namespace WorkspaceGateway.Decimal

/-- A finite binary64 number, `mantissa * 2 ^ exponent` with a sign. -/
structure Binary64 where
  negative : Bool
  mantissa : Nat
  exponent : Int

def roundDivEven (num den : Nat) : Nat :=
  let q := num / den
  let r := num % den
  if 2 * r < den then q
  else if den < 2 * r then q + 1
  else if q % 2 = 0 then q else q + 1

def scaleFraction (num den base : Nat) (scale : Int) : Nat × Nat :=
  match scale with
  | .ofNat k => (num * base.pow k, den)
  | .negSucc k => (num, den * base.pow (k + 1))

def digitCount (n : Nat) : Nat := (Nat.toDigits 10 n).length

def leastNormal : Nat := 0x10000000000000

/-- The nearest binary64 number to `num / den`, for `num` and `den` not zero. -/
def Binary64.nearest (negative : Bool) (num den : Nat) : Option Binary64 :=
  let guess : Int := (Nat.log2 num : Int) - Nat.log2 den - 52
  let exact (q : Int) := scaleFraction num den 2 (-q)
  let (a, b) := exact guess
  let q0 := if a < leastNormal * b then guess - 1 else guess
  let q := max q0 (-1074)
  let (a, b) := exact q
  let m := roundDivEven a b
  let (m, q) := if m = 2 * leastNormal then (leastNormal, q + 1) else (m, q)
  if 971 < q then none else some ⟨negative, m, q⟩

def Binary64.ofDecimal (negative : Bool) (digits : Nat) (scale : Int) : Option Binary64 :=
  if digits = 0 then some ⟨negative, 0, 0⟩
  else
    let magnitude : Int := digitCount digits + scale
    if 310 < magnitude then none
    else if magnitude < -330 then some ⟨negative, 0, 0⟩
    else
      let (a, b) := scaleFraction digits 1 10 scale
      Binary64.nearest negative a b

def Binary64.roundHalfUp (x : Binary64) : Nat :=
  let (a, b) := scaleFraction x.mantissa 1 2 x.exponent
  (2 * a + b) / (2 * b)

end WorkspaceGateway.Decimal
