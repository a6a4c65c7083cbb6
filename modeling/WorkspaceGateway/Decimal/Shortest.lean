import WorkspaceGateway.Decimal.Binary64

/-!
# Shortest decimals

The fewest digits that read back as the same binary64 number, and of those the nearest. The
text is positional while the point stands between six places before the first digit and
sixteen after it, and has an exponent otherwise.
-/

set_option autoImplicit false

namespace WorkspaceGateway.Decimal

def floorLog10 (num den : Nat) : Int :=
  let guess : Int := (digitCount num : Int) - digitCount den
  let (a, b) := scaleFraction num den 10 (-guess)
  if a < b then guess - 1 else guess

def readsAs (x : Binary64) (digits : Nat) (scale : Int) : Bool :=
  match Binary64.ofDecimal x.negative digits scale with
  | some y => y.mantissa = x.mantissa && y.exponent = x.exponent
  | none => false

def shortestWith? (x : Binary64) (num den : Nat) (log : Int) (count : Nat) :
    Option (Nat × Int) :=
  let scale : Int := log + 1 - count
  let (a, b) := scaleFraction num den 10 (-scale)
  let low := a / b
  let near := roundDivEven a b
  let far := if near = low then low + 1 else low
  if readsAs x near scale then some (near, scale)
  else if readsAs x far scale then some (far, scale)
  else none

def shortest (x : Binary64) : Nat × Int :=
  let (num, den) := scaleFraction x.mantissa 1 2 x.exponent
  let log := floorLog10 num den
  ((List.range 17).findSome? fun k => shortestWith? x num den log (k + 1)).getD (0, 0)

def stripZeros : Nat → Nat → Nat × Nat
  | 0, n => (n, 0)
  | fuel + 1, n =>
    if n ≠ 0 ∧ n % 10 = 0 then
      let (m, k) := stripZeros fuel (n / 10)
      (m, k + 1)
    else (n, 0)

/-- The text of a number: `1000.0`, `0.00001`, `1e+21`, `1.5e-7`. -/
def Binary64.text (x : Binary64) : String :=
  let sign := if x.negative then "-" else ""
  if x.mantissa = 0 then sign ++ "0.0"
  else
    let (digits, scale) := shortest x
    let (digits, zeros) := stripZeros 400 digits
    let scale := scale + zeros
    let ds := Nat.toDigits 10 digits
    let point : Int := ds.length + scale
    let body :=
      if 0 ≤ scale ∧ point ≤ 16 then ds ++ List.replicate scale.toNat '0' ++ ['.', '0']
      else if 0 < point ∧ point ≤ 16 then ds.take point.toNat ++ ['.'] ++ ds.drop point.toNat
      else if -5 < point ∧ point ≤ 0 then
        ['0', '.'] ++ List.replicate (-point).toNat '0' ++ ds
      else
        let e := point - 1
        let mark := if e < 0 then ['e', '-'] else ['e', '+']
        let fraction := if ds.length = 1 then [] else '.' :: ds.drop 1
        ds.take 1 ++ fraction ++ mark ++ Nat.toDigits 10 e.natAbs
    sign ++ String.ofList body

end WorkspaceGateway.Decimal
