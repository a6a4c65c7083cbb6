/-!
# Punycode

The ASCII form of a domain label. The ASCII characters come first; each other character is then
inserted, in the order of the code points, by a variable-length number that tells how far to
move on. Digits run over `a` to `z` and `0` to `9`, and their thresholds adapt to the sizes met.
-/

set_option autoImplicit false

namespace WorkspaceGateway.Url.Punycode

def digit (n : Nat) : Char := Char.ofNat (if n < 26 then 97 + n else 22 + n)

def digitValue? (c : Char) : Option Nat :=
  let n := c.toNat
  if 97 ≤ n && n ≤ 122 then some (n - 97)
  else if 65 ≤ n && n ≤ 90 then some (n - 65)
  else if 48 ≤ n && n ≤ 57 then some (n - 22)
  else none

def threshold (k bias : Nat) : Nat := if k ≤ bias then 1 else min 26 (k - bias)

def shrink (delta k : Nat) : Nat :=
  if 455 < delta then shrink (delta / 35) (k + 36) else k + 36 * delta / (delta + 38)
termination_by delta
decreasing_by omega

def adapt (delta count : Nat) (first : Bool) : Nat :=
  let d := if first then delta / 700 else delta / 2
  shrink (d + d / count) 0

def digits (bias : Nat) : Nat → Nat → Nat → List Char
  | 0, _, _ => []
  | fuel + 1, k, q =>
    let t := threshold k bias
    if q < t then [digit q]
    else digit (t + (q - t) % (36 - t)) :: digits bias fuel (k + 36) ((q - t) / (36 - t))

structure State where
  next : Nat
  delta : Nat
  bias : Nat
  handled : Nat
  output : List Char

def visit (basic m : Nat) (st : State) (c : Char) : State :=
  if c.toNat < m then { st with delta := st.delta + 1 }
  else if c.toNat = m then
    { st with
      output := st.output ++ digits st.bias 32 36 st.delta
      bias := adapt st.delta (st.handled + 1) (st.handled = basic)
      delta := 0
      handled := st.handled + 1 }
  else st

def insertAll (basic : Nat) (label : List Char) : Nat → State → State
  | 0, st => st
  | fuel + 1, st =>
    match (label.map Char.toNat).filter (st.next ≤ ·) with
    | [] => st
    | n :: ns =>
      let m := ns.foldl min n
      let st := { st with delta := st.delta + (m - st.next) * (st.handled + 1), next := m }
      let st := label.foldl (visit basic m) st
      insertAll basic label fuel { st with delta := st.delta + 1, next := m + 1 }

def encode (label : List Char) : List Char :=
  let ascii := label.filter fun c => c.toNat < 128
  let lead := if ascii.isEmpty then [] else ascii ++ ['-']
  (insertAll ascii.length label label.length ⟨128, 0, 72, ascii.length, lead⟩).output

def number? (bias : Nat) : Nat → Nat → Nat → List Char → Option (Nat × List Char)
  | _, _, _, [] => none
  | k, i, w, c :: r => do
    let d ← digitValue? c
    let i := i + d * w
    let t := threshold k bias
    if d < t then some (i, r) else number? bias (k + 36) i (w * (36 - t)) r

/-- Inserts the characters that the digits name, from code point `n` and place `i` on; the fuel
is at least the number of digits. -/
def insertNamed : Nat → Bool → Nat → Nat → Nat → List Char → List Char → Option (List Char)
  | _, _, _, _, _, out, [] => some out
  | 0, _, _, _, _, _, _ => none
  | fuel + 1, first, n, i, bias, out, digits => do
    let (j, rest) ← number? bias 36 i 1 digits
    let count := out.length + 1
    let n := n + j / count
    let place := j % count
    if n < 0xD800 || (0xDFFF < n && n < 0x110000) then
      insertNamed fuel false n (place + 1) (adapt (j - i) count first)
        (out.take place ++ Char.ofNat n :: out.drop place) rest
    else none

def decode? (s : List Char) : Option (List Char) :=
  let (lead, digits) := match s.reverse.span (· ≠ '-') with
    | (d, _ :: l) => (l.reverse, d.reverse)
    | (d, []) => ([], d.reverse)
  insertNamed digits.length true 128 0 72 lead digits

end WorkspaceGateway.Url.Punycode
