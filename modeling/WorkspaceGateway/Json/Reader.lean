import WorkspaceGateway.Json.Value
import WorkspaceGateway.Octets

/-!
# Reading JSON

One document and nothing after it but blanks. Numbers have no leading zeros, strings no raw
control characters, and an object may repeat a name.
-/

set_option autoImplicit false

namespace WorkspaceGateway.Json

open Octets

def isBlankOctet (x : UInt8) : Bool := x = 0x20 || x = 0x09 || x = 0x0A || x = 0x0D

def skipBlanks (b : Octets) : Octets := b.dropWhile isBlankOctet

def isDigitOctet (x : UInt8) : Bool := 0x30 ≤ x.toNat && x.toNat ≤ 0x39

def digitsValue (b : Octets) : Nat := b.foldl (fun n x => 10 * n + (x.toNat - 0x30)) 0

private def charOctets (n : Nat) : Octets := ofText (String.singleton (Char.ofNat n))

def unit? : Octets → Option (Nat × Octets)
  | a :: b :: c :: d :: r => do
    let va ← hexValue? (Char.ofNat a.toNat)
    let vb ← hexValue? (Char.ofNat b.toNat)
    let vc ← hexValue? (Char.ofNat c.toNat)
    let vd ← hexValue? (Char.ofNat d.toNat)
    some (((va * 16 + vb) * 16 + vc) * 16 + vd, r)
  | _ => none

/-- What an escape after the backslash stands for; nothing inside for a lone surrogate. -/
def escape? : Octets → Option (Option Octets × Octets)
  | [] => none
  | x :: r =>
    let one (y : UInt8) := some (some [y], r)
    if x = 0x22 then one 0x22
    else if x = 0x5C then one 0x5C
    else if x = 0x2F then one 0x2F
    else if x = 0x62 then one 0x08
    else if x = 0x66 then one 0x0C
    else if x = 0x6E then one 0x0A
    else if x = 0x72 then one 0x0D
    else if x = 0x74 then one 0x09
    else if x = 0x75 then
      match unit? r with
      | none => none
      | some (hi, r) =>
        if hi < 0xD800 || 0xDFFF < hi then some (some (charOctets hi), r)
        else if 0xDC00 ≤ hi then some (none, r)
        else match r with
          | 0x5C :: 0x75 :: r' =>
            match unit? r' with
            | none => none
            | some (lo, r'') =>
              if 0xDC00 ≤ lo && lo ≤ 0xDFFF then
                some (some (charOctets (0x10000 + (hi - 0xD800) * 1024 + (lo - 0xDC00))), r'')
              else some (none, r)
          | _ => some (none, r)
    else none

/-- The rest of a string after its opening quote: its octets unless some escape stands for no
character, and what follows the closing quote. The fuel is at least the length of the input. -/
def stringRest? : Nat → Octets → Option (Option Octets × Octets)
  | 0, _ => none
  | _ + 1, [] => none
  | fuel + 1, x :: r =>
    if x = 0x22 then some (some [], r)
    else if x = 0x5C then
      match escape? r with
      | none => none
      | some (piece, r) =>
        match stringRest? fuel r with
        | none => none
        | some (tail, r) => some (piece.bind fun p => tail.map (p ++ ·), r)
    else if x.toNat < 0x20 then none
    else match stringRest? fuel r with
      | none => none
      | some (tail, r) => some (tail.map (x :: ·), r)

def number? (b : Octets) : Option (Number × Octets) :=
  let (negative, b) := match b with
    | 0x2D :: r => (true, r)
    | _ => (false, b)
  let whole := b.takeWhile isDigitOctet
  let b := b.dropWhile isDigitOctet
  if whole.isEmpty || (whole.head? = some 0x30 && whole.length ≠ 1) then none
  else
    let fraction? : Option (Octets × Octets) := match b with
      | 0x2E :: r =>
        let ds := r.takeWhile isDigitOctet
        if ds.isEmpty then none else some (ds, r.dropWhile isDigitOctet)
      | _ => some ([], b)
    match fraction? with
    | none => none
    | some (fraction, b) =>
      let exponent? : Option (Option Int × Octets) := match b with
        | x :: r =>
          if x = 0x65 || x = 0x45 then
            let (minus, r) := match r with
              | 0x2D :: r => (true, r)
              | 0x2B :: r => (false, r)
              | _ => (false, r)
            let ds := r.takeWhile isDigitOctet
            if ds.isEmpty then none
            else
              let e : Int := digitsValue ds
              some (some (if minus then -e else e), r.dropWhile isDigitOctet)
          else some (none, b)
        | [] => some (none, b)
      match exponent? with
      | none => none
      | some (exponent, b) =>
        some (⟨negative, digitsValue (whole ++ fraction), exponent.getD 0 - fraction.length,
          fraction.isEmpty && exponent.isNone⟩, b)

mutual

def value? : Nat → Octets → Option (Value × Octets)
  | 0, _ => none
  | fuel + 1, b =>
    match skipBlanks b with
    | [] => none
    | x :: r =>
      if x = 0x22 then
        match stringRest? (r.length + 1) r with
        | none => none
        | some (piece, r) =>
          match piece.bind text? with
          | some s => some (.string s, r)
          | none => some (.unreadable, r)
      else if x = 0x5B then
        match skipBlanks r with
        | 0x5D :: r' => some (.array [], r')
        | _ =>
          match items? fuel r with
          | none => none
          | some (vs, r) => some (.array vs, r)
      else if x = 0x7B then
        match skipBlanks r with
        | 0x7D :: r' => some (.object [], r')
        | _ =>
          match members? fuel r with
          | none => none
          | some (ms, r) => some (.object ms, r)
      else if x = 0x2D || isDigitOctet x then
        match number? (x :: r) with
        | none => none
        | some (n, r) => some (.number n, r)
      else match x, r with
        | 0x74, 0x72 :: 0x75 :: 0x65 :: r => some (.bool true, r)
        | 0x66, 0x61 :: 0x6C :: 0x73 :: 0x65 :: r => some (.bool false, r)
        | 0x6E, 0x75 :: 0x6C :: 0x6C :: r => some (.null, r)
        | _, _ => none

def items? : Nat → Octets → Option (List Value × Octets)
  | 0, _ => none
  | fuel + 1, b =>
    match value? fuel b with
    | none => none
    | some (v, r) =>
      match skipBlanks r with
      | 0x5D :: r => some ([v], r)
      | 0x2C :: r => (items? fuel r).map fun (vs, r) => (v :: vs, r)
      | _ => none

def members? : Nat → Octets → Option (List (String × Value) × Octets)
  | 0, _ => none
  | fuel + 1, b =>
    match skipBlanks b with
    | 0x22 :: r =>
      match stringRest? (r.length + 1) r with
      | none => none
      | some (key, r) =>
        match key.bind text?, skipBlanks r with
        | some name, 0x3A :: r =>
          match value? fuel r with
          | none => none
          | some (v, r) =>
            match skipBlanks r with
            | 0x7D :: r => some ([(name, v)], r)
            | 0x2C :: r => (members? fuel r).map fun (ms, r) => ((name, v) :: ms, r)
            | _ => none
        | _, _ => none
    | _ => none

end

def read? (b : Octets) : Option Value :=
  match value? (2 * b.length + 2) b with
  | some (v, r) => if (skipBlanks r).isEmpty then some v else none
  | none => none

end WorkspaceGateway.Json
