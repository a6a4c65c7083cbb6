import WorkspaceGateway.Octets
import WorkspaceGateway.Text.Split

/-!
# Network addresses in URLs

An IPv4 address in a URL has one to four parts, each decimal, octal or hexadecimal, the last of
which fills the octets that are left; it is written with four decimal parts. An IPv6 address is
written with its longest run of zero pieces left out.
-/

set_option autoImplicit false

namespace WorkspaceGateway.Url

def digitIn? (radix : Nat) (c : Char) : Option Nat :=
  (Octets.hexValue? c).bind fun v => if v < radix then some v else none

def numberIn? (radix : Nat) (s : List Char) : Option Nat :=
  s.foldl (fun n c => n.bind fun n => (digitIn? radix c).map (n * radix + ·)) (some 0)

/-- A part of an IPv4 address: `0x` leads hexadecimal digits and another `0` octal ones. -/
def ipv4Part? : List Char → Option Nat
  | [] => none
  | '0' :: x :: r =>
    if x = 'x' || x = 'X' then numberIn? 16 r else numberIn? 8 (x :: r)
  | s => numberIn? 10 s

def endsInNumber (domain : List Char) : Bool :=
  let last? := match (Text.splitAt '.' domain).reverse with
    | [] => none
    | [p] => some p
    | p :: q :: _ => if p.isEmpty then some q else some p
  match last? with
  | none => false
  | some [] => false
  | some p => p.all Char.isDigit || (ipv4Part? p).isSome

/-- The parts before the last are octets from the highest down; the last fills the rest. -/
def combineParts (parts : List Nat) : Option Nat :=
  match parts.reverse with
  | [] => none
  | last :: before =>
    if 4 < parts.length then none
    else if before.any (255 < ·) then none
    else
      let room := Nat.pow 256 (4 - before.length)
      if room ≤ last then none
      else some (before.reverse.foldl (fun n p => n * 256 + p) 0 * room + last)

def ipv4? (domain : List Char) : Option Nat := do
  let parts := Text.splitAt '.' domain
  let parts := if parts.getLast? = some [] then parts.dropLast else parts
  combineParts (← parts.mapM ipv4Part?)

def decimal (n : Nat) : List Char := Nat.toDigits 10 n

def ipv4Text (n : Nat) : List Char :=
  decimal (n / 16777216 % 256) ++ ['.'] ++ decimal (n / 65536 % 256) ++ ['.'] ++
    decimal (n / 256 % 256) ++ ['.'] ++ decimal (n % 256)

def plainOctet? (s : List Char) : Option Nat :=
  if s.isEmpty || (s.head? = some '0' && s.length ≠ 1) || 3 < s.length then none
  else (numberIn? 10 s).bind fun n => if n ≤ 255 then some n else none

def dottedPieces? (s : List Char) : Option (List Nat) := do
  match ← (Text.splitAt '.' s).mapM plainOctet? with
  | [a, b, c, d] => some [a * 256 + b, c * 256 + d]
  | _ => none

def piece? (s : List Char) : Option Nat :=
  if s.isEmpty || 4 < s.length then none else numberIn? 16 s

/-- Pieces between colons; the last may be a dotted IPv4 address where `tail` says so. -/
def pieces? (tail : Bool) : List (List Char) → Option (List Nat)
  | [] => some []
  | [p] =>
    if tail && p.contains '.' then dottedPieces? p else (piece? p).map fun n => [n]
  | p :: ps => do
    let n ← piece? p
    let ns ← pieces? tail ps
    return n :: ns

def splitDoubleColon : List Char → Option (List Char × List Char)
  | ':' :: ':' :: r => some ([], r)
  | c :: r => (splitDoubleColon r).map fun (a, b) => (c :: a, b)
  | [] => none

def colonPieces? (tail : Bool) (s : List Char) : Option (List Nat) :=
  if s.isEmpty then some [] else pieces? tail (Text.splitAt ':' s)

def ipv6? (s : List Char) : Option (List Nat) :=
  match splitDoubleColon s with
  | none => (colonPieces? true s).bind fun ps => if ps.length = 8 then some ps else none
  | some (a, b) => do
    let before ← colonPieces? false a
    let after ← colonPieces? true b
    if 7 < before.length + after.length then none
    else some (before ++ List.replicate (8 - before.length - after.length) 0 ++ after)

def zeroRun (ps : List Nat) : Nat := (ps.takeWhile (· = 0)).length

def longestZeroRun (ps : List Nat) : Option (Nat × Nat) :=
  (List.range ps.length).foldl (fun best i =>
    let n := zeroRun (ps.drop i)
    if n < 2 then best
    else match best with
      | none => some (i, n)
      | some (j, m) => if m < n then some (i, n) else some (j, m)) none

def hexText (n : Nat) : List Char := Nat.toDigits 16 n

def piecesText (ps : List Nat) : List Char := Text.joinWith [':'] (ps.map hexText)

def ipv6Text (ps : List Nat) : List Char :=
  match longestZeroRun ps with
  | none => piecesText ps
  | some (i, n) => piecesText (ps.take i) ++ [':', ':'] ++ piecesText (ps.drop (i + n))

end WorkspaceGateway.Url
