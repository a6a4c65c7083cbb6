import WorkspaceGateway.Url.Address

/-!
# Socket addresses

An address to listen on is an IPv4 or a bracketed IPv6 address with a port. An IPv6 address may
name the interface it belongs to.
-/

set_option autoImplicit false

namespace WorkspaceGateway

inductive SocketAddress where
  | v4 (host port : Nat)
  | v6 (pieces : List Nat) (scope port : Nat)
  deriving DecidableEq, Repr

namespace SocketAddress

open Url

def number? (bound : Nat) (s : List Char) : Option Nat :=
  if s.isEmpty then none
  else (numberIn? 10 s).bind fun n => if n < bound then some n else none

def port? (s : List Char) : Option Nat := number? 65536 s

def dotted? (s : List Char) : Option Nat := do
  match ← (Text.splitAt '.' s).mapM plainOctet? with
  | [a, b, c, d] => some (((a * 256 + b) * 256 + c) * 256 + d)
  | _ => none

def scoped? (s : List Char) : Option (List Nat × Nat) := do
  match Text.splitAt '%' s with
  | [a] => return (← ipv6? a, 0)
  | [a, scope] => return (← ipv6? a, ← number? UInt32.size scope)
  | _ => none

def read? (s : String) : Option SocketAddress :=
  match s.toList with
  | '[' :: r => do
    match r.dropWhile (· ≠ ']') with
    | ']' :: ':' :: p =>
      let (pieces, scope) ← scoped? (r.takeWhile (· ≠ ']'))
      return .v6 pieces scope (← port? p)
    | _ => none
  | r => do
    match Text.splitAt ':' r with
    | [h, p] => return .v4 (← dotted? h) (← port? p)
    | _ => none

/-- An IPv6 address in its shortest form, an embedded IPv4 address in decimal. -/
def piecesText (ps : List Nat) : List Char :=
  match ps with
  | [0, 0, 0, 0, 0, 0xffff, a, b] => "::ffff:".toList ++ ipv4Text (a * 65536 + b)
  | _ => ipv6Text ps

def text : SocketAddress → String
  | v4 host port => String.ofList (ipv4Text host ++ ':' :: decimal port)
  | v6 ps scope port =>
    let interface := if scope = 0 then [] else '%' :: decimal scope
    String.ofList ('[' :: piecesText ps ++ interface ++ [']', ':'] ++ decimal port)

end SocketAddress

end WorkspaceGateway
