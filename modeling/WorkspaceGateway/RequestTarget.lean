import WorkspaceGateway.Octets
import WorkspaceGateway.Text.Split

/-!
# Request targets

The target of a request is a path with perhaps a query, an absolute form with a scheme and an
authority before the path, an authority alone, or an asterisk. A fragment is dropped and nothing
is decoded.
-/

set_option autoImplicit false

namespace WorkspaceGateway

inductive TargetError where
  | empty
  | badCharacter
  | badAuthority
  | badFormat
  | tooLong
  | schemeTooLong
  deriving DecidableEq, Repr

namespace TargetError

def message : TargetError → String
  | empty => "empty string"
  | badCharacter => "invalid uri character"
  | badAuthority => "invalid authority"
  | badFormat => "invalid format"
  | tooLong => "uri too long"
  | schemeTooLong => "scheme too long"

end TargetError

structure RequestTarget where
  path : String
  query : Option String
  deriving DecidableEq, Repr

namespace RequestTarget

def maxLength : Nat := 65534

def maxSchemeLength : Nat := 64

def maxColons : Nat := 8

def isLetterOrDigit (n : Nat) : Bool :=
  (0x30 ≤ n && n ≤ 0x39) || (0x41 ≤ n && n ≤ 0x5A) || (0x61 ≤ n && n ≤ 0x7A)

def isSchemeOctet (x : UInt8) : Bool :=
  isLetterOrDigit x.toNat || x = 0x2B || x = 0x2D || x = 0x2E || x = 0x7E

def isAuthorityOctet (x : UInt8) : Bool :=
  isLetterOrDigit x.toNat || (Octets.ofLatin "!$&'()*+,-.;=_~").contains x

def isPathOctet (x : UInt8) : Bool :=
  let n := x.toNat
  n = 0x21 || n = 0x22 || (0x24 ≤ n && n ≤ 0x3B) || n = 0x3D || (0x40 ≤ n && n ≤ 0x5F) ||
    (0x61 ≤ n && n ≤ 0x7E) || 0x7F ≤ n

def isQueryOctet (x : UInt8) : Bool :=
  let n := x.toNat
  n = 0x21 || (0x24 ≤ n && n ≤ 0x3B) || n = 0x3D || 0x3F ≤ n

def pathAndQuery (b : Octets) : Except TargetError (Octets × Option Octets) :=
  let (path, rest) := b.span fun x => x ≠ 0x3F && x ≠ 0x23
  if !path.all isPathOctet then .error .badCharacter
  else match rest with
    | 0x3F :: r =>
      let query := r.takeWhile (· ≠ 0x23)
      if query.all isQueryOctet then .ok (path, some query) else .error .badCharacter
    | _ => .ok (path, none)

structure AuthorityScan where
  colons : Nat
  opened : Bool
  closed : Bool
  percent : Bool
  atLast : Bool

def scanAuthority (st : AuthorityScan) (seen : Octets) :
    Octets → Except TargetError (AuthorityScan × Octets × Octets)
  | [] => .ok (st, seen.reverse, [])
  | x :: r =>
    if x = 0x2F || x = 0x3F || x = 0x23 then .ok (st, seen.reverse, x :: r)
    else
      let go (st : AuthorityScan) := scanAuthority st (x :: seen) r
      let st := { st with atLast := false }
      if x = 0x3A then
        if maxColons ≤ st.colons then .error .badAuthority
        else go { st with colons := st.colons + 1 }
      else if x = 0x5B then
        if st.percent || st.opened then .error .badAuthority else go { st with opened := true }
      else if x = 0x5D then
        if !st.opened || st.closed then .error .badAuthority
        else go { st with closed := true, colons := 0, percent := false }
      else if x = 0x40 then go { st with atLast := true, colons := 0, percent := false }
      else if x = 0x25 then go { st with percent := true }
      else if isAuthorityOctet x then go st
      else .error .badCharacter

def takeAuthority (b : Octets) : Except TargetError (Octets × Octets) := do
  let (st, authority, rest) ← scanAuthority ⟨0, false, false, false, false⟩ [] b
  if (st.opened != st.closed) || 1 < st.colons || st.atLast || st.percent then
    .error .badAuthority
  else return (authority, rest)

def afterScheme (b : Octets) : Except TargetError (Option Octets) :=
  match b.span isSchemeOctet with
  | (scheme, 0x3A :: 0x2F :: 0x2F :: r) =>
    if maxSchemeLength < scheme.length then .error .schemeTooLong else .ok (some r)
  | _ => .ok none

private def ofParts (path : Octets) (query : Option Octets) (default : String) :
    Except TargetError RequestTarget :=
  let query? : Option (Option String) := match query with
    | none => some none
    | some q => q.text?.map some
  match path.text?, query? with
  | some p, some q => .ok ⟨if p.isEmpty then default else p, q⟩
  | _, _ => .error .badCharacter

def parse (b : Octets) : Except TargetError RequestTarget :=
  if maxLength < b.length then .error .tooLong
  else match b with
    | [] => .error .empty
    | [0x2A] => .ok ⟨"*", none⟩
    | 0x2F :: _ => do
      let (path, query) ← pathAndQuery b
      ofParts path query "/"
    | [_] => do
      let (_, rest) ← takeAuthority b
      if rest.isEmpty then return ⟨"", none⟩ else .error .badCharacter
    | _ => do
      match ← afterScheme b with
      | none =>
        let (_, rest) ← takeAuthority b
        if rest.isEmpty then return ⟨"", none⟩ else .error .badFormat
      | some r =>
        let (authority, rest) ← takeAuthority r
        if authority.isEmpty then .error .badFormat
        else
          let (path, query) ← pathAndQuery rest
          ofParts path query "/"

end RequestTarget

end WorkspaceGateway
