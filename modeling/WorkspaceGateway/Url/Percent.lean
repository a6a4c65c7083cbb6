import WorkspaceGateway.Octets

/-!
# Percent-encoding

A character outside ASCII, or one of a set that depends on the place in the URL, is written as
its UTF-8 octets, each as `%` and two capital hexadecimal digits.
-/

set_option autoImplicit false

namespace WorkspaceGateway.Url

def hexDigit (n : Nat) : Char := Char.ofNat (if n < 10 then 48 + n else 55 + n)

def percentOctet (x : UInt8) : List Char := ['%', hexDigit (x.toNat / 16), hexDigit (x.toNat % 16)]

def isControl (c : Char) : Bool := c.toNat < 0x20 || 0x7e < c.toNat

def inFragmentSet (c : Char) : Bool :=
  isControl c || c = ' ' || c = '"' || c = '<' || c = '>' || c.toNat = 0x60

def inPathSet (c : Char) : Bool :=
  inFragmentSet c || c = '#' || c = '?' || c = '{' || c = '}'

def inUserinfoSet (c : Char) : Bool :=
  inPathSet c || c = '/' || c = ':' || c = ';' || c = '=' || c = '@' || c = '[' || c = '\\' ||
    c = ']' || c = '^' || c = '|'

/-- In queries the apostrophe is encoded only under a special scheme. -/
def inQuerySet (special : Bool) (c : Char) : Bool :=
  isControl c || c = ' ' || c = '"' || c = '#' || c = '<' || c = '>' ||
    (special && c.toNat = 0x27)

def encodeChar (inSet : Char → Bool) (c : Char) : List Char :=
  if inSet c then (Octets.ofText (String.singleton c)).flatMap percentOctet else [c]

def percentEncode (inSet : Char → Bool) (s : List Char) : List Char := s.flatMap (encodeChar inSet)

def percentDecode : Octets → Octets
  | 0x25 :: a :: b :: r =>
    match Octets.hexValue? (Char.ofNat a.toNat), Octets.hexValue? (Char.ofNat b.toNat) with
    | some x, some y => UInt8.ofNat (16 * x + y) :: percentDecode r
    | _, _ => 0x25 :: percentDecode (a :: b :: r)
  | x :: r => x :: percentDecode r
  | [] => []
termination_by b => b.length

end WorkspaceGateway.Url
