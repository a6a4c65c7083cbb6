import WorkspaceGateway.Octets

/-!
# Elements of certificates and keys

A certificate or key is a tree of elements. Each has a tag, a length and as many octets of
content; the content of a collection is the elements it holds.
-/

set_option autoImplicit false

namespace WorkspaceGateway.Tls

structure Element where
  tag : UInt8
  content : Octets
  deriving DecidableEq, Repr

namespace Element

def bitString : UInt8 := 0x03
def octetString : UInt8 := 0x04
def collection : UInt8 := 0x30
def numbered (n : UInt8) : UInt8 := 0xa0 + n

/-- The length that some octets begin with, and the octets after it. Long lengths are written
with as few octets as can be. -/
def length? : Octets → Option (Nat × Octets)
  | [] => none
  | x :: r =>
    let n := x.toNat
    if n < 0x80 then some (n, r)
    else
      let width := n - 0x80
      let digits := r.take width
      let value := Octets.toNat digits
      if 1 ≤ width && width ≤ 4 && digits.length = width && digits.head? ≠ some 0 &&
          0x80 ≤ value then some (value, r.drop width)
      else none

def first? : Octets → Option (Element × Octets)
  | [] => none
  | tag :: r => do
    let (n, r) ← length? r
    if n ≤ r.length then some (⟨tag, r.take n⟩, r.drop n) else none

def all? : Nat → Octets → Option (List Element)
  | _, [] => some []
  | 0, _ => none
  | fuel + 1, b => do
    let (e, r) ← first? b
    return e :: (← all? fuel r)

def parts? (tag : UInt8) (e : Element) : Option (List Element) :=
  if e.tag = tag then all? e.content.length e.content else none

def partsOf? (b : Octets) : Option (List Element) := do
  let (e, rest) ← first? b
  if rest.isEmpty then parts? collection e else none

def bits? (e : Element) : Option Octets :=
  if e.tag = bitString then
    match e.content with
    | 0 :: b => some b
    | _ => none
  else none

end Element

end WorkspaceGateway.Tls
