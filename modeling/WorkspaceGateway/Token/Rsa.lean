import WorkspaceGateway.Digest.Sha2

/-!
# RSA signatures

A signature is as long as the modulus and, raised to the public exponent, gives a fixed lead, the
name of the hash function and the digest of the message. Keys from 2048 to 8192 bits count.
-/

set_option autoImplicit false

namespace WorkspaceGateway.Token

open Digest

structure RsaKey where
  modulus : Octets
  exponent : Octets
  deriving DecidableEq, Repr

namespace Rsa

/-- Powers modulo a number, by repeated squaring; the fuel is at least the exponent's bits. -/
def powMod (m : Nat) : Nat → Nat → Nat → Nat
  | 0, _, _ => 1 % m
  | fuel + 1, b, e =>
    if e = 0 then 1 % m
    else
      let half := powMod m fuel (b * b % m) (e / 2)
      if e % 2 = 1 then b * half % m else half

def minimal? (b : Octets) : Option Nat :=
  match b with
  | [] => none
  | 0 :: _ => none
  | _ => some b.toNat

def modulus? (b : Octets) : Option Nat := do
  let n ← minimal? b
  if n % 2 = 1 && 256 ≤ b.length && b.length ≤ 1024 then some n else none

def exponent? (b : Octets) : Option Nat := do
  let e ← minimal? b
  if e % 2 = 1 && 3 ≤ e && e < 0x200000000 then some e else none

def digestLead : Hash → Octets
  | .sha256 => [0x30, 0x31, 0x30, 0x0d, 0x06, 0x09, 0x60, 0x86, 0x48, 0x01, 0x65, 0x03, 0x04, 0x02,
      0x01, 0x05, 0x00, 0x04, 0x20]
  | .sha384 => [0x30, 0x41, 0x30, 0x0d, 0x06, 0x09, 0x60, 0x86, 0x48, 0x01, 0x65, 0x03, 0x04, 0x02,
      0x02, 0x05, 0x00, 0x04, 0x30]
  | .sha512 => [0x30, 0x51, 0x30, 0x0d, 0x06, 0x09, 0x60, 0x86, 0x48, 0x01, 0x65, 0x03, 0x04, 0x02,
      0x03, 0x05, 0x00, 0x04, 0x40]

def encoded (h : Hash) (length : Nat) (message : Octets) : Octets :=
  let tail := 0x00 :: (digestLead h ++ h.digest message)
  0x00 :: 0x01 :: (List.replicate (length - 2 - tail.length) 0xff ++ tail)

def verifies (h : Hash) (key : RsaKey) (message signature : Octets) : Bool :=
  match modulus? key.modulus, exponent? key.exponent with
  | some n, some e =>
    let s := signature.toNat
    signature.length = key.modulus.length && s < n &&
      bigEndian key.modulus.length (powMod n 40 s e) = encoded h key.modulus.length message
  | _, _ => false

end Rsa

end WorkspaceGateway.Token
