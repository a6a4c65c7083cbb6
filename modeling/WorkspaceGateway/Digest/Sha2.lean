import WorkspaceGateway.Octets

/-!
# SHA-2

SHA-256 works on words of 32 bits and SHA-384 and SHA-512 on words of 64 bits, otherwise alike:
the message is padded to whole blocks of sixteen words, and each block is mixed into a state of
eight words. The shorter constants are the upper halves of the longer ones.
-/

set_option autoImplicit false

namespace WorkspaceGateway.Digest

/-- The first bits after the point of the cube roots of the first eighty primes. -/
def roundConstants : Array UInt64 :=
  #[
    0x428a2f98d728ae22, 0x7137449123ef65cd, 0xb5c0fbcfec4d3b2f, 0xe9b5dba58189dbbc,
    0x3956c25bf348b538, 0x59f111f1b605d019, 0x923f82a4af194f9b, 0xab1c5ed5da6d8118,
    0xd807aa98a3030242, 0x12835b0145706fbe, 0x243185be4ee4b28c, 0x550c7dc3d5ffb4e2,
    0x72be5d74f27b896f, 0x80deb1fe3b1696b1, 0x9bdc06a725c71235, 0xc19bf174cf692694,
    0xe49b69c19ef14ad2, 0xefbe4786384f25e3, 0x0fc19dc68b8cd5b5, 0x240ca1cc77ac9c65,
    0x2de92c6f592b0275, 0x4a7484aa6ea6e483, 0x5cb0a9dcbd41fbd4, 0x76f988da831153b5,
    0x983e5152ee66dfab, 0xa831c66d2db43210, 0xb00327c898fb213f, 0xbf597fc7beef0ee4,
    0xc6e00bf33da88fc2, 0xd5a79147930aa725, 0x06ca6351e003826f, 0x142929670a0e6e70,
    0x27b70a8546d22ffc, 0x2e1b21385c26c926, 0x4d2c6dfc5ac42aed, 0x53380d139d95b3df,
    0x650a73548baf63de, 0x766a0abb3c77b2a8, 0x81c2c92e47edaee6, 0x92722c851482353b,
    0xa2bfe8a14cf10364, 0xa81a664bbc423001, 0xc24b8b70d0f89791, 0xc76c51a30654be30,
    0xd192e819d6ef5218, 0xd69906245565a910, 0xf40e35855771202a, 0x106aa07032bbd1b8,
    0x19a4c116b8d2d0c8, 0x1e376c085141ab53, 0x2748774cdf8eeb99, 0x34b0bcb5e19b48a8,
    0x391c0cb3c5c95a63, 0x4ed8aa4ae3418acb, 0x5b9cca4f7763e373, 0x682e6ff3d6b2b8a3,
    0x748f82ee5defb2fc, 0x78a5636f43172f60, 0x84c87814a1f0ab72, 0x8cc702081a6439ec,
    0x90befffa23631e28, 0xa4506cebde82bde9, 0xbef9a3f7b2c67915, 0xc67178f2e372532b,
    0xca273eceea26619c, 0xd186b8c721c0c207, 0xeada7dd6cde0eb1e, 0xf57d4f7fee6ed178,
    0x06f067aa72176fba, 0x0a637dc5a2c898a6, 0x113f9804bef90dae, 0x1b710b35131c471b,
    0x28db77f523047d84, 0x32caab7b40c72493, 0x3c9ebe0a15c9bebc, 0x431d67c49c100d4c,
    0x4cc5d4becb3e42b6, 0x597f299cfc657e2a, 0x5fcb6fab3ad6faec, 0x6c44198c4a475817]

/-- The first bits after the point of the square roots of the first eight primes. -/
def initial512 : Array UInt64 :=
  #[
    0x6a09e667f3bcc908, 0xbb67ae8584caa73b, 0x3c6ef372fe94f82b, 0xa54ff53a5f1d36f1,
    0x510e527fade682d1, 0x9b05688c2b3e6c1f, 0x1f83d9abfb41bd6b, 0x5be0cd19137e2179]

def initial384 : Array UInt64 :=
  #[
    0xcbbb9d5dc1059ed8, 0x629a292a367cd507, 0x9159015a3070dd17, 0x152fecd8f70e5939,
    0x67332667ffc00b31, 0x8eb44a8768581511, 0xdb0c2e0d64f98fa7, 0x47b5481dbefa4fa4]

def upperHalf (x : UInt64) : UInt32 := (x >>> 32).toUInt32

def bigEndian (count n : Nat) : Octets :=
  (List.range count).map fun i => UInt8.ofNat (n / Nat.pow 256 (count - 1 - i))

def pad (block lengthOctets : Nat) (m : Octets) : Octets :=
  let used := (m.length + 1 + lengthOctets) % block
  let zeros := (block - used) % block
  m ++ 0x80 :: (List.replicate zeros 0 ++ bigEndian lengthOctets (8 * m.length))

/-- A list in pieces of a length; the fuel is at least the number of pieces. -/
def chunks {α : Type} (size : Nat) : Nat → List α → List (List α)
  | 0, _ => []
  | fuel + 1, xs => if xs.isEmpty then [] else xs.take size :: chunks size fuel (xs.drop size)

/-! ## Words of 32 bits -/

def rotate32 (x : UInt32) (n : UInt32) : UInt32 := (x >>> n) ||| (x <<< (32 - n))

def schedule32 (block : List UInt32) : Array UInt32 :=
  (List.range 48).foldl (fun w i =>
    let t := i + 16
    let a := w.getD (t - 15) 0
    let b := w.getD (t - 2) 0
    let s0 := rotate32 a 7 ^^^ rotate32 a 18 ^^^ (a >>> 3)
    let s1 := rotate32 b 17 ^^^ rotate32 b 19 ^^^ (b >>> 10)
    w.push (w.getD (t - 16) 0 + s0 + w.getD (t - 7) 0 + s1)) block.toArray

def round32 (w : Array UInt32) (s : Array UInt32) (i : Nat) : Array UInt32 :=
  let g (k : Nat) := s.getD k 0
  let e := g 4
  let a := g 0
  let s1 := rotate32 e 6 ^^^ rotate32 e 11 ^^^ rotate32 e 25
  let ch := (e &&& g 5) ^^^ ((e ^^^ 0xffffffff) &&& g 6)
  let t1 := g 7 + s1 + ch + upperHalf (roundConstants.getD i 0) + w.getD i 0
  let s0 := rotate32 a 2 ^^^ rotate32 a 13 ^^^ rotate32 a 22
  let maj := (a &&& g 1) ^^^ (a &&& g 2) ^^^ (g 1 &&& g 2)
  #[t1 + (s0 + maj), a, g 1, g 2, g 3 + t1, e, g 5, g 6]

def mix32 (s : Array UInt32) (block : Octets) : Array UInt32 :=
  let w := schedule32 ((chunks 4 16 block).map fun b => UInt32.ofNat (Octets.toNat b))
  let r := (List.range 64).foldl (round32 w) s
  Array.zipWith (· + ·) s r

def sha256 (m : Octets) : Octets :=
  let padded := pad 64 8 m
  let s := (chunks 64 (padded.length / 64) padded).foldl mix32 (initial512.map upperHalf)
  s.toList.flatMap fun x => bigEndian 4 x.toNat

/-! ## Words of 64 bits -/

def rotate64 (x : UInt64) (n : UInt64) : UInt64 := (x >>> n) ||| (x <<< (64 - n))

def schedule64 (block : List UInt64) : Array UInt64 :=
  (List.range 64).foldl (fun w i =>
    let t := i + 16
    let a := w.getD (t - 15) 0
    let b := w.getD (t - 2) 0
    let s0 := rotate64 a 1 ^^^ rotate64 a 8 ^^^ (a >>> 7)
    let s1 := rotate64 b 19 ^^^ rotate64 b 61 ^^^ (b >>> 6)
    w.push (w.getD (t - 16) 0 + s0 + w.getD (t - 7) 0 + s1)) block.toArray

def round64 (w : Array UInt64) (s : Array UInt64) (i : Nat) : Array UInt64 :=
  let g (k : Nat) := s.getD k 0
  let e := g 4
  let a := g 0
  let s1 := rotate64 e 14 ^^^ rotate64 e 18 ^^^ rotate64 e 41
  let ch := (e &&& g 5) ^^^ ((e ^^^ 0xffffffffffffffff) &&& g 6)
  let t1 := g 7 + s1 + ch + roundConstants.getD i 0 + w.getD i 0
  let s0 := rotate64 a 28 ^^^ rotate64 a 34 ^^^ rotate64 a 39
  let maj := (a &&& g 1) ^^^ (a &&& g 2) ^^^ (g 1 &&& g 2)
  #[t1 + (s0 + maj), a, g 1, g 2, g 3 + t1, e, g 5, g 6]

def mix64 (s : Array UInt64) (block : Octets) : Array UInt64 :=
  let w := schedule64 ((chunks 8 16 block).map fun b => UInt64.ofNat (Octets.toNat b))
  let r := (List.range 80).foldl (round64 w) s
  Array.zipWith (· + ·) s r

def digest64 (initial : Array UInt64) (m : Octets) : Octets :=
  let padded := pad 128 16 m
  let s := (chunks 128 (padded.length / 128) padded).foldl mix64 initial
  s.toList.flatMap fun x => bigEndian 8 x.toNat

def sha512 (m : Octets) : Octets := digest64 initial512 m

def sha384 (m : Octets) : Octets := (digest64 initial384 m).take 48

inductive Hash where
  | sha256
  | sha384
  | sha512
  deriving DecidableEq, Repr

def Hash.digest : Hash → Octets → Octets
  | .sha256 => Digest.sha256
  | .sha384 => Digest.sha384
  | .sha512 => Digest.sha512

end WorkspaceGateway.Digest
