/-!
# Octet strings

Header values, bodies and tokens travel as octets. A text becomes octets through UTF-8 and an
octet string is a text when it is the UTF-8 form of one.
-/

set_option autoImplicit false

namespace WorkspaceGateway

abbrev Octets := List UInt8

namespace Octets

def ofText (s : String) : Octets := s.toByteArray.data.toList

def text? (b : Octets) : Option String := String.fromUTF8? ⟨b.toArray⟩

theorem text?_ofText (s : String) : text? (ofText s) = some s := by
  have h : (⟨(ofText s).toArray⟩ : ByteArray) = s.toByteArray := by simp [ofText]
  simp only [text?, h, String.fromUTF8?, s.isValidUTF8, dif_pos, String.fromUTF8]

theorem ofText_of_text? {b : Octets} {s : String} (h : text? b = some s) : ofText s = b := by
  simp only [text?, String.fromUTF8?] at h
  split at h
  · injection h with h
    subst h
    simp [ofText, String.fromUTF8]
  · simp at h

/-- Only its own UTF-8 form reads as a text. -/
theorem text?_eq_some_iff {b : Octets} {s : String} : text? b = some s ↔ b = ofText s :=
  ⟨fun h => (ofText_of_text? h).symm, fun h => h ▸ text?_ofText s⟩

theorem ofText_injective {s t : String} (h : ofText s = ofText t) : s = t := by
  have hs := text?_ofText s
  rw [h, text?_ofText] at hs
  exact (Option.some.inj hs).symm

/-- An octet for each character of a text that holds code points below 256 only. -/
def ofLatin (s : String) : Octets := s.toList.map fun c => UInt8.ofNat c.toNat

private def hexChar (n : Nat) : Char :=
  Char.ofNat (if n < 10 then 48 + n else 87 + n)

def toHex (b : Octets) : String :=
  String.ofList (b.flatMap fun x => [hexChar (x.toNat / 16), hexChar (x.toNat % 16)])

def hexValue? (c : Char) : Option Nat :=
  let n := c.toNat
  if 48 ≤ n && n ≤ 57 then some (n - 48)
  else if 97 ≤ n && n ≤ 102 then some (n - 87)
  else if 65 ≤ n && n ≤ 70 then some (n - 55)
  else none

private def ofHexChars? : List Char → Option Octets
  | [] => some []
  | a :: b :: r => do
    let x ← hexValue? a
    let y ← hexValue? b
    let rest ← ofHexChars? r
    return UInt8.ofNat (16 * x + y) :: rest
  | [_] => none

def ofHex? (s : String) : Option Octets := ofHexChars? s.toList

def toNat (b : Octets) : Nat := b.foldl (fun n x => 256 * n + x.toNat) 0

end Octets

end WorkspaceGateway
