import WorkspaceGateway.Fault
import WorkspaceGateway.Tls.Der
import WorkspaceGateway.Tls.Pem

/-!
# Certificates and keys of the listener

The listener needs a chain of certificates and exactly one private key, which has to be that of
the first certificate.
-/

set_option autoImplicit false

namespace WorkspaceGateway.Tls

inductive MaterialError where
  | unreadableCertificate
  | noCertificate
  | notOneKey
  | unreadableKey
  | mismatch
  deriving DecidableEq, Repr

namespace MaterialError

/-- What is said of unusable material, whatever is wrong with it. -/
def fault (_ : MaterialError) : Fault := .config "TLS config error"

end MaterialError

inductive PublicKey where
  | rsa (modulus exponent : Octets)
  | point (p : Octets)
  deriving DecidableEq, Repr

namespace PublicKey

def ofBits (b : Octets) : PublicKey :=
  match Element.partsOf? b with
  | some [n, e] => .rsa n.content e.content
  | _ => .point b

def afterVersion : List Element → List Element
  | [] => []
  | e :: es => if e.tag = Element.numbered 0 then es else e :: es

/-- The public key of a certificate: of the parts of its body the one after number, method,
issuer, validity and subject. -/
def ofCertificate? (b : Octets) : Option PublicKey := do
  match ← Element.partsOf? b with
  | body :: _ :: _ :: [] =>
    match afterVersion (← body.parts? Element.collection) with
    | _ :: _ :: _ :: _ :: _ :: entry :: _ =>
      match ← entry.parts? Element.collection with
      | [_, bits] => return ofBits (← bits.bits?)
      | _ => none
    | _ => none
  | _ => none

def ofRsaKey? (b : Octets) : Option PublicKey := do
  match ← Element.partsOf? b with
  | _ :: n :: e :: _ :: _ => some (.rsa n.content e.content)
  | _ => none

def ofCurveKey? (b : Octets) : Option (Option PublicKey) := do
  let parts ← Element.partsOf? b
  match parts.find? fun e => e.tag = Element.numbered 1 with
  | none => some none
  | some e =>
    match ← e.parts? (Element.numbered 1) with
    | [bits] => return some (.point (← bits.bits?))
    | _ => none

def ofAnyKey? (b : Octets) : Option (Option PublicKey) := do
  match ← Element.partsOf? b with
  | _ :: _ :: key :: _ =>
    if key.tag ≠ Element.octetString then none
    else match ofRsaKey? key.content with
      | some k => some (some k)
      | none => some ((ofCurveKey? key.content).getD none)
  | _ => none

end PublicKey

def isKeyLabel (label : List Char) : Bool :=
  ["RSA PRIVATE KEY", "EC PRIVATE KEY", "PRIVATE KEY"].contains (String.ofList label)

def publicHalf? (s : Section) : Option (Option PublicKey) :=
  match String.ofList s.label with
  | "RSA PRIVATE KEY" => (PublicKey.ofRsaKey? s.content).map some
  | "EC PRIVATE KEY" => PublicKey.ofCurveKey? s.content
  | _ => PublicKey.ofAnyKey? s.content

def leaf (text : String) : Except MaterialError Octets :=
  match (Section.ofText text).mapM id with
  | none => .error .unreadableCertificate
  | some ss =>
    match ss.find? fun s => s.label = "CERTIFICATE".toList with
    | none => .error .noCertificate
    | some s => .ok s.content

def privateKey (text : String) : Except MaterialError Section :=
  match ((Section.ofText text).filterMap id).filter fun s => isKeyLabel s.label with
  | [s] => .ok s
  | _ => .error .notOneKey

def check (chain key : String) : Except MaterialError Unit := do
  let certificate ← leaf chain
  let secret ← privateKey key
  match PublicKey.ofCertificate? certificate, publicHalf? secret with
  | none, _ => .error .unreadableCertificate
  | _, none => .error .unreadableKey
  | some _, some none => .ok ()
  | some p, some (some q) => if p = q then .ok () else .error .mismatch

end WorkspaceGateway.Tls
