import WorkspaceGateway.Credential.Bearer
import WorkspaceGateway.Json.Reader
import WorkspaceGateway.Token.Keys

/-!
# Signed tokens

A token is a header, claims and a signature, each in base64url with dots between them. It is
accepted when its header names an RSA method and a known key, its signature is that key's, its
expiry is not past, and it names its subject and a user.
-/

set_option autoImplicit false

namespace WorkspaceGateway.Token

inductive Method where
  | hs256 | hs384 | hs512 | es256 | es384 | rs256 | rs384 | rs512 | ps256 | ps384 | ps512 | edDsa
  deriving DecidableEq, Repr

namespace Method

def all : List Method :=
  [hs256, hs384, hs512, es256, es384, rs256, rs384, rs512, ps256, ps384, ps512, edDsa]

def label : Method → String
  | hs256 => "HS256"
  | hs384 => "HS384"
  | hs512 => "HS512"
  | es256 => "ES256"
  | es384 => "ES384"
  | rs256 => "RS256"
  | rs384 => "RS384"
  | rs512 => "RS512"
  | ps256 => "PS256"
  | ps384 => "PS384"
  | ps512 => "PS512"
  | edDsa => "EdDSA"

def ofLabel? (s : String) : Option Method := all.find? fun m => m.label = s

def rsaHash? : Method → Option Digest.Hash
  | rs256 => some .sha256
  | rs384 => some .sha384
  | rs512 => some .sha512
  | _ => none

end Method

inductive InvalidToken where
  | notThreeParts
  | badBase64
  | badJson
  | unexpectedMethod (m : Method)
  | noKeyName
  | badSignature
  | noExpiry
  | expired
  deriving DecidableEq, Repr

inductive TokenError where
  | invalid (cause : InvalidToken)
  | unknownKey (id : String)
  | missingClaim (claim : String)
  deriving DecidableEq, Repr

namespace InvalidToken

def message : InvalidToken → String
  | notThreeParts => "InvalidToken"
  | badBase64 => "Base64 error"
  | badJson => "JSON error"
  | unexpectedMethod m => "unexpected signing method: " ++ m.label
  | noKeyName => "token header has no kid"
  | badSignature => "InvalidSignature"
  | noExpiry => "Missing required claim: exp"
  | expired => "ExpiredSignature"

end InvalidToken

namespace TokenError

def message : TokenError → String
  | invalid cause => "token is invalid: " ++ cause.message
  | unknownKey id => "no matching key: " ++ id
  | missingClaim claim => "token does not comply to expected claims: " ++ claim ++ " missing"

end TokenError

/-! ## Parts of a token -/

def cutLastDot (s : List Char) : Option (List Char × List Char) :=
  match s.reverse.span (· ≠ '.') with
  | (_, []) => none
  | (b, _ :: a) => some (a.reverse, b.reverse)

structure Parts where
  header : List Char
  claims : List Char
  signature : List Char

namespace Parts

def ofToken? (token : List Char) : Option Parts := do
  let (message, signature) ← cutLastDot token
  let (header, claims) ← cutLastDot message
  return ⟨header, claims, signature⟩

def message (p : Parts) : Octets := Octets.ofText (String.ofList (p.header ++ '.' :: p.claims))

end Parts

def document (part : List Char) : Except InvalidToken Json.Value :=
  match Base64Url.decode? part with
  | none => .error .badBase64
  | some b =>
    match Json.read? b with
    | none => .error .badJson
    | some v => .ok v

/-- The fields of a header, of which only two count. -/
def headerFields : List String :=
  ["typ", "alg", "cty", "jku", "jwk", "kid", "x5u", "x5c", "x5t", "x5t#S256"]

def method? : Option Json.Value → Option Method
  | some (.string s) => Method.ofLabel? s
  | some (.object [(s, .null)]) => Method.ofLabel? s
  | _ => none

def isOptionalTexts : Option Json.Value → Bool
  | none => true
  | some .null => true
  | some (.array vs) => vs.all fun v => v.string?.isSome
  | _ => false

def keyParts? (type : String) (curve : Option String) : Option (List String) :=
  let isCurve := match curve with
    | some c => ["P-256", "P-384", "P-521", "Ed25519"].contains c
    | none => false
  match type with
  | "RSA" => some ["n", "e"]
  | "oct" => some ["k"]
  | "EC" => if isCurve then some ["x", "y"] else none
  | "OKP" => if isCurve then some ["x"] else none
  | _ => none

def isKey (v : Json.Value) : Bool :=
  match v with
  | .object ms =>
    let once (n : String) : Option Json.Value := (Json.once? ms n).getD (some .unreadable)
    let text? (n : String) : Option String := (once n).bind Json.Value.string?
    let parts? := (text? "kty").bind fun type => keyParts? type (text? "crv")
    (["use", "alg", "kid", "x5u", "x5t", "x5t#S256"].all fun n =>
        (Json.optionalText? (once n)).isSome) &&
      (["key_ops", "x5c"].all fun n => isOptionalTexts (once n)) &&
      match parts? with
      | some ns => ns.all fun n => (text? n).isSome
      | none => false
  | _ => false

def isOptionalKey : Option Json.Value → Bool
  | none => true
  | some .null => true
  | some v => isKey v

def header? (v : Json.Value) : Option (Method × Option String) := do
  match ← Json.record? headerFields v with
  | [typ, alg, cty, jku, jwk, kid, x5u, x5c, x5t, x5t256] =>
    let m ← method? alg
    let id ← Json.optionalText? kid
    if ([typ, cty, jku, x5u, x5t, x5t256].all fun t => (Json.optionalText? t).isSome) &&
        isOptionalTexts x5c && isOptionalKey jwk then
      return (m, id)
    else none
  | _ => none

def readHeader (part : List Char) : Except InvalidToken (Method × Option String) :=
  match document part with
  | .error e => .error e
  | .ok v =>
    match header? v with
    | some h => .ok h
    | none => .error .badJson

structure ClaimSet where
  subject : Option String
  username : Option String
  email : Option String
  /-- The last second at which the token is good. -/
  expiry : Option Nat
  deriving DecidableEq, Repr

def seconds? (n : Json.Number) : Option Nat :=
  match n.natural? with
  | some k => some k
  | none =>
    match n.integer? with
    | some _ => none
    | none =>
      n.binary64?.bind fun x =>
        if x.negative && x.mantissa ≠ 0 then none
        else
          let k := x.roundHalfUp
          if k < UInt64.size then some k else none

/-- Whether a value can stand where a point in time is expected; other collections cannot. -/
def isTimeLike : Option Json.Value → Bool
  | some (.array (_ :: _)) => false
  | some (.object (_ :: _)) => false
  | _ => true

def claimSet? (v : Json.Value) : Option ClaimSet := do
  match v with
  | .object ms =>
    let sub ← Json.optionalText? (← Json.once? ms "sub")
    let username ← Json.optionalText? (← Json.once? ms "preferred_username")
    let email ← Json.optionalText? (← Json.once? ms "email")
    let exp ← Json.once? ms "exp"
    let nbf ← Json.once? ms "nbf"
    let _ ← Json.once? ms "iss"
    let _ ← Json.once? ms "aud"
    if isTimeLike exp && isTimeLike nbf then
      return ⟨sub, username, email, match exp with
        | some (.number n) => seconds? n
        | _ => none⟩
    else none
  | _ => none

def readClaims (part : List Char) : Except InvalidToken ClaimSet :=
  match document part with
  | .error e => .error e
  | .ok v =>
    match claimSet? v with
    | some c => .ok c
    | none => .error .badJson

/-! ## Validation -/

def leeway : Nat := 5

abbrev Verifier := Digest.Hash → RsaKey → Octets → Octets → Bool

def nonEmpty? (s : Option String) : Option String :=
  s.bind fun s => if s.isEmpty then none else some s

def checkExpiry (now : Nat) (c : ClaimSet) : Except InvalidToken Unit :=
  match c.expiry with
  | none => .error .noExpiry
  | some t => if t < now - leeway then .error .expired else .ok ()

def holder (c : ClaimSet) : Except TokenError Claims :=
  match nonEmpty? c.subject with
  | none => .error (.missingClaim "subject")
  | some subject =>
    match nonEmpty? c.username with
    | none => .error (.missingClaim "preferred_username")
    | some username => .ok ⟨subject, username, nonEmpty? c.email⟩

def signedClaims (verifies : Verifier) (now : Nat) (p : Parts) (h : Digest.Hash) (key : RsaKey) :
    Except InvalidToken ClaimSet :=
  match Base64Url.decode? p.signature with
  | none => .error .badBase64
  | some signature =>
    if !verifies h key p.message signature then .error .badSignature
    else match readClaims p.claims with
      | .error e => .error e
      | .ok c =>
        match checkExpiry now c with
        | .error e => .error e
        | .ok () => .ok c

def parse (verifies : Verifier) (keys : KeySet) (now : Nat) (token : String) :
    Except TokenError Claims :=
  match Parts.ofToken? token.toList with
  | none => .error (.invalid .notThreeParts)
  | some p =>
    match readHeader p.header with
    | .error e => .error (.invalid e)
    | .ok (m, id) =>
      match m.rsaHash? with
      | none => .error (.invalid (.unexpectedMethod m))
      | some h =>
        match id with
        | none => .error (.invalid .noKeyName)
        | some id =>
          match keys.get? id with
          | none => .error (.unknownKey id)
          | some key =>
            match signedClaims verifies now p h key with
            | .error e => .error (.invalid e)
            | .ok c => holder c

end WorkspaceGateway.Token
