import WorkspaceGateway.Base64Url
import WorkspaceGateway.Fault
import WorkspaceGateway.Headers

/-!
# Bearer tokens in WebSocket sub-protocols

A browser cannot set the authorization field of a WebSocket handshake, so the token travels as
one of the sub-protocols offered: a fixed lead and the unpadded base64url form of the token.
-/

set_option autoImplicit false

namespace WorkspaceGateway.Credential

def subprotocolField : String := "sec-websocket-protocol"

def bearerLead : List Char := "base64url.bearer.authorization.k8s.io.".toList

inductive SubprotocolError where
  | several
  | absent
  | badEncoding
  | notText
  deriving DecidableEq, Repr

namespace SubprotocolError

def message : SubprotocolError → String
  | several => "multiple base64.bearer.authorization tokens specified"
  | absent => "no base64.bearer.authorization token found"
  | badEncoding => "invalid base64.bearer.authorization token encoding"
  | notText => "invalid base64.bearer.authorization token: contains non UTF-8-encoded runes"

end SubprotocolError

def encodedTokens (h : Headers) : List (List Char) :=
  (h.entries subprotocolField).filterMap (Text.stripLead? bearerLead)

def decodeToken (encoded : List Char) : Except SubprotocolError String :=
  match Base64Url.decode? encoded with
  | none => .error .badEncoding
  | some b =>
    match Octets.text? b with
    | none => .error .notText
    | some s => if s.isEmpty then .error .absent else .ok s

def subprotocolToken (h : Headers) : Except SubprotocolError String :=
  match encodedTokens h with
  | [] => .error .absent
  | [e] => decodeToken e
  | _ => .error .several

def bearerEntry (token : String) : List Char :=
  bearerLead ++ Base64Url.encode (Octets.ofText token)

def replaceEntry (replacement entry : List Char) : List Char :=
  if bearerLead.isPrefixOf entry then replacement else entry

/-- Offers another token in place of each bearer entry, all entries in one value. -/
def replaceSubprotocolToken (h : Headers) (token : String) : Headers :=
  let entries := (h.entries subprotocolField).filter fun e => !e.isEmpty
  let entries := entries.map (replaceEntry (bearerEntry token))
  h.insert subprotocolField (Octets.ofText (String.ofList (Text.joinWith [','] entries)))

def exchangeSubprotocolToken (h : Headers) (token : String) : Except Fault Headers :=
  let replaced := replaceSubprotocolToken h token
  if (replaced.values subprotocolField).all Headers.isValue then .ok replaced
  else .error (.internal "invalid websocket protocol header: failed to parse header value")

end WorkspaceGateway.Credential
