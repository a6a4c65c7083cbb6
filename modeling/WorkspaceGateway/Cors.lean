import WorkspaceGateway.Headers

/-!
# Cross-origin requests

The gateway answers preflights itself, echoing the header names that were asked for in a
canonical form, and states its own policy on every response it relays.
-/

set_option autoImplicit false

namespace WorkspaceGateway.Cors

def allowedMethods : List String := ["PUT", "PATCH", "POST", "GET", "DELETE", "OPTIONS"]

def exposedHeaders : String := "Content-Length, Content-Encoding, Authorization"

def isPreflight (method : String) (h : Headers) : Bool :=
  method = "OPTIONS" &&
    match h.first? "access-control-request-method" with
    | some v => !v.isEmpty
    | none => false

def isSeparator (c : Char) : Bool := c = ' ' || c = ','

def isKeptSign (c : Char) : Bool := c = '-' || c = '_' || c = '.' || c.isDigit

def nameChar (upper : Bool) (c : Char) : List Char :=
  if c.isAlpha then [if upper then c.toUpper else c.toLower]
  else if isKeptSign c then [c]
  else []

/-- The canonical names in a list, where `current` is the name read so far and `upper` whether
the next letter is capital. -/
def headerNames (upper : Bool) (current : List Char) : List Char → List (List Char)
  | [] => if current.isEmpty then [] else [current]
  | c :: r =>
    let current := current ++ nameChar upper c
    if isSeparator c then
      if current.isEmpty then headerNames upper [] r
      else current :: headerNames true [] r
    else headerNames (c = '-' || c = '_') current r

def parseHeaderList (s : List Char) : List (List Char) := headerNames true [] s

def isMethodAllowed (method : List Char) : Bool :=
  allowedMethods.contains (String.ofList (method.map Char.toUpper))

def joinNames (names : List (List Char)) : String :=
  String.ofList (Text.joinWith [',', ' '] names)

def insertText (h : Headers) (name text : String) : Headers :=
  let value := Octets.ofText text
  if Headers.isValue value then h.insert name value else h

/-- The response fields of a preflight. Without an origin, or for a method that is not allowed,
only the `Vary` values are added. -/
def preflightHeaders (request response : Headers) : Headers :=
  let response := ["Origin", "Access-Control-Request-Method",
    "Access-Control-Request-Headers"].foldl (fun h v => h.append "vary" (Octets.ofText v)) response
  if (request.firstText "origin").isEmpty then response
  else if !isMethodAllowed (request.firstText "access-control-request-method") then response
  else
    let names := parseHeaderList (request.firstText "access-control-request-headers")
    let response := response.insert "access-control-allow-origin" (Octets.ofText "*")
    let response := insertText response "access-control-allow-methods"
      (joinNames (allowedMethods.map String.toList))
    let response :=
      if names.isEmpty then response
      else insertText response "access-control-allow-headers" (joinNames names)
    response.insert "access-control-allow-credentials" (Octets.ofText "true")

def applyResponseHeaders (response : Headers) : Headers :=
  ((response.insert "access-control-allow-origin" (Octets.ofText "*")).insert
    "access-control-allow-credentials" (Octets.ofText "true")).insert
    "access-control-expose-headers" (Octets.ofText exposedHeaders)

end WorkspaceGateway.Cors
