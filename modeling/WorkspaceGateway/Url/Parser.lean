import WorkspaceGateway.Url.Address
import WorkspaceGateway.Url.Domain
import WorkspaceGateway.Url.Path

/-!
# Reading URLs

Blanks and controls at the ends, tabs and line ends anywhere do not count. The text is cut into
scheme, authority, path, query and fragment, and each part is brought into its normal form.
-/

set_option autoImplicit false

namespace WorkspaceGateway.Url

def isSchemeChar (c : Char) : Bool := c.isAlphanum || c = '+' || c = '-' || c = '.'

def takeScheme? (s : List Char) : Option (String × List Char) :=
  match s.span isSchemeChar with
  | (c :: r, ':' :: rest) =>
    if c.isAlpha then some (String.ofList ((c :: r).map Char.toLower), rest) else none
  | _ => none

def cutAt (mark : Char) (s : List Char) : List Char × Option (List Char) :=
  match s.span (· ≠ mark) with
  | (a, []) => (a, none)
  | (a, _ :: b) => (a, some b)

def cutAtLast (mark : Char) (s : List Char) : Option (List Char × List Char) :=
  match s.reverse.span (· ≠ mark) with
  | (_, []) => none
  | (b, _ :: a) => some (a.reverse, b.reverse)

def opaqueHost? (s : List Char) : Except UrlError String :=
  match s with
  | '[' :: r =>
    match r.reverse with
    | ']' :: inner =>
      match ipv6? inner.reverse with
      | some ps => .ok ("[" ++ String.ofList (ipv6Text ps) ++ "]")
      | none => .error .badIpv6
    | _ => .error .badIpv6
  | _ =>
    if s.any fun c => c.toNat = 0 || "\t\n\r #/:<>?@[\\]^|".toList.contains c then
      .error .badDomainCharacter
    else .ok (String.ofList (percentEncode isControl s))

def specialHost? (s : List Char) : Except UrlError String :=
  match s with
  | '[' :: _ => opaqueHost? s
  | _ =>
    match domainAscii? (percentDecode (Octets.ofText (String.ofList s))) with
    | none => .error .badDomain
    | some [] => .error .emptyHost
    | some d =>
      if endsInNumber d then
        match ipv4? d with
        | some n => .ok (String.ofList (ipv4Text n))
        | none => .error .badIpv4
      else .ok (String.ofList d)

/-- The host at the start of an authority, up to a colon outside brackets, and what follows. -/
def takeHost (inside : Bool) : List Char → List Char × List Char
  | [] => ([], [])
  | c :: r =>
    if c = ':' && !inside then ([], c :: r)
    else
      let (h, rest) := takeHost (if c = '[' then true else if c = ']' then false else inside) r
      (c :: h, rest)

def readPort (scheme : String) (s : List Char) : Except UrlError (Option Nat) :=
  match s.foldl (fun n c => n.bind fun n =>
      (digitIn? 10 c).bind fun d => if n * 10 + d ≤ 65535 then some (n * 10 + d) else none)
      (some 0) with
  | none => .error .badPort
  | some n => .ok (if s.isEmpty || some n = schemePort? scheme then none else some n)

def userinfo (s : List Char) : String × Option String :=
  let encode (s : List Char) := String.ofList (percentEncode inUserinfoSet s)
  match cutAt ':' s with
  | (name, some (c :: p)) => (encode name, some (encode (c :: p)))
  | (name, _) => (encode name, none)

/-- An authority; `cut` when a query or a fragment follows and `path` what stands between. -/
def authority? (scheme : String) (s path : List Char) (cut : Bool) : Except UrlError Authority := do
  let (user, password, hostport) ← match cutAtLast '@' s with
    | none => pure ("", none, s)
    | some ([], rest) =>
      if rest.isEmpty && (cut || !path.isEmpty) then .error .emptyHost
      else pure ("", none, rest)
    | some (info, rest) =>
      let (name, password) := userinfo info
      pure (name, password, rest)
  let (host, rest) := takeHost false hostport
  let special := isSpecialScheme scheme
  if special && host.isEmpty then .error .emptyHost
  let host ← if special then specialHost? host else opaqueHost? host
  if host.isEmpty && !rest.isEmpty then .error .emptyHost
  let port ← match rest with
    | _ :: digits => readPort scheme digits
    | [] => pure none
  if host.isEmpty && (!user.isEmpty || password.isSome) then .error .emptyHost
  return ⟨user, password, host, port⟩

def fileHost? (s : List Char) : Except UrlError String :=
  if s.isEmpty then .ok ""
  else (specialHost? s).map fun h => if h = "localhost" then "" else h

def fileRest (s : List Char) : Except UrlError (Authority × List (List Char)) :=
  let noHost : Authority := ⟨"", none, "", none⟩
  match s with
  | a :: b :: r =>
    if isSlash true a && isSlash true b then
      let (host, path) := r.span fun c => !isSlash true c
      if isDriveLetter host then .ok (noHost, segmentsAfterRoot "file" r)
      else do
        let host ← fileHost? host
        let parts := pathSegments "file" path
        let drive := match parts with
          | p :: _ => isDriveLetter p
          | [] => false
        return ({ noHost with host := if drive then "" else host }, parts)
    else .ok (noHost, pathSegments "file" s)
  | _ => .ok (noHost, pathSegments "file" s)

def hierarchy (scheme : String) (s : List Char) (cut : Bool) :
    Except UrlError (Option Authority × UrlPath) :=
  if scheme = "file" then
    (fileRest s).map fun (a, parts) => (some a, .segments parts)
  else
    let special := isSpecialScheme scheme
    let after? := if special then some (s.dropWhile (isSlash true))
      else Text.stripLead? ['/', '/'] s
    match after? with
    | some r => do
      let (a, path) := r.span fun c => !isSlash special c
      let a ← authority? scheme a path cut
      return (some a, .segments (pathSegments scheme path))
    | none =>
      match s with
      | '/' :: r => .ok (none, .segments (segmentsAfterRoot scheme r))
      | _ => .ok (none, .flat (flatPath s))

def isEdge (c : Char) : Bool := c.toNat ≤ 0x20

def parse (text : String) : Except UrlError Url :=
  let s := ((text.toList.dropWhile isEdge).reverse.dropWhile isEdge).reverse
  match takeScheme? (s.filter (!isSkipped ·)) with
  | none => .error .noScheme
  | some (scheme, rest) => do
    let (rest, fragment) := cutAt '#' rest
    let (rest, query) := cutAt '?' rest
    let (authority, path) ← hierarchy scheme rest (query.isSome || fragment.isSome)
    return ⟨scheme, authority, path, query.map (queryText scheme),
      fragment.map fun f => String.ofList (percentEncode inFragmentSet f)⟩

end WorkspaceGateway.Url
