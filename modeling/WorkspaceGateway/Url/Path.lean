import WorkspaceGateway.Url.Basic
import WorkspaceGateway.Text.Split

/-!
# Paths of URLs

A path is cut at its slashes. A segment of one dot, plain or encoded, stands for nothing, and one
of two dots takes the segment before it away; all others are percent-encoded. The new path of a
URL is read the same way.
-/

set_option autoImplicit false

namespace WorkspaceGateway.Url

def isSkipped (c : Char) : Bool := c = '\t' || c = '\n' || c = '\r'

def isSlash (special : Bool) (c : Char) : Bool := c = '/' || (special && c = '\\')

def takeDot? : List Char → Option (List Char)
  | '.' :: r => some r
  | '%' :: '2' :: e :: r => if e = 'e' || e = 'E' then some r else none
  | _ => none

def isSingleDot (s : List Char) : Bool := takeDot? s = some []

def isDoubleDot (s : List Char) : Bool := (takeDot? s).bind takeDot? = some []

def isDriveLetter : List Char → Bool
  | [a, b] => a.isAlpha && (b = ':' || b = '|')
  | _ => false

/-- The segments, last first, without the last one; a drive letter stays. -/
def dropSegment : List (List Char) → List (List Char)
  | [] => []
  | s :: ss => if isDriveLetter s then s :: ss else ss

def enterSegment (done : List (List Char)) (s : List Char) : List (List Char) :=
  if isDoubleDot s then dropSegment done
  else if isSingleDot s then done
  else s :: done

def closeSegments (done : List (List Char)) (s : List Char) : List (List Char) :=
  if isDoubleDot s then (dropSegment done).reverse ++ [[]]
  else if isSingleDot s then done.reverse ++ [[]]
  else done.reverse ++ [s]

def resolveSegments (done : List (List Char)) : List (List Char) → List (List Char)
  | [] => closeSegments done []
  | [s] => closeSegments done s
  | s :: t :: r => resolveSegments (enterSegment done s) (t :: r)

def cutSegments (special : Bool) (s : List Char) : List (List Char) :=
  Text.splitAt '/' (s.map fun c => if isSlash special c then '/' else c)

/-- A drive letter at the start of a path under the `file` scheme is written with a colon, and
anything after it in its segment is a segment of its own. -/
def normalizeDrive : List (List Char) → List (List Char)
  | (a :: b :: r) :: ss =>
    if a.isAlpha && (b = ':' || b = '|') && r.isEmpty then [a, ':'] :: ss
    else if a.isAlpha && b = ':' then [a, ':'] :: r :: ss
    else (a :: b :: r) :: ss
  | ss => ss

def dropEmptySegments : List (List Char) → List (List Char)
  | [] :: t :: r => dropEmptySegments (t :: r)
  | ss => ss

def segmentsAfterRoot (scheme : String) (s : List Char) : List (List Char) :=
  let special := isSpecialScheme scheme
  let raw := (cutSegments special (s.filter (!isSkipped ·))).map (percentEncode inPathSet)
  if scheme = "file" then dropEmptySegments (resolveSegments [] (normalizeDrive raw))
  else resolveSegments [] raw

def pathSegments (scheme : String) (s : List Char) : List (List Char) :=
  match s.filter (!isSkipped ·) with
  | [] => if isSpecialScheme scheme then [[]] else []
  | c :: r =>
    if isSlash (isSpecialScheme scheme) c then segmentsAfterRoot scheme r
    else segmentsAfterRoot scheme (c :: r)

def flatPath (s : List Char) : List Char := percentEncode isControl (s.filter (!isSkipped ·))

/-- Gives a URL another path. A flat path stays flat, so it may not begin with a slash. -/
def setPath (u : Url) (s : List Char) : Url :=
  match u.path with
  | .flat _ =>
    match s with
    | '/' :: r => { u with path := .flat ("%2F".toList ++ flatPath r) }
    | _ => { u with path := .flat (flatPath s) }
  | .segments _ => { u with path := .segments (pathSegments u.scheme s) }

def queryText (scheme : String) (s : List Char) : String :=
  String.ofList (percentEncode (inQuerySet (isSpecialScheme scheme)) (s.filter (!isSkipped ·)))

def trimFlatPath (u : Url) : Url :=
  match u.path, u.fragment with
  | .flat t, none => { u with path := .flat (t.reverse.dropWhile (· = ' ')).reverse }
  | _, _ => u

def setQuery (u : Url) : Option String → Url
  | some q => { u with query := some (queryText u.scheme q.toList) }
  | none => trimFlatPath { u with query := none }

end WorkspaceGateway.Url
