import WorkspaceGateway.Fault
import WorkspaceGateway.Text.Blank
import WorkspaceGateway.Text.Quoted
import WorkspaceGateway.Text.Split

/-!
# Request paths

A request path may begin with `/plugins/<name>` and then with `/workspaces/<name>`. The two
parts say where the request goes; what remains is the path on the target. A path that begins
like such a part and does not finish it is refused.
-/

set_option autoImplicit false

namespace WorkspaceGateway

structure RequestPath where
  plugin : Option String
  /-- The workspace named; none is the caller's home workspace. -/
  workspace : Option String
  rest : String
  deriving DecidableEq, Repr

inductive PathError where
  /-- The plugin name is blank; with the whole path. -/
  | blankPlugin (path : String)
  /-- The workspace name is empty or nothing follows it; with the path after the plugin part
  and whether there was one. -/
  | tooFewSegments (rest : String) (afterPlugin : Bool)
  deriving DecidableEq, Repr

namespace PathError

def message : PathError → String
  | blankPlugin path => "path " ++ Text.quote path ++ " not a proxied route request"
  | tooFewSegments rest afterPlugin =>
    "workspace request path has too few segments '" ++ rest ++ "'; expected path format: " ++
      (if afterPlugin then "/workspaces/<workspace_name>/<optional path>"
       else "/workspaces/<workspace_name>/api/...")

def fault (e : PathError) : Fault := .badRequest e.message

end PathError

namespace RequestPath

def pluginLead : List Char := "/plugins/".toList

def workspaceLead : List Char := "/workspaces/".toList

def name (s : List Char) : List Char := s.takeWhile (· ≠ '/')

def afterName (s : List Char) : List Char := s.dropWhile (· ≠ '/')

/-- The workspace part at the start of a path. It needs a name, and without a plugin also
something after it. -/
def takeWorkspace (plugin : Option String) (s : List Char) : Except PathError RequestPath :=
  match Text.stripLead? workspaceLead s with
  | none => .ok ⟨plugin, none, String.ofList s⟩
  | some t =>
    if (name t).isEmpty || (plugin.isNone && (afterName t).isEmpty) then
      .error (.tooFewSegments (String.ofList s) plugin.isSome)
    else .ok ⟨plugin, some (String.ofList (name t)), String.ofList (afterName t)⟩

def ofChars (s : List Char) : Except PathError RequestPath :=
  match Text.stripLead? pluginLead s with
  | none => takeWorkspace none s
  | some t =>
    if Text.isBlankText (name t) then .error (.blankPlugin (String.ofList s))
    else takeWorkspace (some (String.ofList (name t))) (afterName t)

def parse (path : String) : Except PathError RequestPath := ofChars path.toList

end RequestPath

def namespaceAfter : List (List Char) → Option (List Char)
  | [] => none
  | s :: ss =>
    if s = "namespaces".toList then
      match ss with
      | [] => none
      | n :: _ => if n.isEmpty then none else some n
    else namespaceAfter ss

def namespaceOf (path : String) : Option String :=
  (namespaceAfter (Text.splitAt '/' path.toList)).map String.ofList

/-- A base path and a path under it with exactly one slash between them, where at most one of
the two brings its own. -/
def joinPaths (a b : List Char) : List Char :=
  match a.getLast? == some '/', b.head? == some '/' with
  | true, true => a ++ b.drop 1
  | false, false => a ++ '/' :: b
  | _, _ => a ++ b

end WorkspaceGateway
