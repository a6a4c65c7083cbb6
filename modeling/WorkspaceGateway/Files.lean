import WorkspaceGateway.Octets

/-!
# Files

The catalog, token files and the listener's certificates are read from files by path.
-/

set_option autoImplicit false

namespace WorkspaceGateway

inductive FileError where
  | missing
  | directory
  | notText
  | failed (cause : String)
  deriving DecidableEq, Repr

namespace FileError

def message : FileError → String
  | missing => "No such file or directory (os error 2)"
  | directory => "Is a directory (os error 21)"
  | notText => "stream did not contain valid UTF-8"
  | failed cause => cause

end FileError

abbrev Files := String → Except FileError Octets

def readTextFile (files : Files) (path : String) : Except FileError String :=
  match files path with
  | .error e => .error e
  | .ok b =>
    match b.text? with
    | some s => .ok s
    | none => .error .notText

end WorkspaceGateway
