import WorkspaceGateway.Json.Value

/-!
# Records in JSON

A record with known fields is written as an object, in which each of them stands at most once and
other members are passed over, or as an array of all fields in their order.
-/

set_option autoImplicit false

namespace WorkspaceGateway.Json

def once? (ms : List (String × Value)) (name : String) : Option (Option Value) :=
  match ms.filter (·.1 = name) with
  | [] => some none
  | [m] => some (some m.2)
  | _ => none

def record? (names : List String) : Value → Option (List (Option Value))
  | .object ms => names.mapM (once? ms)
  | .array vs => if vs.length = names.length then some (vs.map some) else none
  | _ => none

def optionalText? : Option Value → Option (Option String)
  | none => some none
  | some .null => some none
  | some (.string s) => some (some s)
  | some _ => none

end WorkspaceGateway.Json
