import WorkspaceGateway.Base64Url
import WorkspaceGateway.Json.Record
import WorkspaceGateway.Token.Rsa

/-!
# Signing keys

The identity provider publishes its keys as a JSON document. The usable ones are its RSA keys with
a name of their own; of several with one name the last counts. The keys are fetched again at
intervals, and a fetch without usable keys leaves the known ones as they are.
-/

set_option autoImplicit false

namespace WorkspaceGateway.Token

structure KeyEntry where
  type : String
  id : Option String
  modulus : Option String
  exponent : Option String
  deriving DecidableEq, Repr

abbrev KeyDocument := List KeyEntry

namespace KeyEntry

def read? (v : Json.Value) : Option KeyEntry := do
  match ← Json.record? ["kty", "kid", "n", "e"] v with
  | [some (.string type), kid, n, e] =>
    return ⟨type, ← Json.optionalText? kid, ← Json.optionalText? n, ← Json.optionalText? e⟩
  | _ => none

def usable? (k : KeyEntry) : Option (String × RsaKey) := do
  let id ← k.id
  if k.type ≠ "RSA" then none
  else
    let n ← Base64Url.decode? (← k.modulus).toList
    let e ← Base64Url.decode? (← k.exponent).toList
    return (id, ⟨n, e⟩)

end KeyEntry

def readKeyDocument? (v : Json.Value) : Option KeyDocument := do
  match ← Json.record? ["keys"] v with
  | [some (.array vs)] => vs.mapM KeyEntry.read?
  | _ => none

structure KeySet where
  entries : List (String × RsaKey)
  deriving DecidableEq, Repr

namespace KeySet

def empty : KeySet := ⟨[]⟩

def insert (s : KeySet) (id : String) (key : RsaKey) : KeySet :=
  ⟨(id, key) :: s.entries.filter (·.1 ≠ id)⟩

def get? (s : KeySet) (id : String) : Option RsaKey :=
  (s.entries.find? (·.1 = id)).map Prod.snd

@[simp] theorem get?_empty (id : String) : empty.get? id = none := rfl

theorem get?_insert (s : KeySet) (id : String) (key : RsaKey) (other : String) :
    (s.insert id key).get? other = if other = id then some key else s.get? other := by
  by_cases h : other = id
  · simp [insert, get?, h]
  · have hne : ¬ id = other := fun e => h e.symm
    simp only [insert, get?, List.find?_cons, hne, decide_false, h, if_false, List.find?_filter]
    congr 2
    funext e
    by_cases he : e.1 = other <;> simp [he, h]

def size (s : KeySet) : Nat := s.entries.length

def usable (d : KeyDocument) : KeySet :=
  (d.filterMap KeyEntry.usable?).foldl (fun s k => s.insert k.1 k.2) empty

end KeySet

inductive KeyError where
  | fetch (url cause : String)
  | noUsableKeys
  deriving DecidableEq, Repr

namespace KeyError

def message : KeyError → String
  | fetch url cause => "failed to fetch JWKS from " ++ url ++ ": " ++ cause
  | noUsableKeys => "no usable keys found in JWKS"

end KeyError

def keysOf (d : KeyDocument) : Except KeyError KeySet :=
  let s := KeySet.usable d
  if s.entries.isEmpty then .error .noUsableKeys else .ok s

/-! ## Fetching -/

inductive FetchOutcome where
  | unreachable
  | status (code : Nat) (phrase : String)
  | unreadable
  | document (d : KeyDocument)

def fetched (url : String) : FetchOutcome → Except KeyError KeySet
  | .unreachable => .error (.fetch url ("error sending request for url (" ++ url ++ ")"))
  | .status code phrase =>
    let side := if code < 500 then "client" else "server"
    .error (.fetch url ("HTTP status " ++ side ++ " error (" ++ toString code ++ " " ++ phrase ++
      ") for url (" ++ url ++ ")"))
  | .unreadable => .error (.fetch url "error decoding response body")
  | .document d => keysOf d

/-- The known keys after one more fetch, and how many keys it brought. -/
def refresh (url : String) (known : KeySet) (o : FetchOutcome) : KeySet × Except KeyError Nat :=
  match fetched url o with
  | .ok s => (s, .ok s.size)
  | .error e => (known, .error e)

end WorkspaceGateway.Token
