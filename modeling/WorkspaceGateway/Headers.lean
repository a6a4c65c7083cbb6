import WorkspaceGateway.Octets
import WorkspaceGateway.Text.Blank
import WorkspaceGateway.Text.Split

/-!
# Header fields

A message carries a list of named values; a name may occur more than once and the order of the
values of one name matters. Names are kept in lower case. Each operation is described by what it
does to the values of every name.
-/

set_option autoImplicit false

namespace WorkspaceGateway

structure Headers where
  fields : List (String × Octets)
  deriving DecidableEq

namespace Headers

def empty : Headers := ⟨[]⟩

def values (h : Headers) (name : String) : List Octets :=
  (h.fields.filter fun f => f.1 = name).map Prod.snd

def first? (h : Headers) (name : String) : Option Octets := (h.values name).head?

def contains (h : Headers) (name : String) : Bool := !(h.values name).isEmpty

def append (h : Headers) (name : String) (value : Octets) : Headers :=
  ⟨h.fields ++ [(name, value)]⟩

def eraseWhere (h : Headers) (p : String → Bool) : Headers :=
  ⟨h.fields.filter fun f => !p f.1⟩

def erase (h : Headers) (name : String) : Headers := h.eraseWhere (· = name)

def insert (h : Headers) (name : String) (value : Octets) : Headers :=
  (h.erase name).append name value

@[simp] theorem values_empty (n : String) : empty.values n = [] := rfl

theorem values_append (h : Headers) (n : String) (v : Octets) (m : String) :
    (h.append n v).values m = h.values m ++ if n = m then [v] else [] := by
  by_cases hm : n = m <;> simp [append, values, hm]

theorem values_eraseWhere (h : Headers) (p : String → Bool) (m : String) :
    (h.eraseWhere p).values m = if p m then [] else h.values m := by
  unfold eraseWhere values
  rw [List.filter_filter]
  by_cases hp : p m
  · simp only [hp, if_true, List.map_eq_nil_iff, List.filter_eq_nil_iff]
    intro f _ hf
    simp only [Bool.and_eq_true, decide_eq_true_eq, Bool.not_eq_true'] at hf
    rw [hf.1, hp] at hf
    exact absurd hf.2 (by decide)
  · simp only [hp, Bool.false_eq_true, if_false]
    congr 1
    apply List.filter_congr
    intro f _
    by_cases hf : f.1 = m
    · simp [hf, hp]
    · simp [hf]

theorem values_erase (h : Headers) (n m : String) :
    (h.erase n).values m = if m = n then [] else h.values m := by
  simp [erase, values_eraseWhere]

theorem values_insert (h : Headers) (n : String) (v : Octets) (m : String) :
    (h.insert n v).values m = if m = n then [v] else h.values m := by
  unfold insert
  rw [values_append, values_erase]
  by_cases hm : m = n
  · simp [hm]
  · have : ¬ n = m := fun e => hm e.symm
    simp [hm, this]

/-! ## Names and values -/

def isTokenChar (c : Char) : Bool :=
  c.isAlphanum || "!#$%&'*+-.^_`|~".toList.contains c

def isToken (s : List Char) : Bool := !s.isEmpty && s.all isTokenChar

def maxNameLength : Nat := 65535

def name? (s : List Char) : Option String :=
  if isToken s && s.length ≤ maxNameLength then some (String.ofList (s.map Char.toLower)) else none

def isValueOctet (x : UInt8) : Bool := (0x20 ≤ x.toNat && x.toNat ≠ 0x7f) || x = 0x09

def isValue (v : Octets) : Bool := v.all isValueOctet

def isVisibleOctet (x : UInt8) : Bool := (0x20 ≤ x.toNat && x.toNat < 0x7f) || x = 0x09

def readable? (v : Octets) : Option (List Char) :=
  if v.all isVisibleOctet then some (v.map fun x => Char.ofNat x.toNat) else none

def readableValues (h : Headers) (name : String) : List (List Char) :=
  (h.values name).filterMap readable?

def entries (h : Headers) (name : String) : List (List Char) :=
  (h.readableValues name).flatMap fun v => (Text.splitAt ',' v).map Text.trim

/-- The first value of a name as text, empty when there is none or it is not readable. -/
def firstText (h : Headers) (name : String) : List Char :=
  ((h.first? name).bind readable?).getD []

def hasToken (h : Headers) (name : String) (word : List Char) : Bool :=
  (h.entries name).any fun t => t.map Char.toLower == word

/-! ## Upgrades -/

def listsUpgrade (h : Headers) : Bool := h.hasToken "connection" "upgrade".toList

def isWebSocketRequest (h : Headers) : Bool :=
  h.listsUpgrade && h.hasToken "upgrade" "websocket".toList

def upgradeProtocol? (h : Headers) : Option Octets :=
  if h.listsUpgrade then h.first? "upgrade" else none

def isSpdyUpgrade (h : Headers) : Bool :=
  "SPDY/".toList.isPrefixOf ((h.firstText "upgrade").map Char.toUpper)

/-! ## Fields that are not passed on -/

def hopByHop : List String :=
  ["connection", "keep-alive", "proxy-connection", "proxy-authenticate", "proxy-authorization",
    "te", "trailer", "transfer-encoding", "upgrade"]

def connectionNames (h : Headers) : List String := (h.entries "connection").filterMap name?

def endToEnd (h : Headers) : Headers :=
  h.eraseWhere fun n => h.connectionNames.contains n || hopByHop.contains n

def impersonationLead : List Char := "impersonate-".toList

def isImpersonation (name : String) : Bool := impersonationLead.isPrefixOf name.toList

def withoutImpersonation (h : Headers) : Headers := h.eraseWhere isImpersonation

end Headers

end WorkspaceGateway
