import WorkspaceGateway.Decimal.Shortest

/-!
# JSON documents

A document keeps what a reader of it may ask for: the members of an object in their order with
repetitions, and numbers as they are written. A string whose escapes or octets spell no Unicode
text is kept as unreadable, since only a reader that asks for its text minds.
-/

set_option autoImplicit false

namespace WorkspaceGateway.Json

/-- A number as written, `digits * 10 ^ scale`; `integral` when it has neither a fraction nor
an exponent. -/
structure Number where
  negative : Bool
  digits : Nat
  scale : Int
  integral : Bool

inductive Value where
  | null
  | bool (b : Bool)
  | number (n : Number)
  | string (s : String)
  | unreadable
  | array (items : List Value)
  | object (members : List (String × Value))

instance : Inhabited Value := ⟨.null⟩

namespace Number

def ofNat (n : Nat) : Number := ⟨false, n, 0, true⟩

def natural? (n : Number) : Option Nat :=
  if n.integral && !n.negative && n.digits < UInt64.size then some n.digits else none

/-- A whole number of 64 bits, with or without sign; minus zero is none. -/
def integer? (n : Number) : Option Int :=
  if !n.integral then none
  else if n.negative then
    if n.digits = 0 ∨ 0x8000000000000000 < n.digits then none else some (-(n.digits : Int))
  else if n.digits < UInt64.size then some n.digits
  else none

def binary64? (n : Number) : Option Decimal.Binary64 :=
  Decimal.Binary64.ofDecimal n.negative n.digits n.scale

def text? (n : Number) : Option String :=
  match n.integer? with
  | some i => some (toString i)
  | none => n.binary64?.map Decimal.Binary64.text

end Number

namespace Value

/-- The member of that name; of several the last counts. -/
def member? (v : Value) (name : String) : Option Value :=
  match v with
  | .object ms => (ms.filter fun m => m.1 = name).getLast?.map Prod.snd
  | _ => none

def string? : Value → Option String
  | .string s => some s
  | _ => none

def natural? : Value → Option Nat
  | .number n => n.natural?
  | _ => none

mutual

def isReadable : Value → Bool
  | .unreadable => false
  | .number n => n.text?.isSome
  | .array vs => areReadable vs
  | .object ms => membersReadable ms
  | _ => true

def areReadable : List Value → Bool
  | [] => true
  | v :: vs => isReadable v && areReadable vs

def membersReadable : List (String × Value) → Bool
  | [] => true
  | (_, v) :: ms => isReadable v && membersReadable ms

end

mutual

def depth : Value → Nat
  | .array vs => depthOfItems vs + 1
  | .object ms => depthOfMembers ms + 1
  | _ => 0

def depthOfItems : List Value → Nat
  | [] => 0
  | v :: vs => max (depth v) (depthOfItems vs)

def depthOfMembers : List (String × Value) → Nat
  | [] => 0
  | (_, v) :: ms => max (depth v) (depthOfMembers ms)

end

def maxDepth : Nat := 127

def isDocument (v : Value) : Bool := v.isReadable && v.depth ≤ maxDepth

end Value

end WorkspaceGateway.Json
