import WorkspaceGateway.Json.Value
import WorkspaceGateway.Timestamp

/-!
# Cluster objects

An object of a cluster is identified by its name and namespace, which stand in its metadata. A
document is such an object when every member of its metadata is of its kind.
-/

set_option autoImplicit false

namespace WorkspaceGateway

structure ObjectKey where
  «namespace» : Option String
  name : String
  deriving DecidableEq, Repr

namespace ObjectKey

def optional (p : Json.Value → Bool) (v : Option Json.Value) : Bool :=
  match v with
  | none => true
  | some .null => true
  | some w => p w

def isText : Json.Value → Bool
  | .string _ => true
  | _ => false

def isBool : Json.Value → Bool
  | .bool _ => true
  | _ => false

def isTextMap : Json.Value → Bool
  | .object ms => ms.all fun m => isText m.2
  | _ => false

def isTextList : Json.Value → Bool
  | .array vs => vs.all isText
  | _ => false

def isInteger : Json.Value → Bool
  | .number n => match n.integer? with
    | some i => decide (i < 0x8000000000000000)
    | none => false
  | _ => false

def isTime : Json.Value → Bool
  | .string s => (Timestamp.read? s).isSome
  | _ => false

def isOwner (v : Json.Value) : Bool :=
  match v with
  | .object _ =>
    (["apiVersion", "kind", "name", "uid"].all fun n => optional isText (v.member? n)) &&
      ["blockOwnerDeletion", "controller"].all fun n => optional isBool (v.member? n)
  | _ => false

def isManager (v : Json.Value) : Bool :=
  match v with
  | .object _ =>
    (["apiVersion", "fieldsType", "manager", "operation", "subresource"].all fun n =>
      optional isText (v.member? n)) && optional isTime (v.member? "time")
  | _ => false

def isListOf (p : Json.Value → Bool) : Json.Value → Bool
  | .array vs => vs.all p
  | _ => false

def isMetadata (v : Json.Value) : Bool :=
  match v with
  | .object _ =>
    (["name", "namespace", "generateName", "resourceVersion", "selfLink", "uid"].all fun n =>
        optional isText (v.member? n)) &&
      (["labels", "annotations"].all fun n => optional isTextMap (v.member? n)) &&
      (["generation", "deletionGracePeriodSeconds"].all fun n =>
        optional isInteger (v.member? n)) &&
      (["creationTimestamp", "deletionTimestamp"].all fun n => optional isTime (v.member? n)) &&
      optional isTextList (v.member? "finalizers") &&
      optional (isListOf isOwner) (v.member? "ownerReferences") &&
      optional (isListOf isManager) (v.member? "managedFields")
  | _ => false

def ofObject? (v : Json.Value) : Option ObjectKey :=
  match v with
  | .object _ =>
    match v.member? "metadata" with
    | none => some ⟨none, ""⟩
    | some m =>
      if isMetadata m then
        some ⟨(m.member? "namespace").bind Json.Value.string?,
          ((m.member? "name").bind Json.Value.string?).getD ""⟩
      else none
  | _ => none

end ObjectKey

end WorkspaceGateway
