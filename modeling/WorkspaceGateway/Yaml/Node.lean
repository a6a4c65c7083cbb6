import WorkspaceGateway.Yaml.Token

/-!
# YAML documents

The tree of scalars, sequences and mappings that the tokens of a text spell. A node may be named
by an anchor, and an alias stands for the node so named; an alias without one is an error. A text
holds at most one document.
-/

set_option autoImplicit false

namespace WorkspaceGateway.Yaml

inductive Node where
  | scalar (text : String) (style : ScalarStyle) (tag : Option String)
  | sequence (items : List Node)
  | mapping (members : List (Node × Node))
  | alias (anchor : Nat)

instance : Inhabited Node := ⟨.sequence []⟩

structure Document where
  /-- The root; an empty text has none. -/
  root : Option Node
  anchored : List (Nat × Node)

structure Reader where
  tokens : List Token
  names : List (List Char × Nat)
  anchored : List (Nat × Node)
  handles : List (List Char × List Char)

namespace Reader

def peek (r : Reader) : Token := r.tokens.headD .streamEnd

def next (r : Reader) : Reader := { r with tokens := r.tokens.drop 1 }

def absent : Node := .scalar "" .plain none

def declare (r : Reader) (name : List Char) : Reader × Nat :=
  let n := r.names.length
  ({ r with names := (name, n) :: r.names.filter (·.1 ≠ name) }, n)

def tag? (r : Reader) (handle suffix : List Char) : Option String :=
  if handle.isEmpty then some (String.ofList suffix)
  else match r.handles.find? (·.1 = handle) with
    | some (_, lead) => some (String.ofList (lead ++ suffix))
    | none =>
      if handle = ['!'] then some (String.ofList ('!' :: suffix))
      else if handle = ['!', '!'] then some ("tag:yaml.org,2002:" ++ String.ofList suffix)
      else none

def properties (r : Reader) : Option (Reader × Option Nat × Option String) :=
  match r.peek with
  | .anchor a =>
    let (r, n) := r.next.declare a
    match r.peek with
    | .tag h s => (r.tag? h s).map fun t => (r.next, some n, some t)
    | _ => some (r, some n, none)
  | .tag h s =>
    match r.tag? h s with
    | none => none
    | some t =>
      match r.next.peek with
      | .anchor a =>
        let (r, n) := r.next.next.declare a
        some (r, some n, some t)
      | _ => some (r.next, none, some t)
  | _ => some (r, none, none)

def bind (r : Reader) (anchor : Option Nat) (n : Node) : Reader :=
  match anchor with
  | some a => { r with anchored := (a, n) :: r.anchored }
  | none => r

def isAt (r : Reader) (ts : List Token) : Bool := ts.contains r.peek

mutual

/-- A node. In a block, block collections may stand here, and as the value of a mapping also a
sequence at the mapping's own depth. The fuel is at least the number of tokens left. -/
def node (inBlock atDepth : Bool) : Nat → Reader → Option (Node × Reader)
  | 0, _ => none
  | fuel + 1, r =>
    match r.peek with
    | .alias a =>
      match r.names.find? (·.1 = a) with
      | some (_, n) => some (.alias n, r.next)
      | none => none
    | _ =>
      match r.properties with
      | none => none
      | some (r, anchor, tag) =>
        let done (p : Node × Reader) : Node × Reader := (p.1, p.2.bind anchor p.1)
        match r.peek with
        | .scalar s style => some (done (.scalar (String.ofList s) style tag, r.next))
        | .flowSequenceStart =>
          (flowSequence true fuel r.next).map fun (ns, r) => done (.sequence ns, r)
        | .flowMappingStart =>
          (flowMapping true fuel r.next).map fun (ms, r) => done (.mapping ms, r)
        | t =>
          if atDepth && t = .blockEntry then
            (openSequence fuel r).map fun (ns, r) => done (.sequence ns, r)
          else if inBlock && t = .blockSequenceStart then
            (blockSequence fuel r.next).map fun (ns, r) => done (.sequence ns, r)
          else if inBlock && t = .blockMappingStart then
            (blockMapping fuel r.next).map fun (ms, r) => done (.mapping ms, r)
          else if anchor.isSome || tag.isSome then
            some (done (.scalar "" .plain tag, r))
          else none

def nodeUnless (stops : List Token) (inBlock atDepth : Bool) :
    Nat → Reader → Option (Node × Reader)
  | 0, _ => none
  | fuel + 1, r => if r.isAt stops then some (absent, r) else node inBlock atDepth fuel r

def blockSequence : Nat → Reader → Option (List Node × Reader)
  | 0, _ => none
  | fuel + 1, r =>
    match r.peek with
    | .blockEntry =>
      match nodeUnless [.blockEntry, .blockEnd] true false fuel r.next with
      | none => none
      | some (n, r) => (blockSequence fuel r).map fun (ns, r) => (n :: ns, r)
    | .blockEnd => some ([], r.next)
    | _ => none

def openSequence : Nat → Reader → Option (List Node × Reader)
  | 0, _ => none
  | fuel + 1, r =>
    match r.peek with
    | .blockEntry =>
      match nodeUnless [.blockEntry, .key, .value, .blockEnd] true false fuel r.next with
      | none => none
      | some (n, r) => (openSequence fuel r).map fun (ns, r) => (n :: ns, r)
    | _ => some ([], r)

def blockMapping : Nat → Reader → Option (List (Node × Node) × Reader)
  | 0, _ => none
  | fuel + 1, r =>
    match r.peek with
    | .key =>
      match nodeUnless [.key, .value, .blockEnd] true true fuel r.next with
      | none => none
      | some (k, r) => blockValue k fuel r
    | .blockEnd => some ([], r.next)
    | _ => none

def blockValue (k : Node) : Nat → Reader → Option (List (Node × Node) × Reader)
  | 0, _ => none
  | fuel + 1, r =>
    match r.peek with
    | .value =>
      match nodeUnless [.key, .value, .blockEnd] true true fuel r.next with
      | none => none
      | some (v, r) => (blockMapping fuel r).map fun (ms, r) => ((k, v) :: ms, r)
    | _ => (blockMapping fuel r).map fun (ms, r) => ((k, absent) :: ms, r)

def flowSequence (first : Bool) : Nat → Reader → Option (List Node × Reader)
  | 0, _ => none
  | fuel + 1, r =>
    match r.peek with
    | .flowSequenceEnd => some ([], r.next)
    | t =>
      if !first && t ≠ .flowEntry then none
      else
        let r := if first then r else r.next
        match r.peek with
        | .flowSequenceEnd => some ([], r.next)
        | .key =>
          match flowPair fuel r.next with
          | none => none
          | some (n, r) => (flowSequence false fuel r).map fun (ns, r) => (n :: ns, r)
        | _ =>
          match node false false fuel r with
          | none => none
          | some (n, r) => (flowSequence false fuel r).map fun (ns, r) => (n :: ns, r)

def flowPair : Nat → Reader → Option (Node × Reader)
  | 0, _ => none
  | fuel + 1, r =>
    let key := if r.isAt [.value, .flowEntry, .flowSequenceEnd] then some (absent, r.next)
      else node false false fuel r
    match key with
    | none => none
    | some (k, r) =>
      match r.peek with
      | .value =>
        (nodeUnless [.flowEntry, .flowSequenceEnd] false false fuel r.next).map fun (v, r) =>
          (.mapping [(k, v)], r)
      | _ => some (.mapping [(k, absent)], r)

def flowMapping (first : Bool) : Nat → Reader → Option (List (Node × Node) × Reader)
  | 0, _ => none
  | fuel + 1, r =>
    match r.peek with
    | .flowMappingEnd => some ([], r.next)
    | t =>
      if !first && t ≠ .flowEntry then none
      else
        let r := if first then r else r.next
        match r.peek with
        | .flowMappingEnd => some ([], r.next)
        | .key =>
          match nodeUnless [.value, .flowEntry, .flowMappingEnd] false false fuel r.next with
          | none => none
          | some (k, r) => flowValue k fuel r
        | _ =>
          match node false false fuel r with
          | none => none
          | some (k, r) => (flowMapping false fuel r).map fun (ms, r) => ((k, absent) :: ms, r)

def flowValue (k : Node) : Nat → Reader → Option (List (Node × Node) × Reader)
  | 0, _ => none
  | fuel + 1, r =>
    match r.peek with
    | .value =>
      match nodeUnless [.flowEntry, .flowMappingEnd] false false fuel r.next with
      | none => none
      | some (v, r) => (flowMapping false fuel r).map fun (ms, r) => ((k, v) :: ms, r)
    | _ => (flowMapping false fuel r).map fun (ms, r) => ((k, absent) :: ms, r)

end

def directives (versioned : Bool) : Nat → Reader → Option (Reader × Bool)
  | 0, _ => none
  | fuel + 1, r =>
    match r.peek with
    | .versionDirective major minor =>
      if versioned || major ≠ 1 || (minor ≠ 1 && minor ≠ 2) then none
      else directives true fuel r.next
    | .tagDirective handle lead =>
      if r.handles.any (·.1 = handle) then none
      else directives versioned fuel { r.next with handles := (handle, lead) :: r.handles }
    | _ => some (r, versioned)

def afterEnds (r : Reader) : Reader :=
  { r with tokens := r.tokens.dropWhile (· = .documentEnd) }

def root (r : Reader) : Option (Option Node × Reader) :=
  let fuel := 8 * r.tokens.length + 16
  let isDirective : Bool := match r.peek with
    | .versionDirective _ _ => true
    | .tagDirective _ _ => true
    | _ => false
  if r.peek = .streamEnd then some (none, r)
  else if isDirective || r.peek = .documentStart then
    match directives false fuel r with
    | none => none
    | some (r, _) =>
      if r.peek ≠ .documentStart then none
      else
        let r := r.next
        let bare : Bool := match r.peek with
          | .versionDirective _ _ => true
          | .tagDirective _ _ => true
          | t => [Token.documentStart, .documentEnd, .streamEnd].contains t
        if bare then some (some absent, r)
        else (node true false fuel r).map fun (n, r) => (some n, r)
  else (node true false fuel r).map fun (n, r) => (some n, r)

end Reader

def read? (s : List Char) : Option Document :=
  match tokens? s with
  | none => none
  | some ts =>
    match Reader.root ⟨ts, [], [], []⟩ with
    | none => none
    | some (n, r) =>
      if r.afterEnds.peek = .streamEnd then some ⟨n, r.anchored⟩ else none

namespace Document

def resolve (d : Document) : Node → Node
  | .alias a =>
    match d.anchored.find? (·.1 = a) with
    | some (_, n) => n
    | none => .alias a
  | n => n

end Document

end WorkspaceGateway.Yaml
