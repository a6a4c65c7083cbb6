import WorkspaceGateway.CommandLine.Options

/-!
# Words of the command line

A word is a long option with perhaps a value attached, a group of short options, two dashes after
which no options follow, or a value. The value of an option is attached to it or is the next
word. Options that are not given may be in the environment.
-/

set_option autoImplicit false

namespace WorkspaceGateway.CommandLine

inductive Word where
  | long (label : String) (value : Option String)
  | short (letters : List Char)
  | endOfOptions
  | value (v : String)
  deriving DecidableEq, Repr

namespace Word

def ofLong (s : List Char) : Word :=
  let label := String.ofList (s.takeWhile (· ≠ '='))
  match s.dropWhile (· ≠ '=') with
  | '=' :: v => long label (some (String.ofList v))
  | _ => long label none

def ofString (s : String) : Word :=
  match s.toList with
  | ['-', '-'] => endOfOptions
  | '-' :: '-' :: r => ofLong r
  | ['-'] => value s
  | '-' :: r => short r
  | _ => value s

end Word

/-- An option whose words are not complete until the next option or the end: its value may be
missing. -/
structure Pending where
  setting : Setting
  value : Option String
  deriving DecidableEq, Repr

def settle (g : Given) : Option Pending → Except Refusal Given
  | none => .ok g
  | some ⟨s, none⟩ => .error (.withoutValue s)
  | some ⟨s, some v⟩ => g.add s v

def inquiry? (label : String) : Option Refusal :=
  match label with
  | "help" => some .help
  | "version" => some .version
  | _ => none

def shortInquiry? : Char → Option Refusal
  | 'h' => some .help
  | 'V' => some .version
  | _ => none

/-- Refuses with the reason given, unless the pending option is at fault. -/
def refuseAfter (g : Given) (p : Option Pending) (r : Refusal) : Except Refusal Given :=
  match settle g p with
  | .error e => .error e
  | .ok _ => .error r

def readLong (g : Given) (p : Option Pending) (label : String) (value : Option String) :
    Except Refusal (Given × Option Pending) :=
  match Setting.ofLabel? label, inquiry? label, value with
  | some s, _, some v =>
    if s.isSwitch then .error (.unneededValue label v)
    else do
      let g ← settle g p
      return (← g.add s v, none)
  | some s, _, none => do
    let g ← settle g p
    if s.isSwitch then return (← g.add s "true", none) else return (g, some ⟨s, none⟩)
  | none, some _, some v => .error (.unneededValue label v)
  | none, some r, none => (refuseAfter g p r).map fun g => (g, none)
  | none, none, _ => .error (.unknown label)

def readShort (g : Given) (p : Option Pending) (letters : List Char) :
    Except Refusal (Given × Option Pending) :=
  match letters.head?.bind shortInquiry? with
  | some r => (refuseAfter g p r).map fun g => (g, none)
  | none => .error (.unknown (String.ofList ('-' :: letters)))

def readWords (g : Given) (p : Option Pending) : List String → Except Refusal Given
  | [] => settle g p
  | w :: ws =>
    match Word.ofString w with
    | .endOfOptions =>
      match ws with
      | [] => settle g p
      | x :: _ => .error (.unknown x)
    | .long label value =>
      match readLong g p label value with
      | .error e => .error e
      | .ok (g, p) => readWords g p ws
    | .short letters =>
      match readShort g p letters with
      | .error e => .error e
      | .ok (g, p) => readWords g p ws
    | .value v =>
      match p with
      | some ⟨s, none⟩ => readWords g (some ⟨s, some v⟩) ws
      | _ => .error (.unknown v)

def addVariable (lookup : String → Option String) (g : Given) (s : Setting) :
    Except Refusal Given :=
  if g.contains s then .ok g
  else match s.envName?.bind lookup with
    | some v => g.set s v
    | none => .ok g

def read (words : List String) (lookup : String → Option String) : Except Refusal Options := do
  let g ← readWords Given.empty none words
  let g ← Setting.all.foldlM (addVariable lookup) g
  g.options

end WorkspaceGateway.CommandLine
