import WorkspaceGateway.Octets
import WorkspaceGateway.Yaml.Cursor

/-!
# YAML scalars

Plain, quoted and block scalars. A single line end between two lines of a plain, quoted or folded
scalar is read as a space, more of them as one fewer line ends; a literal block keeps its lines.
-/

set_option autoImplicit false

namespace WorkspaceGateway.Yaml

inductive ScalarStyle where
  | plain
  | quoted
  | literal
  | folded
  deriving DecidableEq, Repr

structure Gap where
  /-- Blanks, while no line has ended. -/
  blanks : List Char
  first : List Char
  more : List Char
  lineEnded : Bool

namespace Gap

def none : Gap := ⟨[], [], [], false⟩

def text (g : Gap) : List Char :=
  if g.lineEnded then
    if g.first = ['\n'] then if g.more.isEmpty then [' '] else g.more
    else g.first ++ g.more
  else g.blanks

end Gap

/-- Blanks and line ends at the cursor, after the gap read so far. A tab before column `indent` of
a new line is refused. The fuel is at least the number of characters left. -/
def takeGap (indent : Int) : Nat → Gap → Cursor → Option (Gap × Cursor)
  | 0, g, c => some (g, c)
  | fuel + 1, g, c =>
    match c.rest with
    | [] => some (g, c)
    | x :: _ =>
      if isSpaceOrTab x then
        if g.lineEnded then
          if x = '\t' && (c.column : Int) < indent then Option.none
          else takeGap indent fuel g c.next
        else takeGap indent fuel { g with blanks := g.blanks ++ [x] } c.next
      else if isBreak x then
        if g.lineEnded then takeGap indent fuel { g with more := g.more ++ c.lineText } c.nextLine
        else takeGap indent fuel ⟨[], c.lineText, [], true⟩ c.nextLine
      else some (g, c)

/-! ## Plain scalars -/

def isFlowSign (c : Char) : Bool :=
  c = ',' || c = '[' || c = ']' || c = '{' || c = '}'

/-- The characters of a plain scalar up to a blank, a line end or a sign that ends it, last
first. In a flow collection a colon may not stand before such a sign. -/
def takePlainPart (inFlow : Bool) : Nat → List Char → Cursor → Option (List Char × Cursor)
  | 0, out, c => some (out, c)
  | fuel + 1, out, c =>
    match c.rest with
    | [] => some (out, c)
    | x :: _ =>
      if c.blankOrEndAt 0 then some (out, c)
      else if inFlow && x = ':' && c.test 1 (fun y => y = '?' || isFlowSign y) then Option.none
      else if (x = ':' && c.blankOrEndAt 1) || (inFlow && isFlowSign x) then some (out, c)
      else takePlainPart inFlow fuel (x :: out) c.next

def takePlain (inFlow : Bool) (indent : Int) :
    Nat → List Char → Gap → Cursor → Option (List Char × Bool × Cursor)
  | 0, out, g, c => some (out, g.lineEnded, c)
  | fuel + 1, out, g, c =>
    if c.atDocumentMark || c.isAt '#' then some (out, g.lineEnded, c)
    else
      match takePlainPart inFlow (c.rest.length + 1) [] c with
      | Option.none => Option.none
      | some (part, c') =>
        let (out, g) := if part.isEmpty then (out, g)
          else (part ++ g.text.reverse ++ out, Gap.none)
        if !(c'.atBlank || c'.atBreak) then some (out, g.lineEnded, c')
        else
          match takeGap indent (c'.rest.length + 1) g c' with
          | Option.none => Option.none
          | some (g, c'') =>
            if !inFlow && (c''.column : Int) < indent then some (out, g.lineEnded, c'')
            else takePlain inFlow indent fuel out g c''

/-! ## Quoted scalars -/

def escaped? (c : Char) : Option Char :=
  match c with
  | '0' => some (Char.ofNat 0)
  | 'a' => some (Char.ofNat 7)
  | 'b' => some (Char.ofNat 8)
  | 't' => some '\t'
  | '\t' => some '\t'
  | 'n' => some '\n'
  | 'v' => some (Char.ofNat 11)
  | 'f' => some (Char.ofNat 12)
  | 'r' => some '\r'
  | 'e' => some (Char.ofNat 27)
  | ' ' => some ' '
  | '"' => some '"'
  | '/' => some '/'
  | '\\' => some '\\'
  | 'N' => some (Char.ofNat 0x85)
  | '_' => some (Char.ofNat 0xA0)
  | 'L' => some (Char.ofNat 0x2028)
  | 'P' => some (Char.ofNat 0x2029)
  | c => if c.toNat = 0x27 then some c else none

def escapeLength (c : Char) : Nat :=
  if c = 'x' then 2 else if c = 'u' then 4 else if c = 'U' then 8 else 0

def codePoint? (digits : List Char) : Option Char :=
  match digits.foldl (fun n d =>
          n.bind fun n => (Octets.hexValue? d).map (n * 16 + ·)) (some 0) with
  | none => none
  | some n =>
    if n < 0xD800 || (0xDFFF < n && n < 0x110000) then some (Char.ofNat n) else none

def takeQuotedPart (single : Bool) :
    Nat → List Char → Cursor → Option (List Char × Bool × Cursor)
  | 0, _, _ => none
  | fuel + 1, out, c =>
    match c.rest with
    | [] => some (out, false, c)
    | x :: r =>
      if c.blankOrEndAt 0 then some (out, false, c)
      else if single then
        if x.toNat = 0x27 then
          match r with
          | y :: _ =>
            if y.toNat = 0x27 then takeQuotedPart single fuel (x :: out) (c.skip 2)
            else some (out, false, c)
          | [] => some (out, false, c)
        else takeQuotedPart single fuel (x :: out) c.next
      else if x = '"' then some (out, false, c)
      else if x = '\\' then
        match r with
        | [] => none
        | y :: r' =>
          if isBreak y then some (out, true, c.next.nextLine)
          else
            match escaped? y with
            | some z => takeQuotedPart single fuel (z :: out) (c.skip 2)
            | none =>
              let n := escapeLength y
              if n = 0 || r'.length < n then none
              else match codePoint? (r'.take n) with
                | none => none
                | some z => takeQuotedPart single fuel (z :: out) (c.skip (2 + n))
      else takeQuotedPart single fuel (x :: out) c.next

def takeQuoted (single : Bool) : Nat → List Char → Cursor → Option (List Char × Cursor)
  | 0, _, _ => none
  | fuel + 1, out, c =>
    if c.atDocumentMark || c.atEnd then none
    else
      match takeQuotedPart single (c.rest.length + 1) out c with
      | none => none
      | some (out, lineEnded, c) =>
        if !lineEnded && c.test 0 (fun x => if single then x.toNat = 0x27 else x = '"') then
          some (out, c.next)
        else
          match takeGap 0 (c.rest.length + 1) ⟨[], [], [], lineEnded⟩ c with
          | none => none
          | some (g, c) => takeQuoted single fuel (g.text.reverse ++ out) c

/-! ## Block scalars -/

inductive Chomping where
  | strip
  | clip
  | keep
  deriving DecidableEq, Repr

/-- Indentation and empty lines of a block scalar. With `indent` zero the depth is not yet known
and `deepest` is the deepest line so far. -/
def takeBlockBreaks (indent : Nat) :
    Nat → Nat → List Char → Cursor → Option (Nat × List Char × Cursor)
  | 0, deepest, out, c => some (deepest, out, c)
  | fuel + 1, deepest, out, c =>
    let room := if indent = 0 then c.rest.length else indent - c.column
    let spaces := ((c.rest.take room).takeWhile (· = ' ')).length
    let c := c.skip spaces
    let deepest := max deepest c.column
    if (indent = 0 || c.column < indent) && c.isAt '\t' then none
    else if c.atBreak then takeBlockBreaks indent fuel deepest (out ++ c.lineText) c.nextLine
    else some (deepest, out, c)

def takeBlockLines (literal : Bool) (indent : Nat) :
    Nat → List Char → List Char → List Char → Bool → Cursor →
      Option (List Char × List Char × List Char × Cursor)
  | 0, out, first, more, _, c => some (out, first, more, c)
  | fuel + 1, out, first, more, wasBlank, c =>
    if c.column = indent && !c.atEnd then
      let isBlank := c.atBlank
      let joint :=
        if !literal && first = ['\n'] && !wasBlank && !isBlank then
          if more.isEmpty then [' '] else []
        else first
      let (line, c) := c.takeWhile (!isBreak ·)
      let ending := c.lineText
      match takeBlockBreaks indent (c.rest.length + 1) 0 [] c.nextLine with
      | none => none
      | some (_, breaks, c) =>
        takeBlockLines literal indent fuel (out ++ joint ++ more ++ line) ending breaks isBlank c
    else some (out, first, more, c)

def takeBlockHead (c : Cursor) : Option (Chomping × Nat × Cursor) :=
  let chomping? (c : Cursor) : Option (Chomping × Cursor) :=
    if c.isAt '+' then some (.keep, c.next)
    else if c.isAt '-' then some (.strip, c.next)
    else none
  let depth? (c : Cursor) : Option (Option (Nat × Cursor)) :=
    match c.rest with
    | x :: _ =>
      if x = '0' then none
      else if x.isDigit then some (some (x.toNat - 48, c.next))
      else some none
    | [] => some none
  match chomping? c with
  | some (k, c) =>
    match depth? c with
    | none => none
    | some none => some (k, 0, c)
    | some (some (n, c)) => some (k, n, c)
  | none =>
    match depth? c with
    | none => none
    | some none => some (.clip, 0, c)
    | some (some (n, c)) =>
      match chomping? c with
      | some (k, c) => some (k, n, c)
      | none => some (.clip, n, c)

def takeBlock (literal : Bool) (parent : Int) (c : Cursor) : Option (List Char × Cursor) := do
  let (chomping, depth, c) ← takeBlockHead c
  let c := c.dropWhile isSpaceOrTab
  let c := if c.isAt '#' then c.dropWhile (!isBreak ·) else c
  if !c.atBreakOrEnd then none
  else
    let c := c.nextLine
    let base : Int := if parent < 0 then 0 else parent
    let given := if depth = 0 then 0 else (base + depth).toNat
    let (deepest, more, c) ← takeBlockBreaks given (c.rest.length + 1) 0 [] c
    let indent := if given = 0 then max (max deepest (parent + 1).toNat) 1 else given
    let (out, first, more, c) ←
      takeBlockLines literal indent (c.rest.length + 1) [] [] more false c
    let out := if chomping = .strip then out else out ++ first
    return (if chomping = .keep then out ++ more else out, c)

end WorkspaceGateway.Yaml
