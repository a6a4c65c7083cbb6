import WorkspaceGateway.Yaml.Scalar

/-!
# YAML tokens

The signs, scalars and properties of a YAML text in their order, with tokens of their own where
the indentation begins or ends a block collection and before a key that only its colon reveals.
-/

set_option autoImplicit false

namespace WorkspaceGateway.Yaml

inductive Token where
  | versionDirective (major minor : Nat)
  | tagDirective (handle lead : List Char)
  | documentStart
  | documentEnd
  | blockSequenceStart
  | blockMappingStart
  | blockEnd
  | flowSequenceStart
  | flowSequenceEnd
  | flowMappingStart
  | flowMappingEnd
  | blockEntry
  | flowEntry
  | key
  | value
  | alias (name : List Char)
  | anchor (name : List Char)
  | tag (handle suffix : List Char)
  | scalar (text : List Char) (style : ScalarStyle)
  | streamEnd
  deriving DecidableEq, Repr

/-- A token that turns out to be a key when a colon follows it on its line. -/
structure KeyCandidate where
  /-- How many tokens there were before it. -/
  number : Nat
  index : Nat
  line : Nat
  column : Nat
  /-- In this place nothing but a key may stand. -/
  required : Bool

structure Lexer where
  cursor : Cursor
  tokens : Array Token
  /-- Column of the innermost block collection; `-1` outside of all. -/
  indent : Int
  indents : List Int
  keyAllowed : Bool
  /-- The last candidate of each flow collection, innermost first, and of the block. -/
  candidates : List (Option KeyCandidate)

namespace Lexer

def ofText (s : List Char) : Lexer := ⟨.ofText s, #[], -1, [], true, [none]⟩

def inFlow (x : Lexer) : Bool := 1 < x.candidates.length

def push (x : Lexer) (t : Token) : Lexer := { x with tokens := x.tokens.push t }

def insertAt (x : Lexer) (n : Nat) (t : Token) : Lexer :=
  { x with
    tokens := ((x.tokens.extract 0 n).push t) ++ x.tokens.extract n x.tokens.size }

def advance (x : Lexer) (n : Nat) : Lexer := { x with cursor := x.cursor.skip n }

def allowKey (x : Lexer) (b : Bool) : Lexer := { x with keyAllowed := b }

def isStale (x : Lexer) (k : KeyCandidate) : Bool :=
  k.line < x.cursor.line || k.index + 1024 < x.cursor.index

def dropStale (x : Lexer) : Option Lexer := do
  let candidates ← x.candidates.mapM fun c => match c with
    | none => some none
    | some k => if x.isStale k then if k.required then none else some none else some (some k)
  return { x with candidates }

def dropCandidate (x : Lexer) : Option Lexer :=
  match x.candidates with
  | some k :: ks => if k.required then none else some { x with candidates := none :: ks }
  | _ => some x

def saveCandidate (x : Lexer) : Option Lexer :=
  if !x.keyAllowed then some x
  else do
    let k : KeyCandidate := ⟨x.tokens.size, x.cursor.index, x.cursor.line, x.cursor.column,
      !x.inFlow && x.indent = x.cursor.column⟩
    let x ← x.dropCandidate
    return { x with candidates := some k :: x.candidates.drop 1 }

def rollIndent (x : Lexer) (column number : Nat) (t : Token) : Lexer :=
  if x.inFlow || (column : Int) ≤ x.indent then x
  else ({ x with indents := x.indent :: x.indents, indent := column }).insertAt number t

def unrollIndent (x : Lexer) (column : Int) : Lexer :=
  if x.inFlow then x
  else
    let deeper := (x.indent :: x.indents).takeWhile (column < ·)
    match (x.indent :: x.indents).drop deeper.length with
    | i :: is =>
      { x with
        indent := i
        indents := is
        tokens := x.tokens ++ (deeper.map fun _ => Token.blockEnd).toArray }
    | [] => x

/-! ## Blanks and comments -/

def skipBlanks : Nat → Lexer → Lexer
  | 0, x => x
  | fuel + 1, x =>
    let c := if x.cursor.column = 0 && x.cursor.test 0 (·.toNat = 0xFEFF) then x.cursor.next
      else x.cursor
    let c := c.dropWhile fun y => y = ' ' || ((x.inFlow || !x.keyAllowed) && y = '\t')
    let c := if c.isAt '#' then c.dropWhile (!isBreak ·) else c
    if c.atBreak then
      skipBlanks fuel { x with cursor := c.nextLine, keyAllowed := x.keyAllowed || !x.inFlow }
    else { x with cursor := c }

/-! ## Directives, anchors and tags -/

def takeUri (verbatim : Bool) : Nat → Octets → Cursor → Option (Octets × Cursor)
  | 0, out, c => some (out, c)
  | fuel + 1, out, c =>
    match c.rest with
    | [] => some (out, c)
    | x :: r =>
      if x = '%' then
        match r with
        | a :: b :: _ =>
          match Octets.hexValue? a, Octets.hexValue? b with
          | some m, some n => takeUri verbatim fuel (out ++ [UInt8.ofNat (16 * m + n)]) (c.skip 3)
          | _, _ => none
        | _ => none
      else if isWordChar x || ";/?:@&=+$.!~*()".toList.contains x || x.toNat = 0x27 ||
          (verbatim && (x = ',' || x = '[' || x = ']')) then
        takeUri verbatim fuel (out ++ Octets.ofText (String.singleton x)) c.next
      else some (out, c)

/-- A URI that follows some characters already read; one of the two must not be empty. -/
def takeTagUri (verbatim : Bool) (lead : List Char) (c : Cursor) : Option (List Char × Cursor) := do
  let (uri, c) ← takeUri verbatim (c.rest.length + 1) [] c
  if lead.isEmpty && uri.isEmpty then none
  else
    let s ← uri.text?
    return (lead.drop 1 ++ s.toList, c)

def takeTag (inFlow : Bool) (c : Cursor) : Option (Token × Cursor) := do
  let (t, c) ← if c.test 1 (· = '<') then do
      let (uri, c) ← takeTagUri true [] (c.skip 2)
      if c.isAt '>' then some (Token.tag [] uri, c.next) else none
    else do
      let (word, c) := c.next.takeWhile isWordChar
      if c.isAt '!' then
        let (suffix, c) ← takeTagUri false [] c.next
        some (Token.tag ('!' :: word ++ ['!']) suffix, c)
      else
        let (suffix, c) ← takeTagUri false ('!' :: word) c
        some (if suffix.isEmpty then Token.tag [] ['!'] else Token.tag ['!'] suffix, c)
  if c.blankOrEndAt 0 || (inFlow && c.isAt ',') then some (t, c) else none

def takeName (c : Cursor) : Option (List Char × Cursor) :=
  let (name, c) := c.takeWhile isWordChar
  if name.isEmpty then none
  else if c.blankOrEndAt 0 ||
      c.test 0 (fun x => "?:,]\x7d%@".toList.contains x || x.toNat = 0x60) then
    some (name, c)
  else none

def takeVersionNumber (c : Cursor) : Option (Nat × Cursor) :=
  let (ds, c) := c.takeWhile Char.isDigit
  if ds.isEmpty || 9 < ds.length then none
  else some (ds.foldl (fun n d => n * 10 + (d.toNat - 48)) 0, c)

def takeDirectiveHandle (c : Cursor) : Option (List Char × Cursor) :=
  if !c.isAt '!' then none
  else
    let (word, c) := c.next.takeWhile isWordChar
    if c.isAt '!' then some ('!' :: word ++ ['!'], c.next)
    else if word.isEmpty then some (['!'], c)
    else none

def takeDirective (c : Cursor) : Option (Token × Cursor) := do
  let (name, c) := c.next.takeWhile isWordChar
  if name.isEmpty || !c.blankOrEndAt 0 then none
  else
    let (t, c) ← if name = "YAML".toList then do
        let (major, c) ← takeVersionNumber (c.dropWhile isSpaceOrTab)
        if !c.isAt '.' then none
        else
          let (minor, c) ← takeVersionNumber c.next
          some (Token.versionDirective major minor, c)
      else if name = "TAG".toList then do
        let (handle, c) ← takeDirectiveHandle (c.dropWhile isSpaceOrTab)
        if !c.atBlank then none
        else
          let (lead, c) ← takeTagUri true [] (c.dropWhile isSpaceOrTab)
          if c.blankOrEndAt 0 then some (Token.tagDirective handle lead, c) else none
      else none
    let c := c.dropWhile isSpaceOrTab
    let c := if c.isAt '#' then c.dropWhile (!isBreak ·) else c
    if c.atBreakOrEnd then some (t, c.nextLine) else none

/-! ## Single tokens -/

def openFlow (x : Lexer) (t : Token) : Option Lexer := do
  let x ← x.saveCandidate
  return ((({ x with candidates := none :: x.candidates }).allowKey true).advance 1).push t

def closeFlow (x : Lexer) (t : Token) : Option Lexer := do
  let x ← x.dropCandidate
  let outer := if x.inFlow then x.candidates.drop 1 else x.candidates
  return ((({ x with candidates := outer }).allowKey false).advance 1).push t

def blockEntry (x : Lexer) : Option Lexer :=
  if !x.inFlow && !x.keyAllowed then none
  else do
    let x ← (x.rollIndent x.cursor.column x.tokens.size .blockSequenceStart).dropCandidate
    return ((x.allowKey true).advance 1).push .blockEntry

def explicitKey (x : Lexer) : Option Lexer :=
  if !x.inFlow && !x.keyAllowed then none
  else do
    let x ← (x.rollIndent x.cursor.column x.tokens.size .blockMappingStart).dropCandidate
    return ((x.allowKey (!x.inFlow)).advance 1).push .key

def value (x : Lexer) : Option Lexer :=
  match x.candidates with
  | some k :: ks =>
    let x := ({ x with candidates := none :: ks }).insertAt k.number .key
    let x := x.rollIndent k.column k.number .blockMappingStart
    some (((x.allowKey false).advance 1).push .value)
  | _ =>
    if !x.inFlow && !x.keyAllowed then none
    else
      let x := x.rollIndent x.cursor.column x.tokens.size .blockMappingStart
      some (((x.allowKey (!x.inFlow)).advance 1).push .value)

def keyLike (x : Lexer) (take : Cursor → Option (Token × Cursor)) : Option Lexer := do
  let x ← x.saveCandidate
  let (t, c) ← take x.cursor
  return ({ x with cursor := c, keyAllowed := false }).push t

def plain (x : Lexer) : Option Lexer := do
  let x ← x.saveCandidate
  let (out, lineEnded, c) ←
    takePlain x.inFlow (x.indent + 1) (x.cursor.rest.length + 1) [] Gap.none x.cursor
  return ({ x with cursor := c, keyAllowed := lineEnded }).push (.scalar out.reverse .plain)

def block (x : Lexer) (literal : Bool) : Option Lexer := do
  let x ← x.dropCandidate
  let (out, c) ← takeBlock literal x.indent x.cursor.next
  return ({ x with cursor := c, keyAllowed := true }).push
    (.scalar out (if literal then .literal else .folded))

def quoted (single : Bool) (c : Cursor) : Option (Token × Cursor) :=
  (takeQuoted single (c.rest.length + 1) [] c.next).map fun (out, c) =>
    (.scalar out.reverse .quoted, c)

def documentMark (x : Lexer) (t : Token) : Option Lexer := do
  let x ← (x.unrollIndent (-1)).dropCandidate
  return ((x.allowKey false).advance 3).push t

def directive (x : Lexer) : Option Lexer := do
  let x ← (x.unrollIndent (-1)).dropCandidate
  let (t, c) ← takeDirective x.cursor
  return ({ x with cursor := c, keyAllowed := false }).push t

def beginsPlain (x : Lexer) : Bool :=
  let c := x.cursor
  if c.isAt '-' then !c.test 1 isSpaceOrTab
  else if c.isAt '?' || c.isAt ':' then !x.inFlow && !c.blankOrEndAt 1
  else !c.blankOrEndAt 0 &&
    !c.test 0 fun y => ",[]\x7b\x7d#&*!|>\"%@".toList.contains y || y.toNat = 0x27 || y.toNat = 0x60

def step (x : Lexer) : Option Lexer := do
  let x ← (x.skipBlanks (x.cursor.rest.length + 1)).dropStale
  let x := x.unrollIndent x.cursor.column
  let c := x.cursor
  match c.rest with
  | [] =>
    let x ← ({ x with cursor := { c with column := 0 } }.unrollIndent (-1)).dropCandidate
    return x.push .streamEnd
  | y :: _ =>
    if c.column = 0 && y = '%' then x.directive
    else if c.atDocumentMark then
      x.documentMark (if y = '-' then .documentStart else .documentEnd)
    else if y = '[' then x.openFlow .flowSequenceStart
    else if y = '{' then x.openFlow .flowMappingStart
    else if y = ']' then x.closeFlow .flowSequenceEnd
    else if y = '}' then x.closeFlow .flowMappingEnd
    else if y = ',' then do
      let x ← x.dropCandidate
      return ((x.allowKey true).advance 1).push .flowEntry
    else if y = '-' && c.blankOrEndAt 1 then x.blockEntry
    else if y = '?' && (x.inFlow || c.blankOrEndAt 1) then x.explicitKey
    else if y = ':' && (x.inFlow || c.blankOrEndAt 1) then x.value
    else if y = '*' then
      x.keyLike fun c => (takeName c.next).map fun (n, c) => (.alias n, c)
    else if y = '&' then
      x.keyLike fun c => (takeName c.next).map fun (n, c) => (.anchor n, c)
    else if y = '!' then x.keyLike (takeTag x.inFlow)
    else if y = '|' && !x.inFlow then x.block true
    else if y = '>' && !x.inFlow then x.block false
    else if y.toNat = 0x27 then x.keyLike (quoted true)
    else if y = '"' then x.keyLike (quoted false)
    else if x.beginsPlain then x.plain
    else none

/-- All tokens. Each step takes a character at least, but for the last. -/
def run : Nat → Lexer → Option (List Token)
  | 0, _ => none
  | fuel + 1, x =>
    match x.step with
    | none => none
    | some x' =>
      if x'.tokens.back? = some .streamEnd then some x'.tokens.toList else run fuel x'

end Lexer

def tokens? (s : List Char) : Option (List Token) :=
  let s := match s with
    | c :: r => if c.toNat = 0xFEFF then r else c :: r
    | [] => []
  if s.all isAllowed then (Lexer.ofText s).run (s.length + 2) else none

end WorkspaceGateway.Yaml
