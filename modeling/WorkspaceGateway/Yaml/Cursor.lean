/-!
# A place in a YAML text

What is left of the text, and how far into it and into its line the place is.
-/

set_option autoImplicit false

namespace WorkspaceGateway.Yaml

structure Cursor where
  rest : List Char
  index : Nat
  line : Nat
  column : Nat

def isBreak (c : Char) : Bool :=
  c = '\n' || c = '\r' || c.toNat = 0x85 || c.toNat = 0x2028 || c.toNat = 0x2029

def isSpaceOrTab (c : Char) : Bool := c = ' ' || c = '\t'

def isAllowed (c : Char) : Bool :=
  let n := c.toNat
  n = 0x09 || n = 0x0A || n = 0x0D || (0x20 ≤ n && n ≤ 0x7E) || n = 0x85 ||
    (0xA0 ≤ n && n ≤ 0xD7FF) || (0xE000 ≤ n && n ≤ 0xFFFD) || 0x10000 ≤ n

def isWordChar (c : Char) : Bool := c.isAlphanum || c = '_' || c = '-'

namespace Cursor

def ofText (s : List Char) : Cursor := ⟨s, 0, 0, 0⟩

def next (c : Cursor) : Cursor :=
  match c.rest with
  | [] => c
  | _ :: r => ⟨r, c.index + 1, c.line, c.column + 1⟩

def skip (c : Cursor) : Nat → Cursor
  | 0 => c
  | n + 1 => c.next.skip n

def nextLine (c : Cursor) : Cursor :=
  match c.rest with
  | '\r' :: '\n' :: r => ⟨r, c.index + 2, c.line + 1, 0⟩
  | x :: r => if isBreak x then ⟨r, c.index + 1, c.line + 1, 0⟩ else c
  | [] => c

def lineText (c : Cursor) : List Char :=
  match c.rest with
  | x :: _ =>
    if x.toNat = 0x2028 || x.toNat = 0x2029 then [x] else if isBreak x then ['\n'] else []
  | [] => []

def test (c : Cursor) (n : Nat) (p : Char → Bool) : Bool :=
  match c.rest.drop n with
  | x :: _ => p x
  | [] => false

def isAt (c : Cursor) (x : Char) : Bool := c.test 0 (· = x)

def atEnd (c : Cursor) : Bool := c.rest.isEmpty

def atBlank (c : Cursor) : Bool := c.test 0 isSpaceOrTab

def atBreak (c : Cursor) : Bool := c.test 0 isBreak

def blankOrEndAt (c : Cursor) (n : Nat) : Bool :=
  match c.rest.drop n with
  | x :: _ => isSpaceOrTab x || isBreak x
  | [] => true

def atBreakOrEnd (c : Cursor) : Bool := c.atEnd || c.atBreak

def atDocumentMark (c : Cursor) : Bool :=
  c.column = 0 && (c.rest.take 3 = ['-', '-', '-'] || c.rest.take 3 = ['.', '.', '.']) &&
    c.blankOrEndAt 3

def takeWhile (c : Cursor) (p : Char → Bool) : List Char × Cursor :=
  let s := c.rest.takeWhile p
  (s, ⟨c.rest.dropWhile p, c.index + s.length, c.line, c.column + s.length⟩)

def dropWhile (c : Cursor) (p : Char → Bool) : Cursor := (c.takeWhile p).2

end Cursor

end WorkspaceGateway.Yaml
