import WorkspaceGateway.Json.Value

/-!
# Writing JSON

The compact form: no blanks, members in their order, and in strings only the quote, the
backslash and the control characters escaped.
-/

set_option autoImplicit false

namespace WorkspaceGateway.Json

def escapeChar (c : Char) : List Char :=
  if c = '"' then ['\\', '"']
  else if c = '\\' then ['\\', '\\']
  else if c = '\n' then ['\\', 'n']
  else if c = '\r' then ['\\', 'r']
  else if c = '\t' then ['\\', 't']
  else if c.toNat = 8 then ['\\', 'b']
  else if c.toNat = 12 then ['\\', 'f']
  else if c.toNat < 32 then
    ['\\', 'u', '0', '0', if c.toNat < 16 then '0' else '1', Nat.digitChar (c.toNat % 16)]
  else [c]

def writeString (s : String) : String :=
  String.ofList (['"'] ++ s.toList.flatMap escapeChar ++ ['"'])

mutual

def write : Value → String
  | .null => "null"
  | .bool b => if b then "true" else "false"
  | .number n => n.text?.getD "null"
  | .string s => writeString s
  | .unreadable => "null"
  | .array [] => "[]"
  | .array (v :: vs) => "[" ++ write v ++ writeItems vs ++ "]"
  | .object [] => "\x7b\x7d"
  | .object ((k, v) :: ms) =>
    "\x7b" ++ writeString k ++ ":" ++ write v ++ writeMembers ms ++ "\x7d"

def writeItems : List Value → String
  | [] => ""
  | v :: vs => "," ++ write v ++ writeItems vs

def writeMembers : List (String × Value) → String
  | [] => ""
  | (k, v) :: ms => "," ++ writeString k ++ ":" ++ write v ++ writeMembers ms

end

end WorkspaceGateway.Json
