import WorkspaceGateway.Text.Printable

/-!
# Quoted text

A text between double quotes, as it stands in messages: the quote, the backslash and the
common controls are escaped by a letter, characters without a visible form of their own by
their code point in hexadecimal.
-/

set_option autoImplicit false

namespace WorkspaceGateway.Text

def hexDigits (n : Nat) : List Char := Nat.toDigits 16 n

def quoteChar (c : Char) : List Char :=
  if c = '"' then ['\\', '"']
  else if c = '\\' then ['\\', '\\']
  else if c = '\n' then ['\\', 'n']
  else if c = '\r' then ['\\', 'r']
  else if c = '\t' then ['\\', 't']
  else if c.toNat = 0 then ['\\', '0']
  else if 0x20 ≤ c.toNat && c.toNat < 0x7f then [c]
  else if isGraphemeExtend c || !isPrintable c then
    ['\\', 'u', '{'] ++ hexDigits c.toNat ++ ['}']
  else [c]

def quote (s : String) : String :=
  String.ofList (['"'] ++ s.toList.flatMap quoteChar ++ ['"'])

end WorkspaceGateway.Text
