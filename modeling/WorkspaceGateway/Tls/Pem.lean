import WorkspaceGateway.Base64Url
import WorkspaceGateway.Text.Blank
import WorkspaceGateway.Text.Split

/-!
# Labelled sections of a text

Certificates and keys stand in a text between a line that begins a label and a line that ends it,
in padded base64. Lines outside of sections are passed over.
-/

set_option autoImplicit false

namespace WorkspaceGateway.Tls

structure Section where
  label : List Char
  content : Octets
  deriving DecidableEq, Repr

namespace Section

def beginLead : List Char := "-----BEGIN ".toList

def endLead : List Char := "-----END ".toList

def dashes : List Char := "-----".toList

/-- The label that a line begins; the inner option is empty when the line is not complete. -/
def labelOf? (line : List Char) : Option (Option (List Char)) :=
  (Text.stripLead? beginLead line).map fun r =>
    (Text.stripLead? dashes r.reverse).map List.reverse

def urlLetter? (c : Char) : Option Char :=
  if c = '+' then some '-'
  else if c = '/' then some '_'
  else if c = '-' || c = '_' then none
  else some c

def decode? (s : List Char) : Option Octets :=
  let letters := s.takeWhile (· ≠ '=')
  let padding := s.dropWhile (· ≠ '=')
  if s.length % 4 = 0 && padding.length ≤ 2 && padding.all (· = '=') then
    (letters.mapM urlLetter?).bind Base64Url.decode?
  else none

/-- The sections of some lines, where a section may be open; nothing stands in place of a section
that cannot be read. -/
def ofLines (current : Option (List Char × List Char)) : List (List Char) → List (Option Section)
  | [] => if current.isSome then [none] else []
  | l :: ls =>
    match labelOf? l with
    | some none => none :: ofLines none ls
    | some (some label) => ofLines (some (label, [])) ls
    | none =>
      match current with
      | none => ofLines none ls
      | some (label, body) =>
        if (endLead ++ label ++ dashes).isPrefixOf l then
          (decode? body).map (⟨label, ·⟩) :: ofLines none ls
        else ofLines (some (label, body ++ l)) ls

def ofText (s : String) : List (Option Section) :=
  ofLines none ((Text.splitAt '\n' s.toList).map Text.trimRight)

end Section

end WorkspaceGateway.Tls
