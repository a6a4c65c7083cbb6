/-!
# Blank characters

The characters of the Unicode property `White_Space`, and trimming a text at both ends by
them. The ASCII blanks, U+0085 and U+00A0 are among them; the zero-width space and the
byte order mark are not.
-/

set_option autoImplicit false

namespace WorkspaceGateway.Text

/-- Unicode `White_Space`. -/
def isBlank (c : Char) : Bool :=
  let n := c.toNat
  (9 ≤ n && n ≤ 13) || n = 0x20 || n = 0x85 || n = 0xA0 || n = 0x1680 ||
    (0x2000 ≤ n && n ≤ 0x200A) || n = 0x2028 || n = 0x2029 || n = 0x202F ||
    n = 0x205F || n = 0x3000

def trimLeft (s : List Char) : List Char := s.dropWhile isBlank

def trimRight (s : List Char) : List Char := (s.reverse.dropWhile isBlank).reverse

def trim (s : List Char) : List Char := trimRight (trimLeft s)

@[simp] theorem trim_nil : trim [] = [] := rfl

theorem trimLeft_of_head {c : Char} {s : List Char} (h : isBlank c = false) :
    trimLeft (c :: s) = c :: s := by
  simp [trimLeft, h]

def isBlankText (s : List Char) : Bool := s.all isBlank

end WorkspaceGateway.Text
