import WorkspaceGateway.Octets
import WorkspaceGateway.Text.Printable
import WorkspaceGateway.Text.Split
import WorkspaceGateway.Url.Punycode

/-!
# Domain names

A domain is compared and written in its ASCII form: letters small, and each label with other
characters as `xn--` and its Punycode. A domain that holds a delimiter of URLs, a blank or a
control, or a label whose ASCII form stands for no label, is no domain.
-/

set_option autoImplicit false

namespace WorkspaceGateway.Url

/-- Capital letters outside ASCII whose small letter is a fixed distance on: first and last of a
range, the step from one capital to the next, and the distance. -/
def capitalRanges : List (Nat × Nat × Nat × Nat) :=
  [(0xC0, 0xD6, 1, 32), (0xD8, 0xDE, 1, 32), (0x100, 0x12E, 2, 1), (0x134, 0x136, 2, 1),
    (0x139, 0x147, 2, 1), (0x14A, 0x176, 2, 1), (0x179, 0x17D, 2, 1), (0x386, 0x386, 1, 38),
    (0x388, 0x38A, 1, 37), (0x38C, 0x38C, 1, 64), (0x38E, 0x38F, 1, 63), (0x391, 0x3A1, 1, 32),
    (0x3A3, 0x3AB, 1, 32), (0x400, 0x40F, 1, 80), (0x410, 0x42F, 1, 32), (0x460, 0x480, 2, 1),
    (0x48A, 0x4BE, 2, 1), (0x4C1, 0x4CD, 2, 1), (0x4D0, 0x52E, 2, 1), (0x531, 0x556, 1, 48),
    (0x1E00, 0x1E94, 2, 1), (0x1EA0, 0x1EFE, 2, 1), (0xFF21, 0xFF3A, 1, 32)]

/-- Characters that are read as others: signs that are letters, and letters with no fixed
distance to their small form. -/
def foldedSigns : List (Nat × List Char) :=
  [(0x17F, ['s']), (0x130, ['i', Char.ofNat 0x307]), (0x1E9E, [Char.ofNat 0xDF]),
    (0x212A, ['k']), (0x212B, [Char.ofNat 0xE5]), (0x2126, [Char.ofNat 0x3C9]), (0xAA, ['a']),
    (0xBA, ['o']), (0xB2, ['2']), (0xB3, ['3']), (0xB9, ['1']), (0x2122, ['t', 'm']),
    (0xBC, ['1', Char.ofNat 0x2044, '4']), (0xBD, ['1', Char.ofNat 0x2044, '2']),
    (0xBE, ['3', Char.ofNat 0x2044, '4']), (0xB5, [Char.ofNat 0x3BC]), (0x132, ['i', 'j']),
    (0x133, ['i', 'j']), (0xFB00, ['f', 'f']), (0xFB01, ['f', 'i']), (0xFB02, ['f', 'l'])]

def smallLetter (n : Nat) : Nat :=
  match capitalRanges.find? fun (a, b, step, _) => a ≤ n && n ≤ b && (n - a) % step = 0 with
  | some (_, _, _, d) => n + d
  | none => if n = 0x178 then 0xFF else n

def isIgnored (n : Nat) : Bool :=
  n = 0xAD || n = 0x34F || n = 0x200B || n = 0x2060 || n = 0x2064 || n = 0xFEFF ||
    (0x180B ≤ n && n ≤ 0x180D) || (0xFE00 ≤ n && n ≤ 0xFE0F)

def foldDomainChar? (c : Char) : Option (List Char) :=
  let n := c.toNat
  if n < 128 then some [c.toLower]
  else if isIgnored n then some []
  else if n = 0x3002 || n = 0xFF0E || n = 0xFF61 then some ['.']
  else if 0xFF01 ≤ n && n ≤ 0xFF5E then some [(Char.ofNat (n - 0xFEE0)).toLower]
  else match foldedSigns.find? (·.1 = n) with
    | some (_, cs) => some cs
    | none => if Text.isPrintable c then some [Char.ofNat (smallLetter n)] else none

def markedLetters : List (Nat × String) :=
  [(0x300, "aàeèiìnǹoòuùwẁyỳâầêềôồüǜăằēḕōṑơờưừеѐиѝ"),
    (0x301, "aácćeégǵiíkḱlĺmḿnńoópṕrŕsśuúwẃyýzź" ++
      "âấåǻæǽçḉêếïḯôốõṍøǿüǘăắēḗōṓũṹơớưứαάεέηήιίοόυύωώϊΐϋΰгѓкќ"),
    (0x302, "aâcĉeêgĝhĥiîjĵoôsŝuûwŵyŷzẑạậẹệọộ"),
    (0x303, "aãeẽiĩnñoõuũvṽyỹâẫêễôỗăẵơỡưữ"),
    (0x304, "aāeēgḡiīoōuūyȳäǟæǣõȭöȫüǖǫǭȧǡȯȱиӣуӯḷḹṛṝ"),
    (0x306, "aăeĕgğiĭoŏuŭȩḝаӑеӗжӂийуўạặ"),
    (0x307, "aȧbḃcċdḋeėfḟgġhḣmṁnṅoȯpṗrṙsṡtṫwẇxẋyẏzżśṥšṧṣṩ"),
    (0x308, "aäeëhḧiïoötẗuüwẅxẍyÿõṏūṻιϊυϋаӓеёжӝзӟиӥоӧуӱчӵыӹэӭіїәӛөӫ"),
    (0x309, "aảeẻiỉoỏuủyỷâẩêểôổăẳơởưử"),
    (0x30A, "aåuůwẘyẙ"),
    (0x30B, "oőuűуӳ"),
    (0x30C, "aǎcčdďeěgǧhȟiǐjǰkǩlľnňoǒrřsštťuǔzžüǚ"),
    (0x31B, "oơuưòờóớõỡùừúứũữọợỏởụựủử"),
    (0x323, "aạbḅdḍeẹhḥiịkḳlḷmṃnṇoọrṛsṣtṭuụvṿwẉyỵzẓâậêệôộăặơợưựṡṩ"),
    (0x327, "cçdḑeȩgģhḩkķlļnņrŗsştţćḉĕḝ"),
    (0x328, "aąeęiįoǫuųōǭ")]

def secondOf? (c : Char) : List Char → Option Char
  | a :: b :: r => if a = c then some b else secondOf? c r
  | _ => none

def marked? (letter mark : Char) : Option Char :=
  (markedLetters.find? (·.1 = mark.toNat)).bind fun m => secondOf? letter m.2.toList

/-- Joins letters with the marks after them; the characters before are in reverse. -/
def joinMarks (before : List Char) : List Char → List Char
  | [] => before.reverse
  | c :: r =>
    match before with
    | [] => joinMarks [c] r
    | b :: bs =>
      match marked? b c with
      | some d => joinMarks (d :: bs) r
      | none => joinMarks (c :: b :: bs) r

def isForbiddenInDomain (c : Char) : Bool :=
  c.toNat ≤ 0x20 || c.toNat = 0x7f || "%#/:<>?@[\\]^|".toList.contains c

def aceLead : List Char := "xn--".toList

def isAceBody (s : List Char) : Bool :=
  match Punycode.decode? s with
  | none => false
  | some label =>
    label.any (fun c => 128 ≤ c.toNat) && Punycode.encode label = s &&
      label.all fun c => foldDomainChar? c = some [c]

def labelAscii? (label : List Char) : Option (List Char) :=
  let isAscii := label.all fun c => c.toNat < 128
  match Text.stripLead? aceLead label with
  | some body => if isAscii && isAceBody body then some label else none
  | none => some (if isAscii then label else aceLead ++ Punycode.encode label)

def domainAscii? (domain : Octets) : Option (List Char) := do
  let text ← domain.text?
  let folded := joinMarks [] (← text.toList.mapM foldDomainChar?).flatten
  let labels ← (Text.splitAt '.' folded).mapM labelAscii?
  let ascii := Text.joinWith ['.'] labels
  if ascii.any isForbiddenInDomain then none else some ascii

end WorkspaceGateway.Url
