/-!
# Points in time

A date and a time of day with its offset from universal time, as objects carry them.
-/

set_option autoImplicit false

namespace WorkspaceGateway

/-- Date and time of day, without the offset. -/
structure Timestamp where
  year : Nat
  month : Nat
  day : Nat
  hour : Nat
  minute : Nat
  /-- Sixty for a leap second. -/
  second : Nat
  deriving DecidableEq, Repr

namespace Timestamp

def isLeapYear (y : Nat) : Bool := y % 4 = 0 && (y % 100 ≠ 0 || y % 400 = 0)

def daysIn (year month : Nat) : Nat :=
  match month with
  | 2 => if isLeapYear year then 29 else 28
  | 4 => 30
  | 6 => 30
  | 9 => 30
  | 11 => 30
  | _ => 31

def isValid (t : Timestamp) : Bool :=
  1 ≤ t.month && t.month ≤ 12 && 1 ≤ t.day && t.day ≤ daysIn t.year t.month && t.hour ≤ 23 &&
    t.minute ≤ 59 && t.second ≤ 60

def digits? (count : Nat) (s : List Char) : Option (Nat × List Char) :=
  let ds := s.take count
  if ds.length = count && ds.all Char.isDigit then
    some (ds.foldl (fun n c => 10 * n + (c.toNat - 48)) 0, s.drop count)
  else none

def after? (marks s : List Char) : Option (List Char) :=
  match s with
  | c :: r => if marks.contains c then some r else none
  | [] => none

def afterFraction? (s : List Char) : Option (List Char) :=
  match s with
  | '.' :: r => if (r.takeWhile Char.isDigit).isEmpty then none else some (r.dropWhile Char.isDigit)
  | _ => some s

def isOffset (s : List Char) : Bool :=
  match s with
  | ['Z'] => true
  | ['z'] => true
  | _ =>
    let minutes? : Option Nat := do
      let (_, s) ← digits? 2 (← after? ['+', '-'] s)
      let (m, s) ← digits? 2 (← after? [':'] s)
      if s.isEmpty then some m else none
    match minutes? with
    | some m => decide (m < 60)
    | none => false

def read? (s : String) : Option Timestamp := do
  let (year, s) ← digits? 4 s.toList
  let (month, s) ← digits? 2 (← after? ['-'] s)
  let (day, s) ← digits? 2 (← after? ['-'] s)
  let (hour, s) ← digits? 2 (← after? ['T', 't', ' '] s)
  let (minute, s) ← digits? 2 (← after? [':'] s)
  let (second, s) ← digits? 2 (← after? [':'] s)
  let t : Timestamp := ⟨year, month, day, hour, minute, second⟩
  if t.isValid && isOffset (← afterFraction? s) then some t else none

end Timestamp

end WorkspaceGateway
