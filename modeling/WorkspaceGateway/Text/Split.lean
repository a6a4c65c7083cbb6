/-!
# Splitting and joining

`splitAt sep s` cuts a list at every occurrence of `sep`; `joinWith sep` puts the pieces
together again. A list without the separator is one piece, so there is always at least one.
`stripLead?` takes a given beginning off a list.
-/

set_option autoImplicit false

namespace WorkspaceGateway.Text

variable {α : Type} [DecidableEq α]

def splitAt (sep : α) : List α → List (List α)
  | [] => [[]]
  | c :: r =>
    if c = sep then [] :: splitAt sep r
    else match splitAt sep r with
      | [] => [[c]]
      | p :: ps => (c :: p) :: ps

def joinWith (sep : List α) : List (List α) → List α
  | [] => []
  | [p] => p
  | p :: q :: ps => p ++ sep ++ joinWith sep (q :: ps)

def stripLead? : List α → List α → Option (List α)
  | [], s => some s
  | _ :: _, [] => none
  | a :: as, c :: s => if a = c then stripLead? as s else none

theorem stripLead?_eq_some_iff {lead s r : List α} :
    stripLead? lead s = some r ↔ s = lead ++ r := by
  induction lead generalizing s with
  | nil => simp [stripLead?]
  | cons a as ih =>
    cases s with
    | nil => simp [stripLead?]
    | cons c s =>
      by_cases h : a = c
      · simp [stripLead?, h, ih]
      · have h' : ¬ c = a := fun e => h e.symm
        simp [stripLead?, h, h']

theorem splitAt_ne_nil (sep : α) (s : List α) : splitAt sep s ≠ [] := by
  cases s with
  | nil => simp [splitAt]
  | cons c r =>
    by_cases h : c = sep
    · simp [splitAt, h]
    · simp only [splitAt, h, if_false]
      split <;> simp

@[simp] theorem splitAt_nil (sep : α) : splitAt sep [] = [[]] := rfl

@[simp] theorem splitAt_cons_self (sep : α) (r : List α) :
    splitAt sep (sep :: r) = [] :: splitAt sep r := by simp [splitAt]

theorem not_mem_of_mem_splitAt (sep : α) (s p : List α) (hp : p ∈ splitAt sep s) : sep ∉ p := by
  induction s generalizing p with
  | nil => simp_all [splitAt]
  | cons c r ih =>
    by_cases h : c = sep
    · simp only [splitAt, h, if_true, List.mem_cons] at hp
      rcases hp with rfl | hp
      · simp
      · exact ih p hp
    · simp only [splitAt, h, if_false] at hp
      cases hs : splitAt sep r with
      | nil => exact absurd hs (splitAt_ne_nil sep r)
      | cons q qs =>
        rw [hs] at hp
        simp only [List.mem_cons] at hp
        rcases hp with rfl | hp
        · simp only [List.mem_cons, not_or]
          exact ⟨fun e => h e.symm, ih q (by simp [hs])⟩
        · exact ih p (by simp [hs, hp])

end WorkspaceGateway.Text
