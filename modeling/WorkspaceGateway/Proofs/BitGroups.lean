import Mathlib.Data.List.Basic
import Mathlib.Data.List.Induction
import WorkspaceGateway.Base64Url

/-!
# Octets in groups of six bits

The written form of octets is fixed by their bits alone: eight for each octet, read six at a
time, each six a place in the alphabet, with fewer than six zeros behind to fill the last group.
What is written has this form, nothing else has it, and it is what is read. A text that is not
read has a character of its own, a group too many, or something where the zeros should be.
-/

set_option autoImplicit false

namespace WorkspaceGateway.Base64Url

def bits : Nat → Nat → List Bool
  | 0, _ => []
  | w + 1, n => bits w (n / 2) ++ [decide (n % 2 = 1)]

def number (l : List Bool) : Nat := l.foldl (fun n b => 2 * n + b.toNat) 0

theorem length_bits (w n : Nat) : (bits w n).length = w := by
  induction w generalizing n with
  | zero => rfl
  | succ w ih => simp [bits, ih]

theorem number_snoc (l : List Bool) (b : Bool) : number (l ++ [b]) = 2 * number l + b.toNat := by
  simp [number]

theorem number_bits (w n : Nat) : number (bits w n) = n % (1 <<< w) := by
  induction w generalizing n with
  | zero => simp [bits, number, Nat.mod_one]
  | succ w ih =>
    have hlast : (decide (n % 2 = 1)).toNat = n % 2 := by
      rcases Nat.mod_two_eq_zero_or_one n with h | h <;> simp [h]
    rw [bits, number_snoc, ih, hlast, Nat.shiftLeft_succ, Nat.mod_mul, Nat.add_comm]

theorem bits_number (l : List Bool) : bits l.length (number l) = l := by
  induction l using List.reverseRecOn with
  | nil => rfl
  | append_singleton l b ih =>
    have hhalf : (2 * number l + b.toNat) / 2 = number l := by
      have := Bool.toNat_lt b
      omega
    have hlast : decide ((2 * number l + b.toNat) % 2 = 1) = b := by cases b <;> simp
    rw [List.length_append, List.length_singleton, bits, number_snoc, hhalf, hlast, ih]

theorem number_lt (l : List Bool) : number l < 1 <<< l.length := by
  have h := number_bits l.length (number l)
  rw [bits_number] at h
  rw [h, Nat.one_shiftLeft]
  exact Nat.mod_lt _ (Nat.two_pow_pos _)

theorem bits_mod (w n : Nat) : bits w (n % (1 <<< w)) = bits w n := by
  have h := bits_number (bits w n)
  rwa [length_bits, number_bits] at h

theorem bits_zero (w : Nat) : bits w 0 = List.replicate w false := by
  induction w with
  | zero => rfl
  | succ w ih => simp [bits, ih, List.replicate_succ']

theorem bits_add (w v n : Nat) : bits (w + v) n = bits w (n >>> v) ++ bits v n := by
  induction v generalizing n with
  | zero => simp [bits]
  | succ v ih =>
    rw [← Nat.add_assoc, bits, ih, Nat.shiftRight_succ_inside, bits, List.append_assoc]

theorem bits_append {w v p q n : Nat} (hn : n / (1 <<< v) = p) (hq : n % (1 <<< v) = q) :
    bits w p ++ bits v q = bits (w + v) n := by
  rw [bits_add, ← bits_mod v n, hq, Nat.shiftRight_eq_div_pow, ← hn, Nat.one_shiftLeft]

/-! ## Letters and octets -/

def alphabet : List Char :=
  "ABCDEFGHIJKLMNOPQRSTUVWXYZabcdefghijklmnopqrstuvwxyz0123456789-_".toList

def letterBits (s : List Char) : List Bool := s.flatMap fun c => bits 6 (alphabet.idxOf c)

def octetBits (b : Octets) : List Bool := b.flatMap fun x => bits 8 x.toNat

/-- The written form of octets: letters whose bits are those of the octets, with fewer than six
zeros behind. -/
structure Writes (s : List Char) (b : Octets) : Prop where
  letters : ∀ c ∈ s, c ∈ alphabet
  bits_eq : ∃ k, k < 6 ∧ letterBits s = octetBits b ++ List.replicate k false

theorem length_letterBits (s : List Char) : (letterBits s).length = 6 * s.length := by
  simp [letterBits, List.length_flatMap, length_bits, Nat.mul_comm]

theorem length_octetBits (b : Octets) : (octetBits b).length = 8 * b.length := by
  simp [octetBits, List.length_flatMap, length_bits, Nat.mul_comm]

theorem letter_place {n : Nat} (h : n < 64) :
    letter n ∈ alphabet ∧ alphabet.idxOf (letter n) = n := by
  revert n
  decide +kernel

theorem letterBits_letter {n : Nat} (h : n < 64) (s : List Char) :
    letterBits (letter n :: s) = bits 6 n ++ letterBits s := by
  rw [letterBits, List.flatMap_cons, (letter_place h).2]
  rfl

theorem octetBits_cons (x : UInt8) (b : Octets) :
    octetBits (x :: b) = bits 8 x.toNat ++ octetBits b := rfl

/-! ## What is written has the form -/

theorem letterBits_encode (b : Octets) :
    ∃ k, k < 6 ∧ letterBits (encode b) = octetBits b ++ List.replicate k false := by
  -- Each group is one number, whose bits are read off it six at a time and eight at a time.
  fun_induction encode b with
  | case1 => exact ⟨0, by omega, rfl⟩
  | case2 a n =>
    have ha : n < 256 := a.toNat_lt
    have hletters : bits 6 (n / 4) ++ bits 6 (n % 4 * 16) = bits 12 (n * 16) :=
      bits_append (by simp; omega) (by simp; omega)
    have hoctets : bits 8 n ++ bits 4 0 = bits 12 (n * 16) := bits_append (by simp) (by simp)
    refine ⟨4, by omega, ?_⟩
    rw [letterBits_letter (by omega), letterBits_letter (by omega), ← List.append_assoc, hletters,
      ← hoctets, bits_zero, octetBits_cons]
    simp [letterBits, octetBits, n]
  | case3 a b n =>
    have ha := a.toNat_lt
    have hb := b.toNat_lt
    have hn : n = a.toNat * 256 + b.toNat := rfl
    have htwo : bits 6 (n / 1024) ++ bits 6 (n / 16 % 64) = bits 12 (n / 16) :=
      bits_append (by simp; omega) (by simp)
    have hletters : bits 12 (n / 16) ++ bits 6 (n % 16 * 4) = bits 18 (n * 4) :=
      bits_append (by simp; omega) (by simp; omega)
    have hpair : bits 8 a.toNat ++ bits 8 b.toNat = bits 16 n :=
      bits_append (by simp; omega) (by simp; omega)
    have hoctets : bits 16 n ++ bits 2 0 = bits 18 (n * 4) := bits_append (by simp) (by simp)
    refine ⟨2, by omega, ?_⟩
    rw [letterBits_letter (by omega), letterBits_letter (by omega), letterBits_letter (by omega),
      ← List.append_assoc, ← List.append_assoc, htwo, hletters, ← hoctets, ← hpair, bits_zero,
      octetBits_cons, octetBits_cons]
    simp [letterBits, octetBits]
  | case4 a b c r n ih =>
    have ha := a.toNat_lt
    have hb := b.toNat_lt
    have hc := c.toNat_lt
    have hn : n = (a.toNat * 256 + b.toNat) * 256 + c.toNat := rfl
    have htwo : bits 6 (n / 262144) ++ bits 6 (n / 4096 % 64) = bits 12 (n / 4096) :=
      bits_append (by simp; omega) (by simp)
    have hthree : bits 12 (n / 4096) ++ bits 6 (n / 64 % 64) = bits 18 (n / 64) :=
      bits_append (by simp; omega) (by simp)
    have hletters : bits 18 (n / 64) ++ bits 6 (n % 64) = bits 24 n :=
      bits_append (by simp) (by simp)
    have hpair : bits 8 a.toNat ++ bits 8 b.toNat = bits 16 (n / 256) :=
      bits_append (by simp; omega) (by simp; omega)
    have hoctets : bits 16 (n / 256) ++ bits 8 c.toNat = bits 24 n :=
      bits_append (by simp) (by simp; omega)
    obtain ⟨k, hk, hrest⟩ := ih
    refine ⟨k, hk, ?_⟩
    rw [letterBits_letter (by omega), letterBits_letter (by omega), letterBits_letter (by omega),
      letterBits_letter (by omega), hrest, octetBits_cons, octetBits_cons, octetBits_cons]
    simp only [← List.append_assoc, htwo, hthree, hletters, hpair, hoctets]

theorem writes_encode (b : Octets) : Writes (encode b) b where
  letters c hc := by
    obtain ⟨n, hn, rfl⟩ := mem_encode hc
    exact (letter_place hn).1
  bits_eq := letterBits_encode b

/-! ## Nothing else has the form -/

theorem place_lt {c : Char} (h : c ∈ alphabet) : alphabet.idxOf c < 1 <<< 6 :=
  List.idxOf_lt_length_of_mem h

theorem letter_of_bits {c d : Char} (hc : c ∈ alphabet) (hd : d ∈ alphabet)
    (h : bits 6 (alphabet.idxOf c) = bits 6 (alphabet.idxOf d)) : c = d := by
  have hn := congrArg number h
  rw [number_bits, number_bits, Nat.mod_eq_of_lt (place_lt hc), Nat.mod_eq_of_lt (place_lt hd)]
    at hn
  exact (List.idxOf_inj hc).mp hn

theorem letters_of_bits {s t : List Char} (hs : ∀ c ∈ s, c ∈ alphabet)
    (ht : ∀ c ∈ t, c ∈ alphabet) (h : letterBits s = letterBits t) : s = t := by
  induction s generalizing t with
  | nil =>
    have hlen := congrArg List.length h
    rw [length_letterBits, length_letterBits, List.length_nil] at hlen
    exact (List.eq_nil_of_length_eq_zero (by omega)).symm
  | cons c s ih =>
    cases t with
    | nil =>
      have hlen := congrArg List.length h
      rw [length_letterBits, length_letterBits, List.length_cons, List.length_nil] at hlen
      omega
    | cons d t =>
      rw [letterBits, letterBits, List.flatMap_cons, List.flatMap_cons] at h
      obtain ⟨hhead, htail⟩ := List.append_inj h (by rw [length_bits, length_bits])
      rw [letter_of_bits (hs c List.mem_cons_self) (ht d List.mem_cons_self) hhead,
        ih (fun x hx => hs x (List.mem_cons_of_mem c hx))
          (fun x hx => ht x (List.mem_cons_of_mem d hx)) htail]

theorem Writes.lengths {s : List Char} {b : Octets} (h : Writes s b) :
    ∃ k, k < 6 ∧ 6 * s.length = 8 * b.length + k ∧
      letterBits s = octetBits b ++ List.replicate k false := by
  obtain ⟨k, hk, he⟩ := h.bits_eq
  have hlen := congrArg List.length he
  rw [List.length_append, length_letterBits, length_octetBits, List.length_replicate] at hlen
  exact ⟨k, hk, hlen, he⟩

theorem Writes.unique {s t : List Char} {b : Octets} (hs : Writes s b) (ht : Writes t b) :
    s = t := by
  obtain ⟨k, hk, hlen, he⟩ := hs.lengths
  obtain ⟨j, hj, hlen', he'⟩ := ht.lengths
  obtain rfl : k = j := by omega
  exact letters_of_bits hs.letters ht.letters (he.trans he'.symm)

theorem writes_iff {s : List Char} {b : Octets} : Writes s b ↔ s = encode b :=
  ⟨fun h => h.unique (writes_encode b), fun h => h ▸ writes_encode b⟩

/-- Reading accepts the written form of octets and nothing else. -/
theorem decode?_writes {s : List Char} {b : Octets} : decode? s = some b ↔ Writes s b :=
  decode?_eq_some_iff.trans writes_iff.symm

/-! ## What is not read -/

def spareBits (s : List Char) : List Bool :=
  (letterBits s).drop (6 * s.length / 8 * 8)

theorem octets_of_bits {l : List Bool} {m : Nat} (h : l.length = 8 * m) :
    ∃ b : Octets, octetBits b = l := by
  induction m generalizing l with
  | zero => exact ⟨[], (List.eq_nil_of_length_eq_zero h).symm⟩
  | succ m ih =>
    have hhead : (l.take 8).length = 8 := by
      rw [List.length_take]
      omega
    obtain ⟨b, hb⟩ := ih (l := l.drop 8) (by rw [List.length_drop]; omega)
    have hsmall := number_lt (l.take 8)
    have hbits := bits_number (l.take 8)
    rw [hhead] at hsmall hbits
    exact ⟨UInt8.ofNat (number (l.take 8)) :: b, by
      rw [octetBits_cons, toNat_ofNat_of_lt hsmall, hbits, hb, List.take_append_drop]⟩

/-- What is no written form has a character that is no letter, one letter over, or a bit that is
set where only zeros can stand. -/
theorem not_writes_iff {s : List Char} : (∀ b, ¬ Writes s b) ↔
    (∃ c ∈ s, c ∉ alphabet) ∨ s.length % 4 = 1 ∨ true ∈ spareBits s := by
  constructor
  · intro hnone
    by_contra hcon
    simp only [not_or, not_exists, not_and, not_not] at hcon
    obtain ⟨hletters, hlen, hspare⟩ := hcon
    obtain ⟨b, hb⟩ := octets_of_bits (l := (letterBits s).take (6 * s.length / 8 * 8))
      (m := 6 * s.length / 8) (by rw [List.length_take, length_letterBits]; omega)
    refine hnone b ⟨hletters, 6 * s.length - 6 * s.length / 8 * 8, by omega, ?_⟩
    have hzeros : spareBits s =
        List.replicate (6 * s.length - 6 * s.length / 8 * 8) false := by
      refine List.eq_replicate_iff.mpr ⟨?_, fun x hx => ?_⟩
      · rw [spareBits, List.length_drop, length_letterBits]
      · cases x with
        | false => rfl
        | true => exact absurd hx hspare
    rw [hb, ← hzeros, spareBits, List.take_append_drop]
  · rintro hbad b hw
    obtain ⟨k, hk, hlen, he⟩ := hw.lengths
    rcases hbad with ⟨c, hc, hn⟩ | hone | hspare
    · exact hn (hw.letters c hc)
    · omega
    · have hwhole : 6 * s.length / 8 * 8 = (octetBits b).length := by
        rw [length_octetBits]
        omega
      rw [spareBits, he, hwhole, List.drop_left] at hspare
      exact absurd (List.eq_of_mem_replicate hspare) (by decide)

end WorkspaceGateway.Base64Url
