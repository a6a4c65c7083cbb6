import WorkspaceGateway.Octets

/-!
# Unpadded base64url

Three octets are four characters of the URL alphabet; a last group of one or two octets is two
or three characters, without padding. Reading is strict: every character must be of the
alphabet, no length may leave a single character over, and the bits that a last short group
leaves unused must be zero. So an octet string has exactly one written form.
-/

set_option autoImplicit false

namespace WorkspaceGateway.Base64Url

def letter (n : Nat) : Char :=
  if n < 26 then Char.ofNat (65 + n)
  else if n < 52 then Char.ofNat (71 + n)
  else if n < 62 then Char.ofNat (n - 4)
  else if n = 62 then '-'
  else '_'

def value? (c : Char) : Option Nat :=
  let n := c.toNat
  if 65 ≤ n && n ≤ 90 then some (n - 65)
  else if 97 ≤ n && n ≤ 122 then some (n - 71)
  else if 48 ≤ n && n ≤ 57 then some (n + 4)
  else if c = '-' then some 62
  else if c = '_' then some 63
  else none

def encode : Octets → List Char
  | [] => []
  | [a] =>
    let n := a.toNat
    [letter (n / 4), letter (n % 4 * 16)]
  | [a, b] =>
    let n := a.toNat * 256 + b.toNat
    [letter (n / 1024), letter (n / 16 % 64), letter (n % 16 * 4)]
  | a :: b :: c :: r =>
    let n := (a.toNat * 256 + b.toNat) * 256 + c.toNat
    letter (n / 262144) :: letter (n / 4096 % 64) :: letter (n / 64 % 64) :: letter (n % 64) ::
      encode r

def decode? : List Char → Option Octets
  | [] => some []
  | [_] => none
  | [w, x] => do
    let n := (← value? w) * 64 + (← value? x)
    if n % 16 = 0 then some [UInt8.ofNat (n / 16)] else none
  | [w, x, y] => do
    let n := ((← value? w) * 64 + (← value? x)) * 64 + (← value? y)
    if n % 4 = 0 then some [UInt8.ofNat (n / 1024), UInt8.ofNat (n / 4 % 256)] else none
  | w :: x :: y :: z :: r => do
    let n := (((← value? w) * 64 + (← value? x)) * 64 + (← value? y)) * 64 + (← value? z)
    let rest ← decode? r
    some (UInt8.ofNat (n / 65536) :: UInt8.ofNat (n / 256 % 256) :: UInt8.ofNat (n % 256) :: rest)

/-! ## Reading and writing -/

theorem value?_letter {n : Nat} (h : n < 64) : value? (letter n) = some n := by
  revert n; decide

theorem decode?_encode (b : Octets) : decode? (encode b) = some b := by
  fun_induction encode b with
  | case1 => rfl
  | case2 a n =>
    have ha : n < 256 := a.toNat_lt
    have hw : n / 4 < 64 := by omega
    have hx : n % 4 * 16 < 64 := by omega
    have hn : n / 4 * 64 + n % 4 * 16 = n * 16 := by omega
    have hz : n / 4 * 64 % 16 = 0 := by omega
    simp [decode?, value?_letter hw, value?_letter hx, hn, hz, n]
  | case3 a b n =>
    have ha := a.toNat_lt
    have hb := b.toNat_lt
    have hn : n = a.toNat * 256 + b.toNat := rfl
    have h1 : n / 1024 < 64 := by omega
    have h2 : n / 16 % 64 < 64 := by omega
    have h3 : n % 16 * 4 < 64 := by omega
    have hs : (n / 1024 * 64 + n / 16 % 64) * 64 + n % 16 * 4 = n * 4 := by omega
    have hx : n * 4 / 1024 = a.toNat := by omega
    have hy : n % 256 = b.toNat := by omega
    have hz : (n / 1024 * 64 + n / 16 % 64) * 64 % 4 = 0 := by omega
    simp [decode?, value?_letter h1, value?_letter h2, value?_letter h3, hs, hx, hy, hz]
  | case4 a b c r n ih =>
    have ha := a.toNat_lt
    have hb := b.toNat_lt
    have hc := c.toNat_lt
    have hn : n = (a.toNat * 256 + b.toNat) * 256 + c.toNat := rfl
    have h1 : n / 262144 < 64 := by omega
    have h2 : n / 4096 % 64 < 64 := by omega
    have h3 : n / 64 % 64 < 64 := by omega
    have h4 : n % 64 < 64 := by omega
    have hs : ((n / 262144 * 64 + n / 4096 % 64) * 64 + n / 64 % 64) * 64 + n % 64 = n := by omega
    have hx : n / 65536 = a.toNat := by omega
    have hy : n / 256 % 256 = b.toNat := by omega
    have hz : n % 256 = c.toNat := by omega
    simp [decode?, value?_letter h1, value?_letter h2, value?_letter h3, value?_letter h4, hs, hx,
      hy, hz, ih]

theorem letter_of_value? {c : Char} {n : Nat} (h : value? c = some n) : n < 64 ∧ letter n = c := by
  have hc := Char.ofNat_toNat c
  simp only [value?, Bool.and_eq_true, decide_eq_true_eq] at h
  split at h
  · injection h with h
    refine ⟨by omega, ?_⟩
    rw [letter, if_pos (by omega), show 65 + n = c.toNat by omega, hc]
  split at h
  · injection h with h
    refine ⟨by omega, ?_⟩
    rw [letter, if_neg (by omega), if_pos (by omega), show 71 + n = c.toNat by omega, hc]
  split at h
  · injection h with h
    refine ⟨by omega, ?_⟩
    rw [letter, if_neg (by omega), if_neg (by omega), if_pos (by omega),
      show n - 4 = c.toNat by omega, hc]
  split at h
  · injection h with h
    subst h
    simp_all [letter]
  split at h
  · injection h with h
    subst h
    simp_all [letter]
  · simp at h

theorem mem_encode {c : Char} {b : Octets} (h : c ∈ encode b) : ∃ n, n < 64 ∧ c = letter n := by
  fun_induction encode b with
  | case1 => simp at h
  | case2 a n =>
    have ha := a.toNat_lt
    simp only [List.mem_cons, List.not_mem_nil, or_false] at h
    rcases h with rfl | rfl
    · exact ⟨n / 4, by omega, rfl⟩
    · exact ⟨n % 4 * 16, by omega, rfl⟩
  | case3 a b n =>
    have ha := a.toNat_lt
    have hb := b.toNat_lt
    simp only [List.mem_cons, List.not_mem_nil, or_false] at h
    rcases h with rfl | rfl | rfl
    · exact ⟨n / 1024, by omega, rfl⟩
    · exact ⟨n / 16 % 64, by omega, rfl⟩
    · exact ⟨n % 16 * 4, by omega, rfl⟩
  | case4 a b c r n ih =>
    have ha := a.toNat_lt
    have hb := b.toNat_lt
    have hc := c.toNat_lt
    simp only [List.mem_cons] at h
    rcases h with rfl | rfl | rfl | rfl | h
    · exact ⟨n / 262144, by omega, rfl⟩
    · exact ⟨n / 4096 % 64, by omega, rfl⟩
    · exact ⟨n / 64 % 64, by omega, rfl⟩
    · exact ⟨n % 64, by omega, rfl⟩
    · exact ih h

theorem toNat_ofNat_of_lt {n : Nat} (h : n < 256) : (UInt8.ofNat n).toNat = n := by
  simp [Nat.mod_eq_of_lt h]

theorem encode_of_decode? {s : List Char} {b : Octets} (h : decode? s = some b) :
    encode b = s := by
  fun_induction decode? s generalizing b with
  | case1 => simp_all [encode]
  | case2 => simp at h
  | case3 w x =>
    simp only [Option.bind_eq_bind, Option.bind_eq_some_iff] at h
    obtain ⟨p, hp, q, hq, h⟩ := h
    split at h <;> simp only [reduceCtorEq, Option.some.injEq] at h
    subst h
    obtain ⟨hp, rfl⟩ := letter_of_value? hp
    obtain ⟨hq, rfl⟩ := letter_of_value? hq
    rw [encode, toNat_ofNat_of_lt (by omega)]
    congr 1
    · congr 1; omega
    · congr 2; omega
  | case4 w x y =>
    simp only [Option.bind_eq_bind, Option.bind_eq_some_iff] at h
    obtain ⟨p, hp, q, hq, r, hr, h⟩ := h
    split at h <;> simp only [reduceCtorEq, Option.some.injEq] at h
    subst h
    obtain ⟨hp, rfl⟩ := letter_of_value? hp
    obtain ⟨hq, rfl⟩ := letter_of_value? hq
    obtain ⟨hr, rfl⟩ := letter_of_value? hr
    rw [encode, toNat_ofNat_of_lt (by omega), toNat_ofNat_of_lt (by omega)]
    congr 1
    · congr 1; omega
    · congr 1
      · congr 1; omega
      · congr 2; omega
  | case5 w x y z r ih =>
    simp only [Option.bind_eq_bind, Option.bind_eq_some_iff] at h
    obtain ⟨i, hi, j, hj, k, hk, l, hl, rest, hrest, h⟩ := h
    simp only [Option.some.injEq] at h
    subst h
    obtain ⟨hi, rfl⟩ := letter_of_value? hi
    obtain ⟨hj, rfl⟩ := letter_of_value? hj
    obtain ⟨hk, rfl⟩ := letter_of_value? hk
    obtain ⟨hl, rfl⟩ := letter_of_value? hl
    rw [encode, toNat_ofNat_of_lt (by omega), toNat_ofNat_of_lt (by omega),
      toNat_ofNat_of_lt (by omega), ih hrest]
    congr 1
    · congr 1; omega
    · congr 1
      · congr 1; omega
      · congr 1
        · congr 1; omega
        · congr 2; omega

/-- Reading accepts exactly what writing produces. -/
theorem decode?_eq_some_iff {s : List Char} {b : Octets} : decode? s = some b ↔ s = encode b :=
  ⟨fun h => (encode_of_decode? h).symm, fun h => h ▸ decode?_encode b⟩

end WorkspaceGateway.Base64Url
