import Mathlib.Data.List.Nodup
import Mathlib.Data.List.TakeDrop
import Mathlib.Data.List.TakeWhile
import WorkspaceGateway.Token.Jwt

/-!
# Which tokens are accepted

A token is accepted exactly when its header names an RSA method and a known key, that key made the
signature over its first two segments, its claims can be read and are not expired, and they name a
subject and a user. Every other token is refused with the kind of error that belongs to the first
condition it fails. How a signature is verified is left open. Of header and claims only some members
are read: the method, the key's name, the subject, the user, the address and the expiry, beside
others that have to be of their kind.
-/

set_option autoImplicit false

namespace WorkspaceGateway.Json

/-! ## Members of a document -/

/-- Members other than those of the names may stand in an object in any number. -/
inductive IsRecord (names : List String) : Value → Prop
  | object {ms : List (String × Value)}
      (once : ∀ n ∈ names, (ms.filter (·.1 = n)).length ≤ 1) : IsRecord names (.object ms)
  | array {vs : List Value} (all : vs.length = names.length) : IsRecord names (.array vs)

def Value.field? (names : List String) (v : Value) (name : String) : Option Value :=
  match v with
  | .array vs => vs[names.idxOf name]?
  | v => v.member? name

inductive SpellsText : Option Value → Option String → Prop
  | absent : SpellsText none none
  | null : SpellsText (some .null) none
  | text (s : String) : SpellsText (some (.string s)) (some s)

variable {names : List String} {ms : List (String × Value)} {name : String} {v : Value}
  {f : Option Value} {fs : List (Option Value)} {t : Option String}

theorem once_some_iff : once? ms name = some f ↔
    (ms.filter (·.1 = name)).length ≤ 1 ∧ f = (Value.object ms).member? name := by
  simp only [once?, Value.member?]
  generalize ms.filter (·.1 = name) = held
  rcases held with _ | ⟨m, _ | ⟨m', rest⟩⟩
  · simpa using eq_comm
  · simpa using eq_comm
  · simp

theorem mapM_once_some_iff : names.mapM (once? ms) = some fs ↔
    (∀ n ∈ names, (ms.filter (·.1 = n)).length ≤ 1) ∧
      fs = names.map (Value.object ms).member? := by
  induction names generalizing fs with
  | nil => simp [eq_comm]
  | cons n names ih =>
    simp only [List.mapM_cons, Option.bind_eq_bind, Option.pure_def, Option.bind_eq_some_iff,
      once_some_iff, ih, Option.some.injEq, List.forall_mem_cons, List.map_cons]
    constructor
    · rintro ⟨_, ⟨hn, rfl⟩, _, ⟨hns, rfl⟩, rfl⟩
      exact ⟨⟨hn, hns⟩, rfl⟩
    · rintro ⟨⟨hn, hns⟩, rfl⟩
      exact ⟨_, ⟨hn, rfl⟩, _, ⟨hns, rfl⟩, rfl⟩

theorem record_some_iff (hd : names.Nodup) : record? names v = some fs ↔
    IsRecord names v ∧ fs = names.map (v.field? names) := by
  cases v with
  | object ms =>
    rw [record?, mapM_once_some_iff]
    constructor
    · rintro ⟨honce, rfl⟩
      exact ⟨.object honce, rfl⟩
    · rintro ⟨hr, rfl⟩
      cases hr with
      | object honce => exact ⟨honce, rfl⟩
  | array vs =>
    have hplaces (hl : vs.length = names.length) :
        names.map ((Value.array vs).field? names) = vs.map some := by
      refine List.ext_getElem (by simp [hl]) fun i hi _ => ?_
      simp only [List.length_map] at hi
      simp [Value.field?, hd.idxOf_getElem, hl, hi]
    simp only [record?, Option.ite_none_right_eq_some, Option.some.injEq]
    constructor
    · rintro ⟨hl, rfl⟩
      exact ⟨.array hl, (hplaces hl).symm⟩
    · rintro ⟨hr, rfl⟩
      cases hr with
      | array hl => exact ⟨hl, (hplaces hl).symm⟩
  | _ => simpa [record?] using fun h => nomatch h

theorem optionalText_some_iff : optionalText? f = some t ↔ SpellsText f t := by
  constructor
  · intro h
    rcases f with _ | v
    · cases h
      exact .absent
    · cases v <;> cases h <;> constructor
  · rintro (_ | _ | _) <;> rfl

theorem optionalText_isSome_iff : (optionalText? f).isSome ↔ ∃ t, SpellsText f t := by
  simp only [Option.isSome_iff_exists, optionalText_some_iff]

end WorkspaceGateway.Json

namespace WorkspaceGateway.Token

/-! ## Segments -/

theorem cutLastDot_eq_some_iff {s before after : List Char} :
    cutLastDot s = some (before, after) ↔ s = before ++ '.' :: after ∧ '.' ∉ after := by
  rw [cutLastDot, List.span_eq_takeWhile_dropWhile]
  simp only [ne_eq, decide_not]
  constructor
  · intro h
    cases hd : s.reverse.dropWhile fun c => !decide (c = '.') with
    | nil => simp [hd] at h
    | cons c rest =>
      simp only [hd, Option.some.injEq, Prod.mk.injEq] at h
      obtain ⟨rfl, rfl⟩ := h
      have hc : c = '.' := by
        have hhead := List.head?_dropWhile_not (fun c => !decide (c = '.')) s.reverse
        rw [hd] at hhead
        simpa using hhead
      have hs := List.takeWhile_append_dropWhile (p := fun c => !decide (c = '.')) (l := s.reverse)
      rw [hd, hc] at hs
      constructor
      · simpa using (congrArg List.reverse hs).symm
      · intro hmem
        have hkept := List.mem_takeWhile_imp (List.mem_reverse.mp hmem)
        simp at hkept
  · rintro ⟨rfl, hnot⟩
    have hall : ∀ c ∈ after.reverse, (!decide (c = '.')) = true := by
      intro c hc
      have hne : c ≠ '.' := fun e => hnot (e ▸ List.mem_reverse.mp hc)
      simp [hne]
    have hrev : (before ++ '.' :: after).reverse = after.reverse ++ '.' :: before.reverse := by
      simp
    rw [hrev, List.takeWhile_append_of_pos hall, List.dropWhile_append_of_pos hall]
    simp

structure Segmented (token : String) (p : Parts) : Prop where
  written : token.toList = p.header ++ '.' :: (p.claims ++ '.' :: p.signature)
  claims_noDot : '.' ∉ p.claims
  signature_noDot : '.' ∉ p.signature

theorem ofToken_iff {token : String} {p : Parts} :
    Parts.ofToken? token.toList = some p ↔ Segmented token p := by
  obtain ⟨header, claims, signature⟩ := p
  simp only [Parts.ofToken?, Option.bind_eq_bind, Option.pure_def, Option.bind_eq_some_iff,
    Prod.exists, cutLastDot_eq_some_iff, Option.some.injEq, Parts.mk.injEq]
  constructor
  · rintro ⟨_, _, ⟨ht, hs⟩, _, _, ⟨rfl, hc⟩, rfl, rfl, rfl⟩
    exact ⟨by rw [ht]; simp, hc, hs⟩
  · rintro ⟨ht, hc, hs⟩
    exact ⟨_, _, ⟨by rw [ht]; simp, hs⟩, _, _, ⟨rfl, hc⟩, rfl, rfl, rfl⟩

def Encodes (part : List Char) (v : Json.Value) : Prop :=
  ∃ b, Base64Url.decode? part = some b ∧ Json.read? b = some v

theorem document_ok_iff {part : List Char} {v : Json.Value} :
    document part = .ok v ↔ Encodes part v := by
  unfold document Encodes
  cases Base64Url.decode? part with
  | none => simp
  | some b => cases hr : Json.read? b <;> simp [hr]

/-! ## The header -/

inductive Method.SignsWith : Method → Digest.Hash → Prop
  | rs256 : SignsWith .rs256 .sha256
  | rs384 : SignsWith .rs384 .sha384
  | rs512 : SignsWith .rs512 .sha512

theorem rsaHash_iff {m : Method} {h : Digest.Hash} : m.rsaHash? = some h ↔ m.SignsWith h := by
  constructor
  · intro hm
    cases m <;> simp only [Method.rsaHash?, Option.some.injEq, reduceCtorEq] at hm <;> subst hm <;>
      constructor
  · intro hm
    cases hm <;> rfl

inductive NamesMethod : Option Json.Value → Method → Prop
  | text (m : Method) : NamesMethod (some (.string m.label)) m
  | variant (m : Method) : NamesMethod (some (.object [(m.label, .null)])) m

structure HeaderOf (v : Json.Value) (m : Method) (id : Option String) : Prop where
  record : Json.IsRecord headerFields v
  alg : NamesMethod (v.field? headerFields "alg") m
  kid : Json.SpellsText (v.field? headerFields "kid") id
  texts : ∀ n ∈ ["typ", "cty", "jku", "x5u", "x5t", "x5t#S256"],
    ∃ t, Json.SpellsText (v.field? headerFields n) t
  chain : isOptionalTexts (v.field? headerFields "x5c") = true
  key : isOptionalKey (v.field? headerFields "jwk") = true

theorem ofLabel_some_iff {s : String} {m : Method} : Method.ofLabel? s = some m ↔ s = m.label := by
  constructor
  · intro h
    simpa [eq_comm] using List.find?_some h
  · rintro rfl
    cases m <;> decide

theorem method_some_iff {f : Option Json.Value} {m : Method} :
    method? f = some m ↔ NamesMethod f m := by
  constructor
  · intro h
    unfold method? at h
    split at h
    · rw [ofLabel_some_iff.mp h]
      exact .text m
    · rw [ofLabel_some_iff.mp h]
      exact .variant m
    · cases h
  · rintro (_ | _) <;> exact ofLabel_some_iff.mpr rfl

theorem header_of_fields {v : Json.Value} {m : Method} {id : Option String}
    {field : String → Option Json.Value}
    (h : Json.record? headerFields v = some (headerFields.map field)) :
    header? v = some (m, id) ↔ method? (field "alg") = some m ∧
      Json.optionalText? (field "kid") = some id ∧
      (["typ", "cty", "jku", "x5u", "x5t", "x5t#S256"].all fun n =>
        (Json.optionalText? (field n)).isSome) = true ∧
      isOptionalTexts (field "x5c") = true ∧ isOptionalKey (field "jwk") = true := by
  unfold header?
  rw [h]
  simp [headerFields, Option.bind_eq_some_iff, and_assoc]

theorem header_some_iff {v : Json.Value} {m : Method} {id : Option String} :
    header? v = some (m, id) ↔ HeaderOf v m id := by
  have hd : headerFields.Nodup := by decide
  constructor
  · intro h
    obtain ⟨fs, hrec⟩ : ∃ fs, Json.record? headerFields v = some fs := by
      cases hrec : Json.record? headerFields v with
      | none => simp [header?, hrec] at h
      | some fs => exact ⟨fs, rfl⟩
    obtain ⟨hr, rfl⟩ := (Json.record_some_iff hd).mp hrec
    obtain ⟨ha, hk, ht, hc, hj⟩ := (header_of_fields hrec).mp h
    exact ⟨hr, method_some_iff.mp ha, Json.optionalText_some_iff.mp hk,
      fun n hn => Json.optionalText_isSome_iff.mp (List.all_eq_true.mp ht n hn), hc, hj⟩
  · intro h
    refine (header_of_fields ((Json.record_some_iff hd).mpr ⟨h.record, rfl⟩)).mpr
      ⟨method_some_iff.mpr h.alg, Json.optionalText_some_iff.mpr h.kid, ?_, h.chain, h.key⟩
    exact List.all_eq_true.mpr fun n hn => Json.optionalText_isSome_iff.mpr (h.texts n hn)

structure NamesKey (token : String) (p : Parts) (h : Digest.Hash) (id : String) : Prop where
  segmented : Segmented token p
  header : ∃ v m, Encodes p.header v ∧ HeaderOf v m (some id) ∧ m.SignsWith h

theorem readHeader_ok_iff {part : List Char} {m : Method} {id : Option String} :
    readHeader part = .ok (m, id) ↔ ∃ v, Encodes part v ∧ HeaderOf v m id := by
  simp only [readHeader, ← document_ok_iff, ← header_some_iff]
  cases document part with
  | error e => simp
  | ok v => cases hx : header? v <;> simp [hx]

/-! ## The signature and the claims -/

def claimNames : List String := ["sub", "preferred_username", "email", "exp", "nbf", "iss", "aud"]

structure ClaimsOf (v : Json.Value) (c : ClaimSet) : Prop where
  object : ∃ ms, v = .object ms
  record : Json.IsRecord claimNames v
  subject : Json.SpellsText (v.member? "sub") c.subject
  username : Json.SpellsText (v.member? "preferred_username") c.username
  email : Json.SpellsText (v.member? "email") c.email
  expiry : ∀ t, c.expiry = some t ↔ ∃ n, v.member? "exp" = some (.number n) ∧ seconds? n = some t
  times : isTimeLike (v.member? "exp") ∧ isTimeLike (v.member? "nbf")

theorem expiry_iff {f : Option Json.Value} {e : Option Nat} :
    (match f with
      | some (.number n) => seconds? n
      | _ => none) = e ↔
      ∀ t, e = some t ↔ ∃ n, f = some (.number n) ∧ seconds? n = some t := by
  have hread (t : Nat) : (match f with
      | some (.number n) => seconds? n
      | _ => none) = some t ↔ ∃ n, f = some (.number n) ∧ seconds? n = some t := by
    rcases f with _ | v
    · simp
    · cases v <;> simp
  constructor
  · rintro rfl
    exact hread
  · intro he
    ext t
    exact (hread t).trans (he t).symm

theorem claimSet_some_iff {v : Json.Value} {c : ClaimSet} :
    claimSet? v = some c ↔ ClaimsOf v c := by
  cases v with
  | object ms =>
    simp only [claimSet?, Option.bind_eq_bind, Option.pure_def, Option.bind_eq_some_iff,
      Option.ite_none_right_eq_some, Option.some.injEq, Bool.and_eq_true, Json.once_some_iff,
      Json.optionalText_some_iff]
    constructor
    · rintro ⟨_, ⟨hsub, rfl⟩, _, hs, _, ⟨huser, rfl⟩, _, hu, _, ⟨hemail, rfl⟩, _, he, _,
        ⟨hexp, rfl⟩, _, ⟨hnbf, rfl⟩, _, ⟨hiss, -⟩, _, ⟨haud, -⟩, htimes, rfl⟩
      refine ⟨⟨ms, rfl⟩, .object ?_, hs, hu, he, expiry_iff.mp rfl, htimes⟩
      simp only [claimNames, List.forall_mem_cons]
      exact ⟨hsub, huser, hemail, hexp, hnbf, hiss, haud, nofun⟩
    · intro h
      cases h.record with
      | object honce =>
        simp only [claimNames, List.forall_mem_cons] at honce
        obtain ⟨hsub, huser, hemail, hexp, hnbf, hiss, haud, -⟩ := honce
        refine ⟨_, ⟨hsub, rfl⟩, _, h.subject, _, ⟨huser, rfl⟩, _, h.username, _, ⟨hemail, rfl⟩, _,
          h.email, _, ⟨hexp, rfl⟩, _, ⟨hnbf, rfl⟩, _, ⟨hiss, rfl⟩, _, ⟨haud, rfl⟩, h.times, ?_⟩
        obtain ⟨sub, username, email, expiry⟩ := c
        rw [ClaimSet.mk.injEq]
        exact ⟨rfl, rfl, rfl, expiry_iff.mpr h.expiry⟩
  | _ =>
    simp only [claimSet?, reduceCtorEq, false_iff]
    exact fun h => nomatch h.object

structure Vouched (verifies : Verifier) (now : Nat) (p : Parts) (h : Digest.Hash) (key : RsaKey)
    (c : ClaimSet) : Prop where
  signed : ∃ s, Base64Url.decode? p.signature = some s ∧
    verifies h key (Octets.ofText (String.ofList (p.header ++ '.' :: p.claims))) s = true
  claims : ∃ v, Encodes p.claims v ∧ ClaimsOf v c
  unexpired : ∃ t, c.expiry = some t ∧ now ≤ t + 5

variable {verifies : Verifier} {keys : KeySet} {now : Nat} {token : String} {p : Parts}
  {h : Digest.Hash} {id : String} {key : RsaKey} {c : ClaimSet}

theorem readClaims_ok_iff {part : List Char} :
    readClaims part = .ok c ↔ ∃ v, Encodes part v ∧ ClaimsOf v c := by
  simp only [readClaims, ← document_ok_iff, ← claimSet_some_iff]
  cases document part with
  | error e => simp
  | ok v => cases hc : claimSet? v <;> simp [hc]

theorem checkExpiry_ok_iff :
    checkExpiry now c = .ok () ↔ ∃ t, c.expiry = some t ∧ now ≤ t + 5 := by
  unfold checkExpiry
  cases c.expiry with
  | none => simp
  | some t =>
    -- Where the subtraction stops at zero, both sides say that nothing is late.
    have hleeway : t < now - leeway ↔ ¬ now ≤ t + 5 := by
      rw [show leeway = 5 from rfl]
      omega
    by_cases hlate : now ≤ t + 5 <;> simp [hleeway, hlate]

theorem signedClaims_ok_iff :
    signedClaims verifies now p h key = .ok c ↔ Vouched verifies now p h key c := by
  have hvouched : Vouched verifies now p h key c ↔
      (∃ s, Base64Url.decode? p.signature = some s ∧ verifies h key p.message s = true) ∧
        readClaims p.claims = .ok c ∧ checkExpiry now c = .ok () := by
    rw [readClaims_ok_iff, checkExpiry_ok_iff]
    exact ⟨fun ⟨hs, hc, he⟩ => ⟨hs, hc, he⟩, fun ⟨hs, hc, he⟩ => ⟨hs, hc, he⟩⟩
  rw [hvouched]
  unfold signedClaims
  cases Base64Url.decode? p.signature with
  | none => simp
  | some s =>
    cases hv : verifies h key p.message s with
    | false => simp [hv]
    | true =>
      cases readClaims p.claims with
      | error e => simp [hv]
      | ok c' =>
        cases he : checkExpiry now c' with
        | error e =>
          simp only [hv, he, Bool.not_true, Bool.false_eq_true, if_false, reduceCtorEq,
            Except.ok.injEq, false_iff, not_and]
          rintro - rfl
          simp [he]
        | ok _ =>
          simp only [hv, he, Bool.not_true, Bool.false_eq_true, if_false, Except.ok.injEq,
            Option.some.injEq, exists_eq_left', true_and]
          exact ⟨fun hc => ⟨hc, hc ▸ he⟩, fun hc => hc.1⟩

structure HeldBy (c : ClaimSet) (holder : Claims) : Prop where
  subject : c.subject = some holder.subject ∧ holder.subject ≠ ""
  username : c.username = some holder.username ∧ holder.username ≠ ""
  email : ∀ address, holder.email = some address ↔ c.email = some address ∧ address ≠ ""

/-- The first claim that is absent or empty. -/
inductive Lacks (c : ClaimSet) : String → Prop
  | subject (absent : ∀ s, c.subject = some s → s = "") : Lacks c "subject"
  | username (subject : ∃ s, c.subject = some s ∧ s ≠ "")
      (absent : ∀ s, c.username = some s → s = "") : Lacks c "preferred_username"

theorem nonEmpty_some_iff {s : Option String} {t : String} :
    nonEmpty? s = some t ↔ s = some t ∧ t ≠ "" := by
  simp only [nonEmpty?, Option.bind_eq_some_iff]
  constructor
  · rintro ⟨u, rfl, hu⟩
    cases he : u.isEmpty with
    | true => simp [he] at hu
    | false =>
      simp only [he, Bool.false_eq_true, if_false, Option.some.injEq] at hu
      subst hu
      exact ⟨rfl, by simpa using he⟩
  · rintro ⟨rfl, ht⟩
    exact ⟨t, rfl, by simp [ht]⟩

theorem nonEmpty_none_iff {s : Option String} :
    nonEmpty? s = none ↔ ∀ t, s = some t → t = "" := by
  simp only [Option.eq_none_iff_forall_ne_some, ne_eq, nonEmpty_some_iff, not_and, not_not]

theorem holder_cases (c : ClaimSet) :
    (∃ claim, holder c = .error (.missingClaim claim) ∧ Lacks c claim) ∨
      ∃ claims, holder c = .ok claims ∧ HeldBy c claims := by
  unfold holder
  cases hs : nonEmpty? c.subject with
  | none => exact .inl ⟨_, rfl, .subject (nonEmpty_none_iff.mp hs)⟩
  | some subject =>
    cases hu : nonEmpty? c.username with
    | none =>
      exact .inl ⟨_, rfl, .username ⟨subject, nonEmpty_some_iff.mp hs⟩ (nonEmpty_none_iff.mp hu)⟩
    | some username =>
      exact .inr ⟨_, rfl, nonEmpty_some_iff.mp hs, nonEmpty_some_iff.mp hu,
        fun _ => nonEmpty_some_iff⟩

theorem holder_of_lacks {claim : String} (hl : Lacks c claim) :
    holder c = .error (.missingClaim claim) := by
  unfold holder
  cases hl with
  | subject absent => rw [nonEmpty_none_iff.mpr absent]
  | username subject absent =>
    obtain ⟨s, hs⟩ := subject
    rw [nonEmpty_some_iff.mpr hs, nonEmpty_none_iff.mpr absent]

theorem holder_of_held {claims : Claims} (hc : HeldBy c claims) : holder c = .ok claims := by
  obtain ⟨subject, username, email⟩ := claims
  have hemail : nonEmpty? c.email = email := by
    ext address
    rw [nonEmpty_some_iff, hc.email address]
  simp only [holder, nonEmpty_some_iff.mpr hc.subject, nonEmpty_some_iff.mpr hc.username, hemail]

/-! ## The verdict -/

theorem parse_of_named (hn : NamesKey token p h id) :
    parse verifies keys now token =
      match keys.get? id with
      | none => .error (.unknownKey id)
      | some key =>
        match signedClaims verifies now p h key with
        | .error e => .error (.invalid e)
        | .ok c => holder c := by
  obtain ⟨v, m, hv, hh, hm⟩ := hn.header
  have hheader := readHeader_ok_iff.mpr ⟨v, hv, hh⟩
  cases hk : keys.get? id with
  | none => simp only [parse, ofToken_iff.mpr hn.segmented, hheader, rsaHash_iff.mpr hm, hk]
  | some key =>
    cases hs : signedClaims verifies now p h key <;>
      simp only [parse, ofToken_iff.mpr hn.segmented, hheader, rsaHash_iff.mpr hm, hk, hs]

theorem parse_of_unnamed (verifies : Verifier) (keys : KeySet) (now : Nat)
    (hn : ∀ p h id, ¬ NamesKey token p h id) :
    ∃ cause, parse verifies keys now token = .error (.invalid cause) := by
  cases hp : Parts.ofToken? token.toList with
  | none => exact ⟨.notThreeParts, by simp only [parse, hp]⟩
  | some p =>
    cases hr : readHeader p.header with
    | error e => exact ⟨e, by simp only [parse, hp, hr]⟩
    | ok x =>
      obtain ⟨m, id⟩ := x
      cases hm : m.rsaHash? with
      | none => exact ⟨.unexpectedMethod m, by simp only [parse, hp, hr, hm]⟩
      | some h =>
        cases id with
        | none => exact ⟨.noKeyName, by simp only [parse, hp, hr, hm]⟩
        | some id =>
          obtain ⟨v, hv, hh⟩ := readHeader_ok_iff.mp hr
          exact absurd ⟨ofToken_iff.mp hp, v, m, hv, hh, rsaHash_iff.mp hm⟩ (hn p h id)

inductive Verdict (verifies : Verifier) (keys : KeySet) (now : Nat) (token : String) :
    Except TokenError Claims → Prop
  | unnamed {cause : InvalidToken} (unnamed : ∀ p h id, ¬ NamesKey token p h id) :
      Verdict verifies keys now token (.error (.invalid cause))
  | unknown {p : Parts} {h : Digest.Hash} {id : String} (named : NamesKey token p h id)
      (unknown : keys.get? id = none) : Verdict verifies keys now token (.error (.unknownKey id))
  | unvouched {p : Parts} {h : Digest.Hash} {id : String} {key : RsaKey} {cause : InvalidToken}
      (named : NamesKey token p h id) (known : keys.get? id = some key)
      (unvouched : ∀ c, ¬ Vouched verifies now p h key c) :
      Verdict verifies keys now token (.error (.invalid cause))
  | lacking {p : Parts} {h : Digest.Hash} {id : String} {key : RsaKey} {c : ClaimSet}
      {claim : String} (named : NamesKey token p h id) (known : keys.get? id = some key)
      (vouched : Vouched verifies now p h key c) (lacking : Lacks c claim) :
      Verdict verifies keys now token (.error (.missingClaim claim))
  | accepted {p : Parts} {h : Digest.Hash} {id : String} {key : RsaKey} {c : ClaimSet}
      {claims : Claims} (named : NamesKey token p h id) (known : keys.get? id = some key)
      (vouched : Vouched verifies now p h key c) (held : HeldBy c claims) :
      Verdict verifies keys now token (.ok claims)

theorem parse_verdict (verifies : Verifier) (keys : KeySet) (now : Nat) (token : String) :
    Verdict verifies keys now token (parse verifies keys now token) := by
  by_cases hn : ∃ p h id, NamesKey token p h id
  · obtain ⟨p, h, id, hn⟩ := hn
    rw [parse_of_named hn]
    cases hk : keys.get? id with
    | none => exact .unknown hn hk
    | some key =>
      cases hs : signedClaims verifies now p h key with
      | error e =>
        simp only [hs]
        refine .unvouched hn hk fun c hv => ?_
        simp [signedClaims_ok_iff.mpr hv] at hs
      | ok c =>
        have hv := signedClaims_ok_iff.mp hs
        rcases holder_cases c with ⟨claim, hc, hl⟩ | ⟨claims, hc, hh⟩
        · simp only [hs, hc]
          exact .lacking hn hk hv hl
        · simp only [hs, hc]
          exact .accepted hn hk hv hh
  · simp only [not_exists] at hn
    obtain ⟨cause, hc⟩ := parse_of_unnamed verifies keys now hn
    rw [hc]
    exact .unnamed hn

/-- The four ways a token is answered, each exactly when its conditions hold. -/
theorem parse_exact (verifies : Verifier) (keys : KeySet) (now : Nat) (token : String) :
    (∀ claims, parse verifies keys now token = .ok claims ↔
      ∃ p h id key c, NamesKey token p h id ∧ keys.get? id = some key ∧
        Vouched verifies now p h key c ∧ HeldBy c claims) ∧
    (∀ id, parse verifies keys now token = .error (.unknownKey id) ↔
      ∃ p h, NamesKey token p h id ∧ keys.get? id = none) ∧
    (∀ claim, parse verifies keys now token = .error (.missingClaim claim) ↔
      ∃ p h id key c, NamesKey token p h id ∧ keys.get? id = some key ∧
        Vouched verifies now p h key c ∧ Lacks c claim) ∧
    ((∃ cause, parse verifies keys now token = .error (.invalid cause)) ↔
      (∀ p h id, ¬ NamesKey token p h id) ∨
      ∃ p h id key, NamesKey token p h id ∧ keys.get? id = some key ∧
        ∀ c, ¬ Vouched verifies now p h key c) := by
  have hverdict := parse_verdict verifies keys now token
  refine ⟨fun claims => ⟨fun hp => ?_, ?_⟩, fun id => ⟨fun hp => ?_, ?_⟩,
    fun claim => ⟨fun hp => ?_, ?_⟩, ⟨fun ⟨cause, hp⟩ => ?_, ?_⟩⟩
  · rw [hp] at hverdict
    cases hverdict with
    | accepted named known vouched held => exact ⟨_, _, _, _, _, named, known, vouched, held⟩
  · rintro ⟨p, h, id, key, c, hn, hk, hv, hh⟩
    simp only [parse_of_named hn, hk, signedClaims_ok_iff.mpr hv, holder_of_held hh]
  · rw [hp] at hverdict
    cases hverdict with
    | unknown named unknown => exact ⟨_, _, named, unknown⟩
  · rintro ⟨p, h, hn, hk⟩
    simp only [parse_of_named hn, hk]
  · rw [hp] at hverdict
    cases hverdict with
    | lacking named known vouched lacking =>
      exact ⟨_, _, _, _, _, named, known, vouched, lacking⟩
  · rintro ⟨p, h, id, key, c, hn, hk, hv, hl⟩
    simp only [parse_of_named hn, hk, signedClaims_ok_iff.mpr hv, holder_of_lacks hl]
  · rw [hp] at hverdict
    cases hverdict with
    | unnamed unnamed => exact .inl unnamed
    | unvouched named known unvouched => exact .inr ⟨_, _, _, _, named, known, unvouched⟩
  · rintro (hn | ⟨p, h, id, key, hn, hk, hv⟩)
    · exact parse_of_unnamed verifies keys now hn
    · rw [parse_of_named hn]
      cases hs : signedClaims verifies now p h key with
      | error e => exact ⟨e, by simp only [hk, hs]⟩
      | ok c => exact absurd (signedClaims_ok_iff.mp hs) (hv c)

def expiringToken : String :=
  "eyJhbGciOiJSUzI1NiIsImtpZCI6ImsifQ." ++
    "eyJzdWIiOiJzIiwicHJlZmVycmVkX3VzZXJuYW1lIjoidSIsImVtYWlsIjoiIiwiZXhwIjo5fQ."

example : (parse (fun _ _ _ _ => true) ⟨[("k", ⟨[], []⟩)]⟩ 14 expiringToken).toOption =
    some ⟨"s", "u", none⟩ := by
  decide +kernel

example : (parse (fun _ _ _ _ => true) ⟨[("k", ⟨[], []⟩)]⟩ 15 expiringToken).toOption = none := by
  decide +kernel

end WorkspaceGateway.Token
