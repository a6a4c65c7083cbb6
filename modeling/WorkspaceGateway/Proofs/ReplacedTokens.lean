import Mathlib.Data.List.Forall2
import WorkspaceGateway.Proofs.BitGroups
import WorkspaceGateway.Proofs.SubprotocolEntries

/-!
# Another token in every bearer entry

To replace the token of a handshake never fails and touches one field only. What is offered
afterwards is what was offered before, entry by entry, with the written form of the new token
behind each bearer lead; so the new token is found where one was, and of two replacements only
the later one shows.
-/

set_option autoImplicit false

namespace WorkspaceGateway

theorem Headers.insert_insert (h : Headers) (n : String) (v w : Octets) :
    (h.insert n v).insert n w = h.insert n w := by
  simp [insert, append, erase, eraseWhere, List.filter_append, List.filter_filter]

namespace Credential

open Headers Octets

def offered (h : Headers) : List (List Char) :=
  (h.entries subprotocolField).filter fun e => !e.isEmpty

inductive Replaced (token : String) : List Char → List Char → Prop
  | bearer {s code : List Char} (written : Base64Url.Writes code (ofText token)) :
      Replaced token (bearerLead ++ s) (bearerLead ++ code)
  | other {e : List Char} (unled : ¬ bearerLead <+: e) : Replaced token e e

theorem replaced_entry (token : String) (e : List Char) :
    Replaced token e (replaceEntry (bearerEntry token) e) := by
  unfold replaceEntry
  split
  · rename_i hled
    obtain ⟨s, rfl⟩ := isPrefixOf_iff.mp hled
    exact .bearer (Base64Url.writes_encode _)
  · rename_i hled
    exact .other fun hp => hled (List.isPrefixOf_iff_prefix.mpr hp)

theorem replacedEntries_eq (h : Headers) (token : String) :
    replacedEntries h token = (offered h).map (replaceEntry (bearerEntry token)) := rfl

theorem replaceEntry_nonempty {token : String} {e : List Char} (h : e ≠ []) :
    replaceEntry (bearerEntry token) e ≠ [] := by
  unfold replaceEntry
  split
  · exact List.append_ne_nil_of_left_ne_nil (by decide) _
  · exact h

theorem replacedEntries_nonempty {h : Headers} {token : String} {e : List Char}
    (he : e ∈ replacedEntries h token) : e ≠ [] := by
  obtain ⟨d, hd, rfl⟩ := List.mem_map.mp he
  apply replaceEntry_nonempty
  simpa using (List.mem_filter.mp hd).2

theorem offered_replace (h : Headers) (token : String) :
    offered (replaceSubprotocolToken h token) = replacedEntries h token := by
  rw [offered, entries_replace]
  split
  · rename_i hnil
    rw [hnil]
    rfl
  · apply List.filter_eq_self.mpr
    intro e he
    simpa using replacedEntries_nonempty he

theorem replaceEntry_twice (t u : String) (e : List Char) :
    replaceEntry (bearerEntry u) (replaceEntry (bearerEntry t) e) =
      replaceEntry (bearerEntry u) e := by
  cases hled : bearerLead.isPrefixOf e with
  | false => simp [replaceEntry, hled]
  | true =>
    have hnew : bearerLead.isPrefixOf (bearerEntry t) = true := isPrefixOf_iff.mpr ⟨_, rfl⟩
    simp [replaceEntry, hled, hnew]

theorem replacedEntries_twice (h : Headers) (t u : String) :
    replacedEntries (replaceSubprotocolToken h t) u = replacedEntries h u := by
  rw [replacedEntries_eq, offered_replace, replacedEntries_eq, replacedEntries_eq, List.map_map]
  exact List.map_congr_left fun e _ => replaceEntry_twice t u e

theorem replace_eq (h : Headers) (token : String) :
    replaceSubprotocolToken h token = h.insert subprotocolField
      (ofText (String.ofList (Text.joinWith [','] (replacedEntries h token)))) := rfl

theorem replace_replace (h : Headers) (t u : String) :
    replaceSubprotocolToken (replaceSubprotocolToken h t) u = replaceSubprotocolToken h u := by
  rw [replace_eq, replacedEntries_twice, replace_eq h t, insert_insert, ← replace_eq]

/-- Replacing a token never fails and keeps every other field. It leaves one value, whose entries
are those that were offered, in their order, each bearer entry with the written form of the new
token. So the new token is found where one was, and replaced again it leaves no trace. -/
theorem token_replaced (h : Headers) (t u : String) :
    ∃ k, exchangeSubprotocolToken h t = .ok k ∧
      (∀ n, n ≠ subprotocolField → k.values n = h.values n) ∧
      (∃ v, k.values subprotocolField = [v]) ∧
      List.Forall₂ (Replaced t) (offered h) (offered k) ∧
      (∀ s, subprotocolToken h = .ok s → t ≠ "" → subprotocolToken k = .ok t) ∧
      exchangeSubprotocolToken k u = exchangeSubprotocolToken h u := by
  refine ⟨replaceSubprotocolToken h t, exchange_eq h t, fun n hn => ?_, ⟨_, values_replace h t⟩,
    ?_, fun s => found_replaced, ?_⟩
  · rw [replace_eq, values_insert, if_neg hn]
  · rw [offered_replace, replacedEntries_eq, List.forall₂_map_right_iff, List.forall₂_same]
    exact fun e _ => replaced_entry t e
  · rw [exchange_eq, exchange_eq, replace_replace]

def scatteredOffer : Headers :=
  ⟨[("upgrade", ofText "websocket"), (subprotocolField, ofText "v4.channel.k8s.io, ,"),
    (subprotocolField, [0xff]), (subprotocolField,
      ofText "base64url.bearer.authorization.k8s.io.dG9rZW4 ,v5.channel.k8s.io")]⟩

theorem scattered_token_replaced :
    subprotocolToken scatteredOffer = .ok "token" ∧
      ∃ k, exchangeSubprotocolToken scatteredOffer "member-token" = .ok k ∧
        k.values "upgrade" = [ofText "websocket"] ∧
        (offered scatteredOffer).length = 3 ∧ (offered k).length = 3 ∧
        subprotocolToken k = .ok "member-token" := by
  have htoken : subprotocolToken scatteredOffer = .ok "token" := by decide +kernel
  have hthree : (offered scatteredOffer).length = 3 := by decide +kernel
  obtain ⟨k, hk, hother, -, hentries, hfound, -⟩ :=
    token_replaced scatteredOffer "member-token" "other-token"
  exact ⟨htoken, k, hk, hother "upgrade" (by decide), hthree, hentries.length_eq ▸ hthree,
    hfound "token" htoken (by decide)⟩

end Credential

end WorkspaceGateway
