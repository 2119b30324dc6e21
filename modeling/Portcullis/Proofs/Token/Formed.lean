/-
# What the segments of a token hold

What a token is formed of is in it once and for all (`Formed.unique`), the claims in its payload
included (`Carries`).  If its header says nothing but the algorithm and the type (`Plain`), a token
is read exactly if it is formed of something, and it has a flaw of decoding if it is not.

**Main statements.**  `Segments.read_of_formed` and `Segments.read_cases`.
-/
import Portcullis.Proofs.Token.Lifetime
import Portcullis.Proofs.Token.Minting

namespace Portcullis

theorem Members.get?_eq_none {name : Text} {ms : Members} (h : ∀ m ∈ ms, m.1 ≠ name) :
    ms.get? name = none := by
  induction ms with
  | nil => rfl
  | cons m ms ih =>
    obtain ⟨hm, hms⟩ := List.forall_mem_cons.mp h
    rw [get?_cons, if_neg hm, ih hms]

namespace Token

/-- The header says nothing but the algorithm and the type. -/
def Plain (header : Members) : Prop := ∀ m ∈ header, m.1 = "alg" ∨ m.1 = "typ"

/-- The payload of the token holds these claims. -/
def Carries (token : Text) (claims : Members) : Prop :=
  ∃ segments, Formed token segments ∧ Json.readBytes segments.payload = .ok (.object claims)

/-! ## 1. Once and for all -/

theorem Formed.unique {token : Text} {s s' : Segments} (h : Formed token s)
    (h' : Formed token s') : s = s' := by
  obtain ⟨first, second, third, octets, hsplit, hfirst, hheader, hsecond, hthird, hsigned⟩ := h
  obtain ⟨_, _, _, octets', hsplit', hfirst', hheader', hsecond', hthird', hsigned'⟩ := h'
  obtain ⟨rfl, rfl, rfl⟩ : first = _ ∧ second = _ ∧ third = _ := by
    simpa using hsplit.symm.trans hsplit'
  obtain rfl : octets = octets' := by simpa using hfirst.symm.trans hfirst'
  cases s
  cases s'
  simp_all

theorem Carries.unique {token : Text} {claims claims' : Members} (h : Carries token claims)
    (h' : Carries token claims') : claims = claims' := by
  obtain ⟨s, hformed, hclaims⟩ := h
  obtain ⟨s', hformed', hclaims'⟩ := h'
  obtain rfl := hformed.unique hformed'
  simpa using hclaims.symm.trans hclaims'

/-- The contents of a token are the claims that it carries. -/
theorem carries_of_contents {algorithm key token : Text} {claims : Members}
    (h : contents algorithm key token = .ok claims) : Carries token claims := by
  obtain ⟨segments, hsegments, hclaims⟩ := bind_eq_ok h
  obtain ⟨hread, -, -⟩ := authenticate_ok hsegments
  exact ⟨segments, Segments.read_ok hread, readClaims_ok (liftFlaw_ok hclaims)⟩

/-! ## 2. Plain headers -/

/-- Nothing is wrong with a plain header. -/
theorem Plain.checkHeader {header : Members} (h : Plain header) :
    isDetached header = false ∧ Token.checkHeader header = .ok () := by
  have habsent : ∀ name : Text, name ≠ "alg" → name ≠ "typ" → header.get? name = none := by
    intro name halg htyp
    refine Members.get?_eq_none fun m hm hname => ?_
    rcases h m hm with hm | hm
    · exact halg (hname.symm.trans hm)
    · exact htyp (hname.symm.trans hm)
  have hdetached : isDetached header = false := by
    rw [isDetached, habsent "b64" (by decide) (by decide)]
    rfl
  refine ⟨hdetached, ?_⟩
  rw [Token.checkHeader, checkKeyId, checkCritical, checkDetached, hdetached,
    habsent "kid" (by decide) (by decide), habsent "crit" (by decide) (by decide)]
  rfl

/-- **A token with a plain header** is read as it is formed. -/
theorem Segments.read_of_formed {token : Text} {s : Segments} (h : Formed token s)
    (hplain : Plain s.header) : Segments.read token = .ok s := by
  obtain ⟨first, second, third, octets, hsplit, hfirst, hheader, hsecond, hthird, hsigned⟩ := h
  obtain ⟨hattached, hcheck⟩ := hplain.checkHeader
  have htoken : token = (first ++ dot :: second) ++ dot :: third := by
    have hjoin := Text.join_splitOn dot token
    rw [hsplit] at hjoin
    simpa [Text.join] using hjoin.symm
  have hcut : cutSegments token = some (first, second, third) := by
    rw [htoken]
    exact cutSegments_append (dot_notMem_of_decode hfirst) (dot_notMem_of_decode hthird)
  have hfields : readHeader first = .ok s.header := by
    rw [readHeader, hfirst]
    simp only [hheader]
  have hpayload : readPayload s.header second = .ok s.payload := by
    rw [readPayload, if_neg (ne_true_of_eq_false hattached), hsecond]
  have hsignature : readSignature third = .ok s.signature := by
    rw [readSignature, hthird]
  have hoctets : s.signed = Bytes.ofAscii (first ++ dot :: second) := by
    simpa using hsigned.symm.trans (utf8?_signed hfirst hsecond)
  rw [Segments.read, hcut]
  simp only [hfields, hpayload, hsignature, hcheck, ok_bind, ← hoctets]
  rfl

/-- A token that is formed of nothing has a flaw of decoding. -/
theorem failsOnly_read_of_not_formed {token : Text} (h : ∀ s, ¬ Formed token s) :
    FailsOnly (·.kind = .decoding) (Segments.read token) := by
  unfold Segments.read
  split
  · exact failsOnly_error rfl
  next first second third hcut =>
  have hheader : FailsOnly (·.kind = .decoding) (readHeader first) := by
    unfold readHeader
    split
    · exact failsOnly_error rfl
    split
    · exact failsOnly_error rfl
    · exact failsOnly_ok _
    · exact failsOnly_error rfl
  have hpayload : ∀ header, FailsOnly (·.kind = .decoding) (readPayload header second) := by
    intro header
    unfold readPayload
    split
    · split
      · exact failsOnly_ok _
      · exact failsOnly_error rfl
    split
    · exact failsOnly_error rfl
    · exact failsOnly_ok _
  have hsignature : FailsOnly (·.kind = .decoding) (readSignature third) := by
    unfold readSignature
    split
    · exact failsOnly_error rfl
    · exact failsOnly_ok _
  refine hheader.bind fun header hfields => (hpayload header).bind fun payload hcontent => ?_
  refine hsignature.bind fun signature hmac => ?_
  -- By now the token is formed of what was read, whatever its header says of itself.
  exact absurd (formed_of_cut hcut hfields (readPayload_ok hcontent) hmac) (h _)

/-- **A token whose header is plain if it has one** is read as it is formed, or has a flaw of
decoding if it is formed of nothing. -/
theorem Segments.read_cases {token : Text} (hplain : ∀ s, Formed token s → Plain s.header) :
    (∃ s, Formed token s ∧ Segments.read token = .ok s)
      ∨ ((∀ s, ¬ Formed token s)
        ∧ ∃ flaw : Flaw, flaw.kind = .decoding ∧ Segments.read token = .error flaw) := by
  by_cases hformed : ∃ s, Formed token s
  · obtain ⟨s, hs⟩ := hformed
    exact Or.inl ⟨s, hs, read_of_formed hs (hplain s hs)⟩
  · have hnone : ∀ s, ¬ Formed token s := not_exists.mp hformed
    cases hread : Segments.read token with
    | ok s => exact absurd (Segments.read_ok hread) (hnone s)
    | error flaw =>
      exact Or.inr ⟨hnone, flaw, failsOnly_read_of_not_formed hnone flaw hread, rfl⟩

end Token

end Portcullis
