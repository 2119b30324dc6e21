/-
# What a token that is read is like

A token is three segments between dots, all of them in base 64, so that no dot is inside one.  What
is read of them is in the token as it stands: the header and the payload are JSON objects, and the
signature is made for the first two segments with the dot between them.

**Main statements.**  `Segments.read_ok`, `authenticate_ok` and `read_ok`.
-/
import Portcullis.Proofs.Bytes.Base64
import Portcullis.Proofs.Results
import Portcullis.Proofs.Text.Cutting
import Portcullis.Proofs.Text.Utf8
import Portcullis.Token.Compact

namespace Portcullis

namespace Token

/-! ## 1. Segments -/

/-- A text is cut at the last dot. -/
theorem cutLast_eq_some {t before last : Text} (h : cutLast t = some (before, last)) :
    t = before ++ dot :: last ∧ dot ∉ last := by
  rw [cutLast] at h
  split at h
  · next last' before' hcut =>
    obtain ⟨hreverse, hnot⟩ := (Text.cut_eq_some_iff dot _ _ _).mp hcut
    obtain ⟨rfl, rfl⟩ := Prod.mk.inj (Option.some.inj h)
    refine ⟨?_, fun hmem => hnot (List.mem_reverse.mp hmem)⟩
    have hforward := congrArg List.reverse hreverse
    rwa [List.reverse_reverse, List.reverse_append, List.reverse_cons, List.append_assoc,
      List.singleton_append] at hforward
  · cases h

/-- A token is cut at the last dot and, before that, at the first. -/
theorem cutSegments_eq_some {t header payload signature : Text}
    (h : cutSegments t = some (header, payload, signature)) :
    t = header ++ dot :: (payload ++ dot :: signature) ∧ dot ∉ header ∧ dot ∉ signature := by
  rw [cutSegments] at h
  obtain ⟨⟨signed, last⟩, hlast, hsegments⟩ := Option.bind_eq_some_iff.mp h
  obtain ⟨ht, hsignature⟩ := cutLast_eq_some hlast
  simp only at hsegments
  split at hsegments
  · next header' payload' hcut =>
    obtain ⟨hsigned, hheader⟩ := (Text.cut_eq_some_iff dot _ _ _).mp hcut
    obtain ⟨rfl, hrest⟩ := Prod.mk.inj (Option.some.inj hsegments)
    obtain ⟨rfl, rfl⟩ := Prod.mk.inj hrest
    refine ⟨?_, hheader, hsignature⟩
    rw [ht, hsigned, List.append_assoc, List.cons_append]
  · cases hsegments

theorem readHeader_ok {segment : Text} {header : Members} (h : readHeader segment = .ok header) :
    ∃ octets, Base64.decode Base64.urlSafe segment = some octets
      ∧ Json.readBytes octets = .ok (.object header) := by
  rw [readHeader] at h
  split at h
  · cases h
  · next octets hdecode =>
    refine ⟨octets, hdecode, ?_⟩
    split at h
    · cases h
    · next header' hread => rw [hread, Except.ok.inj h]
    · cases h

/-- The payload that is read is in its segment; a payload that is said to be elsewhere is empty. -/
theorem readPayload_ok {header : Members} {segment : Text} {payload : Bytes}
    (h : readPayload header segment = .ok payload) :
    Base64.decode Base64.urlSafe segment = some payload := by
  rw [readPayload] at h
  split at h
  · split at h
    · next hempty =>
      obtain rfl := Except.ok.inj h
      rw [List.isEmpty_iff.mp hempty]
      rfl
    · cases h
  split at h
  · cases h
  · next octets hdecode => rw [hdecode, Except.ok.inj h]

theorem readSignature_ok {segment : Text} {signature : Bytes}
    (h : readSignature segment = .ok signature) :
    Base64.decode Base64.urlSafe segment = some signature := by
  rw [readSignature] at h
  split at h
  · cases h
  · next octets hdecode => rw [hdecode, Except.ok.inj h]

/-- The token is three segments in base 64 that hold these parts: a JSON object, the payload and the
signature, which is for the octets of the first two. -/
def Formed (token : Text) (segments : Segments) : Prop :=
  ∃ header payload signature headerOctets, Text.splitOn dot token = [header, payload, signature]
    ∧ Base64.decode Base64.urlSafe header = some headerOctets
    ∧ Json.readBytes headerOctets = .ok (.object segments.header)
    ∧ Base64.decode Base64.urlSafe payload = some segments.payload
    ∧ Base64.decode Base64.urlSafe signature = some segments.signature
    ∧ Text.utf8? (header ++ dot :: payload) = some segments.signed

theorem dot_notMem_of_decode {segment : Text} {octets : Bytes}
    (h : Base64.decode Base64.urlSafe segment = some octets) : dot ∉ segment := fun hdot =>
  (Base64.urlSafe_sign (Base64.mem_of_decode h dot hdot)).2 rfl

/-- What is signed is the octets of an ASCII text. -/
theorem utf8?_signed {header payload : Text} {headerOctets payloadOctets : Bytes}
    (hheader : Base64.decode Base64.urlSafe header = some headerOctets)
    (hpayload : Base64.decode Base64.urlSafe payload = some payloadOctets) :
    Text.utf8? (header ++ dot :: payload) = some (Bytes.ofAscii (header ++ dot :: payload)) := by
  refine Text.utf8?_of_lt fun c hc => ?_
  rcases List.mem_append.mp hc with hc | hc
  · exact (Base64.urlSafe_sign (Base64.mem_of_decode hheader c hc)).1
  rcases List.mem_cons.mp hc with rfl | hc
  · decide
  · exact (Base64.urlSafe_sign (Base64.mem_of_decode hpayload c hc)).1

/-- A token whose parts are read where it is cut is formed of them. -/
theorem formed_of_cut {t header payload signature : Text}
    (hcut : cutSegments t = some (header, payload, signature)) {fields : Members}
    (hfields : readHeader header = .ok fields) {content mac : Bytes}
    (hcontent : Base64.decode Base64.urlSafe payload = some content)
    (hmac : readSignature signature = .ok mac) :
    Formed t ⟨fields, content, mac, Bytes.ofAscii (header ++ dot :: payload)⟩ := by
  obtain ⟨rfl, hheader, hsignature⟩ := cutSegments_eq_some hcut
  obtain ⟨octets, hdigits, hobject⟩ := readHeader_ok hfields
  refine ⟨header, payload, signature, octets, ?_, hdigits, hobject, hcontent,
    readSignature_ok hmac, utf8?_signed hdigits hcontent⟩
  rw [Text.splitOn_append hheader, Text.splitOn_append (dot_notMem_of_decode hcontent),
    Text.splitOn_of_notMem hsignature]

/-- **What is read of a token** is what it is formed of. -/
theorem Segments.read_ok {t : Text} {segments : Segments} (h : Segments.read t = .ok segments) :
    Formed t segments := by
  rw [Segments.read] at h
  split at h
  · cases h
  next header payload signature hcut =>
  obtain ⟨fields, hfields, h⟩ := bind_eq_ok h
  obtain ⟨content, hcontent, h⟩ := bind_eq_ok h
  obtain ⟨mac, hmac, h⟩ := bind_eq_ok h
  obtain ⟨_, -, h⟩ := bind_eq_ok h
  obtain rfl := Except.ok.inj h
  exact formed_of_cut hcut hfields (readPayload_ok hcontent) hmac

/-! ## 2. Signature and payload -/

theorem liftFlaw_ok {α : Type} {x : Except Flaw α} {a : α} (h : liftFlaw x = .ok a) :
    x = .ok a := by
  cases x with
  | error flaw => cases h
  | ok b => exact congrArg Except.ok (Except.ok.inj h)

/-- A result stays, and a flaw is that of a token. -/
theorem liftFlaw_cases {α : Type} (x : Except Flaw α) :
    (∃ a, x = .ok a ∧ liftFlaw x = .ok a) ∨ ∃ flaw, liftFlaw x = .error (.token flaw) := by
  cases x with
  | ok a => exact Or.inl ⟨a, rfl, rfl⟩
  | error flaw => exact Or.inr ⟨flaw, rfl⟩

/-- The algorithm that is chosen is the key's, and the header names it. -/
theorem chooseAlgorithm_ok {allowed : Text} {header : Members} {a : Algorithm}
    (h : chooseAlgorithm allowed header = .ok a) :
    Members.get? "alg" header = some (.text allowed) ∧ Algorithm.ofName? allowed = some a := by
  rw [chooseAlgorithm] at h
  split at h
  · cases h
  · next name hname =>
    split at h
    · cases h
    · next hallowed =>
      have heq : name = allowed := by
        by_contra hne
        exact hallowed (Or.inr hne)
      subst heq
      split at h
      · cases h
      · next b hb => exact ⟨hname, hb.trans (congrArg some (Except.ok.inj h))⟩
  · cases h

/-- A header that names the key's algorithm chooses it. -/
theorem chooseAlgorithm_of_named {allowed : Text} {header : Members} {a : Algorithm}
    (hname : Members.get? "alg" header = some (.text allowed))
    (ha : Algorithm.ofName? allowed = some a) : chooseAlgorithm allowed header = .ok a := by
  have hallowed : ¬ (allowed.isEmpty = true ∨ allowed ≠ allowed) := by
    rintro (hempty | hne)
    · rw [List.isEmpty_iff.mp hempty] at ha
      cases ha
    · exact hne rfl
  rw [chooseAlgorithm, hname]
  simp only [if_neg hallowed, ha]

/-- A secret that can be used is no text of a public key. -/
theorem secretBytes_ok {key : Text} {secret : Bytes} (h : secretBytes key = .ok secret) :
    key.utf8? = some secret ∧ isAsymmetricKey key secret = false := by
  rw [secretBytes] at h
  split at h
  · cases h
  next octets hoctets =>
  split at h
  · cases h
  split at h
  · cases h
  next hasymmetric =>
  split at h
  · cases h
  · obtain rfl := Except.ok.inj h
    exact ⟨hoctets, (Bool.not_eq_true _).mp hasymmetric⟩

/-- **A token whose signature is the key's** names the key's algorithm, and by that algorithm its
signature is valid under the key. -/
theorem authenticate_ok {algorithm key token : Text} {segments : Segments}
    (h : authenticate algorithm key token = .ok segments) :
    Segments.read token = .ok segments
      ∧ Members.get? "alg" segments.header = some (.text algorithm)
      ∧ ∃ a, Algorithm.ofName? algorithm = some a
        ∧ a.verify key segments.signed segments.signature = .ok true := by
  rw [authenticate] at h
  split at h
  · cases h
  · obtain ⟨read, hread, h⟩ := bind_eq_ok h
    obtain ⟨a, ha, h⟩ := bind_eq_ok h
    obtain ⟨valid, hvalid, h⟩ := bind_eq_ok h
    obtain ⟨hnamed, hofName⟩ := chooseAlgorithm_ok (liftFlaw_ok ha)
    cases valid with
    | false => cases h
    | true =>
      obtain rfl := Except.ok.inj h
      exact ⟨liftFlaw_ok hread, hnamed, a, hofName, hvalid⟩

theorem readClaims_ok {payload : Bytes} {claims : Members} (h : readClaims payload = .ok claims) :
    Json.readBytes payload = .ok (.object claims) := by
  rw [readClaims] at h
  split at h
  · cases h
  · next read hread => rw [hread, Except.ok.inj h]
  · cases h

/-- The claims that are read are the object in the payload, and they hold. -/
theorem read_ok {algorithm key token : Text} {expect : Expectations} {now : Rat} {claims : Members}
    (h : read algorithm key expect now token = .ok claims) :
    ∃ segments, authenticate algorithm key token = .ok segments
      ∧ Json.readBytes segments.payload = .ok (.object claims)
      ∧ checkClaims expect now claims = .ok () := by
  obtain ⟨segments, hsegments, h⟩ := bind_eq_ok h
  obtain ⟨payload, hpayload, h⟩ := bind_eq_ok h
  obtain ⟨_, hcheck, h⟩ := bind_eq_ok h
  obtain rfl := Except.ok.inj h
  exact ⟨segments, hsegments, readClaims_ok (liftFlaw_ok hpayload), liftFlaw_ok hcheck⟩

end Token

end Portcullis
