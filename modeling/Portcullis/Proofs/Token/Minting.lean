/-
# A minted token is read back

A minted token is three segments in base 64, which are cut where they were joined.  Under the same
shared secret its signature is the one that is expected, so the claims that are read are those that
were written, as they are read back from ASCII, and whether they are returned is up to their checks
alone.  The times in them are read back whatever else they hold (`Timed`), and so is the end of the
token.

**Main statements.**  `read_mint`, `claims_of_read_minted`, `Timed.read_of_lt` and
`Timed.read_of_le`.
-/
import Portcullis.Instant
import Portcullis.Proofs.Json.Ascii
import Portcullis.Proofs.Token.Claims

namespace Portcullis

/-- The second that an instant from 1970 on is in has begun. -/
theorem Instant.wholeSeconds_le {t : Instant} (h : 0 ≤ t) : (wholeSeconds t : Rat) ≤ t := by
  rw [wholeSeconds, if_pos h]
  exact Rat.floor_le t

namespace Token

/-! ## 1. Segments -/

/-- What is behind the last dot is cut off. -/
theorem cutLast_append {signed last : Text} (h : dot ∉ last) :
    cutLast (signed ++ dot :: last) = some (signed, last) := by
  have hcut : Text.cut dot (signed ++ dot :: last).reverse
      = (last.reverse, some signed.reverse) := by
    refine (Text.cut_eq_some_iff dot _ _ _).mpr ⟨?_, fun hmem => h (List.mem_reverse.mp hmem)⟩
    rw [List.reverse_append, List.reverse_cons, List.append_assoc, List.singleton_append]
  rw [cutLast, hcut]
  simp only [List.reverse_reverse]

/-- Segments without dots are cut where they were joined. -/
theorem cutSegments_append {header payload signature : Text} (hheader : dot ∉ header)
    (hsignature : dot ∉ signature) :
    cutSegments ((header ++ dot :: payload) ++ dot :: signature)
      = some (header, payload, signature) := by
  have hcut : Text.cut dot (header ++ dot :: payload) = (header, some payload) :=
    (Text.cut_eq_some_iff dot _ _ _).mpr ⟨rfl, hheader⟩
  rw [cutSegments, cutLast_append hsignature]
  simp only [Option.bind_eq_bind, Option.bind_some, hcut]

theorem ascii_encode (b : Bytes) : Text.Ascii (Base64.encode Base64.urlSafe b) := fun _ hc =>
  (Base64.urlSafe_sign (Or.inl (Base64.isSome_of_mem_encode hc))).1

theorem dot_notMem_encode (b : Bytes) : dot ∉ Base64.encode Base64.urlSafe b := fun hc =>
  (Base64.urlSafe_sign (Or.inl (Base64.isSome_of_mem_encode hc))).2 rfl

theorem mem_names_of_ofName? {name : Text} {a : Algorithm} (h : Algorithm.ofName? name = some a) :
    (name, a) ∈ Algorithm.names := by
  obtain ⟨before, after, hnames, -⟩ := List.lookup_eq_some_iff.mp h
  rw [hnames]
  exact List.mem_append_right _ List.mem_cons_self

/-- The names of algorithms are ASCII. -/
theorem ascii_of_ofName? {name : Text} {a : Algorithm} (h : Algorithm.ofName? name = some a) :
    Text.Ascii name := by
  have hall : ∀ entry ∈ Algorithm.names, Text.Ascii entry.1 := by decide
  exact hall (name, a) (mem_names_of_ofName? h)

/-- The header of an algorithm is read from its segment. -/
theorem readHeader_segment {algorithm : Text} {a : Algorithm}
    (h : Algorithm.ofName? algorithm = some a) :
    readHeader (segment (headerOf algorithm)) = .ok (headerOf algorithm) := by
  have hback : (headerOf algorithm).readBack .ascii = headerOf algorithm := by
    have hmembers : (headerOf algorithm).readBack .ascii = headerOf algorithm.joined := rfl
    rw [hmembers, Text.joined_eq_self (ascii_of_ofName? h).whole.unpaired]
  have hread : Json.readBytes (Bytes.ofAscii (Json.ascii (.object (headerOf algorithm))))
      = .ok (.object (headerOf algorithm)) := by
    rw [Json.readBytes_ascii rfl rfl, Json.readBack_object, hback]
  rw [readHeader, segment, Base64.decode_encode]
  simp only [hread]

/-- What is checked of a header finds nothing wrong with the header of an algorithm. -/
theorem checkHeader_headerOf (algorithm : Text) : checkHeader (headerOf algorithm) = .ok () := rfl

/-- The header and the claims of a token with the dot between them, which are signed. -/
def signedPart (algorithm : Text) (claims : Members) : Text :=
  segment (headerOf algorithm) ++ dot :: segment claims

/-- The segments of a minted token are read as they were joined. -/
theorem Segments.read_minted {algorithm : Text} {a : Algorithm}
    (h : Algorithm.ofName? algorithm = some a) (claims : Members) (signature : Bytes) :
    Segments.read (signedPart algorithm claims
        ++ dot :: Base64.encode Base64.urlSafe signature) = .ok {
      header := headerOf algorithm
      payload := Bytes.ofAscii (Json.ascii (.object claims))
      signature
      signed := Bytes.ofAscii (signedPart algorithm claims) } := by
  have hpayload : readPayload (headerOf algorithm) (segment claims)
      = .ok (Bytes.ofAscii (Json.ascii (.object claims))) := by
    have hattached : isDetached (headerOf algorithm) = false := rfl
    rw [readPayload, if_neg (ne_true_of_eq_false hattached), segment, Base64.decode_encode]
  have hsignature : readSignature (Base64.encode Base64.urlSafe signature) = .ok signature := by
    rw [readSignature, Base64.decode_encode]
  have hcut : cutSegments (signedPart algorithm claims
      ++ dot :: Base64.encode Base64.urlSafe signature)
        = some (segment (headerOf algorithm), segment claims,
          Base64.encode Base64.urlSafe signature) :=
    cutSegments_append (dot_notMem_encode _) (dot_notMem_encode _)
  rw [Segments.read, hcut]
  simp only [readHeader_segment h, hpayload, hsignature, checkHeader_headerOf, ok_bind]
  rfl

/-! ## 2. The whole token -/

/-- The parts of a minted token. -/
theorem mint_ok {algorithm key token : Text} {claims : Members} {a : Algorithm}
    (ha : Algorithm.ofName? algorithm = some a) (h : mint algorithm key claims = .ok token) :
    Json.nestsWithin Json.maxDepth (.object claims) = true
      ∧ Json.integersFit (.object claims) = true
      ∧ ∃ signature, a.sign key (Bytes.ofAscii (signedPart algorithm claims)) = .ok signature
        ∧ token = signedPart algorithm claims
          ++ dot :: Base64.encode Base64.urlSafe signature := by
  rw [mint] at h
  split at h
  · cases h
  next hnests =>
  split at h
  · cases h
  next hfits =>
  rw [ha] at h
  obtain ⟨signature, hsignature, h⟩ := bind_eq_ok h
  rw [Bool.not_eq_true, Bool.not_eq_false'] at hnests hfits
  exact ⟨hnests, hfits, signature, hsignature, (Except.ok.inj h).symm⟩

/-- Only a known algorithm mints. -/
theorem ofName?_of_mint {algorithm key token : Text} {claims : Members}
    (h : mint algorithm key claims = .ok token) : ∃ a, Algorithm.ofName? algorithm = some a := by
  rw [mint] at h
  split at h
  · cases h
  split at h
  · cases h
  split at h
  · cases h
  · next a ha => exact ⟨a, ha⟩

/-- The segments of a token and the dots between them are ASCII. -/
theorem ascii_minted (algorithm : Text) (claims : Members) (signature : Bytes) :
    Text.Ascii (signedPart algorithm claims ++ dot :: Base64.encode Base64.urlSafe signature) := by
  have hdot : dot.val < 0x80 := by decide
  rw [signedPart, Text.ascii_append, Text.ascii_append, Text.ascii_cons, Text.ascii_cons]
  exact ⟨⟨ascii_encode _, hdot, ascii_encode _⟩, hdot, ascii_encode _⟩

theorem ascii_of_mint {algorithm key token : Text} {claims : Members}
    (h : mint algorithm key claims = .ok token) : Text.Ascii token := by
  obtain ⟨a, ha⟩ := ofName?_of_mint h
  obtain ⟨-, -, signature, -, rfl⟩ := mint_ok ha h
  exact ascii_minted algorithm claims signature

/-- What a shared secret signs is valid under it. -/
theorem Algorithm.verify_sign {hash : Hash} {key : Text} {message signature : Bytes}
    (h : (Algorithm.hmac hash).sign key message = .ok signature) :
    (Algorithm.hmac hash).verify key message signature = .ok true := by
  obtain ⟨secret, hsecret, h⟩ := bind_eq_ok h
  obtain rfl := Except.ok.inj h
  rw [verify, hsecret, ok_bind, beq_self_eq_true]
  rfl

/-- The header of a known algorithm chooses it. -/
theorem chooseAlgorithm_headerOf {algorithm : Text} {a : Algorithm}
    (h : Algorithm.ofName? algorithm = some a) :
    chooseAlgorithm algorithm (headerOf algorithm) = .ok a :=
  chooseAlgorithm_of_named rfl h

/-- A minted token is authentic under the shared secret that signed it. -/
theorem authenticate_minted {algorithm key : Text} {hash : Hash}
    (ha : Algorithm.ofName? algorithm = some (.hmac hash)) {claims : Members} {signature : Bytes}
    (h : (Algorithm.hmac hash).sign key (Bytes.ofAscii (signedPart algorithm claims))
      = .ok signature) :
    authenticate algorithm key (signedPart algorithm claims
        ++ dot :: Base64.encode Base64.urlSafe signature) = .ok {
      header := headerOf algorithm
      payload := Bytes.ofAscii (Json.ascii (.object claims))
      signature
      signed := Bytes.ofAscii (signedPart algorithm claims) } := by
  have hascii := ascii_minted algorithm claims signature
  have hwhole : (signedPart algorithm claims
      ++ dot :: Base64.encode Base64.urlSafe signature).any CodePoint.isSurrogate = false :=
    List.any_eq_false.mpr fun c hc => ne_true_of_eq_false (hascii.whole c hc)
  rw [authenticate, hwhole, Segments.read_minted ha]
  simp only [liftFlaw, chooseAlgorithm_headerOf ha, ok_bind, Algorithm.verify_sign h, if_true,
    Bool.false_eq_true, if_false]
  rfl

/-- **A minted token is read back**: what becomes of it is up to the checks of its claims. -/
theorem read_mint {algorithm key token : Text} {claims : Members} {hash : Hash}
    (ha : Algorithm.ofName? algorithm = some (.hmac hash))
    (h : mint algorithm key claims = .ok token) (expect : Expectations) (now : Rat) :
    read algorithm key expect now token = (do
      liftFlaw (checkClaims expect now (claims.readBack .ascii))
      return claims.readBack .ascii) := by
  obtain ⟨hnests, hfits, signature, hsignature, rfl⟩ := mint_ok ha h
  have hclaims : readClaims (Bytes.ofAscii (Json.ascii (.object claims)))
      = .ok (claims.readBack .ascii) := by
    rw [readClaims, Json.readBytes_ascii hnests hfits, Json.readBack_object]
  rw [read, authenticate_minted ha hsignature, ok_bind]
  simp only [hclaims, liftFlaw, ok_bind]

/-- **Whatever is read of a minted token** are the claims that were written, also under another
key. -/
theorem claims_of_read_minted {algorithm key token : Text} {claims : Members} {a : Algorithm}
    (ha : Algorithm.ofName? algorithm = some a) (h : mint algorithm key claims = .ok token)
    {algorithm' key' : Text} {expect : Expectations} {now : Rat} {found : Members}
    (hread : read algorithm' key' expect now token = .ok found) :
    found = claims.readBack .ascii := by
  obtain ⟨hnests, hfits, signature, -, rfl⟩ := mint_ok ha h
  obtain ⟨segments, hsegments, hpayload, -⟩ := read_ok hread
  have hsame := (authenticate_ok hsegments).1.symm.trans (Segments.read_minted ha claims signature)
  rw [Except.ok.inj hsame, Json.readBytes_ascii hnests hfits, Json.readBack_object] at hpayload
  exact (Json.object.inj (Except.ok.inj hpayload)).symm

/-! ## 3. The claims that are read back -/

section ReadBack

variable {claims : Members}

/-- What is read back under a name in ASCII. -/
theorem get?_readBack_ascii (names : Json.UniqueNames (.object claims)) {n : Text}
    (hn : Text.Ascii n) :
    (claims.readBack .ascii).get? n = (claims.get? n).map (Json.readBack .ascii) :=
  Members.get?_readBack names.names fun c hc => Nat.lt_trans (hn c hc) (by decide)

/-- A claim that is there and not null is so after reading. -/
theorem present_readBack (names : Json.UniqueNames (.object claims)) {n : Text}
    (hn : Text.Ascii n) {v : Json} (hv : claims.get? n = some v)
    (hnull : (v.readBack .ascii).isNull = false) : Present (claims.readBack .ascii) n :=
  ⟨_, by rw [get?_readBack_ascii names hn, hv]; rfl, hnull⟩

/-- A text without pairs of surrogates is read back as it is. -/
theorem get?_readBack_text (names : Json.UniqueNames (.object claims)) {n t : Text}
    (hn : Text.Ascii n) (h : claims.get? n = some (.text t)) (ht : t.Unpaired) :
    (claims.readBack .ascii).get? n = some (.text t) := by
  rw [get?_readBack_ascii names hn, h, Option.map_some, Json.readBack_text, Text.joined_eq_self ht]

/-- A claim that is a text or absent is one or the other after reading. -/
theorem text_readBack (names : Json.UniqueNames (.object claims)) {n : Text} (hn : Text.Ascii n)
    (h : claims.get? n = none ∨ ∃ t, claims.get? n = some (.text t)) :
    (claims.readBack .ascii).get? n = none
      ∨ ∃ t, (claims.readBack .ascii).get? n = some (.text t) := by
  rw [get?_readBack_ascii names hn]
  rcases h with hnone | ⟨t, htext⟩
  · rw [hnone]
    exact Or.inl rfl
  · rw [htext]
    exact Or.inr ⟨t.joined, rfl⟩

/-- The claims name a time of issue and an end, and no other beginning. -/
structure Timed (claims : Members) (start stop : Int) : Prop where
  names : Json.UniqueNames (.object claims)
  issuedAt : claims.get? "iat" = some (.int start)
  expiry : claims.get? "exp" = some (.int stop)
  noBeginning : claims.get? "nbf" = none

namespace Timed

variable {start stop : Int} {t : Rat}

theorem issuedAt_readBack (h : Timed claims start stop) (ht : start ≤ t) :
    ∀ v, (claims.readBack .ascii).get? "iat" = some v →
      ∃ i : Int, integerOf? v = some i ∧ i ≤ t := by
  intro v hv
  rw [get?_readBack_ascii h.names (by decide), h.issuedAt] at hv
  obtain rfl := Option.some.inj hv
  exact ⟨start, rfl, ht⟩

theorem noBeginning_readBack (h : Timed claims start stop) :
    ∀ v, (claims.readBack .ascii).get? "nbf" = some v →
      ∃ i : Int, integerOf? v = some i ∧ i ≤ t := by
  intro v hv
  rw [get?_readBack_ascii h.names (by decide), h.noBeginning] at hv
  cases hv

theorem expiry_readBack (h : Timed claims start stop) :
    (claims.readBack .ascii).get? "exp" = some (.int stop) := by
  rw [get?_readBack_ascii h.names (by decide), h.expiry]
  rfl

/-- From the issue up to the end the claims are in time. -/
theorem inTime (h : Timed claims start stop) {required : List Text}
    (present : ∀ n ∈ required, Present (claims.readBack .ascii) n) (ht : start ≤ t)
    (hlt : t < stop) : InTime (claims.readBack .ascii) required t where
  present := present
  issuedAt := h.issuedAt_readBack ht
  notBefore := h.noBeginning_readBack
  expiry v hv := by
    obtain rfl := Option.some.inj (h.expiry_readBack.symm.trans hv)
    exact ⟨stop, rfl, hlt⟩

section Minted

variable {algorithm key token : Text} {hash : Hash} {expect : Expectations}

/-- **From the issue up to the end a minted token is read** where its claims suit. -/
theorem read_of_lt (h : Timed claims start stop)
    (ha : Algorithm.ofName? algorithm = some (.hmac hash))
    (hmint : mint algorithm key claims = .ok token)
    (present : ∀ n ∈ expect.required, Present (claims.readBack .ascii) n)
    (hsuits : Suits expect (claims.readBack .ascii)) (ht : start ≤ t) (hlt : t < stop) :
    read algorithm key expect t token = .ok (claims.readBack .ascii) := by
  rw [read_mint ha hmint, checkClaims_of_inTime (h.inTime present ht hlt) hsuits]
  rfl

/-- **From the end on a minted token is refused as expired.** -/
theorem read_of_le (h : Timed claims start stop)
    (ha : Algorithm.ofName? algorithm = some (.hmac hash))
    (hmint : mint algorithm key claims = .ok token)
    (present : ∀ n ∈ expect.required, Present (claims.readBack .ascii) n) (ht : start ≤ t)
    (hle : stop ≤ t) : read algorithm key expect t token = .error (.token .expired) := by
  have hexpired : checkClaims expect t (claims.readBack .ascii) = .error .expired :=
    checkClaims_of_expired present (h.issuedAt_readBack ht) h.noBeginning_readBack
      h.expiry_readBack rfl hle
  rw [read_mint ha hmint, hexpired]
  rfl

end Minted

end Timed

end ReadBack

end Token

end Portcullis
