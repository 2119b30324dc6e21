/-
# Bearer tokens

A request offers a token in its first authorization header: behind the scheme of bearers, in some
letter case, and one space, with or without blanks around it (`Offers`).  The static check lets in
whoever offers the secret of the service, and refuses everybody else.

A secret and a token are compared by their octets.  That is as good as comparing the texts, since no
two texts have the same octets; and what headers can hold always has octets.

**Main statement.**  `authenticate_static_iff`.
-/
import Portcullis.Proofs.Authentication.Outcome
import Portcullis.Proofs.Text.Casing
import Portcullis.Proofs.Text.Cutting
import Portcullis.Proofs.Text.Trimming
import Portcullis.Proofs.Text.Utf8

namespace Portcullis

/-! ## 1. What a request offers -/

namespace Request

/-- The first authorization header has a token in it. -/
def Offers (r : Request) (token : Text) : Prop :=
  ∃ scheme rest : Text, r.header? "authorization" = some (scheme ++ CodePoint.ofNat 0x20 :: rest)
    ∧ CodePoint.ofNat 0x20 ∉ scheme ∧ scheme.asciiLower = "bearer" ∧ rest.strip = token

/-- The values of headers are octets, each the code point of that number. -/
def InOctets (r : Request) : Prop := ∀ header ∈ r.headers, ∀ c ∈ header.2, c.val < 0x100

/-- The scheme of bearers in any letter case of ASCII, and in no other letters. -/
theorem lower_eq_bearer_iff (scheme : Text) :
    scheme.lower = "bearer" ↔ scheme.asciiLower = "bearer" :=
  Text.lower_eq_iff (by decide)

/-- **The bearer token** of a request is what it offers, if that is not empty. -/
theorem bearerToken?_eq_some_iff (r : Request) (token : Text) :
    r.bearerToken? = some token ↔ r.Offers token ∧ token ≠ [] := by
  rw [bearerToken?]
  cases hvalue : r.header? "authorization" with
  | none =>
    refine iff_of_false (Option.some_ne_none token).symm ?_
    rintro ⟨⟨_, _, hsome, -⟩, -⟩
    exact absurd (hvalue.symm.trans hsome) (Option.some_ne_none _).symm
  | some value =>
    simp only [Option.bind_eq_bind, Option.bind_some, lower_eq_bearer_iff]
    constructor
    · intro h
      split at h
      · next hbearer =>
        obtain ⟨hscheme, hne⟩ := hbearer
        obtain rfl := Option.some.inj h
        cases hrest : (Text.cut (CodePoint.ofNat 0x20) value).2 with
        | none =>
          rw [hrest] at hne
          exact absurd rfl hne
        | some rest =>
          rw [hrest] at hne
          obtain ⟨hsplit, hspace⟩ := (Text.cut_eq_some_iff _ _ _ _).mp (Prod.ext rfl hrest)
          exact ⟨⟨_, rest, hvalue.trans (congrArg some hsplit), hspace, hscheme, rfl⟩, hne⟩
      · cases h
    · rintro ⟨⟨scheme, rest, hsome, hspace, hscheme, rfl⟩, hne⟩
      obtain rfl := Option.some.inj (hvalue.symm.trans hsome)
      rw [(Text.cut_eq_some_iff _ _ _ _).mpr ⟨rfl, hspace⟩]
      exact if_pos ⟨hscheme, hne⟩

/-- What headers can hold has octets, and so has what is offered in them. -/
theorem InOctets.whole {r : Request} (h : r.InOctets) {token : Text}
    (hoffers : r.Offers token) : Text.Whole token := by
  obtain ⟨scheme, rest, hsome, -, -, rfl⟩ := hoffers
  obtain ⟨before, after, hsplit, -⟩ := List.lookup_eq_some_iff.mp hsome
  have hheader := h _ (hsplit ▸ List.mem_append_right before List.mem_cons_self)
  intro c hc
  have hoctet := hheader c
    (List.mem_append_right scheme (List.mem_cons_of_mem _ (Text.mem_of_mem_strip hc)))
  exact CodePoint.isSurrogate_of_lt (Nat.lt_trans hoctet (by decide))

end Request

/-! ## 2. The secret of the service -/

namespace StaticSecret

/-- A secret is taken if it is not empty and has octets, which are kept. -/
theorem ofText_eq_ok_iff (secret : Text) (s : StaticSecret) :
    ofText secret = .ok s ↔ secret ≠ [] ∧ secret.utf8? = some s.octets := by
  rw [ofText]
  cases secret with
  | nil => exact iff_of_false nofun fun h => h.1 rfl
  | cons c rest =>
    rw [List.isEmpty_cons, if_neg Bool.false_ne_true, and_iff_right (List.cons_ne_nil c rest)]
    cases hoctets : Text.utf8? (c :: rest) with
    | none => exact iff_of_false nofun (Option.some_ne_none _).symm
    | some b =>
      constructor
      · intro h
        obtain rfl := Except.ok.inj h
        rfl
      · intro h
        obtain rfl := Option.some.inj h
        rfl

/-- **A token passes** if it is the secret itself. -/
theorem check_eq {secret : Text} {s : StaticSecret} (hs : ofText secret = .ok s) {token : Text}
    (hwhole : Text.Whole token) : s.check token = .ok (decide (token = secret)) := by
  obtain ⟨hne, hsecret⟩ := (ofText_eq_ok_iff secret s).mp hs
  rw [check]
  cases token with
  | nil => rw [List.isEmpty_nil, if_pos rfl, decide_eq_false hne.symm]
  | cons c rest =>
    have hoctets := (Text.utf8?_eq_some_iff (c :: rest) _).mpr ⟨hwhole, rfl⟩
    rw [List.isEmpty_cons, if_neg Bool.false_ne_true, hoctets]
    refine congrArg Except.ok (Bool.eq_iff_iff.mpr ?_)
    rw [beq_iff_eq, decide_eq_true_iff]
    constructor
    · intro h
      exact Text.utf8?_inj (h ▸ hoctets) hsecret
    · rintro rfl
      exact Option.some.inj (hoctets.symm.trans hsecret)

end StaticSecret

/-! ## 3. Authentication -/

namespace Authentication

/-- The static check lets in whoever offers the secret, and refuses everybody else in one way. -/
theorem outcome_static {trust : Trust} {secret : Text} {s : StaticSecret}
    (hs : StaticSecret.ofText secret = .ok s) (htrust : trust.static = some s) {r : Request}
    (hr : r.InOctets) :
    (r.Offers secret ∧ (static trust r).outcome = .ok { kind := .static })
      ∨ (¬ r.Offers secret ∧ ∃ message data, (static trust r).outcome
          = .error (.web message "unauthorized" 401 (.ok data) .null none)) := by
  have hne := ((StaticSecret.ofText_eq_ok_iff secret s).mp hs).1
  rw [static, htrust]
  simp only [bearerOrRefuse]
  cases htoken : r.bearerToken? with
  | none =>
    refine Or.inr ⟨fun hoffers => ?_, _, _, rfl⟩
    have hbears := (r.bearerToken?_eq_some_iff secret).mpr ⟨hoffers, hne⟩
    exact absurd (htoken.symm.trans hbears) (Option.some_ne_none secret).symm
  | some token =>
    obtain ⟨hoffers, -⟩ := (r.bearerToken?_eq_some_iff token).mp htoken
    have hcheck := StaticSecret.check_eq hs (hr.whole hoffers)
    by_cases heq : token = secret
    · rw [decide_eq_true heq] at hcheck
      refine Or.inl ⟨heq ▸ hoffers, ?_⟩
      refine (Attempt.outcome_ok_bind _ _).trans ((Attempt.outcome_note_bind _ _ _).trans ?_)
      rw [hcheck]
      rfl
    · rw [decide_eq_false heq] at hcheck
      refine Or.inr ⟨fun hsecret => heq ?_, "Invalid token supplied",
        .object [("credentials", .text token)], ?_⟩
      · have hbears := (r.bearerToken?_eq_some_iff secret).mpr ⟨hsecret, hne⟩
        exact Option.some.inj (htoken.symm.trans hbears)
      · refine (Attempt.outcome_ok_bind _ _).trans ((Attempt.outcome_note_bind _ _ _).trans ?_)
        rw [hcheck]
        rfl

/-- **Whoever offers the secret is let in** by the static strategy, and nobody else: every other
request is refused as that of a client whose identity is not established. -/
theorem authenticate_static_iff {trust : Trust} {secret : Text} {s : StaticSecret}
    (hs : StaticSecret.ofText secret = .ok s) (htrust : trust.static = some s) {r : Request}
    (hr : r.InOctets) (now : Instant) :
    ((authenticate trust .static r now).outcome = .ok { kind := .static } ↔ r.Offers secret)
      ∧ (¬ r.Offers secret → ∃ message data, (authenticate trust .static r now).outcome
          = .error (.web message "unauthorized" 401 (.ok data) .null none)) := by
  rw [authenticate_ok_iff, check]
  rcases outcome_static hs htrust hr with ⟨hoffers, hok⟩ | ⟨hnot, message, data, herror⟩
  · exact ⟨iff_of_true hok hoffers, fun hnot => absurd hoffers hnot⟩
  · have hcheck : (check trust .static r now).outcome = _ := herror
    refine ⟨iff_of_false ?_ hnot, fun _ =>
      ⟨message, data, outcome_authenticate_of_error hcheck⟩⟩
    intro hok
    cases hok.symm.trans herror

/-- A secret with a letter outside ASCII and a blank in it. -/
def motto : Text := "gl\u00FCck auf"

/-- A trust with that secret and nothing else. -/
def mottoTrust : Trust where
  tokens := ⟨none, fun _ => none, []⟩
  signatureSecret := none
  static := some ⟨motto.flatMap CodePoint.utf8⟩
  verification := none
  transport := ⟨none, none, none, [], false⟩

/-- A request with an authorization header, and an empty one behind it. -/
def greeting (authorization : Text) : Request where
  method := "GET"
  path := "/"
  query := []
  headers := [("authorization", authorization), ("authorization", [])]
  body := []
  tls := .null
  client := none
  identity := .absent

/-- The secret is accepted behind the scheme in any letter case, and not in another letter case
itself. -/
theorem authenticate_greeting :
    StaticSecret.ofText motto = .ok ⟨motto.flatMap CodePoint.utf8⟩
      ∧ (greeting "bEARER  gl\u00FCck auf\t").InOctets
      ∧ (greeting "Bearer gl\u00DCck auf").InOctets
      ∧ (authenticate mottoTrust .static (greeting "bEARER  gl\u00FCck auf\t") 0).outcome
        = .ok { kind := .static }
      ∧ ∃ message data,
        (authenticate mottoTrust .static (greeting "Bearer gl\u00DCck auf") 0).outcome
          = .error (.web message "unauthorized" 401 (.ok data) .null none) := by
  have hs : StaticSecret.ofText motto = .ok ⟨motto.flatMap CodePoint.utf8⟩ :=
    (StaticSecret.ofText_eq_ok_iff motto _).mpr ⟨by decide, by decide⟩
  have hfirst : (greeting "bEARER  gl\u00FCck auf\t").InOctets := by
    unfold Request.InOctets
    decide
  have hother : (greeting "Bearer gl\u00DCck auf").InOctets := by
    unfold Request.InOctets
    decide
  refine ⟨hs, hfirst, hother, ?_, ?_⟩
  · refine (authenticate_static_iff hs rfl hfirst 0).1.mpr ?_
    exact ⟨"bEARER", " gl\u00FCck auf\t", by decide, by decide, by decide, by decide⟩
  · refine (authenticate_static_iff hs rfl hother 0).2 fun hoffers => ?_
    have hbears := (Request.bearerToken?_eq_some_iff _ motto).mpr ⟨hoffers, by decide⟩
    exact absurd hbears (by decide)

end Authentication

end Portcullis
