/-
# Who vouches for a peer

Two sources say that the certificate of a client is valid, and which hosts it is for (`Vouched`).
The transport is one: it says so of the first certificate of a chain, without an error, that can be
read.  A proxy that is trusted is the other, in headers that a client could send as well; it is
asked only where the transport says nothing at all.

What the transport says is supposed to be of the right kind, or not there (`Orderly`).

**Main statements.**  `ofRequest_iff` and `ofRequest_withHeaders`.
-/
import Portcullis.Proofs.Peer.Distinguished
import Portcullis.Proofs.Results

namespace Portcullis

namespace Json

/-- A value is a text, or nothing is there. -/
def IsTextOrAbsent (v : Json) : Prop := v = .null ∨ ∃ t, v = .text t

end Json

namespace Peer

/-! ## 1. What the two sources say -/

/-- A report is of the right kind: what is in its chain, its error and its name are texts. -/
structure Orderly (report : Members) : Prop where
  chain : report.getD "client_cert_chain" = .null
    ∨ ∃ certificates : List Text, report.getD "client_cert_chain" = .list (certificates.map .text)
  error : (report.getD "client_cert_error").IsTextOrAbsent
  name : (report.getD "client_cert_name").IsTextOrAbsent

/-- A report says that something is wrong with a certificate. -/
def Faulty (report : Members) : Prop :=
  ∃ error, report.getD "client_cert_error" = .text error ∧ error ≠ []

/-- The hosts for the certificate of a report: the names in it, and if there are none the common
name that the report has beside it. -/
inductive HostsIn (report : Members) (certificate : Text) : List Text → Prop
  | named {hosts : List Text} (read : hostsOfItem (.text certificate) = .ok hosts)
      (named : hosts ≠ []) : HostsIn report certificate hosts
  | standIn {name : Text} (read : hostsOfItem (.text certificate) = .ok [])
      (beside : report.getD "client_cert_name" = .text name) :
      HostsIn report certificate (commonName? name).toList
  | nameless (read : hostsOfItem (.text certificate) = .ok [])
      (absent : report.getD "client_cert_name" = .null) : HostsIn report certificate []

/-- The hosts in the headers of a proxy: the common name of the subject, and the alternative names
that are not empty, each once. -/
def hostsInHeaders (r : Request) : List Text :=
  let alternatives := Text.splitOn comma ((r.header? alternativesHeader).getD [])
  Certificate.distinct ((commonName? ((r.header? subjectHeader).getD [])).toList
    ++ (alternatives.map alternativeName).filter (!·.isEmpty))

/-- A source vouches for the peer of a request, and says which hosts it is. -/
inductive Vouched (trustProxy : Bool) (r : Request) : List Text → Prop
  | transport {report : Members} {certificate : Text} {rest : List Json} {hosts : List Text}
      (reported : r.tls = .object report)
      (chain : report.getD "client_cert_chain" = .list (.text certificate :: rest))
      (faultless : ¬ Faulty report) (found : HostsIn report certificate hosts) :
      Vouched trustProxy r hosts
  | proxy {status : Text} (unreported : r.tls = .null) (trusted : trustProxy = true)
      (verified : r.header? verifiedHeader = some status)
      (success : status.strip.upper = "SUCCESS") : Vouched trustProxy r (hostsInHeaders r)

/-! ## 2. The transport -/

/-- A common name that is found is not empty. -/
theorem commonName?_ne_nil {name n : Text} (h : commonName? name = some n) : n ≠ [] := by
  obtain ⟨part, -, hpart⟩ := List.exists_of_findSome?_eq_some h
  obtain ⟨type, value, hstrip, -, -, hne, rfl⟩ := commonNameOfPart?_eq_some_iff.mp hpart
  have hlast : part.strip.getLast? = some (value.getLast hne) := by
    rw [hstrip, List.append_cons, List.getLast?_append_of_ne_nil _ hne,
      List.getLast?_eq_some_getLast hne]
  have hblank := (Text.trimmed_strip part).last _ hlast
  exact List.ne_nil_of_mem (Text.mem_strip (List.getLast_mem hne) hblank)

theorem commonName?_cases (name : Text) :
    commonName? name = none ∨ ∃ c n, commonName? name = some (c :: n) := by
  cases hname : commonName? name with
  | none => exact Or.inl rfl
  | some n =>
    obtain ⟨c, tail, rfl⟩ := List.exists_cons_of_ne_nil (commonName?_ne_nil hname)
    exact Or.inr ⟨c, tail, rfl⟩

theorem standIn_text (name : Text) : standIn (.text name) = .ok (commonName? name).toList := by
  rcases commonName?_cases name with hname | ⟨c, n, hname⟩ <;> simp [standIn, hname]

section Report

variable {report : Members} {certificate : Text} {hosts : List Text}

/-- The hosts for a certificate are the names in it, or what stands in for them. -/
theorem hostsIn_iff (hname : (report.getD "client_cert_name").IsTextOrAbsent) :
    HostsIn report certificate hosts
      ↔ (hostsOfItem (.text certificate) = .ok hosts ∧ hosts ≠ [])
        ∨ hostsOfItem (.text certificate) = .ok []
          ∧ standIn (report.getD "client_cert_name") = .ok hosts := by
  constructor
  · intro h
    cases h with
    | named read named => exact Or.inl ⟨read, named⟩
    | standIn read beside =>
      rw [beside, standIn_text]
      exact Or.inr ⟨read, rfl⟩
    | nameless read absent =>
      rw [absent]
      exact Or.inr ⟨read, rfl⟩
  · rintro (⟨read, named⟩ | ⟨read, hstands⟩)
    · exact .named read named
    · rcases hname with habsent | ⟨name, hbeside⟩
      · rw [habsent] at hstands
        obtain rfl := Except.ok.inj hstands
        exact .nameless read habsent
      · rw [hbeside, standIn_text] at hstands
        obtain rfl := Except.ok.inj hstands
        exact .standIn read hbeside

/-- An error that is a text says that something is wrong exactly if it is not empty. -/
theorem Orderly.isTruthy_error_iff (h : Orderly report) :
    (report.getD "client_cert_error").isTruthy = true ↔ Faulty report := by
  rw [Faulty]
  rcases h.error with habsent | ⟨error, htext⟩
  · rw [habsent]
    simp [Json.isTruthy]
  · rw [htext]
    simp [Json.isTruthy]

/-- **The transport vouches** for a certificate that it reports without an error, if it can be
read. -/
theorem Orderly.ofTransport_iff (h : Orderly report) {error : Option Text} :
    ofTransport report = .ok (some ⟨true, hosts, error⟩)
      ↔ error = none ∧ ∃ certificate rest,
        report.getD "client_cert_chain" = .list (.text certificate :: rest) ∧ ¬ Faulty report
          ∧ HostsIn report certificate hosts := by
  rw [ofTransport, ← h.isTruthy_error_iff]
  rcases h.chain with habsent | ⟨certificates, hchain⟩
  · rw [habsent]
    simp [Json.isTruthy]
  rw [hchain]
  cases certificates with
  | nil => simp [Json.isTruthy]
  | cons certificate rest =>
    have hfirst :
        firstOfChain (.list ((certificate :: rest).map .text)) = .ok (.text certificate) := rfl
    have hread : (∃ found others, Json.list ((certificate :: rest).map .text)
          = .list (.text found :: others) ∧ ¬ (report.getD "client_cert_error").isTruthy = true
            ∧ HostsIn report found hosts)
        ↔ ¬ (report.getD "client_cert_error").isTruthy = true
          ∧ HostsIn report certificate hosts := by
      simp
    rw [hread, hostsIn_iff h.name, hfirst, ok_bind,
      if_neg (show ¬ (!Json.isTruthy (.list ((certificate :: rest).map .text))) = true by
        simp [Json.isTruthy])]
    cases hfaulty : (report.getD "client_cert_error").isTruthy with
    | true => simp [failed]
    | false =>
      simp only [Bool.false_eq_true, if_false, not_false_eq_true, true_and]
      cases hitem : hostsOfItem (.text certificate) with
      | error kind => cases kind <;> simp [failed, pure, Except.pure]
      | ok found =>
        cases found with
        | nil =>
          cases hstands : standIn (report.getD "client_cert_name") with
          | error fault => simp
          | ok stands => simp [ofHosts, pure, Except.pure, ok_bind, eq_comm, and_comm]
        | cons host others =>
          constructor
          · intro hok
            obtain ⟨rfl, rfl⟩ : host :: others = hosts ∧ none = error := by
              simpa [ofHosts, pure, Except.pure] using hok
            exact ⟨rfl, Or.inl ⟨rfl, List.cons_ne_nil host others⟩⟩
          · rintro ⟨rfl, ⟨hfound, -⟩ | ⟨hnone, -⟩⟩
            · rw [← Except.ok.inj hfound]
              rfl
            · cases hnone

end Report

/-! ## 3. The proxy -/

/-- **A trusted proxy vouches** for a certificate where it says that it is valid. -/
theorem ofProxy_iff {r : Request} {hosts : List Text} {error : Option Text} :
    ofProxy r = some ⟨true, hosts, error⟩
      ↔ error = none ∧ ∃ status, r.header? verifiedHeader = some status
        ∧ status.strip.upper = "SUCCESS" ∧ hosts = hostsInHeaders r := by
  rw [ofProxy]
  cases hstatus : r.header? verifiedHeader with
  | none => simp
  | some status =>
    by_cases hsuccess : status.strip.upper = "SUCCESS"
    · rcases commonName?_cases ((r.header? subjectHeader).getD []) with hname | ⟨c, n, hname⟩
      · simp [hsuccess, hname, hostsInHeaders, ofHosts, eq_comm, and_comm]
      · simp [hsuccess, hname, hostsInHeaders, ofHosts, eq_comm, and_comm]
    · simp [hsuccess, failed]

/-! ## 4. Both -/

/-- What the transport says of a request is of the right kind, if it says anything. -/
def ReportsOrderly (r : Request) : Prop :=
  r.tls = .null ∨ ∃ report, r.tls = .object report ∧ Orderly report

/-- **A peer is validated** exactly if one of the sources vouches for it, and its hosts are what
that source says. -/
theorem ofRequest_iff {trustProxy : Bool} {r : Request} (h : ReportsOrderly r) {hosts : List Text}
    {error : Option Text} : ofRequest trustProxy r = .ok (some ⟨true, hosts, error⟩)
      ↔ error = none ∧ Vouched trustProxy r hosts := by
  rw [ofRequest]
  rcases h with hnone | ⟨report, hreport, horderly⟩
  · have hproxy : Vouched trustProxy r hosts ↔ trustProxy = true ∧ ∃ status,
        r.header? verifiedHeader = some status ∧ status.strip.upper = "SUCCESS"
          ∧ hosts = hostsInHeaders r := by
      constructor
      · intro hvouched
        cases hvouched with
        | transport reported => cases hnone.symm.trans reported
        | proxy _ trusted verified success => exact ⟨trusted, _, verified, success, rfl⟩
      · rintro ⟨htrusted, status, hverified, hsuccess, rfl⟩
        exact .proxy hnone htrusted hverified hsuccess
    rw [hnone, hproxy]
    cases trustProxy with
    | false => simp
    | true => simp [ofProxy_iff]
  · rw [hreport]
    simp only [horderly.ofTransport_iff]
    refine and_congr_right' ⟨?_, ?_⟩
    · rintro ⟨certificate, rest, hchain, hfaultless, hfound⟩
      exact .transport hreport hchain hfaultless hfound
    · intro hvouched
      cases hvouched with
      | transport reported chain faultless found =>
        obtain rfl := Json.object.inj (hreport.symm.trans reported)
        exact ⟨_, _, chain, faultless, found⟩
      | proxy unreported => cases hreport.symm.trans unreported

/-- **Headers are not looked at** where the transport says something, or the proxy is not
trusted. -/
theorem ofRequest_withHeaders {trustProxy : Bool} {r : Request}
    (h : r.tls ≠ .null ∨ trustProxy = false) (headers : List (Text × Text)) :
    ofRequest trustProxy { r with headers } = ofRequest trustProxy r := by
  rcases h with hreported | rfl
  · simp only [ofRequest]
    cases htls : r.tls with
    | null => exact absurd htls hreported
    | _ => rfl
  · rfl

/-- A host is allowed if there are no allowed ones, or it is one of them. -/
theorem isAllowed_iff (hosts allowed : List Text) :
    isAllowed hosts allowed = true ↔ allowed = [] ∨ ∃ host ∈ hosts, host ∈ allowed := by
  simp [isAllowed]

end Peer

end Portcullis
