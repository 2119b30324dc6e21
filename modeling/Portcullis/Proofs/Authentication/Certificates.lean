/-
# Who is let in with a certificate

A client is let in with a certificate exactly if one of the two sources vouches for it and one of
its hosts is allowed, or every host is.  The hosts that are allowed are those of the endpoint if it
has a list of its own, even an empty one, and else those of the service.

What a client writes into headers has no say in this wherever the transport says anything, or the
proxy is not trusted.

**Main statement.**  `authenticate_tls_iff`.
-/
import Portcullis.Proofs.Authentication.Outcome
import Portcullis.Proofs.Peer.Sources

namespace Portcullis.Authentication

/-- The principal of the hosts of a certificate, of which the first is its subject. -/
def principalOfHosts (hosts : List Text) : Principal where
  kind := .tls
  subject := hosts.head?
  hosts := hosts

/-- One of the hosts is allowed, or every host is. -/
def Admits (trust : Trust) (whitelist : Option (List Text)) (hosts : List Text) : Prop :=
  let allowed := whitelist.getD trust.transport.allowedHosts
  allowed = [] ∨ ∃ host ∈ hosts, host ∈ allowed

section Tls

variable {trust : Trust} {whitelist : Option (List Text)} {r : Request} {p : Principal}

/-- A certificate is accepted if it is validated, and the principal has its hosts. -/
theorem outcome_tls_iff : (tls trust whitelist r).outcome = .ok p
    ↔ ∃ hosts error, Peer.ofRequest trust.transport.trustProxy r = .ok (some ⟨true, hosts, error⟩)
      ∧ Admits trust whitelist hosts ∧ p = principalOfHosts hosts := by
  constructor
  · intro h
    obtain ⟨peer, hpeer, h⟩ := Attempt.outcome_bind_ok h
    split at h
    · next hosts error =>
      obtain ⟨_, -, h⟩ := Attempt.outcome_bind_ok h
      split at h
      · next hallowed =>
        exact ⟨hosts, error, hpeer, (Peer.isAllowed_iff _ _).mp hallowed, (Except.ok.inj h).symm⟩
      · cases h
    · cases h
  · rintro ⟨hosts, error, hpeer, hallowed, rfl⟩
    rw [tls, hpeer]
    refine (Attempt.outcome_ok_bind _ _).trans ((Attempt.outcome_note_bind _ _ _).trans ?_)
    rw [if_pos ((Peer.isAllowed_iff _ _).mpr hallowed)]
    rfl

end Tls

/-- **A client is let in with a certificate** if a source vouches for it and its hosts are admitted;
and headers change nothing where they are not the source. -/
theorem authenticate_tls_iff (trust : Trust) (whitelist : Option (List Text)) {r : Request}
    (h : Peer.ReportsOrderly r) (now : Instant) :
    (∀ p, (authenticate trust (.tls whitelist) r now).outcome = .ok p
      ↔ ∃ hosts, Peer.Vouched trust.transport.trustProxy r hosts ∧ Admits trust whitelist hosts
        ∧ p = principalOfHosts hosts)
    ∧ (r.tls ≠ .null ∨ trust.transport.trustProxy = false → ∀ headers,
      authenticate trust (.tls whitelist) { r with headers } now
        = authenticate trust (.tls whitelist) r now) := by
  constructor
  · intro p
    rw [authenticate_ok_iff, check, outcome_tls_iff]
    simp only [Peer.ofRequest_iff h]
    constructor
    · rintro ⟨hosts, error, ⟨-, hvouched⟩, hadmits, rfl⟩
      exact ⟨hosts, hvouched, hadmits, rfl⟩
    · rintro ⟨hosts, hvouched, hadmits, rfl⟩
      exact ⟨hosts, none, ⟨rfl, hvouched⟩, hadmits, rfl⟩
  · intro hsource headers
    have hcheck : check trust (.tls whitelist) { r with headers } now
        = check trust (.tls whitelist) r now := by
      rw [check, check, tls, tls, Peer.ofRequest_withHeaders hsource]
    rw [authenticate, hcheck, authenticate]

/-- A trust in a proxy, and in one host. -/
def proxyTrust : Trust where
  tokens := ⟨none, fun _ => none, []⟩
  signatureSecret := none
  static := none
  verification := none
  transport := ⟨none, none, none, ["client.internal"], true⟩

/-- A request with the headers of a proxy, of which the transport reports something. -/
def proxiedRequest (tls : Json) : Request where
  method := "GET"
  path := "/"
  query := []
  headers := [("x-client-cert-verified", " Success"),
    ("x-client-cert-subject", "O=Example, CN=client.internal"),
    ("x-client-cert-san", "DNS:client.internal, IP Address:10.0.0.1")]
  body := []
  tls := tls
  client := none
  identity := .absent

/-- A certificate without any names. -/
def namelessCertificate : Text :=
  ("-----BEGIN CERTIFICATE-----\n" : Text)
    ++ "MIG4MGygAwIBAgIBBTAFBgMrZXAwDTELMAkGA1UEAwwCY2EwHhcNMjMwMTAxMDAw\n"
    ++ "MDAwWhcNMzMwMTAxMDAwMDAwWjAAMCowBQYDK2VwAyEAAQIDBAUGBwgJCgsMDQ4P\n"
    ++ "EBESExQVFhcYGRobHB0eHyAwBQYDK2VwA0EAAQIDBAUGBwgJCgsMDQ4PEBESExQV\n"
    ++ "FhcYGRobHB0eHyAhIiMkJSYnKCkqKywtLi8wMTIzNDU2Nzg5Ojs8PT4/QA==\n"
    ++ "-----END CERTIFICATE-----\n"

/-- What the transport reports of it. -/
def namelessReport : Members :=
  [("client_cert_chain", .list [.text namelessCertificate]),
    ("client_cert_name", .text "CN=client.internal")]

theorem authenticate_proxiedRequest :
    (authenticate proxyTrust (.tls none) (proxiedRequest .null) 0).outcome
        = .ok (principalOfHosts ["client.internal", "10.0.0.1"])
      ∧ (authenticate proxyTrust (.tls none) (proxiedRequest (.object namelessReport)) 0).outcome
        = .ok (principalOfHosts ["client.internal"])
      ∧ ∀ p, (authenticate proxyTrust (.tls none) (proxiedRequest (.object [])) 0).outcome
        ≠ .ok p := by
  have hadmits : ∀ others, Admits proxyTrust none (("client.internal" : Text) :: others) := by
    intro others
    exact Or.inr ⟨_, List.mem_cons_self, List.mem_cons_self⟩
  refine ⟨?_, ?_, ?_⟩
  · have horderly : Peer.ReportsOrderly (proxiedRequest .null) := Or.inl rfl
    have hvouched : Peer.Vouched true (proxiedRequest .null) ["client.internal", "10.0.0.1"] := by
      have hhosts : Peer.hostsInHeaders (proxiedRequest .null)
          = [("client.internal" : Text), "10.0.0.1"] := by decide +kernel
      have hstatus : (proxiedRequest .null).header? Peer.verifiedHeader
          = some (" Success" : Text) := by decide
      rw [← hhosts]
      exact .proxy rfl rfl hstatus (by decide +kernel)
    exact ((authenticate_tls_iff proxyTrust none horderly 0).1 _).mpr ⟨_, hvouched, hadmits _, rfl⟩
  · have horderly : Peer.ReportsOrderly (proxiedRequest (.object namelessReport)) :=
      Or.inr ⟨_, rfl, Or.inr ⟨[namelessCertificate], rfl⟩, Or.inl rfl, Or.inr ⟨_, rfl⟩⟩
    have hread : Peer.hostsOfItem (.text namelessCertificate) = .ok [] :=
      ok_of_toOption (by decide +kernel)
    have hchain : namelessReport.getD "client_cert_chain" = .list [.text namelessCertificate] := rfl
    have hbeside : namelessReport.getD "client_cert_name" = .text "CN=client.internal" := rfl
    have hname : Peer.commonName? "CN=client.internal" = some ("client.internal" : Text) := by
      decide +kernel
    have hvouched : Peer.Vouched true (proxiedRequest (.object namelessReport))
        ["client.internal"] := by
      refine .transport rfl hchain ?_ ?_
      · rintro ⟨error, herror, -⟩
        cases herror
      · have hstandIn := Peer.HostsIn.standIn hread hbeside
        rwa [hname] at hstandIn
    exact ((authenticate_tls_iff proxyTrust none horderly 0).1 _).mpr ⟨_, hvouched, hadmits _, rfl⟩
  · intro p hok
    have horderly : Peer.ReportsOrderly (proxiedRequest (.object [])) :=
      Or.inr ⟨[], rfl, Or.inl rfl, Or.inl rfl, Or.inl rfl⟩
    obtain ⟨hosts, hvouched, -⟩ := ((authenticate_tls_iff proxyTrust none horderly 0).1 p).mp hok
    cases hvouched with
    | transport reported chain =>
      obtain rfl := Json.object.inj reported
      cases chain
    | proxy unreported => cases unreported

end Portcullis.Authentication
