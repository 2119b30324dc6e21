/-
# Names in the headers of a proxy

A proxy writes the names in a certificate into two headers.  One is the subject, in which the common
name is that of the first part of that type (`Subject`).  The other lists the alternative names
between commas (`Alternatives`), each behind its kind and a colon, or by itself if there is no colon
in it.  Blanks may stand around everything, and entries may be empty.

Whichever of these ways is chosen, the names are read as they were: the common name, then the
alternative ones in their order, and of equal ones the first.

**Main statement.**  `ofRequest_proxied`.
-/
import Portcullis.Proofs.Peer.Sources

namespace Portcullis

/-! ## 1. Names once each -/

/-- Of equal names the first is kept. -/
theorem Certificate.distinct_eq_eraseDups (names : List Text) :
    distinct names = names.eraseDups := by
  have hstep : ∀ (seen : List Text) (n : Text),
      (if seen.eraseDups.contains n then seen.eraseDups else seen.eraseDups ++ [n])
        = (seen ++ [n]).eraseDups := by
    intro seen n
    rw [List.eraseDups_append]
    by_cases hseen : n ∈ seen
    · simp [hseen, List.removeAll]
    · simp [hseen, List.removeAll, List.eraseDups_cons]
  -- What is kept so far is what was seen so far, each once.
  have hfold : ∀ (rest seen : List Text),
      rest.foldl (fun kept n => if kept.contains n then kept else kept ++ [n]) seen.eraseDups
        = (seen ++ rest).eraseDups := by
    intro rest
    induction rest with
    | nil => intro seen; rw [List.append_nil]; rfl
    | cons n rest ih =>
      intro seen
      rw [List.foldl_cons, hstep, ih, List.append_assoc, List.singleton_append]
  exact hfold names []

namespace Peer

/-- A name that can stand in the headers: it is not empty, trimmed, and without a comma. -/
structure IsHost (name : Text) : Prop where
  filled : name ≠ []
  unbroken : comma ∉ name
  trimmed : name.Trimmed

/-! ## 2. The subject -/

/-- A part of a subject gives a common name: the type, in some letter case, and the name behind the
sign, each with or without blanks around it. -/
def GivesCommonName (name part : Text) : Prop :=
  ∃ type before after : Text, part = before ++ equals :: after ∧ type.asciiLower = "cn"
    ∧ type.Padded before ∧ name.Padded after

/-- A part of a subject is no common name, and is not broken by a comma. -/
structure IsOther (part : Text) : Prop where
  unbroken : comma ∉ part
  untyped : ∀ type value : Text, part = type ++ equals :: value → equals ∉ type →
    type.strip.asciiLower ≠ "cn"

/-- A subject in which the first common name is this one. -/
inductive Subject (name : Text) : Text → Prop
  /-- The common name is the last part. -/
  | last {part : Text} (gives : GivesCommonName name part) : Subject name part
  /-- Whatever comes after the common name. -/
  | first {part : Text} (gives : GivesCommonName name part) (rest : Text) :
      Subject name (part ++ comma :: rest)
  /-- Something else comes before it. -/
  | later {part rest : Text} (other : IsOther part) (subject : Subject name rest) :
      Subject name (part ++ comma :: rest)

/-- The type of common names in the letter case of ASCII, and in no other letters. -/
theorem upper_eq_cn_iff (type : Text) : type.upper = "CN" ↔ type.asciiLower = "cn" :=
  Text.upper_eq_iff (by decide) (by decide)

/-- In that type there are letters only. -/
theorem of_mem_type {type : Text} (h : type.asciiLower = "cn") {c : CodePoint} (hc : c ∈ type) :
    c.isBlank = false ∧ c ≠ equals ∧ c ≠ comma := by
  have hall : ∀ n < 0x80, (CodePoint.ofNat n).asciiLower ∈ ("cn" : Text) →
      (CodePoint.ofNat n).isBlank = false ∧ CodePoint.ofNat n ≠ equals
        ∧ CodePoint.ofNat n ≠ comma := by decide
  have hmem : c.asciiLower ∈ ("cn" : Text) := h ▸ List.mem_map_of_mem hc
  have hascii : type.isAscii = true := by
    rw [← Text.isAscii_asciiLower, h]
    rfl
  have hlt : c.val < 0x80 := of_decide_eq_true (List.all_eq_true.mp hascii c hc)
  have hn := hall c.val hlt
  rw [CodePoint.ofNat_val] at hn
  exact hn hmem

section CommonName

variable {name part : Text} (hname : IsHost name)

include hname

theorem GivesCommonName.unbroken (h : GivesCommonName name part) : comma ∉ part := by
  obtain ⟨type, before, after, rfl, htype, hbefore, hafter⟩ := h
  have hblank : comma.isBlank = false := by decide
  have hnot : comma ∉ before :=
    hbefore.notMem hblank fun hmem => (of_mem_type htype hmem).2.2 rfl
  have hsign : comma ≠ equals := by decide
  simp [hnot, hsign, hafter.notMem hblank hname.unbroken]

/-- A part that gives a common name reads as it. -/
theorem GivesCommonName.readsAs (h : GivesCommonName name part) : ReadsAs part name := by
  obtain ⟨type, before, after, rfl, htype, hbefore, hafter⟩ := h
  have htrimmed : type.Trimmed := Text.trimmed_of_forall fun c hc => (of_mem_type htype hc).1
  have hfilled : type ≠ [] := by
    rintro rfl
    cases htype
  have hstrip : before.strip = type := hbefore.strip_eq htrimmed
  have hequals : equals ∉ before :=
    hbefore.notMem (by decide) fun hmem => (of_mem_type htype hmem).2.1 rfl
  obtain ⟨l₁, r₁, rfl, hl₁, hr₁⟩ := hbefore
  obtain ⟨l₂, r₂, rfl, hl₂, hr₂⟩ := hafter
  refine ⟨type ++ r₁, l₂ ++ name, ?_, ?_, ?_, ?_, ?_⟩
  · have hends := htrimmed.between hname.trimmed hfilled hname.filled (r₁ ++ equals :: l₂)
    simpa using Text.strip_append hends (by simp [hfilled]) hl₁ hr₂
  · simp only [List.append_assoc, List.mem_append, not_or] at hequals ⊢
    exact hequals.2
  · have htype' : (type ++ r₁).strip = type := by
      rw [List.append_assoc, Text.strip_append_left hl₁] at hstrip
      exact hstrip
    rw [htype']
    exact (upper_eq_cn_iff type).mpr htype
  · exact List.append_ne_nil_of_right_ne_nil l₂ hname.filled
  · rw [Text.strip_append_left hl₂, Text.strip_of_trimmed hname.trimmed]

end CommonName

/-- A part that is no common name reads as none. -/
theorem IsOther.not_readsAs {part : Text} (h : IsOther part) (n : Text) : ¬ ReadsAs part n := by
  rintro ⟨type, value, hstrip, hequals, htype, -, -⟩
  obtain ⟨l, r, hpart, hl, -⟩ := Text.exists_strip part
  have hsign : equals ∉ l := fun hmem => absurd (hl equals hmem) (by decide)
  refine h.untyped (l ++ type) (value ++ r) ?_ ?_ ?_
  · rw [hpart, hstrip]
    simp
  · simp [hsign, hequals]
  · rw [Text.strip_append_left hl]
    exact (upper_eq_cn_iff _).mp htype

/-- **The common name of a subject is found.** -/
theorem Subject.commonName?_eq {name subject : Text} (hname : IsHost name)
    (h : Subject name subject) : commonName? subject = some name := by
  induction h with
  | last gives =>
    rw [commonName?, Text.splitOn_of_notMem (gives.unbroken hname), List.findSome?_singleton]
    exact commonNameOfPart?_eq_some_iff.mpr (gives.readsAs hname)
  | first gives rest =>
    rw [commonName?, Text.splitOn_append (gives.unbroken hname), findSome?_cons_eq_or,
      commonNameOfPart?_eq_some_iff.mpr (gives.readsAs hname), Option.some_or]
  | later other _ ih =>
    rw [commonName?, Text.splitOn_append other.unbroken, findSome?_cons_eq_or,
      commonNameOfPart?_eq_none_iff.mpr other.not_readsAs, Option.none_or]
    exact ih

/-! ## 3. The alternative names -/

/-- The colon between the kind of an alternative name and the name. -/
def colon : CodePoint := CodePoint.ofNat 0x3A

/-- An alternative name as it is written: behind its kind, or by itself if it has no colon. -/
inductive Labelled (name : Text) : Text → Prop
  | kind {kind : Text} (h : kind ∈ (["DNS", "IP Address"] : List Text)) :
      Labelled name (kind ++ colon :: name)
  | bare (h : colon ∉ name) : Labelled name name

/-- The entries of a list of alternative names. -/
inductive Alternatives : List Text → List Text → Prop
  | nil : Alternatives [] []
  /-- An entry is empty. -/
  | blank {entry : Text} {entries names : List Text} (blank : ∀ c ∈ entry, c.isBlank = true)
      (others : Alternatives entries names) : Alternatives (entry :: entries) names
  /-- An entry has a name in it. -/
  | name {name written entry : Text} {entries names : List Text} (host : IsHost name)
      (labelled : Labelled name written) (padded : written.Padded entry)
      (others : Alternatives entries names) : Alternatives (entry :: entries) (name :: names)

theorem of_mem_kinds {kind : Text} (h : kind ∈ (["DNS", "IP Address"] : List Text)) :
    colon ∉ kind ∧ comma ∉ kind := by
  have hall : ∀ kind ∈ (["DNS", "IP Address"] : List Text), colon ∉ kind ∧ comma ∉ kind := by
    decide
  exact hall kind h

theorem Labelled.unbroken {name written : Text} (h : Labelled name written) (hname : IsHost name) :
    comma ∉ written := by
  cases h with
  | kind hkind =>
    have hcolon : comma ≠ colon := by decide
    simp [(of_mem_kinds hkind).2, hcolon, hname.unbroken]
  | bare => exact hname.unbroken

/-- **An alternative name is read** as it is, however it is written. -/
theorem Labelled.alternativeName_eq {name written entry : Text} (h : Labelled name written)
    (hname : IsHost name) (hpadded : written.Padded entry) : alternativeName entry = name := by
  have hcolon : colon.isBlank = false := by decide
  rw [alternativeName, show CodePoint.ofNat 0x3A = colon from rfl]
  cases h with
  | @kind kind hkind =>
    obtain ⟨l, r, rfl, hl, hr⟩ := hpadded
    have hbefore : colon ∉ l ++ kind := by
      intro hmem
      rcases List.mem_append.mp hmem with hmem | hmem
      · exact Bool.false_ne_true (hcolon.symm.trans (hl colon hmem))
      · exact (of_mem_kinds hkind).1 hmem
    have hsplit : l ++ (kind ++ colon :: name) ++ r = (l ++ kind) ++ colon :: (name ++ r) := by simp
    rw [(Text.cut_eq_some_iff _ _ _ _).mpr ⟨hsplit, hbefore⟩]
    exact Text.Padded.strip_eq ⟨[], r, rfl, by simp, hr⟩ hname.trimmed
  | bare hbare =>
    rw [Text.cut_of_notMem (hpadded.notMem hcolon hbare)]
    exact hpadded.strip_eq hname.trimmed

/-- An empty entry has no name in it. -/
theorem alternativeName_of_blank {entry : Text} (h : ∀ c ∈ entry, c.isBlank = true) :
    alternativeName entry = [] := by
  have hcolon : colon ∉ entry := fun hmem => absurd (h colon hmem) (by decide)
  rw [alternativeName, show CodePoint.ofNat 0x3A = colon from rfl, Text.cut_of_notMem hcolon]
  exact Text.strip_of_blank h

section Alternatives

variable {entries names : List Text}

theorem Alternatives.unbroken (h : Alternatives entries names) :
    ∀ entry ∈ entries, comma ∉ entry := by
  have hblank : comma.isBlank = false := by decide
  induction h with
  | nil => simp
  | blank blank _ ih =>
    refine List.forall_mem_cons.mpr ⟨fun hmem => ?_, ih⟩
    exact Bool.false_ne_true (hblank.symm.trans (blank comma hmem))
  | name host labelled padded _ ih =>
    exact List.forall_mem_cons.mpr ⟨padded.notMem hblank (labelled.unbroken host), ih⟩

/-- The names in the entries are those that are not empty. -/
theorem Alternatives.filter_eq (h : Alternatives entries names) :
    (entries.map alternativeName).filter (!·.isEmpty) = names := by
  induction h with
  | nil => rfl
  | blank blank _ ih =>
    rw [List.map_cons, alternativeName_of_blank blank]
    exact ih
  | name host labelled padded _ ih =>
    rw [List.map_cons, labelled.alternativeName_eq host padded, List.filter_cons_of_pos, ih]
    simpa using host.filled

/-- **The alternative names are read** as they are, in their order. -/
theorem Alternatives.read_eq (h : Alternatives entries names) :
    ((Text.splitOn comma (Text.join [comma] entries)).map alternativeName).filter (!·.isEmpty)
      = names := by
  cases entries with
  | nil =>
    cases h
    rfl
  | cons entry entries =>
    rw [Text.splitOn_join h.unbroken (List.cons_ne_nil entry entries), h.filter_eq]

end Alternatives

/-! ## 4. The report of a proxy -/

/-- A proxy reports a certificate with a common name and alternative names. -/
structure Proxied (r : Request) (name : Text) (names : List Text) : Prop where
  unreported : r.tls = .null
  verified : ∃ status, r.header? "x-client-cert-verified" = some status
    ∧ status.strip.upper = "SUCCESS"
  subject : ∃ subject, r.header? "x-client-cert-subject" = some subject ∧ Subject name subject
  alternatives : ∃ entries, Alternatives entries names
    ∧ (r.header? "x-client-cert-san").getD [] = Text.join [comma] entries

/-- **The names that a trusted proxy writes are the hosts of the peer:** the common name, and then
the alternative names in their order, without those that came before. -/
theorem ofRequest_proxied {r : Request} {name : Text} {names : List Text} (hname : IsHost name)
    (h : Proxied r name names) :
    ofRequest true r = .ok (some ⟨true, (name :: names).eraseDups, none⟩) := by
  obtain ⟨status, hstatus, hsuccess⟩ := h.verified
  obtain ⟨subject, hsubject, hwritten⟩ := h.subject
  obtain ⟨entries, hentries, hlisted⟩ := h.alternatives
  have hhosts : (name :: names).eraseDups = hostsInHeaders r := by
    rw [hostsInHeaders, show r.header? subjectHeader = some subject from hsubject, Option.getD_some,
      hwritten.commonName?_eq hname,
      show (r.header? alternativesHeader).getD [] = Text.join [comma] entries from hlisted]
    simp only [Option.toList_some, hentries.read_eq, Certificate.distinct_eq_eraseDups]
    rfl
  have hproxy := ofProxy_iff.mpr ⟨rfl, status, hstatus, hsuccess, hhosts⟩
  rw [ofRequest, h.unreported]
  exact congrArg Except.ok hproxy

/-- A request for which a proxy reports a certificate, with blanks and empty entries in its headers
and a name that comes twice. -/
def reportedRequest : Request where
  method := "GET"
  path := "/"
  query := []
  headers := [
    ("x-client-cert-verified", " Success"),
    ("x-client-cert-subject", "O = Acme , cN=\tclient.internal ,CN=other"),
    ("x-client-cert-san", " DNS:backup.internal ,, IP Address:fe80::1,client.internal")]
  body := []
  tls := .null
  client := none
  identity := .absent

theorem ofRequest_reportedRequest :
    IsHost "client.internal"
      ∧ Proxied reportedRequest "client.internal" ["backup.internal", "fe80::1", "client.internal"]
      ∧ ofRequest true reportedRequest
        = .ok (some ⟨true, ["client.internal", "backup.internal", "fe80::1"], none⟩) := by
  have hhost : ∀ name ∈ (["client.internal", "backup.internal", "fe80::1"] : List Text),
      IsHost name := by
    intro name hmem
    have hall : ∀ name ∈ (["client.internal", "backup.internal", "fe80::1"] : List Text),
        name ≠ [] ∧ comma ∉ name ∧ ∀ c ∈ name, c.isBlank = false := by decide
    obtain ⟨hfilled, hunbroken, hvisible⟩ := hall name hmem
    exact ⟨hfilled, hunbroken, Text.trimmed_of_forall hvisible⟩
  have hname := hhost "client.internal" (by decide)
  have hother : IsOther "O = Acme " := by
    refine ⟨by decide, fun type value hsplit hequals => ?_⟩
    have hcut := (Text.cut_eq_some_iff _ _ _ _).mpr ⟨hsplit, hequals⟩
    have htype : Text.cut equals "O = Acme " = (("O " : Text), some (" Acme " : Text)) := by decide
    rw [(Prod.mk.inj (hcut.symm.trans htype)).1]
    decide
  have hgives : GivesCommonName "client.internal" " cN=\tclient.internal " :=
    ⟨"cN", " cN", "\tclient.internal ", by decide, by decide,
      ⟨" ", [], by decide, by decide, by decide⟩, ⟨"\t", " ", by decide, by decide, by decide⟩⟩
  have halternatives : Alternatives
      [" DNS:backup.internal ", [], " IP Address:fe80::1", "client.internal"]
      ["backup.internal", "fe80::1", "client.internal"] := by
    have hbackup : Labelled "backup.internal" (("DNS" : Text) ++ colon :: "backup.internal") :=
      .kind (by decide)
    have haddress : Labelled "fe80::1" (("IP Address" : Text) ++ colon :: "fe80::1") :=
      .kind (by decide)
    refine .name (hhost _ (by decide)) hbackup ?_ (.blank (by decide)
      (.name (hhost _ (by decide)) haddress ?_ (.name hname (.bare (by decide)) ?_ .nil)))
    · exact ⟨" ", " ", by decide, by decide, by decide⟩
    · exact ⟨" ", [], by decide, by decide, by decide⟩
    · exact ⟨[], [], by decide, by decide, by decide⟩
  have hproxied : Proxied reportedRequest "client.internal"
      ["backup.internal", "fe80::1", "client.internal"] := {
    unreported := rfl
    verified := ⟨" Success", by decide, by decide +kernel⟩
    subject := ⟨_, by decide, .later hother (.first hgives "CN=other")⟩
    alternatives := ⟨_, halternatives, by decide⟩ }
  refine ⟨hname, hproxied, (ofRequest_proxied hname hproxied).trans ?_⟩
  rfl

end Peer

end Portcullis
