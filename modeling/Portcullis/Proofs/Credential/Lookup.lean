/-
# Lookups rule by rule

A lookup reads the body when a rule first asks for it and keeps what it read (`findFrom`).  What is
kept is always the body of the request (`KeptFrom`), so each rule finds what it finds by itself, and
it does not show which rule read the body, or whether one did.

A rule by itself points at a value (`pointed?`): the first header of its name, a member of the
object in the body, or the last value in the query.  What it finds is the text there, or the one
that comes first in a list, if it is not empty (`credential?`).

**Main statement.**  `findFirst_eq_findSome?`.
-/
import Portcullis.Credential
import Portcullis.Proofs.Json.ReadBack
import Portcullis.Proofs.Results
import Portcullis.Proofs.Text.Casing

namespace Portcullis.LookupRule

/-! ## 1. The body that is kept -/

/-- Whatever is kept is the body of the request. -/
def KeptFrom (r : Request) (kept : Option Json) : Prop := ∀ body ∈ kept, body = r.jsonBody

theorem keptFrom_none (r : Request) : KeptFrom r none := by
  simp [KeptFrom]

/-- **One rule keeps the body as it is**, whether it reads it or not. -/
theorem KeptFrom.readFor {r : Request} {kept : Option Json} (h : KeptFrom r kept)
    (rule : LookupRule) : KeptFrom r (rule.readFor r kept) := by
  unfold LookupRule.readFor
  split
  · intro body hbody
    obtain rfl := Option.some.inj hbody
    cases kept with
    | none => rfl
    | some known => exact h known rfl
  · exact h

/-- One rule finds what it finds by itself. -/
theorem findWith_readFor {r : Request} {kept : Option Json} (h : KeptFrom r kept)
    (rule : LookupRule) : rule.findWith ((rule.readFor r kept).getD .null) r = rule.find r := by
  unfold find findWith LookupRule.readFor
  cases hsource : rule.source with
  | header => rfl
  | query => rfl
  | body =>
    cases kept with
    | none => rfl
    | some known => rw [h known rfl]; rfl

/-- What is kept does not show in what is found. -/
theorem findFrom_congr {r : Request} (rules : List LookupRule) {kept kept' : Option Json}
    (h : KeptFrom r kept) (h' : KeptFrom r kept') :
    findFrom kept rules r = findFrom kept' rules r := by
  induction rules generalizing kept kept' with
  | nil => rfl
  | cons rule rest ih =>
    simp only [findFrom, findWith_readFor h, findWith_readFor h',
      ih (h.readFor rule) (h'.readFor rule)]

@[simp] theorem findFirst_nil (r : Request) : findFirst [] r = .ok none := rfl

/-- **A lookup goes rule by rule.** -/
theorem findFirst_cons (rule : LookupRule) (rest : List LookupRule) (r : Request) :
    findFirst (rule :: rest) r = (do
      match ← rule.find r with
      | some t => return some t
      | none => findFirst rest r) := by
  have hnone := keptFrom_none r
  have hrest : findFrom (rule.readFor r none) rest r = findFirst rest r :=
    findFrom_congr rest (hnone.readFor rule) hnone
  rw [← findWith_readFor hnone, ← hrest]
  rfl

/-! ## 2. What a rule points at -/

/-- The value that a rule points at, if there is one. -/
def pointed? (rule : LookupRule) (r : Request) : Option Json :=
  match rule.source with
  | .header => (r.headers.find? fun h => h.1 = rule.name.lower).map fun h => .text h.2
  | .body => match Json.readBytes r.body with
    | .ok (.object ms) => (ms.find? fun m => m.1 = rule.name).map Prod.snd
    | _ => none
  | .query => (r.queryPairs.reverse.find? fun p => p.1 = rule.name).map fun p => .text p.2

/-- The text that a value stands for; a list stands for its first item. -/
def spoken? : Json → Option Text
  | .list (v :: _) => v.text?
  | v => v.text?

/-- The credential that a rule points at: a text that is not empty. -/
def credential? (rule : LookupRule) (r : Request) : Option Text :=
  ((rule.pointed? r).bind spoken?).filter (· ≠ [])

theorem present?_eq_filter (v : Json) : present? v = (spoken? v).filter (· ≠ []) := by
  cases v with
  | text t => cases t <;> rfl
  | list items =>
    cases items with
    | nil => rfl
    | cons v items =>
      cases v with
      | text t => cases t <;> rfl
      | _ => rfl
  | _ => rfl

/-- What is present at a place that a rule points at. -/
theorem bind_present? (v : Option Json) :
    v.bind present? = (v.bind spoken?).filter (· ≠ []) := by
  cases v with
  | none => rfl
  | some v => exact present?_eq_filter v

theorem header?_eq_find? (r : Request) (name : Text) :
    r.header? name = (r.headers.find? fun h => h.1 = name).map Prod.snd := by
  unfold Request.header?
  induction r.headers with
  | nil => rfl
  | cons h rest ih =>
    obtain ⟨k, v⟩ := h
    by_cases hk : k = name
    · simp [hk]
    · simp [List.lookup_cons, hk, beq_eq_false_iff_ne.mpr (Ne.symm hk), ih]

theorem get?_eq_find? (name : Text) (ms : Members) :
    Members.get? name ms = (ms.find? fun m => m.1 = name).map Prod.snd := by
  induction ms with
  | nil => rfl
  | cons m ms ih =>
    obtain ⟨k, v⟩ := m
    by_cases hk : k = name
    · simp [Members.get?_cons, hk]
    · simp [Members.get?_cons, hk, ih]

/-- Of the values of one name in the query the last one counts. -/
theorem get?_queryMembers (r : Request) (name : Text) :
    Members.get? name r.queryMembers
      = (r.queryPairs.reverse.find? fun p => p.1 = name).map fun p => .text p.2 := by
  have hpairs : Members.get? name r.queryMembers
      = Members.get? name (r.queryPairs.map fun p => (p.1, Json.text p.2)).reverse :=
    (Members.get?_setAll name _ []).trans (Option.or_none)
  rw [hpairs, ← List.map_reverse, get?_eq_find?, List.find?_map, Option.map_map]
  rfl

/-- A name in ASCII is one that headers can have. -/
theorem sendable_of_isAscii {name : Text} (h : name.isAscii = true) :
    (name.lower.all fun c => c.val < 0x100) = true := by
  have hlower : name.lower.isAscii = true := by
    rw [Text.lower_eq_asciiLower h, Text.isAscii_asciiLower, h]
  simp only [Text.isAscii, CodePoint.isAscii, List.all_eq_true, decide_eq_true_eq] at hlower ⊢
  intro c hc
  exact Nat.lt_trans (hlower c hc) (by decide)

/-- **A rule finds the credential that it points at**, if a header can have its name. -/
theorem find_eq_credential? {rule : LookupRule} (r : Request)
    (h : rule.source = .header → rule.name.isAscii = true) :
    rule.find r = .ok (rule.credential? r) := by
  unfold find findWith credential? pointed?
  cases hsource : rule.source with
  | header =>
    have hfind : (r.header? rule.name.lower).bind (fun t => present? (.text t))
        = ((r.header? rule.name.lower).map Json.text).bind present? := by
      rw [Option.bind_map]
      rfl
    simp only [sendable_of_isAscii (h hsource), if_true]
    rw [hfind, bind_present?, header?_eq_find?, Option.map_map]
    rfl
  | body =>
    simp only [bind_present?, Request.jsonBody]
    cases hread : Json.readBytes r.body with
    | error fault => rfl
    | ok v =>
      cases v with
      | object ms => simp [Json.members?, get?_eq_find?]
      | _ => rfl
  | query => simp only [bind_present?, get?_queryMembers]

/-! ## 3. Lookups -/

/-- Whichever header a rule is about has a name in ASCII. -/
def AsciiHeaders (rules : List LookupRule) : Prop :=
  ∀ rule ∈ rules, rule.source = .header → rule.name.isAscii = true

/-- A lookup finds the first of the credentials that its rules point at. -/
theorem findFirst_of_asciiHeaders {rules : List LookupRule} (h : AsciiHeaders rules) (r : Request) :
    findFirst rules r = .ok (rules.findSome? fun rule => rule.credential? r) := by
  induction rules with
  | nil => rfl
  | cons rule rest ih =>
    obtain ⟨hrule, hrest⟩ := List.forall_mem_cons.mp h
    rw [findFirst_cons, find_eq_credential? r hrule, ok_bind, List.findSome?_cons]
    cases rule.credential? r with
    | some t => rfl
    | none => exact ih hrest

theorem credential?_ne_nil {rule : LookupRule} {r : Request} {t : Text}
    (h : rule.credential? r = some t) : t ≠ [] := by
  have hfilled := Option.filter_eq_some_iff.mp h
  simpa using hfilled.2

/-- **A lookup finds what its rules find one by one**: the first of the credentials that they point
at, each by itself.  So two lists of rules are looked up one after the other, what is found is not
empty, and what a rule points at is found if no rule before it points at a credential. -/
theorem findFirst_eq_findSome? {rules : List LookupRule} (h : AsciiHeaders rules) (r : Request) :
    findFirst rules r = .ok (rules.findSome? fun rule => rule.credential? r)
      ∧ (∀ before after, rules = before ++ after → ∃ x y, findFirst before r = .ok x
        ∧ findFirst after r = .ok y ∧ findFirst rules r = .ok (x.or y))
      ∧ findFirst rules r ≠ .ok (some [])
      ∧ (∀ t, findFirst rules r = .ok (some t) ↔ ∃ before rule after,
        rules = before ++ rule :: after ∧ rule.credential? r = some t
          ∧ ∀ higher ∈ before, higher.credential? r = none)
      ∧ ∀ rule ∈ rules, rule.credential? r ≠ none → findFirst rules r ≠ .ok none := by
  rw [findFirst_of_asciiHeaders h r]
  refine ⟨rfl, ?_, ?_, ?_, ?_⟩
  · rintro before after rfl
    obtain ⟨hbefore, hafter⟩ := List.forall_mem_append.mp h
    exact ⟨_, _, findFirst_of_asciiHeaders hbefore r, findFirst_of_asciiHeaders hafter r,
      congrArg Except.ok List.findSome?_append⟩
  · intro hempty
    obtain ⟨_, rule, _, -, hrule, -⟩ := List.findSome?_eq_some_iff.mp (Except.ok.inj hempty)
    exact credential?_ne_nil hrule rfl
  · intro t
    rw [Except.ok.injEq, List.findSome?_eq_some_iff]
  · intro rule hrule hfinds hnone
    exact hfinds (List.findSome?_eq_none_iff.mp (Except.ok.inj hnone) rule hrule)

/-- A request with an empty header, a list in the body that begins with an empty text, and two
values of one name in the query. -/
def scatteredRequest : Request where
  method := "POST"
  path := "/reset"
  query := "token=early&token=late"
  headers := [("x-token", [])]
  body := Bytes.ofAscii "\x7b\"token\":[\"\",\"second\"]\x7d"
  tls := .null
  client := none
  identity := .absent

theorem findFirst_scatteredRequest :
    AsciiHeaders (everywhere "X-Token" "token")
      ∧ findFirst (everywhere "X-Token" "token") scatteredRequest = .ok (some "late") := by
  have hascii : AsciiHeaders (everywhere "X-Token" "token") := by
    unfold AsciiHeaders
    decide
  refine ⟨hascii, (findFirst_eq_findSome? hascii scatteredRequest).1.trans ?_⟩
  exact congrArg Except.ok (by decide +kernel)

end Portcullis.LookupRule
