/-
# What reports show of their data

Data goes into a report scrubbed: what stands under a secret name is masked, and objects are walked
in search of such names.  Lists are not, so what a list holds is shown as it is.

Two values are the same but for their secrets (`Json.SameBut`) if they differ only under secret
names.  Which names count depends on whether those in lists do; for scrubbing they do not.

**Main statement.**  `scrub_eq_iff_sameBut`.
-/
import Portcullis.Event
import Portcullis.Proofs.Json.SameTree
import Portcullis.Proofs.Results

namespace Portcullis

/-- The name of a member that holds a credential, in any letter case. -/
def Redaction.IsSecret (name : Text) : Prop := secretNames.contains name.lower = true

instance (name : Text) : Decidable (Redaction.IsSecret name) :=
  inferInstanceAs (Decidable (_ = true))

namespace Json

open Redaction

/-! ## 1. Member by member -/

/-- A member with its value masked. -/
def redactMember (m : Text × Json) : Text × Json := (m.1, m.2.redact)

theorem redactMembers_eq_map (ms : Members) : redactMembers ms = ms.map redactMember := by
  induction ms with
  | nil => rfl
  | cons m rest ih => simp [redactMembers, redactMember, ih]

@[simp] theorem redact_object (ms : Members) :
    redact (.object ms) = .object (ms.map redactMember) := by
  rw [redact, redactMembers_eq_map]

/-- A member as data shows it. -/
def scrubMember (m : Text × Json) : Text × Json :=
  (m.1, if IsSecret m.1 then m.2.redact else m.2.scrub)

theorem scrubMembers_eq_map (ms : Members) : scrubMembers ms = ms.map scrubMember := by
  induction ms with
  | nil => rfl
  | cons m rest ih => simp [scrubMembers, scrubMember, IsSecret, ih]

@[simp] theorem scrub_object (ms : Members) :
    scrub (.object ms) = .object (ms.map scrubMember) := by
  rw [scrub, scrubMembers_eq_map]

@[simp] theorem scrub_list (items : List Json) : scrub (.list items) = .list items := by
  simp [scrub]

theorem scrub_atom {v : Json} (h : v.isAtom = true) : v.scrub = v := by
  cases v with
  | object ms => exact absurd h Bool.false_ne_true
  | _ => simp [scrub]

theorem scrubMember_secret {k : Text} (h : IsSecret k) (v : Json) :
    scrubMember (k, v) = (k, v.redact) := by
  simp [scrubMember, h]

theorem scrubMember_plain {k : Text} (h : ¬ IsSecret k) (v : Json) :
    scrubMember (k, v) = (k, v.scrub) := by
  simp [scrubMember, h]

/-! ## 2. Values that differ in their secrets -/

mutual

/-- The values are the same but for what stands under secret names, and what stands there is
related.  Secret names in lists count only if lists are searched. -/
inductive SameBut (R : Json → Json → Prop) (inLists : Bool) : Json → Json → Prop
  | atom {v : Json} (h : v.isAtom = true) : SameBut R inLists v v
  | list (items : List Json) : SameBut R inLists (.list items) (.list items)
  | items {as bs : List Json} (searched : inLists = true)
      (h : List.Forall₂ (SameBut R inLists) as bs) : SameBut R inLists (.list as) (.list bs)
  | object {ms ns : Members} (h : List.Forall₂ (SameButMember R inLists) ms ns) :
      SameBut R inLists (.object ms) (.object ns)

/-- The members have one name; under a secret one the values are related, under another they are
the same but for their secrets. -/
inductive SameButMember (R : Json → Json → Prop) (inLists : Bool) :
    Text × Json → Text × Json → Prop
  | secret {k : Text} {a b : Json} (hk : IsSecret k) (h : R a b) :
      SameButMember R inLists (k, a) (k, b)
  | plain {k : Text} {a b : Json} (hk : ¬ IsSecret k) (h : SameBut R inLists a b) :
      SameButMember R inLists (k, a) (k, b)

end

/-- The values have one masked form. -/
def SameMask (a b : Json) : Prop := a.redact = b.redact

/-- The second value is the masked form of the first. -/
def MaskOf (a b : Json) : Prop := b = a.redact

/-- Scrubbing does not show what it masks. -/
theorem SameBut.scrub_eq {u v : Json} (h : SameBut SameMask false u v) : u.scrub = v.scrub := by
  induction u using byParts generalizing v with
  | atom u hu =>
    cases h with
    | atom _ => rfl
    | _ => exact absurd hu Bool.false_ne_true
  | list items _ =>
    cases h with
    | atom _ => rfl
    | list _ => rfl
    | items searched _ => exact absurd searched Bool.false_ne_true
  | object ms ih =>
    cases h with
    | atom _ => rfl
    | object h =>
      rw [scrub_object, scrub_object, map_eq_map_of_forall₂ h]
      intro m hm n hmn
      cases hmn with
      | secret hk h => rw [scrubMember_secret hk, scrubMember_secret hk, show _ = _ from h]
      | plain hk h => rw [scrubMember_plain hk, scrubMember_plain hk, ih _ hm h]

/-- It shows all else. -/
theorem sameBut_of_scrub_eq {u v : Json} (h : u.scrub = v.scrub) : SameBut SameMask false u v := by
  induction u using byParts generalizing v with
  | atom u hu =>
    rw [scrub_atom hu] at h
    cases v with
    | object ns => rw [h, scrub_object] at hu; exact absurd hu Bool.false_ne_true
    | _ =>
      simp only [scrub] at h
      subst h
      exact .atom hu
  | list items _ =>
    cases v with
    | list _ =>
      simp only [scrub_list] at h
      rw [h]
      exact .list _
    | _ => simp [scrub] at h
  | object ms ih =>
    cases v with
    | object ns =>
      simp only [scrub_object, Json.object.injEq] at h
      refine .object (forall₂_of_map_eq_map h ?_)
      rintro ⟨k, a⟩ ha ⟨l, b⟩ hab
      obtain rfl : k = l := congrArg Prod.fst hab
      by_cases hk : IsSecret k
      · rw [scrubMember_secret hk, scrubMember_secret hk] at hab
        exact .secret hk (congrArg Prod.snd hab)
      · rw [scrubMember_plain hk, scrubMember_plain hk] at hab
        exact .plain hk (ih (k, a) ha (congrArg Prod.snd hab))
    | _ => simp [scrub] at h

/-- **Scrubbing changes nothing but what stands under secret names**, and there it masks. -/
theorem sameBut_scrub (v : Json) : SameBut MaskOf false v v.scrub := by
  induction v using byParts with
  | atom v hv => rw [scrub_atom hv]; exact .atom hv
  | list items _ => rw [scrub_list]; exact .list items
  | object ms ih =>
    rw [scrub_object]
    refine .object (List.forall₂_map_right_iff.mpr (List.forall₂_same.mpr ?_))
    rintro ⟨k, v⟩ hm
    by_cases hk : IsSecret k
    · rw [scrubMember_secret hk]
      exact .secret hk rfl
    · rw [scrubMember_plain hk]
      exact .plain hk (ih (k, v) hm)

/-! ## 3. Lists -/

/-- No member at any depth has a secret name. -/
inductive Bare : Json → Prop
  | atom {v : Json} (h : v.isAtom = true) : Bare v
  | list {items : List Json} (h : ∀ v ∈ items, Bare v) : Bare (.list items)
  | object {ms : Members} (names : ∀ m ∈ ms, ¬ IsSecret m.1) (h : ∀ m ∈ ms, Bare m.2) :
      Bare (.object ms)

/-- No member in a list has a secret name, unless the list itself stands under one. -/
inductive BareLists : Json → Prop
  | atom {v : Json} (h : v.isAtom = true) : BareLists v
  | list {items : List Json} (h : ∀ v ∈ items, Bare v) : BareLists (.list items)
  | object {ms : Members} (h : ∀ m ∈ ms, ¬ IsSecret m.1 → BareLists m.2) : BareLists (.object ms)

/-- Relations that follow for the elements of a list follow element by element. -/
theorem forall₂_imp_of_mem {α β : Type} {R S : α → β → Prop} {as : List α} {bs : List β}
    (h : List.Forall₂ R as bs) (himp : ∀ a ∈ as, ∀ b, R a b → S a b) : List.Forall₂ S as bs :=
  ((List.forall₂_and_left as bs).mpr ⟨fun _ ha => ha, h⟩).imp fun a b hab => himp a hab.1 b hab.2

/-- Lists whose elements are equal one by one are equal. -/
theorem eq_of_forall₂ {α : Type} {R : α → α → Prop} {as bs : List α} (h : List.Forall₂ R as bs)
    (heq : ∀ a ∈ as, ∀ b, R a b → a = b) : as = bs := by
  have hsame : List.Forall₂ (· = ·) as bs := forall₂_imp_of_mem h heq
  rwa [List.forall₂_eq_eq_eq] at hsame

section Lists

variable {R : Json → Json → Prop} {inLists : Bool} {u v : Json}

/-- Values without secrets have none to differ in. -/
theorem SameBut.eq_of_bare (h : SameBut R inLists u v) (hu : Bare u) : u = v := by
  induction hu generalizing v with
  | atom hu =>
    cases h with
    | atom _ => rfl
    | _ => exact absurd hu Bool.false_ne_true
  | list _ ih =>
    cases h with
    | atom _ => rfl
    | list _ => rfl
    | items _ h => rw [eq_of_forall₂ h fun a ha b hab => ih a ha hab]
  | object names _ ih =>
    cases h with
    | atom _ => rfl
    | object h =>
      refine congrArg Json.object (eq_of_forall₂ h fun m hm n hmn => ?_)
      cases hmn with
      | secret hk _ => exact absurd hk (names _ hm)
      | plain _ h => exact congrArg (Prod.mk _) (ih _ hm h)

/-- Values without secrets in lists differ outside of lists. -/
theorem SameBut.outside_lists (h : SameBut R inLists u v) (hu : BareLists u) :
    SameBut R false u v := by
  induction hu generalizing v with
  | atom hu =>
    cases h with
    | atom _ => exact .atom hu
    | _ => exact absurd hu Bool.false_ne_true
  | list bare =>
    rw [← h.eq_of_bare (.list bare)]
    exact .list _
  | object _ ih =>
    cases h with
    | atom h => exact .atom h
    | object h =>
      refine .object (forall₂_imp_of_mem h fun m hm n hmn => ?_)
      cases hmn with
      | secret hk h => exact .secret hk h
      | plain hk h => exact .plain hk (ih _ hm hk h)

end Lists

/-! ## 4. The order of members -/

/-- Members that are changed one by one are the same in another order. -/
theorem SameTree.map_members {ms ns' ns : Members} (h : List.Forall₂ SameMember ms ns')
    (order : ns'.Perm ns) {f : Text × Json → Text × Json}
    (hf : ∀ k a b, (k, a) ∈ ms → SameTree a b → SameMember (f (k, a)) (f (k, b))) :
    SameTree (.object (ms.map f)) (.object (ns.map f)) := by
  refine .object ?_ (order.map f)
  rw [List.forall₂_map_left_iff, List.forall₂_map_right_iff]
  refine forall₂_imp_of_mem h fun m hm n hmn => ?_
  cases hmn with
  | value k h => exact hf k _ _ hm h

theorem SameTree.redact {u v : Json} (h : SameTree u v) : SameTree u.redact v.redact := by
  induction u using byParts generalizing v with
  | atom u hu =>
    cases h with
    | atom _ => exact .refl _
    | _ => exact absurd hu Bool.false_ne_true
  | list items _ =>
    cases h with
    | atom _ => exact .refl _
    | list _ => simpa [Json.redact] using SameTree.refl _
  | object ms ih =>
    cases h with
    | atom _ => exact .refl _
    | object h order =>
      rw [redact_object, redact_object]
      exact map_members h order fun k a b ha hab => .value k (ih (k, a) ha hab)

/-- What is scrubbed is the same tree in every order of the members. -/
theorem SameTree.scrub {u v : Json} (h : SameTree u v) : SameTree u.scrub v.scrub := by
  induction u using byParts generalizing v with
  | atom u hu =>
    cases h with
    | atom _ => exact .refl _
    | _ => exact absurd hu Bool.false_ne_true
  | list items _ =>
    cases h with
    | atom _ => exact .refl _
    | list h => rw [scrub_list, scrub_list]; exact .list h
  | object ms ih =>
    cases h with
    | atom _ => exact .refl _
    | object h order =>
      rw [scrub_object, scrub_object]
      refine map_members h order fun k a b ha hab => ?_
      by_cases hk : IsSecret k
      · rw [scrubMember_secret hk, scrubMember_secret hk]
        exact .value k hab.redact
      · rw [scrubMember_plain hk, scrubMember_plain hk]
        exact .value k (ih (k, a) ha hab)

/-! ## 5. Reports -/

@[simp] theorem isNull_redact (v : Json) : v.redact.isNull = v.isNull := by
  cases v <;> simp [redact, isNull]

@[simp] theorem isNull_scrub (v : Json) : v.scrub.isNull = v.isNull := by
  cases v <;> simp [scrub, isNull]

@[simp] theorem isNull_scrubMember (m : Text × Json) : (scrubMember m).2.isNull = m.2.isNull := by
  unfold scrubMember
  split <;> simp

theorem map_fst_scrubMembers (ms : Members) :
    (scrubMembers ms).map Prod.fst = ms.map Prod.fst := by
  rw [scrubMembers_eq_map, List.map_map]
  rfl

/-- Whether a member is null shows in its scrubbed form. -/
theorem isNull_getD_scrubMembers (ms : Members) (name : Text) :
    (Members.getD (scrubMembers ms) name).isNull = (Members.getD ms name).isNull := by
  rw [scrubMembers_eq_map]
  induction ms with
  | nil => rfl
  | cons m rest ih =>
    obtain ⟨k, v⟩ := m
    by_cases hk : k = name
    · have hmember := isNull_scrubMember (k, v)
      simpa [Members.getD, Members.get?, hk, scrubMember] using hmember
    · simpa [Members.getD, Members.get?, hk, scrubMember] using ih

end Json

namespace Fault

/-- The fault with other data, if it has any. -/
def withData (data : Json) : Fault → Fault
  | .web message code status _ hint cause => .web message code status (.ok data) hint cause
  | .engine message _ hint cause => .engine message (.ok data) hint cause
  | .configuration message _ hint cause => .configuration message (.ok data) hint cause
  | fault => fault

@[simp] theorem name_withData (data : Json) (f : Fault) : (f.withData data).name = f.name := by
  cases f <;> rfl

@[simp] theorem message_withData (data : Json) (f : Fault) :
    (f.withData data).message = f.message := by
  cases f <;> rfl

@[simp] theorem text_withData (data : Json) (f : Fault) : (f.withData data).text = f.text := by
  cases f <;> rfl

end Fault

namespace Report

open Json

/-- **The report of a step is made of its scrubbed data.** -/
theorem debugWith_congr {ms ns : Members} (h : scrubMembers ms = scrubMembers ns)
    (threshold : Nat) (logger message : Text) :
    debugWith threshold logger message ms = debugWith threshold logger message ns := by
  have hnames : ms.map Prod.fst = ns.map Prod.fst := by
    rw [← map_fst_scrubMembers ms, h, map_fst_scrubMembers]
  have hany : ∀ p : Text → Bool, (ms.any fun m => p m.1) = ns.any fun m => p m.1 := by
    intro p
    have hboth := congrArg (List.any · p) hnames
    simpa [List.any_map, Function.comp_def] using hboth
  have hrecord : (Members.getD ms recordName).isNull = (Members.getD ns recordName).isNull := by
    rw [← isNull_getD_scrubMembers, h, isNull_getD_scrubMembers]
  have hfilter : ∀ p : Text → Bool, scrubMembers (ms.filter fun m => p m.1)
      = scrubMembers (ns.filter fun m => p m.1) := by
    intro p
    have hboth := congrArg (List.filter fun m : Text × Json => p m.1) h
    simpa [scrubMembers_eq_map, List.filter_map, Function.comp_def, scrubMember] using hboth
  simp only [debugWith, debug, hany (ownNames.contains ·), hrecord, hfilter (· != failureName)]

@[simp] theorem faultLevel_withData (data : Json) (f : Fault) :
    faultLevel (f.withData data) = faultLevel f := by
  cases f <;> rfl

theorem faultFields_withData {u v : Json} (h : u.scrub = v.scrub) (f : Fault) :
    faultFields (f.withData u) = faultFields (f.withData v) := by
  have hdetails : ∀ cause, detailFields (.ok u) cause = detailFields (.ok v) cause := by
    intro cause
    simp only [detailFields, ok_bind, h]
  cases f <;> simp only [Fault.withData, faultFields, Fault.name, hdetails]

/-- Of a fault that is shown with its report only the kind and the message are written. -/
theorem render_eventOf_withData (u v : Json) (f : Fault) (service : Text) (bound fields : Members)
    (text : Text) : Event.render service bound (eventOf (f.withData u) fields text)
      = Event.render service bound (eventOf (f.withData v) fields text) := by
  by_cases hlevel : faultLevel f = .error
  · simp [eventOf, Event.render, hlevel]
  · simp [eventOf, hlevel]

/-- What is written of the report of a fault. -/
def written (threshold : Nat) (service : Text) (bound : Members) (f : Fault)
    (request : Option Request) : Except Fault (List Json) :=
  (fault f request).map fun e => Event.renderAll threshold service bound [e]

/-- **What is written of a fault is made of its scrubbed data.** -/
theorem written_congr {u v : Json} (h : u.scrub = v.scrub) (f : Fault) (threshold : Nat)
    (service : Text) (bound : Members) (request : Option Request) :
    written threshold service bound (f.withData u) request
      = written threshold service bound (f.withData v) request := by
  have hlines : ∀ fields text,
      Event.renderAll threshold service bound [eventOf (f.withData u) fields text]
        = Event.renderAll threshold service bound [eventOf (f.withData v) fields text] := by
    intro fields text
    have hlevel : ∀ data, (eventOf (f.withData data) fields text).level = faultLevel f := by
      simp [eventOf]
    by_cases hwritten : threshold ≤ (faultLevel f).rank
    · simp [Event.renderAll, hlevel, hwritten, render_eventOf_withData u v]
    · simp [Event.renderAll, hlevel, hwritten]
  simp only [written, fault, faultFields_withData h, Fault.text_withData]
  cases faultFields (f.withData v) with
  | error other => rfl
  | ok fields =>
    cases circumstances request with
    | error other => rfl
    | ok context =>
      cases f.text with
      | error other => rfl
      | ok text => exact congrArg Except.ok (hlines (fields ++ context) text)

end Report

namespace Json

/-! ## 6. What is revealed -/

/-- **Scrubbed data reveals of a secret what its masked form does, outside of lists.**  Two values
have one scrubbed form exactly if they are the same but for secrets with one masked form, where
secrets in lists do not count.  So values that differ in any such secrets have one scrubbed form if
no list of theirs holds one.  What is not a secret is kept as it is, the order of members included,
and what is written of a step or of a fault is made of the scrubbed data. -/
theorem scrub_eq_iff_sameBut (u v : Json) :
    (u.scrub = v.scrub ↔ SameBut SameMask false u v)
      ∧ (SameBut SameMask true u v → BareLists u → u.scrub = v.scrub)
      ∧ SameBut MaskOf false u u.scrub
      ∧ (∀ w, SameTree u w → SameTree u.scrub w.scrub)
      ∧ (u.scrub = v.scrub →
        (∀ ms ns threshold logger message, u = .object ms → v = .object ns →
          Report.debugWith threshold logger message ms
            = Report.debugWith threshold logger message ns)
        ∧ ∀ (f : Fault) threshold service bound request,
          Report.written threshold service bound (f.withData u) request
            = Report.written threshold service bound (f.withData v) request) := by
  refine ⟨⟨sameBut_of_scrub_eq, SameBut.scrub_eq⟩, ?_, sameBut_scrub u, fun w => SameTree.scrub, ?_⟩
  · intro h hlists
    exact (h.outside_lists hlists).scrub_eq
  · intro h
    refine ⟨?_, fun f => Report.written_congr h f⟩
    rintro ms ns threshold logger message rfl rfl
    refine Report.debugWith_congr ?_ threshold logger message
    simpa [scrub, scrubMembers_eq_map] using h

/-- Data with a token in a list. -/
def listedToken (token : Text) : Json :=
  .object [("attempts", .list [.object [("token", .text token)]])]

/-- Two tokens with one masked form show in a list. -/
theorem scrub_listedToken :
    SameBut SameMask true (listedToken "eyJhbGciOi.one") (listedToken "eyJhbGciOi.two")
      ∧ (listedToken "eyJhbGciOi.one").scrub ≠ (listedToken "eyJhbGciOi.two").scrub := by
  refine ⟨?_, by decide⟩
  have htoken : SameButMember SameMask true ("token", .text "eyJhbGciOi.one")
      ("token", .text "eyJhbGciOi.two") := .secret (by decide) (by unfold SameMask; decide)
  have hitem := SameBut.object (.cons htoken .nil)
  exact .object (.cons (.plain (by decide) (.items rfl (.cons hitem .nil))) .nil)

end Json

end Portcullis
