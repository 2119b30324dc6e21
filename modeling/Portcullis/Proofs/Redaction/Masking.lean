/-
# Masking twice

A credential is masked when it is reported and, if its name is a secret one, once more when the
report is written.  The first time a long text keeps its beginning; what it has become is short, so
that the second time nothing of it is left.  So masking twice is masking once only for values that
hold no long text (`Json.HoldsLong`), and masking a third time changes nothing more.

**Main statement.**  `redact_redact_eq_iff`.
-/
import Portcullis.Proofs.Json.ReadBack
import Portcullis.Proofs.Redaction.Scrubbing
import Portcullis.Proofs.Reportable

namespace Portcullis

/-! ## 1. Texts -/

namespace Redaction

/-- What is left of a text is short. -/
theorem length_ofText_le (t : Text) : (ofText t).length ≤ 8 := by
  have hmask : mask.length = 3 := by decide
  unfold ofText
  split
  · omega
  · simp only [List.length_append, List.length_take, hmask]
    omega

/-- A text that is masked twice is masked as a whole. -/
theorem ofText_ofText (t : Text) : ofText (ofText t) = mask := by
  rw [ofText, if_pos (length_ofText_le t)]

/-- A text is masked as a whole exactly if it is not long. -/
theorem ofText_eq_mask_iff (t : Text) : ofText t = mask ↔ t.length ≤ 8 := by
  have hmask : mask.length = 3 := by decide
  unfold ofText
  split
  · next h => exact iff_of_true rfl h
  · next h =>
    refine iff_of_false (fun heq => ?_) h
    have hlength := congrArg List.length heq
    simp only [List.length_append, List.length_take, hmask] at hlength
    omega

end Redaction

namespace Json

open Redaction

/-! ## 2. Values -/

/-- A text of more than eight code points is in the reach of masking: it stands by itself or in an
object, at any depth, and not in a list. -/
inductive HoldsLong : Json → Prop
  | text {t : Text} (h : 8 < t.length) : HoldsLong (.text t)
  | member {ms : Members} {m : Text × Json} (hm : m ∈ ms) (h : HoldsLong m.2) :
      HoldsLong (.object ms)

@[simp] theorem holdsLong_text_iff (t : Text) : HoldsLong (.text t) ↔ 8 < t.length := by
  constructor
  · rintro ⟨h⟩
    exact h
  · exact .text

@[simp] theorem holdsLong_object_iff (ms : Members) :
    HoldsLong (.object ms) ↔ ∃ m ∈ ms, HoldsLong m.2 := by
  constructor
  · rintro (_ | ⟨hm, h⟩)
    exact ⟨_, hm, h⟩
  · rintro ⟨m, hm, h⟩
    exact .member hm h

theorem redact_mask : redact (.text mask) = .text mask := by decide

/-- **Masking twice is masking once** exactly for values that hold no long text. -/
theorem redact_redact_iff (v : Json) : v.redact.redact = v.redact ↔ ¬ HoldsLong v := by
  induction v using byParts with
  | atom v hv =>
    cases v with
    | text t =>
      rw [holdsLong_text_iff, Nat.not_lt, ← ofText_eq_mask_iff]
      simp [redact, ofText_ofText, eq_comm]
    | list items => exact absurd hv Bool.false_ne_true
    | object ms => exact absurd hv Bool.false_ne_true
    | null => exact iff_of_true rfl (by rintro ⟨⟩)
    | _ => exact iff_of_true redact_mask (by rintro ⟨⟩)
  | list items _ => exact iff_of_true redact_mask (by rintro ⟨⟩)
  | object ms ih =>
    have hmembers : (ms.map redactMember).map redactMember = ms.map redactMember
        ↔ ∀ m ∈ ms, m.2.redact.redact = m.2.redact := by
      simp [redactMember]
    simp only [redact_object, Json.object.injEq, hmembers, holdsLong_object_iff, not_exists,
      not_and]
    exact forall₂_congr ih

/-- What is masked holds no long text. -/
theorem not_holdsLong_redact (v : Json) : ¬ HoldsLong v.redact := by
  induction v using byParts with
  | atom v hv =>
    cases v with
    | text t => simpa [redact] using length_ofText_le t
    | list items => exact absurd hv Bool.false_ne_true
    | object ms => exact absurd hv Bool.false_ne_true
    | null => rintro ⟨⟩
    | _ => simp [redact]; decide
  | list items _ => simp [redact]; decide
  | object ms ih =>
    rw [redact_object, holdsLong_object_iff]
    rintro ⟨n, hn, hlong⟩
    obtain ⟨m, hm, rfl⟩ := List.mem_map.mp hn
    exact ih m hm hlong

/-- Masking a third time changes nothing. -/
theorem redact_settled (v : Json) : v.redact.redact.redact = v.redact.redact :=
  (redact_redact_iff v.redact).mpr (not_holdsLong_redact v)

end Json

namespace Event

open Json Redaction

/-! ## 3. Lines -/

theorem get?_maskSecrets (k : Text) (ms : Members) : Members.get? k (maskSecrets ms)
    = (Members.get? k ms).map fun v => if secretNames.contains k then v.redact else v := by
  unfold maskSecrets
  induction ms with
  | nil => rfl
  | cons m ms ih =>
    obtain ⟨l, v⟩ := m
    by_cases h : l = k
    · simp [Members.get?_cons, h]
    · simp only [List.map_cons, Members.get?_cons, if_neg h, ih]

theorem get?_setDefault {k name : Text} (h : k ≠ name) (v : Json) (ms : Members) :
    Members.get? k (setDefault name v ms) = Members.get? k ms := by
  unfold setDefault
  split
  · rfl
  · simp [Members.get?_append, Members.single, Members.get?_cons, Ne.symm h]

/-- The members that a line has from itself. -/
def placedNames : List Text := ["event", "service", "level", "logger", "exception"]

/-- **What a line shows** under a name of the event, or else under one that is bound to the request;
under a secret name it shows the masked form. -/
theorem get?_render {e : Event} (names : (e.fields.map Prod.fst).Nodup) {k : Text}
    (hk : k ∉ placedNames) (service : Text) (bound : Members) :
    Members.get? k (render service bound e)
      = ((Members.get? k e.fields).or (Members.get? k bound)).map
        fun v => if secretNames.contains k then v.redact else v := by
  simp only [placedNames, List.mem_cons, List.not_mem_nil, or_false, not_or] at hk
  obtain ⟨hevent, hservice, hlevel, hlogger, hexception⟩ := hk
  have hfields : Members.get? k e.fields.reverse = Members.get? k e.fields := by
    simpa using Members.get?_reverse_map names (f := id) (fun _ => Iff.rfl) id
  have hmasked : Members.get? k (maskSecrets (setDefault "service" (.text service)
      ((bound.setAll (e.fields ++ Members.single "event" (.text e.message))).setAll
        [("level", .text e.level.name), ("logger", .text e.logger)])))
      = ((Members.get? k e.fields).or (Members.get? k bound)).map
        fun v => if secretNames.contains k then v.redact else v := by
    simp [get?_maskSecrets, get?_setDefault hservice, Members.get?_setAll, Members.single,
      Members.get?_cons, Ne.symm hevent, Ne.symm hlevel, Ne.symm hlogger, hfields]
  unfold render
  cases e.fault with
  | none => exact hmasked
  | some f => exact (Members.get?_set_of_ne hexception _ _).trans hmasked

/-- Members without a secret name are written as they are. -/
theorem maskSecrets_eq_self {ms : Members} (h : ∀ m ∈ ms, m.1 ∉ secretNames) :
    maskSecrets ms = ms := by
  refine map_eq_self fun m hm => ?_
  simp [h m hm]

end Event

namespace Report

open Json Redaction

/-! ## 4. Steps -/

theorem isSecret_of_mem {k : Text} (h : k ∈ secretNames) : IsSecret k := by
  have hall : ∀ k ∈ secretNames, IsSecret k := by decide
  exact hall k h

/-- **The data of a step is written as it was reported** exactly if no long text stands under a
secret name. -/
theorem maskSecrets_debug_iff (logger message : Text) (ms : Members) :
    Event.maskSecrets (debug logger message ms).fields = (debug logger message ms).fields
      ↔ ∀ m ∈ ms, m.1 ∈ secretNames → ¬ HoldsLong m.2 := by
  simp only [debug, Event.maskSecrets, scrubMembers_eq_map, List.map_map, List.map_inj_left]
  refine forall₂_congr fun m _ => ?_
  obtain ⟨k, v⟩ := m
  by_cases hk : k ∈ secretNames
  · simp [scrubMember_secret (isSecret_of_mem hk), hk, redact_redact_iff]
  · simp [scrubMember, hk]

/-- What the line of a step shows of its data: under a secret name what is left of it after masking
twice. -/
theorem get?_render_debug {ms : Members} (names : (ms.map Prod.fst).Nodup) {k : Text} {v : Json}
    (hk : k ∉ Event.placedNames) (hv : (k, v) ∈ ms) (service : Text) (bound : Members)
    (logger message : Text) :
    Members.get? k (Event.render service bound (debug logger message ms))
      = some (if k ∈ secretNames then v.redact.redact else (scrubMember (k, v)).2) := by
  have hnames : ((scrubMembers ms).map Prod.fst).Nodup := by rwa [map_fst_scrubMembers]
  have hfield : Members.get? k (scrubMembers ms) = some (scrubMember (k, v)).2 := by
    rw [Members.get?_eq_some_iff hnames, scrubMembers_eq_map]
    exact List.mem_map_of_mem hv
  rw [Event.get?_render hnames hk, debug, hfield]
  by_cases hsecret : k ∈ secretNames
  · simp [scrubMember_secret (isSecret_of_mem hsecret), hsecret]
  · simp [hsecret]

/-! ## 5. Faults -/

/-- The names of what the report of a fault has for itself. -/
def faultNames : List Text :=
  ["error_type", "data", "cause", "error_code", "status_code", "http_request", "user"]

theorem map_fst_detailFields {data : Except Fault Json} {cause : Option Fault} {ms : Members}
    (h : detailFields data cause = .ok ms) : (ms.map Prod.fst).Sublist ["data", "cause"] := by
  obtain ⟨v, -, h⟩ := bind_eq_ok h
  obtain ⟨shown, hshown, h⟩ := bind_eq_ok h
  cases h
  refine List.Sublist.cons_cons _ ?_
  cases cause with
  | none =>
    cases hshown
    simp
  | some cause =>
    obtain ⟨t, -, hshown⟩ := bind_eq_ok hshown
    cases hshown
    simp

theorem map_fst_faultFields {f : Fault} {ms : Members} (h : faultFields f = .ok ms) :
    (ms.map Prod.fst).Sublist ["error_type", "data", "cause", "error_code", "status_code"] := by
  cases f with
  | web message code status data hint cause =>
    obtain ⟨details, hdetails, h⟩ := bind_eq_ok h
    cases h
    simpa using (map_fst_detailFields hdetails).append_right ["error_code", "status_code"]
  | engine message data hint cause =>
    obtain ⟨details, hdetails, h⟩ := bind_eq_ok h
    cases h
    simpa using (map_fst_detailFields hdetails).trans (List.sublist_append_left _ _)
  | configuration message data hint cause =>
    obtain ⟨details, hdetails, h⟩ := bind_eq_ok h
    cases h
    simpa using (map_fst_detailFields hdetails).trans (List.sublist_append_left _ _)
  | _ =>
    cases h
    simp

theorem map_fst_userFields {identity : Identity} {ms : Members}
    (h : userFields identity = .ok ms) : (ms.map Prod.fst).Sublist ["user"] := by
  unfold userFields at h
  split at h
  · cases h
    simp
  · cases h
  · cases h
    split <;> simp
  · split at h <;> cases h <;> simp

theorem map_fst_circumstances {request : Option Request} {ms : Members}
    (h : circumstances request = .ok ms) : (ms.map Prod.fst).Sublist ["http_request", "user"] := by
  cases request with
  | none =>
    cases h
    simp
  | some r =>
    obtain ⟨shown, -, h⟩ := bind_eq_ok h
    obtain ⟨user, huser, h⟩ := bind_eq_ok h
    cases h
    exact (map_fst_userFields huser).cons_cons _

/-- The report of a fault has each of its names at most once, and no other name. -/
theorem map_fst_fault {f : Fault} {request : Option Request} {e : Event}
    (h : fault f request = .ok e) : (e.fields.map Prod.fst).Sublist faultNames := by
  obtain ⟨fields, context, text, hfields, hcontext, -, rfl⟩ := fault_eq_ok_iff.mp h
  rw [eventOf, List.map_append]
  exact (map_fst_faultFields hfields).append (map_fst_circumstances hcontext)

section Fault

variable {f : Fault} {request : Option Request} {e : Event} (h : fault f request = .ok e)

include h

theorem mem_faultNames {m : Text × Json} (hm : m ∈ e.fields) : m.1 ∈ faultNames :=
  (map_fst_fault h).subset (List.mem_map_of_mem hm)

/-- **The report of a fault is written as it is**: no name of its own is a secret one. -/
theorem maskSecrets_fault : Event.maskSecrets e.fields = e.fields := by
  have hplain : ∀ k ∈ faultNames, k ∉ secretNames := by decide
  exact Event.maskSecrets_eq_self fun m hm => hplain m.1 (mem_faultNames h hm)

/-- The line of a fault shows its report. -/
theorem get?_render_fault {k : Text} {v : Json} (hv : (k, v) ∈ e.fields) (service : Text)
    (bound : Members) : Members.get? k (Event.render service bound e) = some v := by
  have hname : k ∈ faultNames := mem_faultNames h hv
  have hplain : ∀ k ∈ faultNames, k ∉ secretNames := by decide
  have hplaced : ∀ k ∈ faultNames, k ∉ Event.placedNames := by decide
  have hnames : faultNames.Nodup := by decide
  have hfields : (e.fields.map Prod.fst).Nodup := hnames.sublist (map_fst_fault h)
  have hget : Members.get? k e.fields = some v := (Members.get?_eq_some_iff hfields k v).mpr hv
  rw [Event.get?_render hfields (hplaced k hname), hget]
  simp [hplain k hname]

end Fault

end Report

namespace Json

open Redaction

/-! ## 6. What is left -/

/-- **Masking twice is masking once only where nothing long is masked.**  A value is settled by its
first masking exactly if it holds no long text, and every value is by its second.  So the data of a
step is written as it was reported exactly if no long text stands under a secret name in it; where
one does, its line shows the second masking.  The report of a fault is always written as it is. -/
theorem redact_redact_eq_iff (v : Json) :
    (v.redact.redact = v.redact ↔ ¬ HoldsLong v)
      ∧ v.redact.redact.redact = v.redact.redact
      ∧ (∀ logger message ms, Event.maskSecrets (Report.debug logger message ms).fields
          = (Report.debug logger message ms).fields
        ↔ ∀ m ∈ ms, m.1 ∈ secretNames → ¬ HoldsLong m.2)
      ∧ (∀ (ms : Members) k service bound logger message, (ms.map Prod.fst).Nodup →
        k ∉ Event.placedNames → (k, v) ∈ ms →
        Members.get? k (Event.render service bound (Report.debug logger message ms))
          = some (if k ∈ secretNames then v.redact.redact else (scrubMember (k, v)).2))
      ∧ ∀ f request e, Report.fault f request = .ok e →
        Event.maskSecrets e.fields = e.fields
          ∧ ∀ k w service bound, (k, w) ∈ e.fields →
            Members.get? k (Event.render service bound e) = some w := by
  refine ⟨redact_redact_iff v, redact_settled v, Report.maskSecrets_debug_iff, ?_, ?_⟩
  · intro ms k service bound logger message names hk hv
    exact Report.get?_render_debug names hk hv service bound logger message
  · intro f request e h
    refine ⟨Report.maskSecrets_fault h, fun k w service bound hw => ?_⟩
    exact Report.get?_render_fault h hw service bound

/-- Data with a long token. -/
def tokenData : Members := [("token", .text "eyJhbGciOi.payload")]

/-- Of a long token masked once its beginning is left; masked again on the way out, as in the line
of a step, nothing is. -/
theorem redact_redact_token :
    redact (.text "eyJhbGciOi.payload") = .text "eyJh***"
      ∧ redact (redact (.text "eyJhbGciOi.payload")) = .text "***"
      ∧ (Report.debug "auth" "checked" tokenData).fields
          = (Members.single "token" (.text "eyJh***"))
      ∧ Members.get? "token" (Event.render "api" [] (Report.debug "auth" "checked" tokenData))
          = some (.text "***") := by
  decide

end Json

end Portcullis
