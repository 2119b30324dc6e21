/-
# What an accepted form holds

A form is read leniently, but what comes out of it is strict: under each field of the schema there
is a value of the kind that the field holds (`Holds`), be it submitted or a default, and reading
such a value once more leaves it as it is.  The schemas of the service have no default that would
not be accepted itself (`Field.Sound`).

**Main statements.**  `Schema.holds_of_read`, `Schema.filled_of_readFields` and
`Minting.submitted_of_form`.
-/
import Portcullis.Form
import Portcullis.Minting
import Portcullis.Proofs.Results
import Portcullis.Proofs.Text.Utf8

namespace Portcullis

namespace Schema

/-! ## 1. Values of a kind -/

/-- A value that a field holds once it has been read. -/
inductive Holds : Content → Json → Prop
  | text (t : Text) : Holds .text (.text t)
  | boundedText {least most : Nat} {t : Text} (whole : t.Whole) (least_le : least ≤ t.length)
      (le_most : t.length ≤ most) : Holds (.boundedText least most) (.text t)
  | noText : Holds .optionalText .null
  | optionalText (t : Text) : Holds .optionalText (.text t)
  | noBoundedText {most : Nat} : Holds (.optionalBoundedText most) .null
  | optionalBoundedText {most : Nat} {t : Text} (whole : t.Whole) (le_most : t.length ≤ most) :
      Holds (.optionalBoundedText most) (.text t)
  | integer (i : Int) : Holds .integer (.int i)
  | boundedInteger {least most i : Int} (least_le : least ≤ i) (le_most : i ≤ most) :
      Holds (.boundedInteger least most) (.int i)
  | switch (b : Bool) : Holds .switch (.bool b)
  | choice {names : List Text} {t : Text} (mem : t ∈ names) : Holds (.choice names) (.text t)
  | object (ms : Members) : Holds .object (.object ms)

theorem readBounded_ok_iff {least most : Nat} {t : Text} {w : Json} :
    readBounded least most t = .ok w
      ↔ t.Whole ∧ least ≤ t.length ∧ t.length ≤ most ∧ w = .text t := by
  rw [readBounded]
  cases hlone : t.any CodePoint.isSurrogate with
  | true =>
    have hno : ¬ t.Whole := by
      rw [← Text.any_isSurrogate_iff, hlone]
      decide
    simp [hno]
  | false =>
    have hwhole : t.Whole := (Text.any_isSurrogate_iff t).mp hlone
    rw [if_neg Bool.false_ne_true]
    split
    · next hshort => exact iff_of_false nofun fun h => absurd h.2.1 (by omega)
    split
    · next hlong => exact iff_of_false nofun fun h => absurd h.2.2.1 (by omega)
    · next hshort hlong =>
      have hleast : least ≤ t.length := by omega
      have hmost : t.length ≤ most := by omega
      simp [hwhole, hleast, hmost, eq_comm]

/-- **What is read is held.** -/
theorem holds_of_read {content : Content} {v w : Json} (h : content.read v = .ok w) :
    Holds content w := by
  unfold Content.read at h
  split at h
  · obtain rfl := Except.ok.inj h
    exact .text _
  · obtain ⟨hwhole, hleast, hmost, rfl⟩ := readBounded_ok_iff.mp h
    exact .boundedText hwhole hleast hmost
  · obtain rfl := Except.ok.inj h
    exact .noText
  · obtain rfl := Except.ok.inj h
    exact .optionalText _
  · obtain rfl := Except.ok.inj h
    exact .noBoundedText
  · obtain ⟨hwhole, -, hmost, rfl⟩ := readBounded_ok_iff.mp h
    exact .optionalBoundedText hwhole hmost
  · cases h
  · cases h
  · cases h
  · cases h
  · obtain ⟨i, -, rfl⟩ := map_eq_ok h
    exact .integer i
  · obtain ⟨i, -, h⟩ := bind_eq_ok h
    split at h
    · cases h
    split at h
    · cases h
    · obtain rfl := Except.ok.inj h
      exact .boundedInteger (by omega) (by omega)
  · obtain ⟨b, -, rfl⟩ := map_eq_ok h
    exact .switch b
  · split at h
    · next hmem =>
      obtain rfl := Except.ok.inj h
      exact .choice (List.contains_iff_mem.mp hmem)
    · cases h
  · cases h
  · obtain rfl := Except.ok.inj h
    exact .object _
  · cases h

/-- **What is held is read as it is.** -/
theorem read_of_holds {content : Content} {w : Json} (h : Holds content w) :
    content.read w = .ok w := by
  cases h with
  | boundedText whole least_le le_most =>
    exact readBounded_ok_iff.mpr ⟨whole, least_le, le_most, rfl⟩
  | optionalBoundedText whole le_most =>
    exact readBounded_ok_iff.mpr ⟨whole, Nat.zero_le _, le_most, rfl⟩
  | boundedInteger least_le le_most =>
    simp only [Content.read, readInteger, ok_bind, Int.not_lt.mpr least_le, Int.not_lt.mpr le_most,
      if_false]
    rfl
  | choice mem => simp [Content.read, mem]
  | _ => rfl

/-! ## 2. Values of the fields -/

/-- The default of a field is a value that the field holds. -/
def Field.Sound (field : Field) : Prop :=
  ∀ value, field.default = some value → Holds field.content value

/-- Under each field there is a value that it holds. -/
abbrev Filled (fields : List Field) (values : Members) : Prop :=
  List.Forall₂ (fun field value => value.1 = field.name ∧ Holds field.content value.2) fields values

theorem Field.holds_of_read {field : Field} (hsound : field.Sound) {ms : Members} {value : Json}
    (h : field.read ms = .ok value) : Holds field.content value := by
  rw [Field.read] at h
  split at h
  · split at h
    · next hread =>
      obtain rfl := Except.ok.inj h
      exact Schema.holds_of_read hread
    · cases h
  · split at h
    · next hdefault =>
      obtain rfl := Except.ok.inj h
      exact hsound _ hdefault
    · cases h

/-- **The values that are read** are values that their fields hold. -/
theorem filled_of_readFields {ms : Members} {fields : List Field}
    (hsound : ∀ field ∈ fields, field.Sound) {values : Members}
    (h : readFields ms fields = .ok values) : Filled fields values := by
  induction fields generalizing values with
  | nil =>
    obtain rfl := Except.ok.inj h
    exact .nil
  | cons field rest ih =>
    obtain ⟨hfield, hrest⟩ := List.forall_mem_cons.mp hsound
    rw [readFields] at h
    split at h
    · next hvalue hvalues =>
      obtain rfl := Except.ok.inj h
      exact .cons ⟨rfl, Field.holds_of_read hfield hvalue⟩ (ih hrest hvalues)
    · cases h
    · cases h
    · cases h

/-- The value under the name of a field is one that the field holds. -/
theorem Filled.holds_getD {fields : List Field} {values : Members} (h : Filled fields values)
    (hnames : (fields.map Field.name).Nodup) {field : Field} (hmem : field ∈ fields) :
    Holds field.content (values.getD field.name) := by
  induction h with
  | nil => cases hmem
  | @cons first value rest values hfirst hrest ih =>
    obtain ⟨hnot, hnames⟩ := List.nodup_cons.mp hnames
    obtain ⟨hname, hholds⟩ := hfirst
    rcases List.mem_cons.mp hmem with rfl | hmem
    · simpa [Members.getD, Members.get?, ← hname] using hholds
    · have hother : value.1 ≠ field.name := by
        intro heq
        exact hnot (hname ▸ heq ▸ List.mem_map_of_mem hmem)
      have hskip : Members.getD (value :: values) field.name = Members.getD values field.name := by
        simp [Members.getD, Members.get?, hother]
      rw [hskip]
      exact ih hnames hmem

end Schema

/-! ## 3. Forms -/

/-- The fields of an accepted form are read from an object in the body. -/
theorem Form.read_ok {schema : Schema} {r : Request} {fields : Members}
    (h : Form.read schema r = .ok (.ok fields)) : ∃ ms, schema.read ms = .ok fields := by
  obtain ⟨body, -, h⟩ := bind_eq_ok h
  split at h
  · cases h
  have hvalue := Except.ok.inj h
  unfold readValue at hvalue
  split at hvalue
  · cases hvalue
  · split at hvalue
    · next ms values hread =>
      obtain rfl := Except.ok.inj hvalue
      exact ⟨_, hread⟩
    · cases hvalue
  · cases hvalue

namespace Minting

open Schema

theorem sound_accessForm : ∀ field ∈ accessForm.fields, field.Sound := by
  simp only [accessForm, List.forall_mem_cons, List.not_mem_nil, false_implies, implies_true,
    and_true]
  refine ⟨nofun, ?_, ?_, ?_⟩
  · rintro _ ⟨⟩
    exact .choice List.mem_cons_self
  · rintro _ ⟨⟩
    exact .object []
  · rintro _ ⟨⟩
    exact .boundedInteger (by decide) (by decide)

theorem sound_verificationForm : ∀ field ∈ verificationForm.fields, field.Sound := by
  simp only [verificationForm, List.forall_mem_cons, List.not_mem_nil, false_implies, implies_true,
    and_true]
  refine ⟨nofun, ?_, ?_, ?_⟩
  · rintro _ ⟨⟩
    exact .noBoundedText
  · rintro _ ⟨⟩
    exact .switch true
  · rintro _ ⟨⟩
    exact .boundedInteger (by decide) (by decide)

/-- An order as a form makes it: for an action and a lifetime of so many seconds, whose texts can be
written, and with nothing but the code and the subject left to choose. -/
structure Submitted (order : Verification.Order) (name : Text) (span : Nat) : Prop where
  action : order.action = .text name
  whole : name.Whole
  subject : ∀ s, order.subject = some s → s.Whole
  length : order.length = .int 6
  lifetime : order.lifetime = .int span
  least_le : 30 ≤ span
  le_most : span ≤ 3600
  issuer : order.issuer = none
  audience : order.audience = none

/-- **An accepted form makes an order.** -/
theorem submitted_of_form {r : Request} {fields : Members}
    (h : Form.read verificationForm r = .ok (.ok fields)) :
    ∃ name span, Submitted (orderOf fields) name span := by
  obtain ⟨ms, hread⟩ := Form.read_ok h
  have hfilled : Filled verificationForm.fields fields :=
    filled_of_readFields sound_verificationForm hread
  have hholds : ∀ field ∈ verificationForm.fields, Holds field.content (fields.getD field.name) :=
    fun field hmem => hfilled.holds_getD (by decide) hmem
  simp only [verificationForm, List.forall_mem_cons] at hholds
  obtain ⟨haction, hsubject, -, hspan, -⟩ := hholds
  generalize hname : fields.getD "action" = action at haction
  generalize hbound : fields.getD "subject" = subject at hsubject
  generalize hseconds : fields.getD "ttl_seconds" = seconds at hspan
  cases haction with
  | @boundedText _ _ name whole _ _ =>
  cases hspan with
  | @boundedInteger _ _ i least_le le_most =>
  obtain ⟨span, rfl⟩ := Int.eq_ofNat_of_zero_le (show 0 ≤ i by omega)
  refine ⟨name, span, hname, whole, ?_, rfl, hseconds, by omega, by omega, rfl, rfl⟩
  intro s hs
  rw [orderOf, hbound] at hs
  cases hsubject with
  | noBoundedText => cases hs
  | optionalBoundedText whole _ =>
    obtain rfl := Option.some.inj hs
    exact whole

end Minting

end Portcullis
