/-
# The canonical form of a payload

The standard form of an object is the UTF-8 text of the object without its signature, sorted.
Sorting picks one object for each tree, printing is undone by reading and so is UTF-8, so that the
form is the same for two objects exactly when they are the same tree but for the signature.

**Main statements.**  `canonical_standard_iff`, and `canonical_eq_iff_sameTree`.
-/
import Portcullis.Proofs.Json.RoundTrip
import Portcullis.Signature

namespace Portcullis.Signature

open Json

/-- What can be sorted can be written: writing goes as deep as reading does. -/
theorem sortingDepth_le_maxDepth : sortingDepth ≤ maxDepth := by decide

/-- What has a standard form: the object without its signature is writable as deep as sorting goes,
and the form is the text of it sorted. -/
theorem canonical_standard_iff (ms : Members) (b : Bytes) :
    canonical .standard (.json (.object ms)) = .ok b
      ↔ Writable sortingDepth (.object (Members.erase field ms))
        ∧ (print .unicode (sorted (.object (Members.erase field ms)))).utf8? = some b := by
  have hcanonical : canonical .standard (.json (.object ms))
      = (sortedTree sortingDepth (.object (Members.erase field ms))).bind octets := rfl
  rw [hcanonical, sortedTree]
  cases hnests : (Json.object (Members.erase field ms)).nestsWithin sortingDepth with
  | false =>
    refine iff_of_false ?_ ?_
    · rintro ⟨⟩
    · rintro ⟨hwritable, -⟩
      exact absurd (hnests.symm.trans (writable_iff.mp hwritable).1) Bool.false_ne_true
  | true =>
    refine (octets_eq_ok_iff _ b).trans (and_congr_left fun _ => ?_)
    rw [Writable.sorted_iff]
    constructor
    · intro h
      exact writable_iff.mpr ⟨hnests, (writable_iff.mp h).2⟩
    · intro h
      exact h.mono sortingDepth_le_maxDepth

/-- The standard form of an object is that of every object which is the same tree but for the
signature. -/
theorem canonical_standard_congr {p q : Members} (hp : UniqueNames (.object p))
    (h : SameTree (.object (Members.erase field p)) (.object (Members.erase field q))) {b : Bytes}
    (hb : canonical .standard (.json (.object p)) = .ok b) :
    canonical .standard (.json (.object q)) = .ok b := by
  obtain ⟨hwritable, hprint⟩ := (canonical_standard_iff p b).mp hb
  have hnames := hp.erase field
  refine (canonical_standard_iff q b).mpr ⟨(Writable.congr hnames h).mp hwritable, ?_⟩
  rw [← h.sorted_eq hnames]
  exact hprint

/-- Objects that have one standard form are the same tree but for their signatures. -/
theorem sameTree_of_canonical {p q : Members} {b : Bytes} (hp : UniqueNames (.object p))
    (hq : UniqueNames (.object q)) (hb : canonical .standard (.json (.object p)) = .ok b)
    (hc : canonical .standard (.json (.object q)) = .ok b) :
    SameTree (.object (Members.erase field p)) (.object (Members.erase field q)) := by
  obtain ⟨hpw, hpprint⟩ := (canonical_standard_iff p b).mp hb
  obtain ⟨hqw, hqprint⟩ := (canonical_standard_iff q b).mp hc
  refine sameTree_of_sorted_eq (eq_of_print_eq .unicode
    (Writable.sorted_iff.mpr (hpw.mono sortingDepth_le_maxDepth))
    (Writable.sorted_iff.mpr (hqw.mono sortingDepth_le_maxDepth)) ?_ ?_
    (Text.utf8?_inj hpprint hqprint))
  · exact uniqueNames_sorted_iff.mpr (hp.erase field)
  · exact uniqueNames_sorted_iff.mpr (hq.erase field)

/-- **The standard form tells trees apart, and nothing else.**  Two objects have one form exactly
when they are, without the signature at the top, the same tree in some order of the members. -/
theorem canonical_eq_iff_sameTree {p q : Members} {b c : Bytes} (hp : UniqueNames (.object p))
    (hq : UniqueNames (.object q)) (hb : canonical .standard (.json (.object p)) = .ok b)
    (hc : canonical .standard (.json (.object q)) = .ok c) :
    b = c ↔ SameTree (.object (Members.erase field p)) (.object (Members.erase field q)) := by
  constructor
  · rintro rfl
    exact sameTree_of_canonical hp hq hb hc
  · intro h
    exact Except.ok.inj ((canonical_standard_congr hp h hb).symm.trans hc)

/-- A payload with a nested object that has a signature member of its own. -/
def sampleOrder : Members :=
  [("quantity", .int 1), ("item", .object [("signature", .text "inner"), ("price", .bool true)]),
    ("signature", .text "outer")]

/-- The same payload in another order, without the signature. -/
def sampleReordered : Members :=
  [("item", .object [("price", .bool true), ("signature", .text "inner")]), ("quantity", .int 1)]

theorem sameTree_sampleReordered :
    (∃ b, canonical .standard (.json (.object sampleOrder)) = .ok b
      ∧ canonical .standard (.json (.object sampleReordered)) = .ok b)
    ∧ SameTree (.object (Members.erase field sampleOrder))
        (.object (Members.erase field sampleReordered)) := by
  have hform : canonical .standard (.json (.object sampleOrder)) = .ok (Bytes.ofAscii
      "\x7b\"item\":\x7b\"price\":true,\"signature\":\"inner\"\x7d,\"quantity\":1\x7d") := by rfl
  have hreordered : canonical .standard (.json (.object sampleReordered)) = .ok (Bytes.ofAscii
      "\x7b\"item\":\x7b\"price\":true,\"signature\":\"inner\"\x7d,\"quantity\":1\x7d") := by rfl
  refine ⟨⟨_, hform, hreordered⟩, ?_⟩
  exact (canonical_eq_iff_sameTree (by decide) (by decide) hform hreordered).mp rfl

end Portcullis.Signature
