/-
# Capitals of Latin text

Latin text is made of the first 256 code points, which is what octets can stand for.  Outside ASCII
only one of these has capitals in ASCII: the sharp `s`, and they are two.  So where Latin text is
ASCII in capitals, it is left open of which case its letters are, and which two letters `s` next to
each other are a sharp one.

**Main statements.**  `upper_eq_iff_of_latin` and `folded_eq_append_iff`.
-/
import Portcullis.Proofs.Text.Casing

namespace Portcullis

/-! ## 1. One code point -/

namespace CodePoint

/-- One of the first 256 code points. -/
def IsLatin (c : CodePoint) : Prop := c.val < 0x100

/-- The sharp `s`, which is no capital and has none of its own. -/
def sharpS : CodePoint := ofNat 0xDF

/-- The small letter `s`. -/
def smallS : CodePoint := ofNat 0x73

/-- A code point in small letters of ASCII; the sharp `s` is two of them. -/
def folded (c : CodePoint) : Text := if c = sharpS then [smallS, smallS] else [c.asciiLower]

/-- The small letters of a code point of ASCII, or of the sharp `s`, are ASCII and have the same
capitals; those of any other code point are not ASCII. -/
theorem folded_latin {c : CodePoint} (h : c.IsLatin) :
    (c.upper.asciiLower = c.folded ∧ c.folded.upper = c.upper)
      ∨ c.upper.isAscii = false ∧ c.folded.isAscii = false := by
  have hall : ∀ n < 0x100, ((ofNat n).upper.asciiLower = (ofNat n).folded
        ∧ (ofNat n).folded.upper = (ofNat n).upper)
      ∨ (ofNat n).upper.isAscii = false ∧ (ofNat n).folded.isAscii = false := by
    decide +kernel
  have hc := hall c.val h
  rwa [ofNat_val] at hc

end CodePoint

/-! ## 2. Texts -/

namespace Text

/-- Every code point is Latin. -/
def IsLatin (t : Text) : Prop := ∀ c ∈ t, c.IsLatin

instance (t : Text) : Decidable t.IsLatin :=
  inferInstanceAs (Decidable (∀ c ∈ t, c.val < 0x100))

/-- A text in small letters of ASCII; a sharp `s` is two of them. -/
def folded (t : Text) : Text := t.flatMap CodePoint.folded

theorem isAscii_append (t u : Text) : isAscii (t ++ u) = (t.isAscii && u.isAscii) :=
  List.all_append

theorem asciiLower_append (t u : Text) : asciiLower (t ++ u) = t.asciiLower ++ u.asciiLower :=
  List.map_append

theorem upper_append (t u : Text) : upper (t ++ u) = t.upper ++ u.upper :=
  List.flatMap_append

/-- Where the capitals of Latin text, or its small letters, are ASCII, both say the same. -/
theorem folded_of_isAscii {t : Text} (ht : t.IsLatin)
    (h : t.upper.isAscii = true ∨ t.folded.isAscii = true) :
    t.upper.asciiLower = t.folded ∧ t.folded.upper = t.upper := by
  induction t with
  | nil => exact ⟨rfl, rfl⟩
  | cons c rest ih =>
    obtain ⟨hc, hrest⟩ := List.forall_mem_cons.mp ht
    have hupper : upper (c :: rest) = c.upper ++ upper rest := rfl
    have hfolded : folded (c :: rest) = c.folded ++ folded rest := rfl
    rw [hupper, hfolded, isAscii_append, isAscii_append, Bool.and_eq_true, Bool.and_eq_true] at h
    rcases CodePoint.folded_latin hc with ⟨hsmall, hcapital⟩ | ⟨hno, hno'⟩
    · obtain ⟨hsmalls, hcapitals⟩ := ih hrest (h.imp And.right And.right)
      rw [hupper, hfolded, asciiLower_append, upper_append, hsmall, hsmalls, hcapital, hcapitals]
      exact ⟨rfl, rfl⟩
    · rcases h with ⟨hascii, -⟩ | ⟨hascii, -⟩
      · cases hno.symm.trans hascii
      · cases hno'.symm.trans hascii

/-- **Latin text is an ASCII text in capitals** if it is that text in small letters, a sharp `s`
counting as two. -/
theorem upper_eq_iff_of_latin {t u : Text} (ht : t.IsLatin) (hu : u.isAscii = true)
    (hcapitals : u.asciiLower.upper = u) : t.upper = u ↔ t.folded = u.asciiLower := by
  constructor
  · rintro rfl
    exact (folded_of_isAscii ht (Or.inl hu)).1.symm
  · intro h
    have hfolded : t.folded.isAscii = true := by rw [h, isAscii_asciiLower, hu]
    rw [← (folded_of_isAscii ht (Or.inr hfolded)).2, h, hcapitals]

/-! ## 3. The sharp `s` -/

theorem folded_append (t u : Text) : folded (t ++ u) = t.folded ++ u.folded :=
  List.flatMap_append

/-- Without a sharp `s` nothing but the case of letters changes. -/
theorem folded_of_notMem {t : Text} (h : CodePoint.sharpS ∉ t) : t.folded = t.asciiLower := by
  induction t with
  | nil => rfl
  | cons c rest ih =>
    obtain ⟨hc, hrest⟩ := List.ne_and_not_mem_of_not_mem_cons h
    have hfolded : c.folded = [c.asciiLower] := if_neg hc.symm
    rw [folded, List.flatMap_cons, hfolded]
    exact congrArg (c.asciiLower :: ·) (ih hrest)

/-- A sharp `s` stays what it is where only ASCII letters change. -/
theorem sharpS_notMem {t : Text} (h : t.asciiLower.isAscii = true) : CodePoint.sharpS ∉ t := by
  intro hmem
  rw [isAscii_asciiLower] at h
  cases (List.all_eq_true.mp h CodePoint.sharpS hmem).symm.trans
    (show CodePoint.sharpS.isAscii = false by decide)

/-- A code point is at least one small letter. -/
theorem folded_eq_nil_iff {t : Text} : t.folded = [] ↔ t = [] := by
  rw [folded, List.flatMap_eq_nil_iff, List.eq_nil_iff_forall_not_mem]
  refine forall₂_congr fun c _ => iff_false_intro ?_
  rw [CodePoint.folded]
  split <;> simp

/-- No two letters `s` are next to each other. -/
def NoDoubleS (t : Text) : Prop := ¬ [CodePoint.smallS, CodePoint.smallS] <:+: t

instance (t : Text) : Decidable t.NoDoubleS := inferInstanceAs (Decidable (¬ _))

/-- Two letters `s` next to each other are at the end of a text that has no others. -/
theorem NoDoubleS.unique {w before after : Text} (hw : NoDoubleS (w ++ [CodePoint.smallS]))
    (h : before ++ [CodePoint.smallS, CodePoint.smallS] ++ after
      = w ++ [CodePoint.smallS, CodePoint.smallS]) : after = [] ∧ before = w := by
  rcases List.eq_nil_or_concat after with rfl | ⟨others, last, rfl⟩
  · rw [List.append_nil] at h
    exact ⟨rfl, List.append_cancel_right h⟩
  · rw [List.concat_eq_append, ← List.append_assoc, List.append_cons w] at h
    obtain ⟨hinit, -⟩ := List.append_inj' h rfl
    exact absurd ⟨before, others, hinit⟩ hw

/-- **A text whose small letters end in two `s`**, the only ones next to each other, has these
letters in some case, or a sharp `s` at its end. -/
theorem folded_eq_append_iff {t w : Text} (hascii : w.isAscii = true)
    (hw : NoDoubleS (w ++ [CodePoint.smallS])) :
    t.folded = w ++ [CodePoint.smallS, CodePoint.smallS]
      ↔ t.asciiLower = w ++ [CodePoint.smallS, CodePoint.smallS]
        ∨ ∃ s, t = s ++ [CodePoint.sharpS] ∧ s.asciiLower = w := by
  constructor
  · intro h
    by_cases hmem : CodePoint.sharpS ∈ t
    · obtain ⟨s, after, rfl⟩ := List.append_of_mem hmem
      rw [List.append_cons, folded_append, folded_append] at h
      obtain ⟨hafter, hs⟩ := hw.unique h
      -- A second sharp `s`, before this one, would be two more letters in `w`.
      have hsharp : CodePoint.sharpS ∉ s := by
        intro hsharp
        obtain ⟨first, second, rfl⟩ := List.append_of_mem hsharp
        rw [List.append_cons, folded_append, folded_append] at hs
        refine hw ⟨folded first, folded second ++ [CodePoint.smallS], ?_⟩
        rw [← hs, ← List.append_assoc]
        rfl
      refine Or.inr ⟨s, ?_, ?_⟩
      · rw [folded_eq_nil_iff.mp hafter]
      · rw [← folded_of_notMem hsharp, hs]
    · rw [folded_of_notMem hmem] at h
      exact Or.inl h
  · rintro (h | ⟨s, rfl, rfl⟩)
    · have hall : t.asciiLower.isAscii = true := by
        rw [h, isAscii_append, hascii]
        rfl
      rw [folded_of_notMem (sharpS_notMem hall), h]
    · rw [folded_append, folded_of_notMem (sharpS_notMem hascii)]
      rfl

end Text

end Portcullis
