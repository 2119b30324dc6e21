/-
# Trimmed capitals

No capital form has a capital form other than itself, and none is blank or a surrogate unless the
code point is.  So a trimmed text stays trimmed in capitals, trimming and capitals change nothing in
what they have already made of a text, and a text that has octets has octets in capitals.

**Main statements.**  `upper_upper`, `trimmed_upper` and `whole_upper`.
-/
import Portcullis.Proofs.Text.Casing
import Portcullis.Proofs.Text.Trimming
import Portcullis.Proofs.Text.Utf8

namespace Portcullis

/-! ## 1. Strides -/

/-- Numbers from a first to a last one, at equal distances. -/
structure Stride where
  first : Nat
  last : Nat
  step : Nat

namespace Stride

/-- One number. -/
def single (n : Nat) : Stride := ⟨n, n, 1⟩

/-- A number is in the stride. -/
def Has (s : Stride) (n : Nat) : Prop :=
  s.first ≤ n ∧ n ≤ s.last ∧ (n - s.first) % s.step = 0

/-- Whether all numbers in the stride are even, or all odd. -/
def hasParity (s : Stride) : Bool := Nat.beq s.step 2 || Nat.beq s.first s.last

/-- Whether two strides are told apart by where they end or by their parity. -/
def apart (a b : Stride) : Bool :=
  Nat.blt a.last b.first || Nat.blt b.last a.first
    || (a.hasParity && b.hasParity && Nat.beq ((a.first + b.first) % 2) 1)

theorem has_single (n : Nat) : (single n).Has n := ⟨Nat.le_refl n, Nat.le_refl n, Nat.mod_one _⟩

theorem Has.parity {s : Stride} (h : s.hasParity = true) {n : Nat} (hn : s.Has n) :
    n % 2 = s.first % 2 := by
  obtain ⟨hfirst, hlast, hstep⟩ := hn
  rcases Bool.or_eq_true_iff.mp h with h | h
  · rw [Nat.eq_of_beq_eq_true h] at hstep
    omega
  · have heq := Nat.eq_of_beq_eq_true h
    omega

/-- Strides that are told apart have no number in common. -/
theorem not_has_of_apart {a b : Stride} (h : a.apart b = true) {n : Nat} (ha : a.Has n) :
    ¬ b.Has n := by
  intro hb
  obtain ⟨hafirst, halast, -⟩ := id ha
  obtain ⟨hbfirst, hblast, -⟩ := id hb
  simp only [apart, Bool.or_eq_true, Bool.and_eq_true] at h
  rcases h with (h | h) | ⟨⟨hpa, hpb⟩, h⟩
  · have hlt := Nat.le_of_ble_eq_true h
    omega
  · have hlt := Nat.le_of_ble_eq_true h
    omega
  · have hodd := Nat.eq_of_beq_eq_true h
    have hna := ha.parity hpa
    have hnb := hb.parity hpb
    omega

end Stride

/-! ## 2. Capitals -/

namespace Text

/-- What a run gives a capital. -/
def CaseRun.domain (r : CaseRun) : Stride := ⟨r.first, r.last, r.step⟩

/-- The capitals that a run gives. -/
def CaseRun.image (r : CaseRun) : Stride :=
  ⟨(r.first + r.shift).toNat, (r.last + r.shift).toNat, r.step⟩

/-- What has a capital that is not itself, and what is blank. -/
def noCapitals : List Stride :=
  upperRuns.map CaseRun.domain ++ blanks.map Stride.single
    ++ upperExpansions.map fun p => Stride.single p.1

/-- What the tables give for a capital. -/
def capitals : List Stride :=
  upperRuns.map CaseRun.image ++ upperExpansions.flatMap fun p => p.2.map Stride.single

/-- The tables give nothing for a capital that has another one or is blank. -/
theorem capitals_apart : (capitals.all fun a => noCapitals.all a.apart) = true := by
  decide +kernel

theorem capitals_lt : ∀ a ∈ capitals, a.last < 0x110000 := by decide +kernel

theorem upperRuns_nonneg : ∀ r ∈ upperRuns, 0 ≤ r.first + r.shift := by decide +kernel

theorem upperExpansions_ne_nil : ∀ p ∈ upperExpansions, p.2 ≠ [] := by decide +kernel

/-- The number is that of a code point that is not blank and has no capital but itself. -/
structure IsCapital (n : Nat) : Prop where
  lt : n < 0x110000
  visible : n ∉ blanks
  fixed : mapCase upperRuns upperExpansions n = [n]

theorem isCapital_of_has {a : Stride} (ha : a ∈ capitals) {n : Nat} (hn : a.Has n) :
    IsCapital n := by
  have hnot : ∀ b ∈ noCapitals, ¬ b.Has n := fun b hb => Stride.not_has_of_apart
    (List.all_eq_true.mp (List.all_eq_true.mp capitals_apart a ha) b hb) hn
  refine ⟨Nat.lt_of_le_of_lt hn.2.1 (capitals_lt a ha), fun hblank => ?_, ?_⟩
  · refine hnot (.single n) ?_ (Stride.has_single n)
    exact List.mem_append_left _ (List.mem_append_right _ (List.mem_map_of_mem hblank))
  -- Whatever were found for it would be the domain of a run or of an expansion.
  · have hshift : findShift n upperRuns = none := by
      rw [Option.eq_none_iff_forall_ne_some]
      intro shift hshift
      obtain ⟨r, hr, hfirst, hlast, hstep, -⟩ := findShift_eq_some hshift
      refine hnot r.domain ?_ ⟨hfirst, hlast, hstep⟩
      exact List.mem_append_left _ (List.mem_append_left _ (List.mem_map_of_mem hr))
    have himage : upperExpansions.lookup n = none := by
      rw [Option.eq_none_iff_forall_ne_some]
      intro image himage
      obtain ⟨before, after, hsplit, -⟩ := List.lookup_eq_some_iff.mp himage
      refine hnot (.single n) ?_ (Stride.has_single n)
      refine List.mem_append_right _ (List.mem_map.mpr ⟨(n, image), ?_, rfl⟩)
      rw [hsplit]
      exact List.mem_append_right before List.mem_cons_self
    rw [mapCase, hshift, himage]

/-- What the tables give for a code point is in the strides of the capitals, unless they leave it as
it is. -/
theorem mapCase_upper_has (c : Nat) :
    mapCase upperRuns upperExpansions c = [c]
      ∨ (mapCase upperRuns upperExpansions c ≠ []
        ∧ ∀ n ∈ mapCase upperRuns upperExpansions c, ∃ a ∈ capitals, a.Has n) := by
  rw [mapCase]
  cases hshift : findShift c upperRuns with
  | some shift =>
    obtain ⟨r, hr, hfirst, hlast, hstep, rfl⟩ := findShift_eq_some hshift
    have hnonneg := upperRuns_nonneg r hr
    refine Or.inr ⟨List.cons_ne_nil _ _, fun n hn => ?_⟩
    rw [List.mem_singleton] at hn
    refine ⟨r.image, List.mem_append_left _ (List.mem_map_of_mem hr), ?_, ?_, ?_⟩
    · simp only [CaseRun.image]
      omega
    · simp only [CaseRun.image]
      omega
    -- Shifting keeps the distance from the first number, so it keeps the step.
    · have hdistance : n - (r.first + r.shift).toNat = c - r.first := by omega
      simp only [CaseRun.image, hdistance, hstep]
  | none =>
    cases himage : upperExpansions.lookup c with
    | some image =>
      obtain ⟨before, after, hsplit, -⟩ := List.lookup_eq_some_iff.mp himage
      have hmem : (c, image) ∈ upperExpansions := by
        rw [hsplit]
        exact List.mem_append_right before List.mem_cons_self
      refine Or.inr ⟨upperExpansions_ne_nil _ hmem, fun n hn => ?_⟩
      refine ⟨.single n, ?_, Stride.has_single n⟩
      exact List.mem_append_right _
        (List.mem_flatMap.mpr ⟨_, hmem, List.mem_map_of_mem hn⟩)
    | none => exact Or.inl rfl

/-- What the tables give for a code point are capitals, unless they leave it as it is. -/
theorem mapCase_upper (c : Nat) :
    mapCase upperRuns upperExpansions c = [c]
      ∨ (mapCase upperRuns upperExpansions c ≠ []
        ∧ ∀ n ∈ mapCase upperRuns upperExpansions c, IsCapital n) := by
  refine (mapCase_upper_has c).imp_right fun ⟨hne, hhas⟩ => ⟨hne, fun n hn => ?_⟩
  obtain ⟨a, ha, hin⟩ := hhas n hn
  exact isCapital_of_has ha hin

/-- No capital is a surrogate. -/
theorem capitals_whole : ∀ a ∈ capitals, a.last < 0xD800 ∨ 0xDFFF < a.first := by decide +kernel

end Text

/-- The capital form of a code point has no capital form but itself, and is blank only if the code
point is. -/
theorem CodePoint.upper_settled (c : CodePoint) :
    c.upper ≠ [] ∧ ∀ d ∈ c.upper, d.upper = [d] ∧ (c.isBlank = false → d.isBlank = false) := by
  rw [upper]
  rcases Text.mapCase_upper c.val with hself | ⟨hne, hcapitals⟩
  · have hfixed : (Text.mapCase Text.upperRuns Text.upperExpansions c.val).map ofNat = [c] := by
      rw [hself, List.map_singleton, ofNat_val]
    rw [hfixed]
    refine ⟨List.cons_ne_nil _ _, fun d hd => ?_⟩
    obtain rfl := List.mem_singleton.mp hd
    exact ⟨hfixed, id⟩
  · refine ⟨mt List.map_eq_nil_iff.mp hne, fun d hd => ?_⟩
    obtain ⟨n, hn, rfl⟩ := List.mem_map.mp hd
    obtain ⟨hlt, hvisible, hfixed⟩ := hcapitals n hn
    refine ⟨?_, fun _ => ?_⟩
    · rw [upper, val_ofNat hlt, hfixed, List.map_singleton]
    · rw [isBlank, val_ofNat hlt, Bool.eq_false_iff, Ne, List.contains_iff_mem]
      exact hvisible

/-- The capital form of a code point that is no surrogate holds none. -/
theorem CodePoint.isSurrogate_upper {c : CodePoint} (h : c.isSurrogate = false) :
    ∀ d ∈ c.upper, d.isSurrogate = false := by
  intro d hd
  rw [upper] at hd
  rcases Text.mapCase_upper_has c.val with hself | ⟨-, hhas⟩
  · rw [hself, List.map_singleton, ofNat_val] at hd
    obtain rfl := List.mem_singleton.mp hd
    exact h
  · obtain ⟨n, hn, rfl⟩ := List.mem_map.mp hd
    obtain ⟨a, ha, hfirst, hlast, -⟩ := hhas n hn
    have hlt := Text.capitals_lt a ha
    have hwhole := Text.capitals_whole a ha
    rw [isSurrogate, val_ofNat (by omega), Bool.and_eq_false_iff, decide_eq_false_iff_not,
      decide_eq_false_iff_not]
    omega

/-! ## 3. Texts in capitals -/

namespace Text

/-- **Capitals are their own capital form.** -/
theorem upper_upper (t : Text) : upper (upper t) = upper t := by
  have hcapitals : ∀ u : Text, (∀ d ∈ u, d.upper = [d]) → upper u = u := by
    intro u
    induction u with
    | nil => exact fun _ => rfl
    | cons d u ih =>
      intro h
      obtain ⟨hd, hu⟩ := List.forall_mem_cons.mp h
      have hrest : u.flatMap CodePoint.upper = u := ih hu
      rw [upper, List.flatMap_cons, hd, hrest]
      rfl
  refine hcapitals _ fun d hd => ?_
  obtain ⟨c, -, hd⟩ := List.mem_flatMap.mp hd
  exact (c.upper_settled.2 d hd).1

/-- **A trimmed text stays trimmed in capitals.** -/
theorem trimmed_upper {t : Text} (h : Trimmed t) : Trimmed (upper t) := by
  constructor
  · intro d hd
    cases t with
    | nil => cases hd
    | cons c t =>
      obtain ⟨hne, hsettled⟩ := c.upper_settled
      rw [upper, List.flatMap_cons, List.head?_append_of_ne_nil _ hne] at hd
      exact (hsettled d (List.mem_of_mem_head? hd)).2 (h.head c rfl)
  · intro d hd
    rcases List.eq_nil_or_concat t with rfl | ⟨before, c, rfl⟩
    · cases hd
    · obtain ⟨hne, hsettled⟩ := c.upper_settled
      rw [upper, List.concat_eq_append, List.flatMap_append, List.flatMap_singleton,
        List.getLast?_append_of_ne_nil _ hne] at hd
      refine (hsettled d (List.mem_of_getLast? hd)).2 (h.last c ?_)
      rw [List.concat_eq_append, List.getLast?_concat]

/-- Capitals of a text that has octets have octets. -/
theorem whole_upper {t : Text} (h : t.Whole) : (upper t).Whole := by
  intro d hd
  obtain ⟨c, hc, hd⟩ := List.mem_flatMap.mp hd
  exact CodePoint.isSurrogate_upper (h c hc) d hd

/-- A text with something in it that is not blank has that in capitals too. -/
theorem isBlank_upper {t : Text} (h : t.isBlank = false) : (upper t).isBlank = false := by
  obtain ⟨c, hc, hblank⟩ := exists_of_isBlank h
  obtain ⟨hne, hsettled⟩ := c.upper_settled
  obtain ⟨d, hd⟩ := List.exists_mem_of_ne_nil _ hne
  exact isBlank_of_mem (List.mem_flatMap.mpr ⟨c, hc, hd⟩) ((hsettled d hd).2 hblank)

/-- **Trimmed capitals are trimmed capitals of themselves.** -/
theorem strip_upper_strip (t : Text) : upper (strip (upper (strip t))) = upper (strip t) := by
  rw [strip_of_trimmed (trimmed_upper (trimmed_strip t)), upper_upper]

end Text

end Portcullis
