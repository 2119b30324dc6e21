/-
# Numbers in text

A numeral is spelled by its parts (`Numeral.spelled`): a sign, digits, a point with digits behind
it, and a power of ten.  Reading a spelled numeral yields its parts.

**Main statements.**  `readNumeral?_spelled`, and `wordToken_spelled` for the token of the word.
-/
import Mathlib.Data.List.TakeDrop
import Portcullis.Json.Token
import Portcullis.Proofs.Text.Digits

namespace Portcullis.Json

open Text

/-! ## 1. Spelling -/

/-- The minus sign. -/
def minus : CodePoint := CodePoint.ofChar '-'

/-- The decimal point. -/
def point : CodePoint := CodePoint.ofChar '.'

/-- The text of a power of ten, which has two digits at least. -/
def exponentText : Option Int → Text
  | none => []
  | some e =>
    CodePoint.ofChar 'e' :: (if e < 0 then minus else CodePoint.ofChar '+')
      :: ofDigitValues (List.replicate (2 - (digitsOf e.natAbs).length) 0 ++ digitsOf e.natAbs)

namespace Numeral

/-- The text of a numeral. -/
def spelled (n : Numeral) : Text :=
  (if n.negative then [minus] else [])
    ++ (ofDigitValues n.whole
      ++ ((if n.fraction = [] then [] else point :: ofDigitValues n.fraction)
        ++ exponentText n.exponent))

/-- The parts of a numeral fit: there are digits before the point, and they begin with a zero only
when it is alone. -/
structure WellFormed (n : Numeral) : Prop where
  whole_ne_nil : n.whole ≠ []
  lead : n.whole.length = 1 ∨ n.whole.head? ≠ some 0
  whole_lt : ∀ d ∈ n.whole, d < 10
  fraction_lt : ∀ d ∈ n.fraction, d < 10

end Numeral

/-! ## 2. Reading what is spelled -/

/-- No digit begins the text. -/
def NoDigitAhead (t : Text) : Prop := ∀ c ∈ t.head?, c.isAsciiDigit = false

theorem noDigitAhead_cons {c : CodePoint} (h : c.isAsciiDigit = false) (t : Text) :
    NoDigitAhead (c :: t) := by
  intro d hd
  rw [List.head?_cons, Option.mem_some_iff] at hd
  rw [← hd]
  exact h

theorem noDigitAhead_nil : NoDigitAhead [] := fun _ h => absurd h (by simp)

theorem noDigitAhead_exponentText (e : Option Int) : NoDigitAhead (exponentText e) := by
  cases e with
  | none => exact noDigitAhead_nil
  | some e => exact noDigitAhead_cons (by decide) _

/-- Digits are taken up to the first sign that is none. -/
theorem takeDigits_append {ds : List Nat} (hds : ∀ d ∈ ds, d < 10) {rest : Text}
    (hrest : NoDigitAhead rest) : takeDigits (ofDigitValues ds ++ rest) = (ds, rest) := by
  have hall : ∀ c ∈ ofDigitValues ds, c.isAsciiDigit = true := isAsciiDigit_of_mem hds
  have hnone : rest.takeWhile CodePoint.isAsciiDigit = [] := by
    cases rest with
    | nil => rfl
    | cons c rest => rw [List.takeWhile_cons, hrest c rfl]; rfl
  have hrest' : rest.dropWhile CodePoint.isAsciiDigit = rest := by
    cases rest with
    | nil => rfl
    | cons c rest => rw [List.dropWhile_cons, hrest c rfl]; rfl
  rw [takeDigits, List.span_eq_takeWhile_dropWhile]
  simp only [List.takeWhile_append_of_pos hall, List.dropWhile_append_of_pos hall, hnone, hrest',
    List.append_nil, values_ofDigitValues hds]

theorem dropStart?_singleton (c s : CodePoint) (rest : Text) :
    Text.dropStart? (c :: rest) [s] = if c = s then some rest else none := by
  rw [Text.dropStart?, Text.dropStart?]

theorem dropStart?_minus (body : Text) : Text.dropStart? (minus :: body) "-" = some body := by
  have hminus : ("-" : Text) = [minus] := by decide
  rw [hminus, dropStart?_singleton, if_pos rfl]

/-- A text that begins with digits does not begin with a minus sign. -/
theorem dropStart?_digits {ds : List Nat} (hne : ds ≠ []) (hds : ∀ d ∈ ds, d < 10) (rest : Text) :
    Text.dropStart? (ofDigitValues ds ++ rest) "-" = none := by
  cases ds with
  | nil => exact absurd rfl hne
  | cons d ds =>
    have hd : CodePoint.ofNat (0x30 + d) ≠ minus := by
      intro h
      have hval := congrArg CodePoint.val h
      rw [val_digit (hds d List.mem_cons_self)] at hval
      have hminus : minus.val = 0x2D := by decide
      omega
    have hminus : ("-" : Text) = [minus] := by decide
    rw [hminus, ofDigitValues, List.map_cons, List.cons_append, dropStart?_singleton, if_neg hd]

theorem exponentDigits_lt (n : Nat) :
    ∀ d ∈ List.replicate (2 - (digitsOf n).length) 0 ++ digitsOf n, d < 10 := by
  intro d hd
  rcases List.mem_append.mp hd with hd | hd
  · rw [(List.mem_replicate.mp hd).2]
    norm_num
  · exact digitsOf_lt n d hd

/-- The digits of a power of ten, two at least, are read as its size. -/
theorem takeDigits_exponent (n : Nat) :
    ∃ ds : List Nat, takeDigits (ofDigitValues (List.replicate (2 - (digitsOf n).length) 0
      ++ digitsOf n)) = (ds, []) ∧ ds.isEmpty = false ∧ ofDigits ds = n := by
  refine ⟨List.replicate (2 - (digitsOf n).length) 0 ++ digitsOf n, ?_, ?_, ?_⟩
  · have htake := takeDigits_append (exponentDigits_lt n) noDigitAhead_nil
    rwa [List.append_nil] at htake
  · rw [List.isEmpty_eq_false_iff, Ne, List.append_eq_nil_iff]
    exact fun h => digitsOf_ne_nil _ h.2
  · rw [ofDigits_append, ofDigits_replicate_zero, ofDigits_digitsOf, Nat.zero_mul, Nat.zero_add]

theorem readExponent?_exponentText (e : Option Int) :
    readExponent? (exponentText e) = some e := by
  cases e with
  | none => rfl
  | some e =>
    obtain ⟨ds, htake, hne, hvalue⟩ := takeDigits_exponent e.natAbs
    rw [exponentText, readExponent?, if_pos (Or.inl rfl)]
    by_cases hneg : e < 0
    · have hcut : ∀ t : Text, cutSign (minus :: t) = (true, t) := fun _ => rfl
      simp only [if_pos hneg, hcut, htake, hne, hvalue, List.isEmpty_nil, Bool.not_true,
        Bool.or_self, if_true, Bool.false_eq_true, if_false, Option.some.injEq]
      omega
    · have hcut : ∀ t : Text, cutSign (CodePoint.ofChar '+' :: t) = (false, t) := fun _ => rfl
      simp only [if_neg hneg, hcut, htake, hne, hvalue, List.isEmpty_nil, Bool.not_true,
        Bool.or_self, Bool.false_eq_true, if_false, Option.some.injEq]
      omega

/-- The fraction and the power behind the digits of a spelled numeral are read as they are. -/
theorem readTail_spelled {negative : Bool} {whole fraction : List Nat} {exponent : Option Int}
    (hfraction : ∀ d ∈ fraction, d < 10) :
    (match Text.dropStart? ((if fraction = [] then [] else point :: ofDigitValues fraction)
        ++ exponentText exponent) "." with
      | some rest => do
        let (fraction, rest) := takeDigits rest
        guard !fraction.isEmpty
        return (⟨negative, whole, fraction, ← readExponent? rest⟩ : Numeral)
      | none => return ⟨negative, whole, [], ← readExponent?
        ((if fraction = [] then [] else point :: ofDigitValues fraction)
          ++ exponentText exponent)⟩) = some ⟨negative, whole, fraction, exponent⟩ := by
  have hpoint : ("." : Text) = [point] := by decide
  rw [hpoint]
  by_cases hnil : fraction = []
  · subst hnil
    have hnone : Text.dropStart? (exponentText exponent) [point] = none := by
      cases exponent with
      | none => rfl
      | some e => rfl
    simp only [if_true, List.nil_append, hnone, readExponent?_exponentText]
    rfl
  · have hne : fraction.isEmpty = false := List.isEmpty_eq_false_iff.mpr hnil
    have htake := takeDigits_append hfraction (noDigitAhead_exponentText exponent)
    simp only [if_neg hnil, List.cons_append, dropStart?_singleton, if_true, htake, hne,
      readExponent?_exponentText]
    rfl

/-- **Reading a spelled numeral yields its parts.** -/
theorem readNumeral?_spelled {n : Numeral} (h : n.WellFormed) :
    readNumeral? n.spelled = some n := by
  obtain ⟨negative, whole, fraction, exponent⟩ := n
  obtain ⟨hne, hlead, hwhole, hfraction⟩ := h
  simp only at hne hlead hwhole hfraction
  have hguard : (!whole.isEmpty && (whole.length == 1 || whole.head? != some 0)) = true := by
    rw [Bool.and_eq_true, Bool.or_eq_true, beq_iff_eq, bne_iff_ne]
    refine ⟨?_, hlead⟩
    cases whole with
    | nil => exact absurd rfl hne
    | cons d ds => rfl
  have hahead : NoDigitAhead ((if fraction = [] then [] else point :: ofDigitValues fraction)
      ++ exponentText exponent) := by
    split
    · exact noDigitAhead_exponentText exponent
    · exact noDigitAhead_cons (by decide) _
  have htake := takeDigits_append hwhole hahead
  have htail := @readTail_spelled negative whole fraction exponent hfraction
  cases negative with
  | true =>
    simp only [readNumeral?, Numeral.spelled, if_true, List.cons_append, List.nil_append,
      dropStart?_minus, htake, hguard]
    exact htail
  | false =>
    simp only [readNumeral?, Numeral.spelled, Bool.false_eq_true, if_false, List.nil_append,
      dropStart?_digits hne hwhole, htake, hguard]
    exact htail

/-! ## 3. Words -/

/-- No literal has a digit in it. -/
theorem lookup_literals_of_digit {word : Text} {c : CodePoint} (hc : c ∈ word)
    (hdigit : c.isAsciiDigit = true) : literals.lookup word = none := by
  have hnone : ∀ p ∈ literals, ∀ c ∈ p.1, c.isAsciiDigit = false := by decide
  refine List.lookup_eq_none_iff.mpr ?_
  intro p hp
  rw [bne_iff_ne]
  rintro rfl
  rw [hnone p hp c hc] at hdigit
  exact absurd hdigit Bool.false_ne_true

/-- A spelled numeral is the token of its value. -/
theorem wordToken_spelled {n : Numeral} (h : n.WellFormed) {v : Json} (hv : n.value = .ok v) :
    wordToken n.spelled = .scalar v := by
  obtain ⟨d, ds, hds⟩ := List.exists_cons_of_ne_nil h.whole_ne_nil
  have hmem : CodePoint.ofNat (0x30 + d) ∈ n.spelled := by
    rw [Numeral.spelled, hds]
    exact List.mem_append_right _ (List.mem_append_left _ List.mem_cons_self)
  have hd : d < 10 := h.whole_lt d (hds ▸ List.mem_cons_self)
  simp only [wordToken, lookup_literals_of_digit hmem (isAsciiDigit_digit hd),
    readNumeral?_spelled h, hv]

theorem mem_exponentText {e : Option Int} {c : CodePoint} (hc : c ∈ exponentText e) :
    c.isAsciiDigit = true ∨ c ∈ [minus, point, CodePoint.ofChar 'e', CodePoint.ofChar '+'] := by
  cases e with
  | none => exact absurd hc List.not_mem_nil
  | some e =>
    rw [exponentText] at hc
    rcases List.mem_cons.mp hc with rfl | hc
    · exact Or.inr (by decide)
    rcases List.mem_cons.mp hc with rfl | hc
    · right
      split
      · decide
      · decide
    · exact Or.inl (isAsciiDigit_of_mem (exponentDigits_lt _) c hc)

/-- The signs in a spelled numeral. -/
theorem mem_spelled {n : Numeral} (h : n.WellFormed) {c : CodePoint} (hc : c ∈ n.spelled) :
    c.isAsciiDigit = true ∨ c ∈ [minus, point, CodePoint.ofChar 'e', CodePoint.ofChar '+'] := by
  rw [Numeral.spelled] at hc
  rcases List.mem_append.mp hc with hc | hc
  · split at hc
    · exact Or.inr (List.mem_singleton.mp hc ▸ List.mem_cons_self)
    · exact absurd hc List.not_mem_nil
  rcases List.mem_append.mp hc with hc | hc
  · exact Or.inl (isAsciiDigit_of_mem h.whole_lt c hc)
  rcases List.mem_append.mp hc with hc | hc
  · split at hc
    · exact absurd hc List.not_mem_nil
    · rcases List.mem_cons.mp hc with rfl | hc
      · exact Or.inr (by decide)
      · exact Or.inl (isAsciiDigit_of_mem h.fraction_lt c hc)
  · exact mem_exponentText hc

end Portcullis.Json
