/-
# Letter case of ASCII text

Some letters outside ASCII have an ASCII letter for their small or their capital form: the sign of
the kelvin has a `k`, and the capitals of the long `s`, the dotless `i`, the sharp `s` and the
ligatures have one of `F`, `I` and `S` in them.  There are no others.  So where a text in small
letters, or in capitals, has none of these letters in it and is ASCII, the text itself is ASCII, and
only the case of its ASCII letters is left open.

**Main statements.**  `lower_eq_iff`, `upper_eq_iff` and `lower_eq_hex_iff`.
-/
import Portcullis.Bytes.Hex
import Portcullis.Text.Casing

namespace Portcullis

/-! ## 1. The tables -/

namespace Text

/-- A shift that is found is the shift of a run that holds the code point. -/
theorem findShift_eq_some {c : Nat} {runs : List CaseRun} {shift : Int}
    (h : findShift c runs = some shift) :
    ∃ r ∈ runs, r.first ≤ c ∧ c ≤ r.last ∧ (c - r.first) % r.step = 0 ∧ r.shift = shift := by
  induction runs with
  | nil => exact absurd h.symm (Option.some_ne_none shift)
  | cons r rest ih =>
    rw [findShift] at h
    split at h
    · exact absurd h.symm (Option.some_ne_none shift)
    split at h
    · split at h
      · next hstep => exact ⟨r, List.mem_cons_self, by omega, by omega, hstep, Option.some.inj h⟩
      · exact absurd h.symm (Option.some_ne_none shift)
    · obtain ⟨r', hmem, hr'⟩ := ih h
      exact ⟨r', List.mem_cons_of_mem r hmem, hr'⟩

/-- What a mapping makes of a code point has something of a kind in it, if this is so of the code
point and of all that the tables could make of it. -/
theorem exists_mem_mapCase {runs : List CaseRun} {expansions : List (Nat × List Nat)} {c : Nat}
    {kind : Nat → Prop} (hself : kind c)
    (hruns : ∀ r ∈ runs, r.first ≤ c → c ≤ r.last → kind (c + r.shift).toNat)
    (hexpansions : ∀ p ∈ expansions, ∃ n ∈ p.2, kind n) :
    ∃ n ∈ mapCase runs expansions c, kind n := by
  rw [mapCase]
  cases hshift : findShift c runs with
  | some shift =>
    obtain ⟨r, hr, hfirst, hlast, -, rfl⟩ := findShift_eq_some hshift
    exact ⟨_, List.mem_singleton_self _, hruns r hr hfirst hlast⟩
  | none =>
    cases himage : expansions.lookup c with
    | some image =>
      obtain ⟨before, after, hsplit, -⟩ := List.lookup_eq_some_iff.mp himage
      refine hexpansions (c, image) ?_
      rw [hsplit]
      exact List.mem_append_right before List.mem_cons_self
    | none => exact ⟨c, List.mem_singleton_self c, hself⟩

/-- A number up to that of the last small letter, and not that of the `k`. -/
def IsSmall (n : Nat) : Prop := n ≤ 0x7A ∧ n ≠ 0x6B

/-- A number up to that of the last capital, and not that of the `F`, the `I` or the `S`. -/
def IsLarge (n : Nat) : Prop := n ≤ 0x5A ∧ n ≠ 0x46 ∧ n ≠ 0x49 ∧ n ≠ 0x53

instance (n : Nat) : Decidable (IsSmall n) := inferInstanceAs (Decidable (_ ∧ _))

instance (n : Nat) : Decidable (IsLarge n) := inferInstanceAs (Decidable (_ ∧ _))

/-- The runs outside ASCII lead above the small letters, but for that of the kelvin sign. -/
theorem lowerRuns_above : ∀ r ∈ lowerRuns, r.last < 0x80 ∨ 0x7A < r.first + r.shift
    ∨ r.first = r.last ∧ r.first + r.shift = 0x6B := by
  decide +kernel

theorem lowerExpansions_above : ∀ p ∈ lowerExpansions, ∃ n ∈ p.2, ¬ IsSmall n := by
  decide +kernel

/-- The runs outside ASCII lead above the capitals, but for those of the dotless `i` and the long
`s`. -/
theorem upperRuns_above : ∀ r ∈ upperRuns, r.last < 0x80 ∨ 0x5A < r.first + r.shift
    ∨ r.first = r.last ∧ (r.first + r.shift = 0x49 ∨ r.first + r.shift = 0x53) := by
  decide +kernel

theorem upperExpansions_above : ∀ p ∈ upperExpansions, ∃ n ∈ p.2, ¬ IsLarge n := by
  decide +kernel

end Text

/-! ## 2. One code point -/

namespace CodePoint

theorem lower_ascii {c : CodePoint} (h : c.isAscii = true) : c.lower = [c.asciiLower] := by
  have hall : ∀ n < 0x80, (ofNat n).lower = [(ofNat n).asciiLower] := by decide +kernel
  have hc := hall c.val (of_decide_eq_true h)
  rwa [ofNat_val] at hc

/-- In ASCII the capital form is one letter with the same small form. -/
theorem upper_ascii {c : CodePoint} (h : c.isAscii = true) :
    c.upper.map asciiLower = [c.asciiLower] ∧ c.asciiLower.upper = c.upper := by
  have hall : ∀ n < 0x80, (ofNat n).upper.map asciiLower = [(ofNat n).asciiLower]
      ∧ (ofNat n).asciiLower.upper = (ofNat n).upper := by decide +kernel
  have hc := hall c.val (of_decide_eq_true h)
  rwa [ofNat_val] at hc

/-- The ASCII mapping leads neither into ASCII nor out of it. -/
theorem isAscii_asciiLower (c : CodePoint) : c.asciiLower.isAscii = c.isAscii := by
  rw [asciiLower]
  split
  · next h =>
    rw [isAscii, isAscii, val_ofNat (by omega), decide_eq_true (by omega),
      decide_eq_true (by omega)]
  · rfl

/-- What holds of a number and of that of the replacement character holds of the code point of the
number. -/
theorem exists_mem_map_ofNat {kind : Nat → Prop} (hreplacement : kind 0xFFFD) {ns : List Nat}
    (h : ∃ n ∈ ns, kind n) : ∃ d ∈ ns.map ofNat, kind d.val := by
  obtain ⟨n, hn, hkind⟩ := h
  refine ⟨ofNat n, List.mem_map_of_mem hn, ?_⟩
  rw [ofNat]
  split
  · exact hkind
  · exact hreplacement

/-- The small form of a code point outside ASCII has more in it than small letters. -/
theorem lower_above {c : CodePoint} (h : c.isAscii = false) :
    ∃ d ∈ c.lower, ¬ Text.IsSmall d.val := by
  have hc : 0x80 ≤ c.val := Nat.le_of_not_lt (of_decide_eq_false h)
  refine exists_mem_map_ofNat (by decide) (Text.exists_mem_mapCase ?_ ?_ Text.lowerExpansions_above)
  · exact fun hsmall => absurd hsmall.1 (by omega)
  · intro r hr hfirst hlast hsmall
    obtain ⟨hle, hkelvin⟩ := hsmall
    have htable := Text.lowerRuns_above r hr
    omega

/-- The capital form of a code point outside ASCII has more in it than capitals. -/
theorem upper_above {c : CodePoint} (h : c.isAscii = false) :
    ∃ d ∈ c.upper, ¬ Text.IsLarge d.val := by
  have hc : 0x80 ≤ c.val := Nat.le_of_not_lt (of_decide_eq_false h)
  refine exists_mem_map_ofNat (by decide) (Text.exists_mem_mapCase ?_ ?_ Text.upperExpansions_above)
  · exact fun hlarge => absurd hlarge.1 (by omega)
  · intro r hr hfirst hlast hlarge
    obtain ⟨hle, -, hdotless, hlong⟩ := hlarge
    have htable := Text.upperRuns_above r hr
    omega

end CodePoint

/-! ## 3. Texts -/

namespace Text

theorem lower_eq_asciiLower {t : Text} (h : t.isAscii = true) : t.lower = t.asciiLower := by
  induction t with
  | nil => rfl
  | cons c t ih =>
    obtain ⟨hc, ht⟩ := (Bool.and_eq_true _ _).mp (List.all_cons.symm.trans h)
    have hrest : t.flatMap CodePoint.lower = t.map CodePoint.asciiLower := ih ht
    rw [lower, List.flatMap_cons, CodePoint.lower_ascii hc, hrest, asciiLower, List.map_cons,
      List.singleton_append]

/-- In ASCII capitals keep the small form, and are those of the small form. -/
theorem upper_of_isAscii {t : Text} (h : t.isAscii = true) :
    t.upper.asciiLower = t.asciiLower ∧ t.asciiLower.upper = t.upper := by
  induction t with
  | nil => exact ⟨rfl, rfl⟩
  | cons c t ih =>
    obtain ⟨hc, ht⟩ := (Bool.and_eq_true _ _).mp (List.all_cons.symm.trans h)
    obtain ⟨hsmall, hcapital⟩ := CodePoint.upper_ascii hc
    obtain ⟨hsmalls, hcapitals⟩ := ih ht
    simp only [upper, asciiLower, List.flatMap_cons, List.map_cons, List.map_append]
      at hsmalls hcapitals ⊢
    rw [hsmall, hsmalls, hcapital, hcapitals]
    exact ⟨rfl, rfl⟩

theorem isAscii_asciiLower (t : Text) : t.asciiLower.isAscii = t.isAscii := by
  rw [isAscii, isAscii, asciiLower, List.all_map]
  exact congrArg t.all (funext CodePoint.isAscii_asciiLower)

/-- A text is ASCII if it is made into one of a kind that no code point outside ASCII is made
into. -/
theorem isAscii_of_flatMap {kind : Nat → Prop} {form : CodePoint → Text}
    (hform : ∀ c, c.isAscii = false → ∃ d ∈ form c, ¬ kind d.val) {t u : Text}
    (hu : ∀ c ∈ u, kind c.val) (h : t.flatMap form = u) : t.isAscii = true := by
  refine List.all_eq_true.mpr fun c hc => ?_
  cases hoff : c.isAscii with
  | true => rfl
  | false =>
    obtain ⟨d, hd, habove⟩ := hform c hoff
    exact absurd (hu d (h ▸ List.mem_flatMap.mpr ⟨c, hc, hd⟩)) habove

theorem isAscii_of_isSmall {u : Text} (hu : ∀ c ∈ u, IsSmall c.val) : u.isAscii = true :=
  List.all_eq_true.mpr fun c hc =>
    decide_eq_true (Nat.lt_of_le_of_lt (hu c hc).1 (by decide))

theorem isAscii_of_isLarge {u : Text} (hu : ∀ c ∈ u, IsLarge c.val) : u.isAscii = true :=
  List.all_eq_true.mpr fun c hc =>
    decide_eq_true (Nat.lt_of_le_of_lt (hu c hc).1 (by decide))

/-- **A text in small letters** is that of the ASCII mapping, if they are such as no other letter
becomes. -/
theorem lower_eq_iff {t u : Text} (hu : ∀ c ∈ u, IsSmall c.val) :
    t.lower = u ↔ t.asciiLower = u := by
  constructor
  · intro h
    rwa [← lower_eq_asciiLower (isAscii_of_flatMap (fun _ => CodePoint.lower_above) hu h)]
  · intro h
    rw [lower_eq_asciiLower, h]
    rw [← isAscii_asciiLower, h]
    exact isAscii_of_isSmall hu

/-- **A text is another in capitals** if they differ in nothing but the case of ASCII letters, and
the capitals are such as no other letter becomes. -/
theorem upper_eq_iff {t u : Text} (hu : ∀ c ∈ u, IsLarge c.val)
    (hcapitals : u.asciiLower.upper = u) :
    t.upper = u ↔ t.asciiLower = u.asciiLower := by
  constructor
  · intro h
    have hascii := isAscii_of_flatMap (fun _ => CodePoint.upper_above) hu h
    rw [← (upper_of_isAscii hascii).1, h]
  · intro h
    have hascii : t.isAscii = true := by
      rw [← isAscii_asciiLower, h, isAscii_asciiLower, isAscii_of_isLarge hu]
    rw [← (upper_of_isAscii hascii).2, h, hcapitals]

/-! ## 4. Hexadecimal text -/

theorem hexDigit_small {d : Nat} (h : d < 16) :
    (hexDigit d).val ≤ 0x66 ∧ (hexDigit d).asciiLower = hexDigit d := by
  have hall : ∀ d < 16, (hexDigit d).val ≤ 0x66 ∧ (hexDigit d).asciiLower = hexDigit d := by
    decide
  exact hall d h

theorem mem_hex {b : Bytes} {c : CodePoint} (hc : c ∈ Bytes.hex b) :
    c.val ≤ 0x66 ∧ c.asciiLower = c := by
  obtain ⟨x, -, hx⟩ := List.mem_flatMap.mp hc
  have hlt : x.toNat < 256 := x.toNat_lt_size
  rcases List.mem_cons.mp hx with rfl | hx
  · exact hexDigit_small (by omega)
  · rw [List.mem_singleton.mp hx]
    exact hexDigit_small (by omega)

theorem isSmall_of_mem_hex {b : Bytes} {c : CodePoint} (hc : c ∈ Bytes.hex b) : IsSmall c.val := by
  have hle := (mem_hex hc).1
  exact ⟨by omega, by omega⟩

/-- **A text is hexadecimal in small letters exactly when it is in the letters of ASCII.** -/
theorem lower_eq_hex_iff (t : Text) (b : Bytes) :
    t.lower = Bytes.hex b ↔ t.asciiLower = Bytes.hex b :=
  lower_eq_iff fun _ => isSmall_of_mem_hex

/-- Hexadecimal text is its own small form. -/
theorem asciiLower_hex (b : Bytes) : asciiLower (Bytes.hex b) = Bytes.hex b :=
  (List.map_congr_left fun _ hc => (mem_hex hc).2).trans (List.map_id _)

end Text

end Portcullis
