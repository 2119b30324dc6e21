/-
# UTF-8 and back

Between code points the reader takes the octets of a code point to that code point, surrogates
included where they are allowed.  So reading undoes writing, and two texts with the same octets are
the same text.

**Main statements.**  `decode?_flatMap`, `decodeWithSurrogates?_flatMap` and `utf8?_inj`.
-/
import Mathlib.Tactic.NormNum
import Portcullis.Text.Utf8

namespace Portcullis

/-- No code point of the text is a surrogate. -/
def Text.Whole (t : Text) : Prop := ∀ c ∈ t, c.isSurrogate = false

theorem Text.whole_append {t u : Text} : Text.Whole (t ++ u) ↔ Text.Whole t ∧ Text.Whole u :=
  List.forall_mem_append

theorem Text.whole_cons {c : CodePoint} {t : Text} :
    Text.Whole (c :: t) ↔ c.isSurrogate = false ∧ Text.Whole t :=
  List.forall_mem_cons

theorem CodePoint.isSurrogate_of_lt {c : CodePoint} (h : c.val < 0xD800) :
    c.isSurrogate = false := by
  rw [isSurrogate, Bool.and_eq_false_iff, decide_eq_false_iff_not]
  exact Or.inl (by omega)

namespace Utf8

/-! ## 1. One octet -/

theorem toNat_octet {x : Nat} (h : x < 0x100) : (UInt8.ofNat x).toNat = x := by
  rw [UInt8.toNat_ofNat']
  exact Nat.mod_eq_of_lt h

/-- The octet with which a code point begins. -/
theorem step_start (surrogates : Bool) (done : List (Option CodePoint)) {x : Nat} (h : x < 0x100) :
    Scan.step surrogates ⟨done, none⟩ (UInt8.ofNat x) = Scan.start surrogates done x := by
  simp only [Scan.step, toNat_octet h]

/-- An octet inside a code point adds six bits. -/
theorem step_tail (surrogates : Bool) (done : List (Option CodePoint)) {missing low high m : Nat}
    (bits : Nat) (hm : m < 64) (hlow : low ≤ 0x80 + m) (hhigh : 0x80 + m ≤ high) :
    Scan.step surrogates ⟨done, some ⟨missing, low, high, bits⟩⟩ (UInt8.ofNat (0x80 + m))
      = if missing ≤ 1 then ⟨some (CodePoint.ofNat (bits * 64 + m)) :: done, none⟩
        else ⟨done, some ⟨missing - 1, 0x80, 0xBF, bits * 64 + m⟩⟩ := by
  have hx : (UInt8.ofNat (0x80 + m)).toNat = 0x80 + m := toNat_octet (by omega)
  simp only [Scan.step, hx, if_pos (And.intro hlow hhigh), Nat.add_sub_cancel_left]

/-! ## 2. The first octet -/

theorem start_one (surrogates : Bool) (done : List (Option CodePoint)) {n : Nat} (h : n < 0x80) :
    Scan.start surrogates done n = ⟨some (CodePoint.ofNat n) :: done, none⟩ := by
  rw [Scan.start, if_pos h]

theorem start_two (surrogates : Bool) (done : List (Option CodePoint)) {n : Nat} (hlow : 0x80 ≤ n)
    (hhigh : n < 0x800) :
    Scan.start surrogates done (0xC0 + n / 64) = ⟨done, some ⟨1, 0x80, 0xBF, n / 64⟩⟩ := by
  rw [Scan.start, if_neg (by omega), if_neg (by omega), if_pos (by omega),
    Nat.add_sub_cancel_left]

/-- The first of three octets leaves room for the second. -/
theorem start_three (surrogates : Bool) (done : List (Option CodePoint)) {n : Nat}
    (hlow : 0x800 ≤ n) (hhigh : n < 0x10000)
    (hs : surrogates = true ∨ ¬ (0xD800 ≤ n ∧ n ≤ 0xDFFF)) :
    ∃ low high, Scan.start surrogates done (0xE0 + n / 4096)
        = ⟨done, some ⟨2, low, high, n / 4096⟩⟩
      ∧ low ≤ 0x80 + n / 64 % 64 ∧ 0x80 + n / 64 % 64 ≤ high := by
  unfold Scan.start
  rw [if_neg (by omega), if_neg (by omega), if_neg (by omega)]
  by_cases hfirst : n / 4096 = 0
  · refine ⟨0xA0, 0xBF, ?_, by omega, by omega⟩
    rw [hfirst, if_pos rfl]
  rw [if_neg (by omega)]
  by_cases hlast : n / 4096 = 0xD
  · refine ⟨0x80, if surrogates then 0xBF else 0x9F, ?_, by omega, ?_⟩
    · rw [hlast, if_pos rfl]
    · split
      · omega
      · next h =>
        have hrange := hs.resolve_left h
        omega
  · refine ⟨0x80, 0xBF, ?_, by omega, by omega⟩
    rw [if_neg (by omega), if_pos (by omega), Nat.add_sub_cancel_left]

/-- The first of four octets leaves room for the second. -/
theorem start_four (surrogates : Bool) (done : List (Option CodePoint)) {n : Nat}
    (hlow : 0x10000 ≤ n) (hhigh : n < 0x110000) :
    ∃ low high, Scan.start surrogates done (0xF0 + n / 262144)
        = ⟨done, some ⟨3, low, high, n / 262144⟩⟩
      ∧ low ≤ 0x80 + n / 4096 % 64 ∧ 0x80 + n / 4096 % 64 ≤ high := by
  unfold Scan.start
  rw [if_neg (by omega), if_neg (by omega), if_neg (by omega), if_neg (by omega),
    if_neg (by omega), if_neg (by omega)]
  by_cases hfirst : n / 262144 = 0
  · refine ⟨0x90, 0xBF, ?_, by omega, by omega⟩
    rw [hfirst, if_pos rfl]
  rw [if_neg (by omega)]
  by_cases hlast : n / 262144 = 4
  · refine ⟨0x80, 0x8F, ?_, by omega, by omega⟩
    rw [hlast, if_neg (by norm_num), if_pos rfl]
  · refine ⟨0x80, 0xBF, ?_, by omega, by omega⟩
    rw [if_pos (by omega), Nat.add_sub_cancel_left]

/-! ## 3. One code point -/

/-- **The octets of a code point are read as that code point.** -/
theorem foldl_utf8 (surrogates : Bool) (done : List (Option CodePoint)) {c : CodePoint}
    (hc : surrogates = true ∨ c.isSurrogate = false) :
    c.utf8.foldl (Scan.step surrogates) ⟨done, none⟩ = ⟨some c :: done, none⟩ := by
  have hmax := c.val_lt
  have hs : surrogates = true ∨ ¬ (0xD800 ≤ c.val ∧ c.val ≤ 0xDFFF) := by
    refine hc.imp_right fun h hrange => ?_
    rw [CodePoint.isSurrogate, decide_eq_true hrange.1, decide_eq_true hrange.2] at h
    exact absurd h.symm Bool.false_ne_true
  have hmod : ∀ n, n % 64 < 64 := fun n => Nat.mod_lt n (by norm_num)
  have hlow : ∀ m, 0x80 ≤ 0x80 + m := fun m => Nat.le_add_right _ _
  have hhigh : ∀ m, m < 64 → 0x80 + m ≤ 0xBF := fun m hm => by omega
  unfold CodePoint.utf8
  simp only [Nat.div_one]
  by_cases hone : c.val < 0x80
  · rw [if_pos hone, List.foldl_cons, step_start _ _ (by omega), start_one _ _ hone,
      CodePoint.ofNat_val, List.foldl_nil]
  rw [if_neg hone]
  by_cases htwo : c.val < 0x800
  · have hbits : c.val / 64 * 64 + c.val % 64 = c.val := by omega
    rw [if_pos htwo, List.foldl_cons, step_start _ _ (by omega), start_two _ _ (by omega) htwo,
      List.foldl_cons, step_tail _ _ _ (hmod _) (hlow _) (hhigh _ (hmod _)), if_pos le_rfl, hbits,
      CodePoint.ofNat_val, List.foldl_nil]
  rw [if_neg htwo]
  by_cases hthree : c.val < 0x10000
  · obtain ⟨low, high, hstart, hl, hh⟩ := start_three surrogates done (by omega) hthree hs
    have hbits : (c.val / 4096 * 64 + c.val / 64 % 64) * 64 + c.val % 64 = c.val := by omega
    rw [if_pos hthree, List.foldl_cons, step_start _ _ (by omega), hstart, List.foldl_cons,
      step_tail _ _ _ (hmod _) hl hh, if_neg (by norm_num), List.foldl_cons,
      step_tail _ _ _ (hmod _) (hlow _) (hhigh _ (hmod _)), if_pos le_rfl, hbits,
      CodePoint.ofNat_val, List.foldl_nil]
  · obtain ⟨low, high, hstart, hl, hh⟩ := start_four surrogates done (by omega) hmax
    have hbits : ((c.val / 262144 * 64 + c.val / 4096 % 64) * 64 + c.val / 64 % 64) * 64
        + c.val % 64 = c.val := by omega
    rw [if_neg hthree, List.foldl_cons, step_start _ _ (by omega), hstart, List.foldl_cons,
      step_tail _ _ _ (hmod _) hl hh, if_neg (by norm_num), List.foldl_cons,
      step_tail _ _ _ (hmod _) (hlow _) (hhigh _ (hmod _)), if_neg (by norm_num), List.foldl_cons,
      step_tail _ _ _ (hmod _) (hlow _) (hhigh _ (hmod _)), if_pos le_rfl, hbits,
      CodePoint.ofNat_val, List.foldl_nil]

/-! ## 4. Texts -/

/-- The octets of a text are read as its code points, one by one. -/
theorem scan_flatMap (surrogates : Bool) {t : Text} (ht : surrogates = true ∨ Text.Whole t) :
    scan surrogates (t.flatMap CodePoint.utf8) = t.map some := by
  have hfold : ∀ done, (t.flatMap CodePoint.utf8).foldl (Scan.step surrogates) ⟨done, none⟩
      = ⟨(t.map some).reverse ++ done, none⟩ := by
    induction t with
    | nil => exact fun _ => rfl
    | cons c t ih =>
      intro done
      have hc : surrogates = true ∨ c.isSurrogate = false :=
        ht.imp_right fun h => h c List.mem_cons_self
      have hrest : surrogates = true ∨ Text.Whole t :=
        ht.imp_right fun h d hd => h d (List.mem_cons_of_mem _ hd)
      rw [List.flatMap_cons, List.foldl_append, foldl_utf8 surrogates done hc, ih hrest,
        List.map_cons, List.reverse_cons, List.append_assoc, List.singleton_append]
  rw [scan, hfold, Scan.finish, List.append_nil, List.reverse_reverse]

theorem mapM_map_some (t : Text) : (t.map some).mapM id = some t := by
  induction t with
  | nil => rfl
  | cons c t ih =>
    rw [List.map_cons, List.mapM_cons, ih]
    rfl

/-- **Reading undoes writing.** -/
theorem decode?_flatMap {t : Text} (ht : Text.Whole t) :
    decode? (t.flatMap CodePoint.utf8) = some t := by
  rw [decode?, scan_flatMap false (Or.inr ht), mapM_map_some]

/-- Reading that allows surrogates undoes writing, of every text. -/
theorem decodeWithSurrogates?_flatMap (t : Text) :
    decodeWithSurrogates? (t.flatMap CodePoint.utf8) = some t := by
  rw [decodeWithSurrogates?, scan_flatMap true (Or.inl rfl), mapM_map_some]

end Utf8

namespace Text

/-- A text has octets in UTF-8 exactly when it is whole. -/
theorem utf8?_eq_some_iff (t : Text) (b : Bytes) :
    t.utf8? = some b ↔ Whole t ∧ t.flatMap CodePoint.utf8 = b := by
  rw [utf8?]
  by_cases h : t.any CodePoint.isSurrogate = true
  · obtain ⟨c, hc, hs⟩ := List.any_eq_true.mp h
    rw [if_pos h]
    refine iff_of_false (Option.some_ne_none b).symm ?_
    rintro ⟨hw, -⟩
    rw [hw c hc] at hs
    exact absurd hs Bool.false_ne_true
  · have hw : Whole t := by
      intro c hc
      by_contra hs
      exact h (List.any_eq_true.mpr ⟨c, hc, (Bool.not_eq_false _).mp hs⟩)
    rw [if_neg h, Option.some.injEq]
    exact ⟨fun hb => ⟨hw, hb⟩, fun hb => hb.2⟩

/-- A text that is not whole has no octets. -/
theorem utf8?_eq_none_iff (t : Text) : t.utf8? = none ↔ ¬ Whole t := by
  rw [Option.eq_none_iff_forall_ne_some]
  refine ⟨fun hnone hwhole => ?_, fun hno b hb => hno ((utf8?_eq_some_iff t b).mp hb).1⟩
  exact hnone _ ((utf8?_eq_some_iff t _).mpr ⟨hwhole, rfl⟩)

/-- A text is whole if none of its code points is a surrogate. -/
theorem any_isSurrogate_iff (t : Text) : t.any CodePoint.isSurrogate = false ↔ Whole t := by
  rw [List.any_eq_false]
  exact forall₂_congr fun c _ => Bool.eq_false_iff.symm

/-- **Texts with the same octets are the same.** -/
theorem utf8?_inj {t u : Text} {b : Bytes} (ht : t.utf8? = some b) (hu : u.utf8? = some b) :
    t = u := by
  have hread := Utf8.decodeWithSurrogates?_flatMap t
  rw [((utf8?_eq_some_iff t b).mp ht).2, ← ((utf8?_eq_some_iff u b).mp hu).2,
    Utf8.decodeWithSurrogates?_flatMap] at hread
  exact (Option.some.inj hread).symm

/-- The octets of ASCII are its UTF-8. -/
theorem utf8?_of_lt {t : Text} (h : ∀ c ∈ t, c.val < 0x80) :
    t.utf8? = some (Bytes.ofAscii t) := by
  refine (utf8?_eq_some_iff t _).mpr ⟨?_, ?_⟩
  · exact fun c hc => CodePoint.isSurrogate_of_lt (Nat.lt_trans (h c hc) (by decide))
  · induction t with
    | nil => rfl
    | cons c t ih =>
      obtain ⟨hc, ht⟩ := List.forall_mem_cons.mp h
      have hone : c.utf8 = [UInt8.ofNat c.val] := if_pos hc
      rw [List.flatMap_cons, hone, ih ht]
      rfl

end Text

end Portcullis
