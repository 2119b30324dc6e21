/-
# Texts between quotation marks

A code point of a text is written as itself, with a backslash in front of one sign, or by the
numbers of its UTF-16 units (`escapePoint_cases`).  The scanner reads each of the three as that code
point, but it takes two units that stand for the halves of a code point as that one, whether they
were written for it or for two surrogates in turn.  So a text is read as it was printed in full
Unicode, and in ASCII with its pairs joined (`Alphabet.heard`).

**Main statements.**  `foldl_printText`, and `whole_printText` for the surrogates in what is
printed.
-/
import Portcullis.Json.Printer
import Portcullis.Json.Token
import Portcullis.Proofs.Text.Pairs

namespace Portcullis

namespace Json

/-! ## 1. How a code point is written -/

/-- The code points that are written with a backslash and one sign. -/
def shortPoints : List Nat := [0x22, 0x5C, 0x08, 0x0C, 0x0A, 0x0D, 0x09]

theorem escapePoint_short (a : Alphabet) {c : CodePoint} (h : c.val ∈ shortPoints) :
    c.val < 0x80 ∧ ∃ e : CodePoint, e.val < 0x80 ∧ shortEscape? e = some c
      ∧ escapePoint a c = [backslash, e] := by
  have hall : ∀ n ∈ shortPoints, n < 0x80 ∧ ∃ e ∈ ("\"\\bfnrt" : Text), e.val < 0x80
      ∧ shortEscape? e = some (CodePoint.ofNat n)
      ∧ escapePoint a (CodePoint.ofNat n) = [backslash, e] := by
    cases a with
    | unicode => decide
    | ascii => decide
  obtain ⟨hlt, e, -, he, hshort, hescape⟩ := hall c.val h
  rw [CodePoint.ofNat_val] at hshort hescape
  exact ⟨hlt, e, he, hshort, hescape⟩

theorem escapePoint_long (a : Alphabet) {c : CodePoint} (h : c.val ∉ shortPoints) :
    escapePoint a c = if c.val < 0x20 then escapeUnit c.val
      else if a = .unicode ∨ c.val < 0x7F then [c]
      else if c.val < 0x10000 then escapeUnit c.val
      else escapeUnit (0xD800 + (c.val - 0x10000) / 0x400)
        ++ escapeUnit (0xDC00 + (c.val - 0x10000) % 0x400) := by
  simp only [shortPoints, List.mem_cons, List.not_mem_nil, or_false, not_or] at h
  obtain ⟨h1, h2, h3, h4, h5, h6, h7⟩ := h
  rw [escapePoint, if_neg h1, if_neg h2, if_neg h3, if_neg h4, if_neg h5, if_neg h6, if_neg h7]

/-- **A code point is written in one of four ways.** -/
theorem escapePoint_cases (a : Alphabet) (c : CodePoint) :
    (c.val < 0x80 ∧ ∃ e : CodePoint, e.val < 0x80 ∧ shortEscape? e = some c
        ∧ escapePoint a c = [backslash, e])
      ∨ ((c.val < 0x20 ∨ a = .ascii ∧ c.val < 0x10000) ∧ escapePoint a c = escapeUnit c.val)
      ∨ ((a = .ascii ∧ 0x10000 ≤ c.val) ∧ escapePoint a c
          = escapeUnit (0xD800 + (c.val - 0x10000) / 0x400)
            ++ escapeUnit (0xDC00 + (c.val - 0x10000) % 0x400))
      ∨ ((c ≠ quote ∧ c ≠ backslash ∧ 0x20 ≤ c.val ∧ (a = .ascii → c.val < 0x80))
        ∧ escapePoint a c = [c]) := by
  by_cases hshort : c.val ∈ shortPoints
  · exact Or.inl (escapePoint_short a hshort)
  right
  rw [escapePoint_long a hshort]
  by_cases hcontrol : c.val < 0x20
  · left
    exact ⟨Or.inl hcontrol, if_pos hcontrol⟩
  rw [if_neg hcontrol]
  by_cases hplain : a = .unicode ∨ c.val < 0x7F
  · right; right
    refine ⟨⟨?_, ?_, Nat.le_of_not_lt hcontrol, ?_⟩, if_pos hplain⟩
    · rintro rfl
      exact hshort (by decide)
    · rintro rfl
      exact hshort (by decide)
    · rintro rfl
      rcases hplain with h | h
      · exact absurd h (by decide)
      · omega
  rw [if_neg hplain]
  have hascii : a = .ascii := by
    cases a with
    | unicode => exact absurd (Or.inl rfl) hplain
    | ascii => rfl
  by_cases hbasic : c.val < 0x10000
  · left
    exact ⟨Or.inr ⟨hascii, hbasic⟩, if_pos hbasic⟩
  · right; left
    exact ⟨⟨hascii, Nat.le_of_not_lt hbasic⟩, if_neg hbasic⟩

/-! ## 2. Surrogates in what is written -/

theorem hexDigit_lt {d : Nat} (h : d < 16) : (Text.hexDigit d).val < 0x80 := by
  have hall : ∀ d < 16, (Text.hexDigit d).val < 0x80 := by decide
  exact hall d h

theorem whole_escapeUnit (u : Nat) : Text.Whole (escapeUnit u) := by
  have hmark : Text.Whole ("\\u" : Text) := by
    unfold Text.Whole
    decide
  rw [escapeUnit, Text.whole_append]
  refine ⟨hmark, ?_⟩
  intro c hc
  obtain ⟨i, -, rfl⟩ := List.mem_map.mp hc
  have hdigit := hexDigit_lt (Nat.mod_lt (u / Nat.pow 16 i) (show 0 < 16 by norm_num))
  exact CodePoint.isSurrogate_of_lt (by omega)

/-- Full Unicode writes a surrogate, and only a surrogate, as a surrogate. -/
theorem whole_escapePoint (c : CodePoint) :
    Text.Whole (escapePoint .unicode c) ↔ c.isSurrogate = false := by
  rcases escapePoint_cases .unicode c with ⟨hc, e, he, -, heq⟩ | ⟨hc, heq⟩ | ⟨hc, heq⟩ | ⟨-, heq⟩
  · have hback : backslash.isSurrogate = false := by decide
    have hsign : e.isSurrogate = false := CodePoint.isSurrogate_of_lt (by omega)
    rw [heq, Text.whole_cons, Text.whole_cons]
    exact iff_of_true ⟨hback, hsign, fun _ h => absurd h List.not_mem_nil⟩
      (CodePoint.isSurrogate_of_lt (by omega))
  · rw [heq]
    rcases hc with hc | ⟨hc, -⟩
    · exact iff_of_true (whole_escapeUnit _) (CodePoint.isSurrogate_of_lt (by omega))
    · exact absurd hc (by decide)
  · exact absurd hc.1 (by decide)
  · rw [heq, Text.whole_cons]
    exact and_iff_left fun _ h => absurd h List.not_mem_nil

/-- A printed text is whole exactly when the text is. -/
theorem whole_printText (t : Text) : Text.Whole (printText .unicode t) ↔ Text.Whole t := by
  have hquote : (CodePoint.ofNat 0x22).isSurrogate = false := by decide
  rw [printText, List.cons_append, Text.whole_cons, Text.whole_append, Text.whole_cons]
  constructor
  · rintro ⟨-, hbody, -⟩ c hc
    exact (whole_escapePoint c).mp fun d hd => hbody d (List.mem_flatMap.mpr ⟨c, hc, hd⟩)
  · intro h
    refine ⟨hquote, ?_, hquote, fun _ h => absurd h List.not_mem_nil⟩
    intro d hd
    obtain ⟨c, hc, hd⟩ := List.mem_flatMap.mp hd
    exact (whole_escapePoint c).mpr (h c hc) d hd

/-! ## 3. Reading what is written -/

theorem hexValue?_hexDigit {d : Nat} (h : d < 16) : (Text.hexDigit d).hexValue? = some d := by
  have hall : ∀ d < 16, (Text.hexDigit d).hexValue? = some d := by decide
  exact hall d h

/-- One digit of the number of a unit. -/
theorem step_hexDigit (ts : List Token) (read : Text) (high : Bool) (missing value : Nat) {d : Nat}
    (hd : d < 16) :
    Scan.step ⟨ts, .hex read high missing value⟩ (Text.hexDigit d)
      = if missing ≤ 1 then ⟨ts, addUnit read high (value * 16 + d)⟩
        else ⟨ts, .hex read high (missing - 1) (value * 16 + d)⟩ := by
  simp only [Scan.step, hexValue?_hexDigit hd]

/-- The scanner reads the number of a unit as that unit. -/
theorem foldl_escapeUnit (ts : List Token) (read : Text) (high : Bool) {u : Nat}
    (hu : u < 0x10000) :
    (escapeUnit u).foldl Scan.step ⟨ts, .text read high⟩ = ⟨ts, addUnit read high u⟩ := by
  have hmark : ("\\u" : Text) = [backslash, CodePoint.ofChar 'u'] := by decide
  have hback : Scan.step ⟨ts, .text read high⟩ backslash = ⟨ts, .escape read high⟩ := rfl
  have hu' : Scan.step ⟨ts, .escape read high⟩ (CodePoint.ofChar 'u') = ⟨ts, .hex read high 4 0⟩ :=
    rfl
  have hdigits : Text.hexDigits 4 u = [Text.hexDigit (u / 16 ^ 3 % 16),
      Text.hexDigit (u / 16 ^ 2 % 16), Text.hexDigit (u / 16 ^ 1 % 16),
      Text.hexDigit (u / 16 ^ 0 % 16)] := rfl
  have hmod : ∀ n, n % 16 < 16 := fun n => Nat.mod_lt n (by norm_num)
  have hvalue : (((0 * 16 + u / 16 ^ 3 % 16) * 16 + u / 16 ^ 2 % 16) * 16 + u / 16 ^ 1 % 16) * 16
      + u / 16 ^ 0 % 16 = u := by
    norm_num
    omega
  rw [escapeUnit, hmark, hdigits]
  simp only [List.cons_append, List.nil_append, List.foldl_cons, List.foldl_nil, hback, hu',
    step_hexDigit _ _ _ _ _ (hmod _), Nat.reduceLeDiff, Nat.reduceSub, if_false, if_true, hvalue]

/-- A unit that ends no pair is a code point of its own. -/
theorem addUnit_single (read : Text) {high : Bool} {c : CodePoint}
    (h : ¬ (high = true ∧ c.isLow = true)) :
    addUnit read high c.val = .text (c :: read) c.isHigh := by
  rw [CodePoint.isLow_iff] at h
  unfold addUnit
  split
  · rw [if_neg fun hlow => h ⟨rfl, hlow⟩, CodePoint.ofNat_val]
    rfl
  · rw [CodePoint.ofNat_val]
    rfl

/-- A unit that ends a pair is joined to what began it. -/
theorem addUnit_low (read : Text) (h : CodePoint) {l : CodePoint} (hl : l.isLow = true) :
    addUnit (h :: read) true l.val = .text (CodePoint.ofPair h l :: read) false :=
  if_pos ((CodePoint.isLow_iff l).mp hl)

/-- The two units of a code point are a pair that stands for it. -/
theorem exists_pair {c : CodePoint} (hc : 0x10000 ≤ c.val) :
    ∃ h l : CodePoint, h.isHigh = true ∧ l.isLow = true ∧ CodePoint.ofPair h l = c
      ∧ h.val = 0xD800 + (c.val - 0x10000) / 0x400
      ∧ l.val = 0xDC00 + (c.val - 0x10000) % 0x400 := by
  have hmax := c.val_lt
  have hhigh : (CodePoint.ofNat (0xD800 + (c.val - 0x10000) / 0x400)).val
      = 0xD800 + (c.val - 0x10000) / 0x400 := CodePoint.val_ofNat (by omega)
  have hlow : (CodePoint.ofNat (0xDC00 + (c.val - 0x10000) % 0x400)).val
      = 0xDC00 + (c.val - 0x10000) % 0x400 := CodePoint.val_ofNat (by omega)
  refine ⟨_, _, ?_, ?_, ?_, hhigh, hlow⟩
  · rw [CodePoint.isHigh_iff, hhigh]
    omega
  · rw [CodePoint.isLow_iff, hlow]
    omega
  · have hsum : 0x10000 + (0xD800 + (c.val - 0x10000) / 0x400 - 0xD800) * 0x400
        + (0xDC00 + (c.val - 0x10000) % 0x400 - 0xDC00) = c.val := by omega
    rw [CodePoint.ofPair, hhigh, hlow, hsum, CodePoint.ofNat_val]

/-- A sign behind a backslash is read as what it stands for. -/
theorem foldl_shortEscape (ts : List Token) (read : Text) (high : Bool) {e c : CodePoint}
    (hshort : shortEscape? e = some c) :
    [backslash, e].foldl Scan.step ⟨ts, .text read high⟩ = ⟨ts, .text (c :: read) false⟩ := by
  have hback : Scan.step ⟨ts, .text read high⟩ backslash = ⟨ts, .escape read high⟩ := rfl
  have hsign : e ≠ CodePoint.ofChar 'u' := by
    rintro rfl
    exact absurd hshort.symm (Option.some_ne_none c)
  rw [List.foldl_cons, List.foldl_cons, hback]
  simp only [Scan.step, if_neg hsign, hshort, List.foldl_nil]

/-- A code point that is written as itself is read as itself. -/
theorem step_plain (ts : List Token) (read : Text) (high : Bool) {c : CodePoint}
    (hquote : c ≠ quote) (hback : c ≠ backslash) (hcontrol : 0x20 ≤ c.val) :
    Scan.step ⟨ts, .text read high⟩ c = ⟨ts, .text (c :: read) false⟩ := by
  simp only [Scan.step, if_neg hquote, if_neg hback, if_neg (Nat.not_lt.mpr hcontrol)]

/-- In full Unicode a code point is read as it is written. -/
theorem foldl_escapePoint_unicode (ts : List Token) (read : Text) (c : CodePoint) :
    (escapePoint .unicode c).foldl Scan.step ⟨ts, .text read false⟩
      = ⟨ts, .text (c :: read) false⟩ := by
  rcases escapePoint_cases .unicode c with ⟨-, e, -, hshort, heq⟩ | ⟨hlt, heq⟩ | ⟨⟨⟨⟩, -⟩, -⟩
    | ⟨⟨hquote, hback, hcontrol, -⟩, heq⟩
  · rw [heq, foldl_shortEscape ts read false hshort]
  · have hcontrol : c.val < 0x20 := hlt.resolve_right fun h => absurd h.1 (by decide)
    have hhigh : c.isHigh = false :=
      CodePoint.isHigh_of_not_surrogate (CodePoint.isSurrogate_of_lt (by omega))
    rw [heq, foldl_escapeUnit ts read false (by omega),
      addUnit_single read fun h => absurd h.1 (by decide), hhigh]
  · rw [heq, List.foldl_cons, List.foldl_nil, step_plain ts read false hquote hback hcontrol]

/-- In ASCII a code point that ends no pair is read as it is written. -/
theorem foldl_escapePoint_ascii (ts : List Token) (read : Text) {high : Bool} {c : CodePoint}
    (h : ¬ (high = true ∧ c.isLow = true)) :
    (escapePoint .ascii c).foldl Scan.step ⟨ts, .text read high⟩
      = ⟨ts, .text (c :: read) c.isHigh⟩ := by
  have hascii : c.val < 0x80 → c.isHigh = false := fun hlt =>
    CodePoint.isHigh_of_not_surrogate (CodePoint.isSurrogate_of_lt (by omega))
  rcases escapePoint_cases .ascii c with ⟨hlt, e, -, hshort, heq⟩ | ⟨hlt, heq⟩ | ⟨⟨-, hle⟩, heq⟩
    | ⟨⟨hquote, hback, hcontrol, hlt⟩, heq⟩
  · rw [heq, foldl_shortEscape ts read high hshort, hascii hlt]
  · rw [heq, foldl_escapeUnit ts read high (by omega), addUnit_single read h]
  · obtain ⟨first, second, hfirst, hsecond, hpair, hv, hw⟩ := exists_pair hle
    have hsingle : ¬ (high = true ∧ first.isLow = true) := fun hboth =>
      absurd ((CodePoint.isHigh_of_isLow hboth.2).symm.trans hfirst) (by decide)
    have hhigh : c.isHigh = false := by
      rw [Bool.eq_false_iff, Ne, CodePoint.isHigh_iff]
      omega
    have hmax := c.val_lt
    rw [heq, List.foldl_append, foldl_escapeUnit ts read high (by omega), ← hv,
      addUnit_single read hsingle, hfirst, foldl_escapeUnit ts _ true (by omega), ← hw,
      addUnit_low read first hsecond, hpair, hhigh]
  · rw [heq, List.foldl_cons, List.foldl_nil, step_plain ts read high hquote hback hcontrol,
      hascii (hlt rfl)]

/-- In ASCII a code point that ends a pair is joined to what began it. -/
theorem foldl_escapePoint_low (ts : List Token) (read : Text) (h : CodePoint) {l : CodePoint}
    (hl : l.isLow = true) :
    (escapePoint .ascii l).foldl Scan.step ⟨ts, .text (h :: read) true⟩
      = ⟨ts, .text (CodePoint.ofPair h l :: read) false⟩ := by
  have hrange := (CodePoint.isLow_iff l).mp hl
  rcases escapePoint_cases .ascii l with ⟨hlt, -⟩ | ⟨-, heq⟩ | ⟨⟨-, hle⟩, -⟩ | ⟨⟨-, -, -, hlt⟩, -⟩
  · omega
  · rw [heq, foldl_escapeUnit ts _ true (by omega), addUnit_low read h hl]
  · omega
  · have := hlt rfl
    omega

/-! ## 4. Texts -/

/-- What a text is read as when it is written in an alphabet. -/
def Alphabet.heard : Alphabet → Text → Text
  | .unicode, t => t
  | .ascii, t => t.joined

theorem Alphabet.heard_of_unpaired (a : Alphabet) {t : Text} (h : Text.Unpaired t) :
    a.heard t = t := by
  cases a with
  | unicode => rfl
  | ascii => exact Text.joined_eq_self h

theorem foldl_body_unicode (ts : List Token) (t : Text) : ∀ read,
    (t.flatMap (escapePoint .unicode)).foldl Scan.step ⟨ts, .text read false⟩
      = ⟨ts, .text (t.reverse ++ read) false⟩ := by
  induction t with
  | nil => exact fun _ => rfl
  | cons c t ih =>
    intro read
    rw [List.flatMap_cons, List.foldl_append, foldl_escapePoint_unicode, ih, List.reverse_cons,
      List.append_assoc, List.singleton_append]

/-- The induction is on the text, from a place where no pair is under way and from behind what may
begin one. -/
theorem foldl_body_ascii (ts : List Token) (t : Text) :
    (∀ read, ∃ high, (t.flatMap (escapePoint .ascii)).foldl Scan.step ⟨ts, .text read false⟩
        = ⟨ts, .text (t.joined.reverse ++ read) high⟩)
      ∧ ∀ read (h : CodePoint), h.isHigh = true →
        ∃ high, (t.flatMap (escapePoint .ascii)).foldl Scan.step ⟨ts, .text (h :: read) true⟩
          = ⟨ts, .text ((Text.joined (h :: t)).reverse ++ read) high⟩ := by
  induction t with
  | nil =>
    refine ⟨fun read => ⟨false, rfl⟩, fun read h _ => ⟨true, ?_⟩⟩
    rw [Text.joined_singleton]
    rfl
  | cons c t ih =>
    -- What follows a code point that ends no pair, whatever was read before it.
    have hnext : ∀ (read : Text) (high : Bool), ¬ (high = true ∧ c.isLow = true) →
        ∃ high', ((c :: t).flatMap (escapePoint .ascii)).foldl Scan.step ⟨ts, .text read high⟩
          = ⟨ts, .text ((Text.joined (c :: t)).reverse ++ read) high'⟩ := by
      intro read high hsingle
      rw [List.flatMap_cons, List.foldl_append, foldl_escapePoint_ascii ts read hsingle]
      cases hc : c.isHigh with
      | true => exact ih.2 read c hc
      | false =>
        rw [Text.joined_cons hc, List.reverse_cons, List.append_assoc, List.singleton_append]
        exact ih.1 (c :: read)
    refine ⟨fun read => hnext read false fun h => absurd h.1 (by decide), fun read h hh => ?_⟩
    cases hl : c.isLow with
    | true =>
      rw [List.flatMap_cons, List.foldl_append, foldl_escapePoint_low ts read h hl,
        Text.joined_pair hh hl, List.reverse_cons, List.append_assoc, List.singleton_append]
      exact ih.1 _
    | false =>
      have hsingle : ¬ (true = true ∧ c.isLow = true) := fun hboth =>
        absurd (hl.symm.trans hboth.2) (by decide)
      rw [Text.joined_cons_cons (fun hboth => hsingle ⟨rfl, hboth.2⟩), List.reverse_cons,
        List.append_assoc, List.singleton_append]
      exact hnext (h :: read) true hsingle

/-- **A text is read as it was printed**, in ASCII with its pairs joined. -/
theorem foldl_printText (a : Alphabet) (ts : List Token) (t : Text) :
    (printText a t).foldl Scan.step ⟨ts, .between⟩ = ⟨.text (a.heard t) :: ts, .between⟩ := by
  have hopen : Scan.step ⟨ts, .between⟩ (CodePoint.ofNat 0x22) = ⟨ts, .text [] false⟩ := rfl
  have hclose : ∀ read high, Scan.step ⟨ts, .text read high⟩ (CodePoint.ofNat 0x22)
      = ⟨.text read.reverse :: ts, .between⟩ := fun _ _ => rfl
  have hbody : ∃ high, (t.flatMap (escapePoint a)).foldl Scan.step ⟨ts, .text [] false⟩
      = ⟨ts, .text (a.heard t).reverse high⟩ := by
    cases a with
    | unicode => exact ⟨false, by rw [foldl_body_unicode, List.append_nil]; rfl⟩
    | ascii =>
      obtain ⟨high, hfold⟩ := (foldl_body_ascii ts t).1 []
      exact ⟨high, by rw [hfold, List.append_nil]; rfl⟩
  obtain ⟨high, hfold⟩ := hbody
  rw [printText, List.cons_append, List.foldl_cons, hopen, List.foldl_append, hfold,
    List.foldl_cons, hclose, List.reverse_reverse, List.foldl_nil]

end Json

end Portcullis
