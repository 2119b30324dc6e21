/-
# The tokens of a printed value

A word ends only where something else begins, so after the text of a value the scanner may still be
in the value's last word.  What has been read is then settled (`Scan.Settled`) up to that word, and
the next punctuation mark, or the end, puts its token down.  A text is scanned as some tokens
(`Scans`) when it settles them after any others; scanned texts can be put together around a
punctuation mark (`Scans.append`).

**Main statement.**  `tokens_print`.
-/
import Portcullis.Proofs.Json.ReadBack

namespace Portcullis.Json

/-! ## 1. Settled tokens -/

/-- Whether a code point ends a word. -/
def isDelimiter (c : CodePoint) : Bool := isSpace c || (punctuation? c).isSome || c == quote

/-- What is read makes these tokens, the latest first; the latest may be a word that has not
ended. -/
inductive Scan.Settled : Scan → List Token → Prop
  | between (ts : List Token) : Settled ⟨ts, .between⟩ ts
  | word (ts : List Token) (read : Text) :
      Settled ⟨ts, .word read⟩ (wordToken read.reverse :: ts)

theorem Scan.Settled.finish {s : Scan} {ts : List Token} (h : s.Settled ts) :
    s.finish = ts.reverse := by
  cases h with
  | between ts => rfl
  | word ts read => rfl

/-- A punctuation mark settles the word before it and is a token itself. -/
theorem Scan.Settled.step {s : Scan} {ts : List Token} (h : s.Settled ts) {c : CodePoint}
    {token : Token} (hc : punctuation? c = some token) (hspace : isSpace c = false) :
    s.step c = ⟨token :: ts, .between⟩ := by
  cases h with
  | between ts => simp only [Scan.step, Scan.between, hspace, hc, Bool.false_eq_true, if_false]
  | word ts read =>
    simp only [Scan.step, Scan.between, hspace, hc, Option.isSome_some, Bool.true_or, Bool.or_true,
      Bool.false_eq_true, if_false, if_true]

/-- The text is read as these tokens, whatever tokens are before them. -/
def Scans (t : Text) (ts : List Token) : Prop :=
  ∀ before, (t.foldl Scan.step ⟨before, .between⟩).Settled (ts.reverse ++ before)

theorem Scans.nil : Scans [] [] := fun before => .between before

/-- **Texts around a punctuation mark are scanned one by one.** -/
theorem Scans.append {t u : Text} {ts us : List Token} (ht : Scans t ts) (hu : Scans u us)
    {c : CodePoint} {token : Token} (hc : punctuation? c = some token)
    (hspace : isSpace c = false) : Scans (t ++ c :: u) (ts ++ token :: us) := by
  intro before
  rw [List.foldl_append, List.foldl_cons, (ht before).step hc hspace, List.reverse_append,
    List.reverse_cons, List.append_assoc, List.append_assoc]
  exact hu _

/-- What is scanned is read to its end. -/
theorem Scans.tokens_eq {t : Text} {ts : List Token} (h : Scans t ts) : tokens t = ts := by
  rw [tokens, (h []).finish, List.append_nil, List.reverse_reverse]

/-! ## 2. Atoms -/

theorem foldl_word (ts : List Token) {word : Text} (hword : ∀ c ∈ word, isDelimiter c = false) :
    ∀ read, word.foldl Scan.step ⟨ts, .word read⟩ = ⟨ts, .word (word.reverse ++ read)⟩ := by
  induction word with
  | nil => exact fun _ => rfl
  | cons c word ih =>
    intro read
    obtain ⟨hc, hrest⟩ := List.forall_mem_cons.mp hword
    have hstep : Scan.step ⟨ts, .word read⟩ c = ⟨ts, .word (c :: read)⟩ := by
      rw [isDelimiter] at hc
      simp only [Scan.step, hc, Bool.false_eq_true, if_false]
    rw [List.foldl_cons, hstep, ih hrest, List.reverse_cons, List.append_assoc,
      List.singleton_append]

/-- A word without delimiters is scanned as its token. -/
theorem Scans.word {word : Text} (hne : word ≠ []) (hword : ∀ c ∈ word, isDelimiter c = false) :
    Scans word [wordToken word] := by
  intro before
  cases word with
  | nil => exact absurd rfl hne
  | cons c word =>
    obtain ⟨hc, hrest⟩ := List.forall_mem_cons.mp hword
    rw [isDelimiter, Bool.or_eq_false_iff, Bool.or_eq_false_iff] at hc
    obtain ⟨⟨hspace, hpunctuation⟩, hquote⟩ := hc
    have hbegin : Scan.step ⟨before, .between⟩ c = ⟨before, .word [c]⟩ := by
      have hnone : punctuation? c = none :=
        Option.not_isSome_iff_eq_none.mp (ne_true_of_eq_false hpunctuation)
      have hne : c ≠ quote := ne_of_beq_false hquote
      simp only [Scan.step, Scan.between, hspace, hnone, Bool.false_eq_true, if_false, if_neg hne]
    rw [List.foldl_cons, hbegin, foldl_word before hrest]
    have hsettled := Scan.Settled.word before (word.reverse ++ [c])
    rwa [List.reverse_append, List.reverse_reverse, List.reverse_singleton,
      List.singleton_append] at hsettled

/-- A numeral has no delimiters in it. -/
theorem isDelimiter_of_mem_spelled {n : Numeral} (h : n.WellFormed) :
    ∀ c ∈ n.spelled, isDelimiter c = false := by
  have hsigns : ∀ c ∈ [minus, point, CodePoint.ofChar 'e', CodePoint.ofChar '+'],
      isDelimiter c = false := by decide
  have hdigits : ∀ d < 10, isDelimiter (CodePoint.ofNat (0x30 + d)) = false := by decide
  intro c hc
  rcases mem_spelled h hc with hc | hc
  · rw [CodePoint.isAsciiDigit, Bool.and_eq_true, decide_eq_true_eq, decide_eq_true_eq] at hc
    have hdigit := hdigits (c.val - 0x30) (by omega)
    rwa [Nat.add_sub_cancel' hc.1, CodePoint.ofNat_val] at hdigit
  · exact hsigns c hc

theorem spelled_ne_nil {n : Numeral} (h : n.WellFormed) : n.spelled ≠ [] := by
  intro hnil
  rw [Numeral.spelled, List.append_eq_nil_iff, List.append_eq_nil_iff] at hnil
  exact h.whole_ne_nil (List.map_eq_nil_iff.mp hnil.2.1)

/-- A spelled numeral is scanned as its value. -/
theorem Scans.spelled {n : Numeral} (h : n.WellFormed) {v : Json} (hv : n.value = .ok v) :
    Scans n.spelled [.scalar v] := by
  rw [← wordToken_spelled h hv]
  exact .word (spelled_ne_nil h) (isDelimiter_of_mem_spelled h)

/-- The token of an atom. -/
def atomToken : Json → Token
  | .text t => .text t
  | v => .scalar v

/-- A number is scanned as itself, by its digits or by its name. -/
theorem scans_double (a : Alphabet) (x : Double) : Scans (print a (.num x)) [.scalar (.num x)] := by
  cases x with
  | notANumber => exact @Scans.word "NaN" (by decide) (by decide)
  | infinite negative =>
    cases negative with
    | false => exact @Scans.word "Infinity" (by decide) (by decide)
    | true => exact @Scans.word "-Infinity" (by decide) (by decide)
  | finite negative m e hm =>
    obtain ⟨n, hn, hspelled, hvalue⟩ := printDouble_eq (x := .finite negative m e hm) rfl
    rw [print, ← hspelled]
    exact .spelled hn hvalue

/-- **An atom is scanned as the token of what is heard of it.** -/
theorem scans_atom (a : Alphabet) {v : Json} (hv : v.isAtom = true) (h : v.integersFit = true) :
    Scans (print a v) [atomToken (v.heard a)] := by
  have hnull : Scans "null" [.scalar .null] := .word (by decide) (by decide)
  have htrue : Scans "true" [.scalar (.bool true)] := .word (by decide) (by decide)
  have hfalse : Scans "false" [.scalar (.bool false)] := .word (by decide) (by decide)
  cases v with
  | null => exact hnull
  | bool b =>
    cases b with
    | false => exact hfalse
    | true => exact htrue
  | int i =>
    obtain ⟨n, hn, hspelled, hvalue⟩ := ofInt_eq h
    rw [print, ← hspelled]
    exact .spelled hn hvalue
  | num x => exact scans_double a x
  | text t =>
    intro before
    rw [print, foldl_printText a before t]
    exact .between _
  | list items => exact absurd hv Bool.false_ne_true
  | object ms => exact absurd hv Bool.false_ne_true

/-! ## 3. Containers -/

mutual

/-- The tokens of a value. -/
def tokensOf : Json → List Token
  | .list items => .openList :: itemTokens items ++ [.closeList]
  | .object ms => .openObject :: memberTokens ms ++ [.closeObject]
  | v => [atomToken v]

/-- The tokens of the items of a list, with commas between them. -/
def itemTokens : List Json → List Token
  | [] => []
  | [v] => tokensOf v
  | v :: rest => tokensOf v ++ .comma :: itemTokens rest

/-- The tokens of the members of an object, with commas between them. -/
def memberTokens : Members → List Token
  | [] => []
  | [(k, v)] => .text k :: .colon :: tokensOf v
  | (k, v) :: rest => .text k :: .colon :: tokensOf v ++ .comma :: memberTokens rest

end

theorem tokensOf_atom {v : Json} (hv : v.isAtom = true) : tokensOf v = [atomToken v] := by
  cases v with
  | list items => exact absurd hv Bool.false_ne_true
  | object ms => exact absurd hv Bool.false_ne_true
  | _ => rfl

theorem scans_items (a : Alphabet) {items : List Json}
    (h : ∀ v ∈ items, Scans (print a v) (tokensOf (v.heard a))) :
    Scans (printItems a items) (itemTokens (items.map (heard a))) := by
  induction items with
  | nil => exact .nil
  | cons v rest ih =>
    obtain ⟨hv, hrest⟩ := List.forall_mem_cons.mp h
    cases rest with
    | nil => exact hv
    | cons w rest => exact hv.append (ih hrest) rfl rfl

theorem scans_member (a : Alphabet) (k : Text) {v : Json}
    (hv : Scans (print a v) (tokensOf (v.heard a))) :
    Scans (printText a k ++ CodePoint.ofNat 0x3A :: print a v)
      (.text (a.heard k) :: .colon :: tokensOf (v.heard a)) := by
  have hname : Scans (printText a k) [.text (a.heard k)] := by
    intro before
    rw [foldl_printText a before k]
    exact .between _
  exact hname.append hv rfl rfl

theorem scans_members (a : Alphabet) {ms : Members}
    (h : ∀ m ∈ ms, Scans (print a m.2) (tokensOf (m.2.heard a))) :
    Scans (printMembers a ms) (memberTokens (ms.map (heardMember a))) := by
  induction ms with
  | nil => exact .nil
  | cons m rest ih =>
    obtain ⟨k, v⟩ := m
    obtain ⟨hv, hrest⟩ := List.forall_mem_cons.mp h
    have hmember := scans_member a k hv
    cases rest with
    | nil => exact hmember
    | cons n rest => exact hmember.append (ih hrest) rfl rfl

/-- The text of a value is scanned as the tokens of what is heard of it. -/
theorem scans_print (a : Alphabet) {v : Json} (h : v.integersFit = true) :
    Scans (print a v) (tokensOf (v.heard a)) := by
  induction v using byParts with
  | atom v hv =>
    rw [tokensOf_atom ((isAtom_heard a v).trans hv)]
    exact scans_atom a hv h
  | list items ih =>
    rw [integersFit, integersFitItems_eq, List.all_eq_true] at h
    rw [heard_list]
    have hitems := scans_items a fun v hv => ih v hv (h v hv)
    exact Scans.nil.append (hitems.append .nil rfl rfl) rfl rfl
  | object ms ih =>
    rw [integersFit, integersFitMembers_eq, List.all_eq_true] at h
    rw [heard_object]
    have hmembers := scans_members a fun m hm => ih m hm (h m hm)
    exact Scans.nil.append (hmembers.append .nil rfl rfl) rfl rfl

/-- **The tokens of the text of a value are those of what is heard of it.** -/
theorem tokens_print (a : Alphabet) {v : Json} (h : v.integersFit = true) :
    tokens (print a v) = tokensOf (v.heard a) :=
  (scans_print a h).tokens_eq

end Portcullis.Json
