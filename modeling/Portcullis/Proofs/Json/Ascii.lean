/-
# The ASCII form of a value

In ASCII every value has octets, also one with lone surrogates in it or with numbers that are not
finite.  From the octets of an object its reading is read, as long as it nests no deeper than is
read and no integer in it is too long.

**Main statements.**  `ascii_print` and `readBytes_ascii`.
-/
import Portcullis.Proofs.Json.Octets

namespace Portcullis

/-- Every code point is below 128. -/
def Text.Ascii (t : Text) : Prop := ∀ c ∈ t, c.val < 0x80

namespace Text

theorem ascii_append {t u : Text} : Ascii (t ++ u) ↔ Ascii t ∧ Ascii u := List.forall_mem_append

theorem ascii_cons {c : CodePoint} {t : Text} : Ascii (c :: t) ↔ c.val < 0x80 ∧ Ascii t :=
  List.forall_mem_cons

theorem ascii_nil : Ascii [] := List.forall_mem_nil _

instance : DecidablePred Ascii := fun t => inferInstanceAs (Decidable (∀ c ∈ t, c.val < 0x80))

theorem isAscii_iff (t : Text) : t.isAscii = true ↔ Ascii t := by
  simp only [isAscii, List.all_eq_true, CodePoint.isAscii, decide_eq_true_eq, Ascii]

/-- ASCII holds no surrogates. -/
theorem Ascii.whole {t : Text} (h : Ascii t) : Whole t := by
  intro c hc
  have hlt := h c hc
  exact CodePoint.isSurrogate_of_lt (by omega)

/-- The octets of ASCII, code point by code point. -/
theorem Ascii.ofAscii_eq {t : Text} (h : Ascii t) : Bytes.ofAscii t = t.flatMap CodePoint.utf8 :=
  ((utf8?_eq_some_iff t _).mp (utf8?_of_lt h)).2.symm

end Text

namespace Json

open Text

/-! ## 1. What is printed -/

theorem ascii_escapeUnit (u : Nat) : Ascii (escapeUnit u) := by
  rw [escapeUnit, ascii_append]
  refine ⟨by decide, ?_⟩
  intro c hc
  obtain ⟨i, -, rfl⟩ := List.mem_map.mp hc
  exact hexDigit_lt (Nat.mod_lt (u / Nat.pow 16 i) (by norm_num))

theorem ascii_escapePoint (c : CodePoint) : Ascii (escapePoint .ascii c) := by
  have hback : backslash.val < 0x80 := by decide
  rcases escapePoint_cases .ascii c with ⟨-, e, he, -, heq⟩ | ⟨-, heq⟩ | ⟨-, heq⟩ | ⟨hc, heq⟩
  · rw [heq, ascii_cons, ascii_cons]
    exact ⟨hback, he, ascii_nil⟩
  · rw [heq]
    exact ascii_escapeUnit _
  · rw [heq, ascii_append]
    exact ⟨ascii_escapeUnit _, ascii_escapeUnit _⟩
  · rw [heq, ascii_cons]
    exact ⟨hc.2.2.2 rfl, ascii_nil⟩

theorem ascii_printText (t : Text) : Ascii (printText .ascii t) := by
  have hquote : (CodePoint.ofNat 0x22).val < 0x80 := by decide
  rw [printText, List.cons_append, ascii_cons, ascii_append, ascii_cons]
  refine ⟨hquote, ?_, hquote, ascii_nil⟩
  intro d hd
  obtain ⟨c, -, hd⟩ := List.mem_flatMap.mp hd
  exact ascii_escapePoint c d hd

theorem ascii_spelled {n : Numeral} (h : n.WellFormed) : Ascii n.spelled := by
  have hsigns : Ascii [minus, point, CodePoint.ofChar 'e', CodePoint.ofChar '+'] := by decide
  intro c hc
  rcases mem_spelled h hc with hc | hc
  · rw [CodePoint.isAsciiDigit, Bool.and_eq_true, decide_eq_true_eq, decide_eq_true_eq] at hc
    omega
  · exact hsigns c hc

theorem ascii_printDouble (x : Double) : Ascii (printDouble x) := by
  cases x with
  | notANumber => exact by decide
  | infinite negative => cases negative <;> exact by decide
  | finite negative m e hm =>
    obtain ⟨n, hn, hspelled, -⟩ := printDouble_eq (x := .finite negative m e hm) rfl
    rw [← hspelled]
    exact ascii_spelled hn

theorem ascii_printItems {items : List Json} (h : ∀ v ∈ items, Ascii (print .ascii v)) :
    Ascii (printItems .ascii items) := by
  induction items with
  | nil => exact ascii_nil
  | cons v rest ih =>
    obtain ⟨hv, hrest⟩ := List.forall_mem_cons.mp h
    cases rest with
    | nil => exact hv
    | cons w rest => exact ascii_append.mpr ⟨hv, ascii_cons.mpr ⟨by decide, ih hrest⟩⟩

theorem ascii_printMembers {ms : Members} (h : ∀ m ∈ ms, Ascii (print .ascii m.2)) :
    Ascii (printMembers .ascii ms) := by
  induction ms with
  | nil => exact ascii_nil
  | cons m rest ih =>
    obtain ⟨k, v⟩ := m
    obtain ⟨hv, hrest⟩ := List.forall_mem_cons.mp h
    have hmember : Ascii (printText .ascii k ++ CodePoint.ofNat 0x3A :: print .ascii v) :=
      ascii_append.mpr ⟨ascii_printText k, ascii_cons.mpr ⟨by decide, hv⟩⟩
    cases rest with
    | nil => exact hmember
    | cons n rest =>
      exact ascii_append.mpr ⟨hmember, ascii_cons.mpr ⟨by decide, ih hrest⟩⟩

/-- **What is printed in ASCII is ASCII.** -/
theorem ascii_print (v : Json) : Ascii (print .ascii v) := by
  have hbrackets : ∀ (first last : CodePoint) {t : Text}, first.val < 0x80 → last.val < 0x80 →
      Ascii t → Ascii (first :: t ++ [last]) := fun _ _ _ hfirst hlast ht =>
    ascii_append.mpr ⟨ascii_cons.mpr ⟨hfirst, ht⟩, ascii_cons.mpr ⟨hlast, ascii_nil⟩⟩
  induction v using byParts with
  | atom v hv =>
    cases v with
    | null => exact by decide
    | bool b => cases b <;> exact by decide
    | int i =>
      rw [print, ← spelled_integerNumeral]
      exact ascii_spelled (integerNumeral_wellFormed i)
    | num x => exact ascii_printDouble x
    | text t => exact ascii_printText t
    | list items => exact absurd hv Bool.false_ne_true
    | object ms => exact absurd hv Bool.false_ne_true
  | list items ih =>
    rw [print]
    exact hbrackets _ _ (by decide) (by decide) (ascii_printItems ih)
  | object ms ih =>
    rw [print]
    exact hbrackets _ _ (by decide) (by decide) (ascii_printMembers ih)

/-! ## 2. What is read -/

/-- **An object is read back from the octets of its ASCII form.** -/
theorem readBytes_ascii {ms : Members} (nests : nestsWithin maxDepth (.object ms) = true)
    (fits : integersFit (.object ms) = true) :
    readBytes (Bytes.ofAscii (ascii (.object ms))) = .ok (readBack .ascii (.object ms)) := by
  rw [ascii, (ascii_print _).ofAscii_eq, readBytes, decode_print_object]
  exact read_print .ascii nests fits

end Json

end Portcullis
