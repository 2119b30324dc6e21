/-
# Text

A text is a list of code points, from 0 up to and including 0x10FFFF.  Surrogates are code points
here: a text read from JSON may hold a lone one, which has no UTF-8 form, and every later step has
to say what it does with it.

**Main statements.**  Cutting at a separator loses nothing (`join_splitOn`), and the order on
texts is the lexicographic order of the code point numbers (`le_total`, `le_antisymm`,
`le_trans`), so that sorting keys has one result.
-/

namespace Portcullis

/-! ## 1. Code points -/

/-- A code point, surrogates included. -/
structure CodePoint where
  val : Nat
  val_lt : val < 0x110000
deriving DecidableEq

namespace CodePoint

@[ext] theorem ext {a b : CodePoint} (h : a.val = b.val) : a = b := by
  cases a; cases b; simp_all

/-- The code point of a number, or the replacement character when there is none. -/
def ofNat (n : Nat) : CodePoint :=
  if h : n < 0x110000 then ⟨n, h⟩ else ⟨0xFFFD, by decide⟩

theorem val_ofNat {n : Nat} (h : n < 0x110000) : (ofNat n).val = n := by
  simp [ofNat, h]

@[simp] theorem ofNat_val (c : CodePoint) : ofNat c.val = c := by
  simp [ofNat, c.val_lt]

/-- A character is a code point that is no surrogate. -/
def ofChar (c : Char) : CodePoint := ofNat c.toNat

instance : Coe Char CodePoint := ⟨ofChar⟩

/-- The code points from 0xD800 to 0xDFFF, which stand for halves of other code points. -/
def isSurrogate (c : CodePoint) : Bool := 0xD800 ≤ c.val && c.val ≤ 0xDFFF

/-- The code points below 128. -/
def isAscii (c : CodePoint) : Bool := c.val < 0x80

/-- The ten ASCII digits. -/
def isAsciiDigit (c : CodePoint) : Bool := 0x30 ≤ c.val && c.val ≤ 0x39

/-- An ASCII capital becomes the small letter; every other code point stays. -/
def asciiLower (c : CodePoint) : CodePoint :=
  if 0x41 ≤ c.val ∧ c.val ≤ 0x5A then ofNat (c.val + 0x20) else c

/-- The value of a hexadecimal digit of either case. -/
def hexValue? (c : CodePoint) : Option Nat :=
  if 0x30 ≤ c.val ∧ c.val ≤ 0x39 then some (c.val - 0x30)
  else if 0x61 ≤ c.val ∧ c.val ≤ 0x66 then some (c.val - 0x61 + 10)
  else if 0x41 ≤ c.val ∧ c.val ≤ 0x46 then some (c.val - 0x41 + 10)
  else none

end CodePoint

/-! ## 2. Texts -/

/-- A list of code points. -/
abbrev Text := List CodePoint

namespace Text

/-- The code points of a string. -/
def ofString (s : String) : Text := s.toList.map CodePoint.ofChar

instance : Coe String Text := ⟨ofString⟩

/-- The string of a text; a surrogate, which no string can hold, becomes the replacement
character. -/
def toString (t : Text) : String :=
  String.ofList (t.map fun c => if c.isSurrogate then Char.ofNat 0xFFFD else Char.ofNat c.val)

/-- A natural number in decimal digits, without leading zeros. -/
def decimal (n : Nat) : Text := (Nat.toDigits 10 n).map CodePoint.ofChar

/-- An integer in decimal digits, a minus sign before a negative one. -/
def ofInt : Int → Text
  | .ofNat n => decimal n
  | .negSucc n => ("-" : Text) ++ decimal (n + 1)

/-- A digit below 16, as a small letter above 9. -/
def hexDigit (n : Nat) : CodePoint :=
  CodePoint.ofNat (if n < 10 then 0x30 + n else 0x57 + n)

/-- The text with its ASCII capitals made small. -/
def asciiLower (t : Text) : Text := t.map CodePoint.asciiLower

/-- Whether every code point is below 128. -/
def isAscii (t : Text) : Bool := t.all CodePoint.isAscii

/-- Whether the text begins with another. -/
def startsWith (t start : Text) : Bool := start.isPrefixOf t

/-- Whether the text ends with another. -/
def endsWith (t ending : Text) : Bool := ending.isSuffixOf t

/-! ## 3. Cutting -/

/-- The pieces between the separators; a text without one is a single piece. -/
def splitOn (separator : CodePoint) : Text → List Text
  | [] => [[]]
  | c :: rest =>
    if c = separator then [] :: splitOn separator rest
    else match splitOn separator rest with
      | [] => [[c]]
      | piece :: pieces => (c :: piece) :: pieces

/-- The pieces with a separator between each two. -/
def join (separator : Text) : List Text → Text
  | [] => []
  | [piece] => piece
  | piece :: pieces => piece ++ separator ++ join separator pieces

/-- The text before the first separator, and what follows it, if there is one. -/
def cut (separator : CodePoint) : Text → Text × Option Text
  | [] => ([], none)
  | c :: rest =>
    if c = separator then ([], some rest)
    else match cut separator rest with
      | (head, tail) => (c :: head, tail)

/-- What remains of a text that begins with another, after it. -/
def dropStart? (t : Text) : (start : Text) → Option Text
  | [] => some t
  | s :: start => match t with
    | [] => none
    | c :: rest => if c = s then dropStart? rest start else none

theorem splitOn_ne_nil (sep : CodePoint) (t : Text) : splitOn sep t ≠ [] := by
  cases t with
  | nil => simp [splitOn]
  | cons c rest =>
    simp only [splitOn]
    split
    · simp
    · split <;> simp

/-- **Cutting loses nothing.** -/
theorem join_splitOn (sep : CodePoint) (t : Text) : join [sep] (splitOn sep t) = t := by
  induction t with
  | nil => rfl
  | cons c rest ih =>
    simp only [splitOn]
    split
    · next h =>
      subst h
      cases hs : splitOn c rest with
      | nil => exact absurd hs (splitOn_ne_nil c rest)
      | cons piece pieces => rw [hs] at ih; simp [join, ih]
    · cases hs : splitOn sep rest with
      | nil => exact absurd hs (splitOn_ne_nil sep rest)
      | cons piece pieces =>
        rw [hs] at ih
        cases pieces with
        | nil => simpa [join] using ih
        | cons p ps => simpa [join] using ih

/-! ## 4. Order -/

/-- Lexicographic order of the code point numbers. -/
def le : Text → Text → Bool
  | [], _ => true
  | _ :: _, [] => false
  | a :: s, b :: t => a.val < b.val || (a.val == b.val && le s t)

theorem le_refl (t : Text) : le t t = true := by
  induction t with
  | nil => rfl
  | cons a t ih => simp [le, ih]

theorem le_total (s t : Text) : (le s t || le t s) = true := by
  induction s generalizing t with
  | nil => simp [le]
  | cons a s ih =>
    cases t with
    | nil => simp [le]
    | cons b t =>
      have := ih t
      simp only [le, Bool.or_eq_true, Bool.and_eq_true, decide_eq_true_eq, beq_iff_eq] at this ⊢
      rcases Nat.lt_trichotomy a.val b.val with h | h | h <;> simp_all

theorem le_antisymm {s t : Text} (h₁ : le s t = true) (h₂ : le t s = true) : s = t := by
  induction s generalizing t with
  | nil => cases t with
    | nil => rfl
    | cons b t => simp [le] at h₂
  | cons a s ih =>
    cases t with
    | nil => simp [le] at h₁
    | cons b t =>
      simp only [le, Bool.or_eq_true, Bool.and_eq_true, decide_eq_true_eq, beq_iff_eq] at h₁ h₂
      have hv : a.val = b.val := by omega
      have h₁' : le s t = true := by rcases h₁ with h | h; · omega
                                     · exact h.2
      have h₂' : le t s = true := by rcases h₂ with h | h; · omega
                                     · exact h.2
      rw [CodePoint.ext hv, ih h₁' h₂']

theorem le_trans {s t u : Text} (h₁ : le s t = true) (h₂ : le t u = true) : le s u = true := by
  induction s generalizing t u with
  | nil => simp [le]
  | cons a s ih =>
    cases t with
    | nil => simp [le] at h₁
    | cons b t =>
      cases u with
      | nil => simp [le] at h₂
      | cons c u =>
        simp only [le, Bool.or_eq_true, Bool.and_eq_true, decide_eq_true_eq, beq_iff_eq]
          at h₁ h₂ ⊢
        rcases h₁ with h₁ | h₁ <;> rcases h₂ with h₂ | h₂
        · left; omega
        · left; omega
        · left; omega
        · right; exact ⟨h₁.1.trans h₂.1, ih h₁.2 h₂.2⟩

end Text

end Portcullis
