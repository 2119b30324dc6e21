/-
# Common names in distinguished names

A distinguished name is a list of attributes, each of a type and with a value.  As RFC 4514 writes
it, commas stand between the attributes and backslashes before what is special in a value
(`written`).

The text is cut at every comma of it, and no backslash is taken away.  So the common name that is
found is that of the first attribute of its type only if its value is written as it is (`Plain`),
and if no value before it has a comma in it and after that what reads as a common name
(`Concealed`).  If one has, it is this that is found: whoever chooses a value can choose the common
name.

**Main statement.**  `commonName_written`.
-/
import Portcullis.Peer
import Portcullis.Proofs.Text.Capitals
import Portcullis.Proofs.Text.Cutting

namespace Portcullis

/-! ## 1. Names as they are written -/

/-- The numbers of the code points that are special wherever they stand: the NUL, and those of
`"+,;<>\`. -/
def Text.specials : List Nat := [0x0, 0x22, 0x2B, 0x2C, 0x3B, 0x3C, 0x3E, 0x5C]

/-- Whether a code point is special wherever it stands in a value. -/
def CodePoint.isSpecial (c : CodePoint) : Bool := Text.specials.contains c.val

/-- Whether a code point may stand in the type of an attribute: the letters and digits of ASCII, the
hyphen and the dot. -/
def CodePoint.isKeyed (c : CodePoint) : Bool :=
  c.isAsciiDigit || (0x41 ≤ c.val && c.val ≤ 0x5A) || (0x61 ≤ c.val && c.val ≤ 0x7A)
    || c.val = 0x2D || c.val = 0x2E

namespace Peer

/-- The backslash before what is special. -/
def backslash : CodePoint := CodePoint.ofNat 0x5C

/-- The sign between a type and a value. -/
def equals : CodePoint := CodePoint.ofNat 0x3D

/-- The space, which is special at the two ends of a value. -/
def space : CodePoint := CodePoint.ofNat 0x20

/-- The sign that is special at the beginning of a value. -/
def hash : CodePoint := CodePoint.ofNat 0x23

/-- An attribute of a name. -/
structure Attribute where
  type : Text
  value : Text

/-- Whether a code point is special, at the first or the last place of a value or between them. -/
def isSpecialAt (first last : Bool) (c : CodePoint) : Bool :=
  c.isSpecial || (first && (c = space || c = hash)) || (last && c = space)

/-- A code point of a value as it is written; the NUL is written with its two digits. -/
def escapeAt (first last : Bool) (c : CodePoint) : Text :=
  if isSpecialAt first last c then
    backslash :: if c.val = 0 then [CodePoint.ofNat 0x30, CodePoint.ofNat 0x30] else [c]
  else [c]

/-- What is left of a value as it is written. -/
def escapeFrom (first : Bool) : Text → Text
  | [] => []
  | c :: rest => escapeAt first rest.isEmpty c ++ escapeFrom false rest

/-- A value as it is written. -/
def escape (value : Text) : Text := escapeFrom true value

namespace Attribute

/-- The attribute as it is written. -/
def written (a : Attribute) : Text := a.type ++ equals :: escape a.value

/-- The type is the one of common names, in whatever letter case. -/
def isCommonName (a : Attribute) : Bool := a.type.upper = "CN"

/-- The type is made of what types are made of, and there is a value. -/
structure WellFormed (a : Attribute) : Prop where
  type : ∀ c ∈ a.type, c.isKeyed = true
  value : a.value ≠ []

end Attribute

/-- A name as it is written. -/
def written (name : List Attribute) : Text := Text.join [comma] (name.map Attribute.written)

example : written [⟨"O", " Acme, #1"⟩, ⟨"CN", "client.internal"⟩]
    = "O=\\ Acme\\, #1,CN=client.internal" := by decide

/-- The value of the first attribute of the type of common names. -/
def firstCommonName (name : List Attribute) : Option Text :=
  (name.find? Attribute.isCommonName).map Attribute.value

/-! ## 2. What is found in them -/

/-- A value that is written as it is, and is trimmed. -/
structure Plain (value : Text) : Prop where
  ordinary : ∀ c ∈ value, c.isSpecial = false
  start : value.head? ≠ some hash
  trimmed : Text.Trimmed value

/-- A part of a name, between two commas, reads as a common name. -/
def ReadsAs (part commonName : Text) : Prop :=
  ∃ type value : Text, part.strip = type ++ equals :: value ∧ equals ∉ type
    ∧ type.strip.upper = "CN" ∧ value ≠ [] ∧ commonName = value.strip

namespace Attribute

/-- The parts of the value as it is written that come after a comma in it. -/
def laterParts (a : Attribute) : List Text := (Text.splitOn comma (escape a.value)).tail

/-- No part of the value after a comma reads as a common name. -/
def Concealed (a : Attribute) : Prop := ∀ part ∈ a.laterParts, ∀ n, ¬ ReadsAs part n

/-- The first part of the value after a comma that reads as a common name reads as this one. -/
def Exposes (a : Attribute) (commonName : Text) : Prop :=
  ∃ before part after, a.laterParts = before ++ part :: after
    ∧ (∀ p ∈ before, ∀ n, ¬ ReadsAs p n) ∧ ReadsAs part commonName

end Attribute

/-! ## 3. Escaping -/

/-- What is special is written with a backslash more. -/
theorem count_escapeAt {first last : Bool} {c : CodePoint} (h : isSpecialAt first last c = true) :
    List.count backslash [c] < List.count backslash (escapeAt first last c) := by
  rw [escapeAt, if_pos h]
  by_cases hnul : c.val = 0
  · have hne : c ≠ backslash := by
      rintro rfl
      exact absurd hnul (by decide)
    simp [hnul, hne]
  · simp [hnul]

/-- A value is written as it is, or with more backslashes than there are in it. -/
theorem escapeFrom_cases (first : Bool) (value : Text) :
    (escapeFrom first value = value ∧ (∀ c ∈ value, c.isSpecial = false)
        ∧ (first = true → value.head? ≠ some hash))
      ∨ value.count backslash < (escapeFrom first value).count backslash := by
  induction value generalizing first with
  | nil => simp [escapeFrom]
  | cons c rest ih =>
    have hcount :
        (c :: rest).count backslash = List.count backslash [c] + rest.count backslash := by
      rw [← List.singleton_append, List.count_append]
    rw [escapeFrom, List.count_append, hcount]
    cases hspecial : isSpecialAt first rest.isEmpty c with
    | true =>
      have hc := count_escapeAt hspecial
      rcases ih false with ⟨hrest, -, -⟩ | hrest
      · rw [hrest]
        exact Or.inr (by omega)
      · exact Or.inr (by omega)
    | false =>
      have hc : escapeAt first rest.isEmpty c = [c] := by rw [escapeAt, hspecial]; rfl
      rw [hc]
      simp only [isSpecialAt, Bool.or_eq_false_iff] at hspecial
      rcases ih false with ⟨hrest, hordinary, -⟩ | hrest
      · refine Or.inl ⟨by rw [hrest, List.singleton_append], ?_, ?_⟩
        · exact List.forall_mem_cons.mpr ⟨hspecial.1.1, hordinary⟩
        · rintro rfl hhash
          have hstart := hspecial.1.2
          simp_all
      · exact Or.inr (by omega)

/-- What is plain is written as it is. -/
theorem escapeFrom_eq_self {first : Bool} {value : Text}
    (hordinary : ∀ c ∈ value, c.isSpecial = false)
    (hstart : first = true → value.head? ≠ some space ∧ value.head? ≠ some hash)
    (hlast : value.getLast? ≠ some space) : escapeFrom first value = value := by
  induction value generalizing first with
  | nil => rfl
  | cons c rest ih =>
    obtain ⟨hc, hrest⟩ := List.forall_mem_cons.mp hordinary
    have hfirst : (first && (c = space || c = hash)) = false := by
      cases first with
      | false => rfl
      | true => simpa using hstart rfl
    have hend : (rest.isEmpty && c = space) = false := by
      cases rest with
      | nil => simpa using hlast
      | cons d rest => rfl
    have hwritten : escapeAt first rest.isEmpty c = [c] := by
      rw [escapeAt, isSpecialAt, hc, hfirst, hend]
      rfl
    have hlater : escapeFrom false rest = rest := by
      refine ih hrest (fun h => absurd h Bool.false_ne_true) fun hspace => hlast ?_
      rw [List.getLast?_cons, hspace]
      rfl
    rw [escapeFrom, hwritten, hlater, List.singleton_append]

theorem Plain.escape_eq {value : Text} (h : Plain value) : escape value = value := by
  have hspace : space.isBlank = true := by decide
  refine escapeFrom_eq_self h.ordinary (fun _ => ⟨fun hhead => ?_, h.start⟩) fun hlast => ?_
  · exact absurd hspace (ne_true_of_eq_false (h.trimmed.head space hhead))
  · exact absurd hspace (ne_true_of_eq_false (h.trimmed.last space hlast))

/-- Commas are written only for commas. -/
theorem comma_mem_of_mem_escapeFrom {first : Bool} {value : Text}
    (h : comma ∈ escapeFrom first value) : comma ∈ value := by
  induction value generalizing first with
  | nil => exact h
  | cons c rest ih =>
    rw [escapeFrom, List.mem_append] at h
    rcases h with hc | hrest
    · rw [escapeAt] at hc
      split at hc
      · split at hc
        · exact absurd hc (by decide)
        · rcases List.mem_cons.mp hc with hback | hc
          · exact absurd hback (by decide)
          · exact List.mem_cons.mpr (Or.inl (List.mem_singleton.mp hc))
      · exact List.mem_cons.mpr (Or.inl (List.mem_singleton.mp hc))
    · exact List.mem_cons_of_mem c (ih hrest)

/-! ## 4. One part -/

/-- The value of a part that reads as a common name is found. -/
theorem commonNameOfPart?_eq_some_iff {part n : Text} :
    commonNameOfPart? part = some n ↔ ReadsAs part n := by
  rw [commonNameOfPart?]
  constructor
  · intro h
    split at h
    · next name c value hcut =>
      obtain ⟨hpart, hnone⟩ := (Text.cut_eq_some_iff _ _ _ _).mp hcut
      split at h
      · next hname =>
        exact ⟨name, c :: value, hpart, hnone, hname, by simp, (Option.some.inj h).symm⟩
      · cases h
    · cases h
  · rintro ⟨name, value, hpart, hnone, hname, hne, rfl⟩
    have hcut := (Text.cut_eq_some_iff equals _ name value).mpr ⟨hpart, hnone⟩
    cases value with
    | nil => exact absurd rfl hne
    | cons c value =>
      rw [show CodePoint.ofNat 0x3D = equals from rfl, hcut]
      exact if_pos hname

theorem commonNameOfPart?_eq_none_iff {part : Text} :
    commonNameOfPart? part = none ↔ ∀ n, ¬ ReadsAs part n := by
  rw [Option.eq_none_iff_forall_ne_some]
  exact forall_congr' fun n => not_congr commonNameOfPart?_eq_some_iff

namespace Attribute

theorem concealed_iff (a : Attribute) :
    a.Concealed ↔ a.laterParts.findSome? commonNameOfPart? = none := by
  rw [List.findSome?_eq_none_iff]
  exact forall₂_congr fun part _ => commonNameOfPart?_eq_none_iff.symm

theorem exposes_iff (a : Attribute) (n : Text) :
    a.Exposes n ↔ a.laterParts.findSome? commonNameOfPart? = some n := by
  rw [List.findSome?_eq_some_iff]
  constructor
  · rintro ⟨before, part, after, hparts, hbefore, hpart⟩
    exact ⟨before, part, after, hparts, commonNameOfPart?_eq_some_iff.mpr hpart,
      fun p hp => commonNameOfPart?_eq_none_iff.mpr (hbefore p hp)⟩
  · rintro ⟨before, part, after, hparts, hpart, hbefore⟩
    exact ⟨before, part, after, hparts, fun p hp => commonNameOfPart?_eq_none_iff.mp (hbefore p hp),
      commonNameOfPart?_eq_some_iff.mp hpart⟩

instance (a : Attribute) : Decidable a.Concealed := decidable_of_iff' _ a.concealed_iff

instance (a : Attribute) (n : Text) : Decidable (a.Exposes n) :=
  decidable_of_iff' _ (a.exposes_iff n)

end Attribute

/-- What stands in a type is neither a blank nor a sign between attributes. -/
theorem of_isKeyed {c : CodePoint} (h : c.isKeyed = true) :
    c.isBlank = false ∧ c ≠ equals ∧ c ≠ comma := by
  have hall : ∀ n < 0x80, (CodePoint.ofNat n).isKeyed = true →
      (CodePoint.ofNat n).isBlank = false ∧ CodePoint.ofNat n ≠ equals
        ∧ CodePoint.ofNat n ≠ comma := by decide +kernel
  have hlt : c.val < 0x80 := by
    simp only [CodePoint.isKeyed, CodePoint.isAsciiDigit, Bool.or_eq_true, Bool.and_eq_true,
      decide_eq_true_eq] at h
    omega
  have hc := hall c.val hlt
  rw [CodePoint.ofNat_val] at hc
  exact hc h

/-- A part that begins with a type reads as a common name if the type is that and the rest is not
blank. -/
theorem commonNameOfPart?_typed {type : Text} (htype : ∀ c ∈ type, c.isKeyed = true) (rest : Text) :
    commonNameOfPart? (type ++ equals :: rest)
      = if type.upper = "CN" ∧ rest.strip ≠ [] then some rest.strip else none := by
  have htrimmed := Text.trimmed_strip rest
  obtain ⟨l, r, hrest, hl, hr⟩ := Text.exists_strip rest
  generalize rest.strip = value at hrest htrimmed ⊢
  subst hrest
  have hkey : Text.Trimmed (type ++ [equals]) := by
    refine Text.trimmed_of_forall fun c hc => ?_
    rcases List.mem_append.mp hc with hc | hc
    · exact (of_isKeyed (htype c hc)).1
    · rw [List.mem_singleton.mp hc]
      decide
  have hequals : equals ∉ type := fun h => (of_isKeyed (htype equals h)).2.1 rfl
  have hname : type.strip = type :=
    Text.strip_of_trimmed (Text.trimmed_of_forall fun c hc => (of_isKeyed (htype c hc)).1)
  rw [commonNameOfPart?, show CodePoint.ofNat 0x3D = equals from rfl]
  by_cases hblank : value = []
  · subst hblank
    have hpart : Text.strip (type ++ equals :: (l ++ [] ++ r)) = type ++ [equals] := by
      have hall : ∀ c ∈ l ++ r, c.isBlank = true := by
        intro c hc
        exact (List.mem_append.mp hc).elim (hl c) (hr c)
      simpa using Text.strip_append (l := []) hkey (by simp) (by simp) hall
    have hcut := (Text.cut_eq_some_iff equals (type ++ [equals]) type []).mpr ⟨rfl, hequals⟩
    rw [hpart, hcut, if_neg (fun h => h.2 rfl)]
  · have hends := hkey.between htrimmed (by simp) hblank l
    have hpart :
        Text.strip (type ++ equals :: (l ++ value ++ r)) = type ++ equals :: (l ++ value) := by
      simpa using Text.strip_append (l := []) hends (by simp) (by simp) hr
    have hcut := (Text.cut_eq_some_iff equals _ type (l ++ value)).mpr ⟨rfl, hequals⟩
    have hvalue : Text.strip (l ++ value) = value := by
      simpa using Text.strip_append (r := []) htrimmed hblank hl (by simp)
    rw [hpart, hcut]
    cases hfilled : l ++ value with
    | nil => exact absurd (List.append_eq_nil_iff.mp hfilled).2 hblank
    | cons c tail =>
      rw [hfilled] at hvalue
      simp only [hname, hvalue, hblank, ne_eq, not_false_eq_true, and_true]

/-! ## 5. One attribute -/

theorem findSome?_cons_eq_or {α β : Type} (f : α → Option β) (a : α) (rest : List α) :
    (a :: rest).findSome? f = (f a).or (rest.findSome? f) := by
  rw [List.findSome?_cons]
  cases f a <;> simp

/-- Every common name that is found is trimmed. -/
theorem trimmed_of_commonName? {name n : Text} (h : commonName? name = some n) :
    Text.Trimmed n := by
  obtain ⟨part, -, hpart⟩ := List.exists_of_findSome?_eq_some h
  obtain ⟨type, value, -, -, -, -, rfl⟩ := commonNameOfPart?_eq_some_iff.mp hpart
  exact Text.trimmed_strip value

/-- A plain value begins with what is no blank, and its first part therefore too. -/
theorem strip_firstPart_ne_nil {value part : Text} {later : List Text} (hne : value ≠ [])
    (ht : Text.Trimmed value) (hparts : Text.splitOn comma (escape value) = part :: later) :
    part.strip ≠ [] := by
  obtain ⟨c, rest, rfl⟩ := List.exists_cons_of_ne_nil hne
  have hblank : c.isBlank = false := ht.head c rfl
  obtain ⟨d, tail, hescape, hd, hcomma⟩ : ∃ d tail, escape (c :: rest) = d :: tail
      ∧ d.isBlank = false ∧ d ≠ comma := by
    rw [escape, escapeFrom, escapeAt]
    cases hspecial : isSpecialAt true rest.isEmpty c with
    | true => exact ⟨backslash, _, rfl, by decide, by decide⟩
    | false =>
      refine ⟨c, _, rfl, hblank, ?_⟩
      rintro rfl
      simp only [isSpecialAt, Bool.or_eq_false_iff] at hspecial
      exact absurd hspecial.1.1 (by decide)
  cases hrest : Text.splitOn comma tail with
  | nil => exact absurd hrest (Text.splitOn_ne_nil comma tail)
  | cons piece pieces =>
    have hprepend := Text.splitOn_prepend (s := [d]) (by simpa using Ne.symm hcomma) hrest
    rw [hescape, show d :: tail = [d] ++ tail from rfl, hprepend] at hparts
    have hmem : d ∈ part := by
      rw [← (List.cons.inj hparts).1]
      simp
    exact List.ne_nil_of_mem (Text.mem_strip hmem hd)

namespace Attribute

section Written

variable {a : Attribute} (h : a.WellFormed)

include h

/-- The first part of an attribute begins with its type. -/
theorem WellFormed.exists_firstPart : ∃ part,
    Text.splitOn comma (escape a.value) = part :: a.laterParts
      ∧ commonName? a.written = (commonNameOfPart? (a.type ++ equals :: part)).or
        (a.laterParts.findSome? commonNameOfPart?) := by
  have hkey : comma ∉ a.type ++ [equals] := by
    intro hmem
    rcases List.mem_append.mp hmem with hmem | hmem
    · exact (of_isKeyed (h.type comma hmem)).2.2 rfl
    · exact absurd (List.mem_singleton.mp hmem) (by decide)
  cases hparts : Text.splitOn comma (escape a.value) with
  | nil => exact absurd hparts (Text.splitOn_ne_nil comma (escape a.value))
  | cons part later =>
    have hlater : a.laterParts = later := congrArg List.tail hparts
    have hwritten := Text.splitOn_prepend hkey hparts
    refine ⟨part, by rw [hlater], ?_⟩
    rw [commonName?, written, hlater]
    simp only [List.append_assoc, List.singleton_append] at hwritten
    rw [hwritten, findSome?_cons_eq_or]

/-- In an attribute of another type only the later parts are looked at, so what is found in it is
what it exposes. -/
theorem WellFormed.commonName?_of_other (hother : a.isCommonName = false) :
    commonName? a.written = a.laterParts.findSome? commonNameOfPart? := by
  obtain ⟨part, -, hfound⟩ := h.exists_firstPart
  have htype : a.type.upper ≠ "CN" := of_decide_eq_false hother
  rw [hfound, commonNameOfPart?_typed h.type, if_neg (fun hboth => htype hboth.1), Option.none_or]

/-- **The value of a common name is found** exactly if it is plain, whatever is found later. -/
theorem WellFormed.commonName?_eq_value_iff (hcommon : a.isCommonName = true) {later : Option Text}
    (hlater : ∀ n, later = some n → Text.Trimmed n) :
    (commonName? a.written).or later = some a.value ↔ Plain a.value := by
  obtain ⟨part, hparts, hfound⟩ := h.exists_firstPart
  have htype : a.type.upper = "CN" := of_decide_eq_true hcommon
  rw [commonNameOfPart?_typed h.type] at hfound
  constructor
  · intro heq
    have htrimmed : Text.Trimmed a.value := by
      rcases Option.or_eq_some_iff.mp heq with hname | ⟨-, hname⟩
      · exact trimmed_of_commonName? hname
      · exact hlater _ hname
    have hstrip := strip_firstPart_ne_nil h.value htrimmed hparts
    rw [hfound, if_pos ⟨htype, hstrip⟩, Option.some_or, Option.some_or, Option.some.injEq] at heq
    have hcomma : comma ∉ a.value := by
      intro hmem
      rw [← heq] at hmem
      exact Text.notMem_of_mem_splitOn (hparts ▸ List.mem_cons_self) (Text.mem_of_mem_strip hmem)
    have hwhole : part = escape a.value := by
      have hsingle : Text.splitOn comma (escape a.value) = [escape a.value] :=
        Text.splitOn_of_notMem (mt comma_mem_of_mem_escapeFrom hcomma)
      exact (List.cons.inj (hparts.symm.trans hsingle)).1
    -- Trimming takes no backslash away, so none can have been added.
    have hcount : (escape a.value).count backslash = a.value.count backslash := by
      rw [← hwhole, ← Text.count_strip (by decide) part, heq]
    rcases escapeFrom_cases true a.value with ⟨-, hordinary, hstart⟩ | hlt
    · exact ⟨hordinary, hstart rfl, htrimmed⟩
    · exact absurd hcount (Nat.ne_of_gt hlt)
  · intro hplain
    have hcomma : comma ∉ a.value := fun hmem =>
      absurd (hplain.ordinary comma hmem) (by decide)
    rw [hplain.escape_eq, Text.splitOn_of_notMem hcomma] at hparts
    rw [hfound, ← (List.cons.inj hparts).1, Text.strip_of_trimmed hplain.trimmed,
      if_pos ⟨htype, h.value⟩, Option.some_or, Option.some_or]

end Written

end Attribute

/-! ## 6. Whole names -/

/-- A name is looked through one attribute after the other. -/
theorem commonName?_eq_findSome? (name : List Attribute) :
    commonName? (written name) = name.findSome? fun a => commonName? a.written := by
  induction name with
  | nil => decide
  | cons a rest ih =>
    cases rest with
    | nil =>
      rw [List.findSome?_singleton]
      rfl
    | cons b rest =>
      have hwritten : written (a :: b :: rest) = a.written ++ comma :: written (b :: rest) := by
        simp [written, Text.join]
      have happend : commonName? (a.written ++ comma :: written (b :: rest))
          = (commonName? a.written).or (commonName? (written (b :: rest))) := by
        rw [commonName?, Text.splitOn_append_cons, List.findSome?_append]
        rfl
      rw [hwritten, happend, ih, findSome?_cons_eq_or _ a]

/-- The attributes before the first of the type of common names. -/
def leading (name : List Attribute) : List Attribute :=
  name.takeWhile fun a => !a.isCommonName

theorem findSome?_written_eq_none {leading : List Attribute}
    (hother : ∀ a ∈ leading, a.WellFormed ∧ a.isCommonName = false)
    (hconcealed : ∀ a ∈ leading, a.Concealed) :
    leading.findSome? (fun a => commonName? a.written) = none := by
  refine List.findSome?_eq_none_iff.mpr fun a ha => ?_
  rw [(hother a ha).1.commonName?_of_other (hother a ha).2]
  exact a.concealed_iff.mp (hconcealed a ha)

/-- **What is found as the common name** of a name as it is written is the value of its first
attribute of that type exactly if it is plain, or none if there is no such attribute, provided that
every value before conceals what it holds.  If one does not, what the first of them exposes is found
instead. -/
theorem commonName_written {name : List Attribute} (h : ∀ a ∈ name, a.WellFormed) :
    ((∀ a ∈ leading name, a.Concealed) →
      (commonName? (written name) = firstCommonName name
        ↔ ∀ value, firstCommonName name = some value → Plain value))
    ∧ ∀ before a after n, leading name = before ++ a :: after → (∀ b ∈ before, b.Concealed) →
      a.Exposes n → commonName? (written name) = some n := by
  have hsplit : name = leading name ++ name.dropWhile fun a => !a.isCommonName :=
    List.takeWhile_append_dropWhile.symm
  have hother : ∀ a ∈ leading name, a.WellFormed ∧ a.isCommonName = false := by
    intro a ha
    refine ⟨h a ?_, by simpa using List.mem_takeWhile_imp (p := (!Attribute.isCommonName ·)) ha⟩
    rw [hsplit]
    exact List.mem_append_left _ ha
  have hfound : commonName? (written name)
      = ((leading name).findSome? fun a => commonName? a.written).or
        ((name.dropWhile fun a => !a.isCommonName).findSome? fun a => commonName? a.written) := by
    rw [commonName?_eq_findSome?, ← List.findSome?_append, ← hsplit]
  constructor
  · intro hconcealed
    rw [hfound, findSome?_written_eq_none hother hconcealed, Option.none_or, firstCommonName,
      List.find?_eq_head?_dropWhile_not]
    have hcommon := List.head?_dropWhile_not (fun a => !a.isCommonName) name
    cases hrest : name.dropWhile fun a => !a.isCommonName with
    | nil => simp
    | cons a after =>
      rw [hrest] at hcommon
      have hwell : a.WellFormed := by
        refine h a ?_
        rw [hsplit, hrest]
        simp
      have hlater : ∀ n, (after.findSome? fun a => commonName? a.written) = some n →
          Text.Trimmed n := by
        intro n hn
        obtain ⟨b, -, hb⟩ := List.exists_of_findSome?_eq_some hn
        exact trimmed_of_commonName? hb
      have hiff := hwell.commonName?_eq_value_iff (by simpa using hcommon) hlater
      rw [findSome?_cons_eq_or]
      simpa using hiff
  · intro before a after n hleading hconcealed hexposes
    have hbefore := findSome?_written_eq_none
      (fun b hb => hother b (hleading ▸ List.mem_append_left _ hb)) hconcealed
    obtain ⟨hwell, hnot⟩ := hother a (hleading ▸ by simp)
    have hname : commonName? a.written = some n :=
      (hwell.commonName?_of_other hnot).trans ((a.exposes_iff n).mp hexposes)
    rw [hfound, hleading, List.findSome?_append, hbefore, Option.none_or, List.findSome?_cons,
      hname, Option.some_or]

/-- An organisation with a comma in its name. -/
def company : Attribute := ⟨"O", "Acme, Inc."⟩

/-- An organisation with a name that reads as the common name of somebody else. -/
def impostor : Attribute := ⟨"O", "Acme,CN=client.internal"⟩

/-- The attribute of a common name. -/
def partner : Attribute := ⟨"CN", "partner.example"⟩

theorem wellFormed_of_mem {a : Attribute} (h : a ∈ [company, impostor, partner]) :
    a.WellFormed := by
  simp only [List.mem_cons, List.not_mem_nil, or_false] at h
  rcases h with rfl | rfl | rfl
  all_goals exact ⟨by decide, by decide⟩

theorem plain_partner : Plain partner.value := by
  refine ⟨by decide, by decide, ?_, ?_⟩
  · rintro c ⟨⟩
    decide
  · rintro c ⟨⟩
    decide

/-- A common name is found behind a comma in a value, and not behind one that exposes another. -/
theorem commonName_written_partner :
    (commonName? (written [company, partner]) = firstCommonName [company, partner])
      ∧ commonName? (written [company, impostor, partner]) = some ("client.internal" : Text) := by
  have hconcealed : company.Concealed := by decide
  have hexposes : impostor.Exposes "client.internal" := by decide
  constructor
  · have hall : ∀ a ∈ [company, partner], a.WellFormed := fun a ha => wellFormed_of_mem (by
      simp only [List.mem_cons] at ha ⊢
      tauto)
    refine ((commonName_written hall).1 ?_).mpr ?_
    · intro a ha
      rw [List.mem_singleton.mp (show a ∈ [company] from ha)]
      exact hconcealed
    · rintro value ⟨⟩
      exact plain_partner
  · have hall : ∀ a ∈ [company, impostor, partner], a.WellFormed := fun a ha => wellFormed_of_mem ha
    refine (commonName_written hall).2 [company] impostor [] _ rfl ?_ hexposes
    intro b hb
    rw [List.mem_singleton.mp hb]
    exact hconcealed

/-- **A name without a common name** has one, if a value says so. -/
theorem commonName_written_impostor :
    (∀ a ∈ [impostor], a.WellFormed) ∧ firstCommonName [impostor] = none
      ∧ commonName? (written [impostor]) = some ("client.internal" : Text) := by
  refine ⟨fun a ha => wellFormed_of_mem ?_, rfl, by decide⟩
  rw [List.mem_singleton.mp ha]
  simp

end Peer

end Portcullis
