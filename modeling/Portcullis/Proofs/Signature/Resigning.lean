/-
# Signing again

The signature of an object is no part of what is signed.  So signing does not depend on the
signature that an object brings, whether or not that one has a text, and an object that is signed
again is what it would be had it not been signed before.

Only the signature at the top is left out.  Those in nested objects are signed like everything else:
where one of them is exchanged (`Json.Exchanged`), another message is signed, and the signature is
accepted for both only if it is one for the two of them (`Signature.Collide`).

**Main statement.**  `signObject_signed`.
-/
import Portcullis.Proofs.Signature.Checking

namespace Portcullis

/-! ## 1. A member in its place -/

namespace Members

/-- The second members are the first with a value set under a name: in the place of the value that
stands there, or at the end. -/
inductive Placed (k : Text) (v : Json) : Members → Members → Prop
  | inPlace {before after : Members} (old : Json) (first : k ∉ before.map Prod.fst) :
      Placed k v (before ++ (k, old) :: after) (before ++ (k, v) :: after)
  | atEnd {ms : Members} (fresh : k ∉ ms.map Prod.fst) : Placed k v ms (ms ++ [(k, v)])

theorem Placed.cons {k : Text} {v : Json} {ms ns : Members} (h : Placed k v ms ns)
    {m : Text × Json} (hm : k ≠ m.1) : Placed k v (m :: ms) (m :: ns) := by
  cases h with
  | @inPlace before after old first =>
    have hfirst : k ∉ (m :: before).map Prod.fst := by
      simp only [List.map_cons, List.mem_cons, not_or]
      exact ⟨hm, first⟩
    exact .inPlace old hfirst
  | atEnd fresh =>
    refine .atEnd ?_
    simp only [List.map_cons, List.mem_cons, not_or]
    exact ⟨hm, fresh⟩

theorem placed_set (k : Text) (v : Json) (ms : Members) : Placed k v ms (set k v ms) := by
  induction ms with
  | nil => exact .atEnd (by simp)
  | cons m ms ih =>
    obtain ⟨l, u⟩ := m
    by_cases h : l = k
    · subst h
      have hplaced : Placed l v ([] ++ (l, u) :: ms) ([] ++ (l, v) :: ms) :=
        .inPlace u List.not_mem_nil
      simpa [set] using hplaced
    · simpa [set, h] using ih.cons (m := (l, u)) (Ne.symm h)

end Members

/-! ## 2. Nested signatures -/

namespace Json

open Signature

/-- The second value is the first with one signature in it, at some depth, exchanged for another. -/
inductive Exchanged (old new : Json) : Json → Json → Prop
  | here {ms : Members} (h : Members.get? field ms = some old) :
      Exchanged old new (.object ms) (.object (Members.set field new ms))
  | member {ms : Members} {k : Text} {v w : Json} (hv : Members.get? k ms = some v)
      (h : Exchanged old new v w) : Exchanged old new (.object ms) (.object (Members.set k w ms))
  | item {v w : Json} (before after : List Json) (h : Exchanged old new v w) :
      Exchanged old new (.list (before ++ v :: after)) (.list (before ++ w :: after))

section Exchanged

variable {old new v w : Json}

theorem Exchanged.uniqueNames (h : Exchanged old new v w) (hv : UniqueNames v)
    (hnew : UniqueNames new) : UniqueNames w := by
  induction h with
  | here _ => exact hv.set field hnew
  | @member ms k v w hget _ ih =>
    exact hv.set k (ih (hv.of_object (k, v) ((Members.get?_eq_some_iff hv.names k v).mp hget)))
  | item before after _ ih =>
    refine .list fun u hu => ?_
    rcases List.mem_append.mp hu with hu | hu
    · exact hv.of_list u (List.mem_append_left _ hu)
    · rcases List.mem_cons.mp hu with rfl | hu
      · exact ih (hv.of_list _ (by simp))
      · exact hv.of_list u (by simp [hu])

/-- **Where a signature is exchanged for another the tree changes.** -/
theorem Exchanged.sameTree (h : Exchanged old new v w) (hv : UniqueNames v)
    (hsame : SameTree v w) : SameTree old new := by
  induction h with
  | here hget =>
    obtain ⟨u, hu, htree⟩ := hsame.get? hv hget
    rw [Members.get?_set_self] at hu
    obtain rfl := Option.some.inj hu
    exact htree
  | @member ms k v w hget _ ih =>
    obtain ⟨u, hu, htree⟩ := hsame.get? hv hget
    rw [Members.get?_set_self] at hu
    obtain rfl := Option.some.inj hu
    exact ih (hv.of_object (k, v) ((Members.get?_eq_some_iff hv.names k v).mp hget)) htree
  | @item v w before after _ ih =>
    have hsorted := hsame.sorted_eq hv
    simp only [sorted_list, List.map_append, List.map_cons, Json.list.injEq,
      List.append_cancel_left_eq, List.cons.injEq, and_true] at hsorted
    exact ih (hv.of_list v (by simp)) (sameTree_of_sorted_eq hsorted)

end Exchanged

end Json

namespace Signature

open Json

/-! ## 3. What is signed -/

/-- The signature that an object brings is no part of what is signed. -/
theorem canonical_set (signature : Json) (ms : Members) :
    canonical .standard (.json (.object (Members.set field signature ms)))
      = canonical .standard (.json (.object ms)) := by
  rw [← canonical_erase, Members.erase_set, canonical_erase]

theorem sign_set (secret : Text) (signature : Json) (ms : Members) :
    sign .standard secret (.json (.object (Members.set field signature ms)))
      = sign .standard secret (.json (.object ms)) := by
  simp only [sign, canonical_set]

/-- **Signing forgets the signature that an object brings.** -/
theorem signObject_set (secret : Text) (signature : Json) (ms : Members) :
    signObject secret (Members.set field signature ms) = signObject secret ms := by
  simp only [signObject, sign_set, Members.set_set]

/-! ## 4. What a signature covers -/

/-- Different messages are signed for the two objects, and they have one signature. -/
def Collide (secret : Text) (ms ns : Members) : Prop :=
  ∃ key b c, secret.utf8? = some key ∧ canonical .standard (.json (.object ms)) = .ok b
    ∧ canonical .standard (.json (.object ns)) = .ok c ∧ b ≠ c
    ∧ Bytes.hex (Hash.sha256.hmac key b) = Bytes.hex (Hash.sha256.hmac key c)

section Covered

variable {secret signature : Text} {ms ns : Members}

/-- **A signature is accepted for another tree** only if the two collide. -/
theorem collide_of_verify (hms : UniqueNames (.object ms)) (hns : UniqueNames (.object ns))
    (hsign : sign .standard secret (.json (.object ms)) = .ok signature)
    (hverify : verify .standard secret (.json (.object ns)) (.text signature) = true)
    (hother : ¬ SameTree (.object (Members.erase field ms)) (.object (Members.erase field ns))) :
    Collide secret ms ns := by
  obtain ⟨key, b, hkey, hb, rfl⟩ := (sign_eq_ok_iff _ _ _ _).mp hsign
  obtain ⟨digits, key', c, hdigits, hkey', hc, hspells⟩ := (verify_iff _ _ _ _).mp hverify
  obtain rfl : key = key' := Option.some.inj (hkey.symm.trans hkey')
  rw [presentedDigits_standard (Hash.hex_hmac_ne_nil _ key b), Option.some.injEq] at hdigits
  subst hdigits
  rw [Text.asciiLower_hex] at hspells
  refine ⟨key, b, c, hkey, hb, hc, ?_, hspells⟩
  rintro rfl
  exact hother (sameTree_of_canonical hms hns hb hc)

/-- Where a nested signature is exchanged for another, the objects are different trees. -/
theorem not_sameTree_of_exchanged (hms : UniqueNames (.object ms)) {k : Text} {v w old new : Json}
    (hk : k ≠ field) (hv : Members.get? k ms = some v) (hexchanged : Exchanged old new v w)
    (hother : ¬ SameTree old new) :
    ¬ SameTree (.object (Members.erase field ms)) (.object (Members.erase field
      (Members.set k w (Members.set field (.text signature) ms)))) := by
  intro hsame
  obtain ⟨u, hu, htree⟩ := hsame.get? (hms.erase field) ((Members.get?_erase_of_ne hk ms).trans hv)
  rw [Members.get?_erase_of_ne hk, Members.get?_set_self] at hu
  obtain rfl := Option.some.inj hu
  have hvnames : UniqueNames v :=
    hms.of_object (k, v) ((Members.get?_eq_some_iff hms.names k v).mp hv)
  exact hother (hexchanged.sameTree hvnames htree)

end Covered

/-- **Signing an object sets its signature and nothing else**, in the place of the one it brings or
at the end, and the signature is accepted for it.  Whatever signature it brings is forgotten, also
one that was made by signing.  A signature inside is covered: where it is exchanged for another, the
outer one is accepted only if the two objects collide. -/
theorem signObject_signed {secret : Text} {ms signed : Members} (names : UniqueNames (.object ms))
    (h : signObject secret ms = .ok signed) :
    (∃ signature, Members.Placed field (.text signature) ms signed
        ∧ verify .standard secret (.json (.object signed)) (.text signature) = true
        ∧ ∀ k v w old new, k ≠ field → Members.get? k ms = some v → Exchanged old new v w →
          UniqueNames new → ¬ SameTree old new →
          verify .standard secret (.json (.object (Members.set k w signed))) (.text signature)
            = true → Collide secret ms (Members.set k w signed))
      ∧ (∀ stale, signObject secret (Members.set field stale ms) = .ok signed)
      ∧ ∀ other, signObject other signed = signObject other ms := by
  obtain ⟨signature, hsign, hsigned⟩ := bind_eq_ok h
  obtain rfl := Except.ok.inj hsigned
  refine ⟨⟨signature, Members.placed_set field _ ms, ?_, ?_⟩, ?_, ?_⟩
  · exact verify_sign ((sign_set secret _ ms).trans hsign)
  · intro k v w old new hk hv hexchanged hnew hother hverify
    have hvnames : UniqueNames v :=
      names.of_object (k, v) ((Members.get?_eq_some_iff names.names k v).mp hv)
    have hwnames : UniqueNames w := hexchanged.uniqueNames hvnames hnew
    exact collide_of_verify names ((names.set field (.atom rfl)).set k hwnames) hsign hverify
      (not_sameTree_of_exchanged names hk hv hexchanged hother)
  · intro stale
    rw [signObject_set, h]
  · intro other
    exact signObject_set other _ ms

/-- An object with a signature that has no octets, and one in an object inside. -/
def staleOrder : Members :=
  [("signature", .text [CodePoint.ofNat 0xD800]), ("quantity", .int 1),
    ("item", .object [("signature", .text "inner")])]

theorem signObject_staleOrder :
    ∃ signed, signObject "secret" staleOrder = .ok signed
      ∧ (∀ stale, signObject "secret" (Members.set field stale staleOrder) = .ok signed)
      ∧ ∀ other, signObject other signed = signObject other staleOrder := by
  have hform : canonical .standard (.json (.object staleOrder)) = .ok (Bytes.ofAscii
      "\x7b\"item\":\x7b\"signature\":\"inner\"\x7d,\"quantity\":1\x7d") := by rfl
  have hkey : Text.utf8? "secret" = some (Bytes.ofAscii "secret") := by decide
  obtain ⟨signed, hsigned⟩ : ∃ signed, signObject "secret" staleOrder = .ok signed :=
    ⟨_, (signObject_eq_ok_iff _ _ _).mpr ⟨_, _, hkey, hform, rfl⟩⟩
  exact ⟨signed, hsigned, (signObject_signed (by decide) hsigned).2⟩

end Signature

end Portcullis
