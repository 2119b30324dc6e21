/-
# Reading what was printed

From a state in which a value may come, the reader takes the tokens of a value to the state in which
that value is complete (`foldlM_tokensOf`), with the names that meet in an object merged.  The stack
at that point is what the depth of the value is measured against, so the induction is over all
stacks that leave enough room.

**Main statements.**  `read_print`: a value is read as what is heard of it in the alphabet it was
printed in; and `read_print_writable`: a writable value whose names are unique is read as it was
printed.
-/
import Portcullis.Json.Reader
import Portcullis.Proofs.Json.Scanning

namespace Portcullis.Json

/-! ## 1. Taking tokens in turn -/

namespace Reading

theorem foldlM_cons_ok {r r' : Reading} {token : Token} (h : r.step token = .ok r')
    (ts : List Token) : (token :: ts).foldlM step r = ts.foldlM step r' := by
  rw [List.foldlM_cons, h]
  rfl

theorem foldlM_append_ok {r r' : Reading} {ts : List Token} (h : ts.foldlM step r = .ok r')
    (us : List Token) : (ts ++ us).foldlM step r = us.foldlM step r' := by
  rw [List.foldlM_append, h]
  rfl

/-- The tokens of a value complete it, merged, on every stack that leaves room for its depth. -/
def Completes (n : Nat) (v : Json) : Prop :=
  ∀ stack b, stack.length + n ≤ maxDepth →
    (tokensOf v).foldlM step ⟨stack, .value b⟩ = .ok (complete stack v.merged)

theorem completes_atom (n : Nat) {v : Json} (hv : v.isAtom = true) : Completes n v := by
  intro stack b _
  have hstep : step ⟨stack, .value b⟩ (atomToken v) = .ok (complete stack v) := by
    cases v with
    | list items => exact absurd hv Bool.false_ne_true
    | object ms => exact absurd hv Bool.false_ne_true
    | _ =>
      cases b with
      | false => rfl
      | true => rfl
  rw [tokensOf_atom hv, merged_atom hv, foldlM_cons_ok hstep]
  rfl

/-! ## 2. Items -/

theorem step_openList (stack : List Frame) (b : Bool) (h : stack.length < maxDepth) :
    step ⟨stack, .value b⟩ .openList = .ok ⟨.list [] :: stack, .value true⟩ := by
  have hbegin : beginValue stack .openList = .ok ⟨.list [] :: stack, .value true⟩ := if_pos h
  cases b with
  | false => exact hbegin
  | true => exact hbegin

/-- The items are put behind those that the list has. -/
theorem foldlM_itemTokens {n : Nat} {items : List Json} (h : ∀ v ∈ items, Completes n v)
    (hne : items ≠ []) {stack : List Frame} (hroom : stack.length + 1 + n ≤ maxDepth) :
    ∀ done b, (itemTokens items).foldlM step ⟨.list done :: stack, .value b⟩
      = .ok ⟨.list ((items.map merged).reverse ++ done) :: stack, .separator⟩ := by
  induction items with
  | nil => exact absurd rfl hne
  | cons v rest ih =>
    intro done b
    obtain ⟨hv, hrest⟩ := List.forall_mem_cons.mp h
    have hfirst := hv (.list done :: stack) b hroom
    cases rest with
    | nil => exact hfirst
    | cons w rest =>
      have hcomma : step ⟨.list (v.merged :: done) :: stack, .separator⟩ .comma
          = .ok ⟨.list (v.merged :: done) :: stack, .value false⟩ := rfl
      have htokens : itemTokens (v :: w :: rest)
          = tokensOf v ++ .comma :: itemTokens (w :: rest) := rfl
      have horder : ((v :: w :: rest).map merged).reverse ++ done
          = ((w :: rest).map merged).reverse ++ v.merged :: done := by simp
      rw [htokens, foldlM_append_ok hfirst, complete, foldlM_cons_ok hcomma,
        ih hrest (List.cons_ne_nil w rest), horder]

theorem completes_list {n : Nat} {items : List Json} (h : ∀ v ∈ items, Completes n v) :
    Completes (n + 1) (.list items) := by
  intro stack b hroom
  rw [tokensOf, List.cons_append, foldlM_cons_ok (step_openList stack b (by omega))]
  by_cases hne : items = []
  · subst hne
    rfl
  · rw [foldlM_append_ok (foldlM_itemTokens h hne (by omega) [] true), List.append_nil]
    have hclose : step ⟨.list (items.map merged).reverse :: stack, .separator⟩ .closeList
        = .ok (complete stack (.list (items.map merged).reverse.reverse)) := rfl
    rw [foldlM_cons_ok hclose, List.reverse_reverse, merged_list]
    rfl

/-! ## 3. Members -/

theorem step_openObject (stack : List Frame) (b : Bool) (h : stack.length < maxDepth) :
    step ⟨stack, .value b⟩ .openObject = .ok ⟨stack, .name [] true⟩ := by
  have hbegin : beginValue stack .openObject = .ok ⟨stack, .name [] true⟩ := if_pos h
  cases b with
  | false => exact hbegin
  | true => exact hbegin

/-- A name, a colon and a value make a member. -/
theorem foldlM_member {n : Nat} (k : Text) {v : Json} (hv : Completes n v) {stack : List Frame}
    (hroom : stack.length + 1 + n ≤ maxDepth) (done : Members) (b : Bool) :
    (Token.text k :: .colon :: tokensOf v).foldlM step ⟨stack, .name done b⟩
      = .ok ⟨.object ((k, v.merged) :: done) k :: stack, .separator⟩ := by
  have hname : step ⟨stack, .name done b⟩ (.text k) = .ok ⟨stack, .colon done k⟩ := by
    cases b with
    | false => rfl
    | true => rfl
  have hcolon : step ⟨stack, .colon done k⟩ .colon = .ok ⟨.object done k :: stack, .value false⟩ :=
    rfl
  rw [foldlM_cons_ok hname, foldlM_cons_ok hcolon]
  exact hv (.object done k :: stack) false hroom

/-- The members are put behind those that the object has. -/
theorem foldlM_memberTokens {n : Nat} {ms : Members} (h : ∀ m ∈ ms, Completes n m.2)
    (hne : ms ≠ []) {stack : List Frame} (hroom : stack.length + 1 + n ≤ maxDepth) :
    ∀ done b, ∃ name, (memberTokens ms).foldlM step ⟨stack, .name done b⟩
      = .ok ⟨.object ((ms.map mergedMember).reverse ++ done) name :: stack, .separator⟩ := by
  induction ms with
  | nil => exact absurd rfl hne
  | cons m rest ih =>
    intro done b
    obtain ⟨k, v⟩ := m
    obtain ⟨hv, hrest⟩ := List.forall_mem_cons.mp h
    have hfirst := foldlM_member k hv hroom done b
    cases rest with
    | nil => exact ⟨k, hfirst⟩
    | cons n rest =>
      have hcomma : step ⟨.object ((k, v.merged) :: done) k :: stack, .separator⟩ .comma
          = .ok ⟨stack, .name ((k, v.merged) :: done) false⟩ := rfl
      have htokens : memberTokens ((k, v) :: n :: rest)
          = (.text k :: .colon :: tokensOf v) ++ .comma :: memberTokens (n :: rest) := rfl
      obtain ⟨name, hname⟩ := ih hrest (List.cons_ne_nil n rest) ((k, v.merged) :: done) false
      have horder : (((k, v) :: n :: rest).map mergedMember).reverse ++ done
          = ((n :: rest).map mergedMember).reverse ++ (k, v.merged) :: done := by
        simp [mergedMember]
      refine ⟨name, ?_⟩
      rw [htokens, foldlM_append_ok hfirst, foldlM_cons_ok hcomma, hname, horder]

theorem completes_object {n : Nat} {ms : Members} (h : ∀ m ∈ ms, Completes n m.2) :
    Completes (n + 1) (.object ms) := by
  intro stack b hroom
  rw [tokensOf, List.cons_append, foldlM_cons_ok (step_openObject stack b (by omega)),
    merged_object]
  by_cases hne : ms = []
  · subst hne
    rfl
  · obtain ⟨name, hmembers⟩ := foldlM_memberTokens h hne
      (show stack.length + 1 + n ≤ maxDepth by omega) [] true
    have hclose : step ⟨.object (ms.map mergedMember).reverse name :: stack, .separator⟩
        .closeObject = .ok (complete stack
          (.object (Members.ofPairs (ms.map mergedMember).reverse.reverse))) := rfl
    rw [foldlM_append_ok hmembers, List.append_nil, foldlM_cons_ok hclose, List.reverse_reverse]
    rfl

/-- A value that nests so deep at most is completed by its tokens. -/
theorem foldlM_tokensOf {n : Nat} {v : Json} (h : v.nestsWithin n = true) : Completes n v := by
  induction v using byParts generalizing n with
  | atom v hv => exact completes_atom n hv
  | list items ih =>
    cases n with
    | zero => cases h
    | succ n =>
      rw [nestsWithin, List.all_eq_true] at h
      exact completes_list fun v hv => ih v hv (h v hv)
  | object ms ih =>
    cases n with
    | zero => cases h
    | succ n =>
      rw [nestsWithin, List.all_eq_true] at h
      exact completes_object fun m hm => ih m hm (h m hm)

end Reading

/-! ## 4. Documents -/

/-- **A printed value is read back as what is heard of it.** -/
theorem read_print (a : Alphabet) {v : Json} (nests : v.nestsWithin maxDepth = true)
    (fits : v.integersFit = true) : read (print a v) = .ok (v.readBack a) := by
  have hfold : (tokensOf (v.heard a)).foldlM Reading.step Reading.initial
      = .ok ⟨[], .nothing (v.readBack a)⟩ :=
    Reading.foldlM_tokensOf ((nestsWithin_heard a).trans nests) [] false
      (Nat.le_of_eq (Nat.zero_add maxDepth))
  rw [read, tokens_print a fits, ofTokens, hfold]
  rfl

/-- **A writable value whose names are unique is read as it was printed.** -/
theorem read_print_writable (a : Alphabet) {v : Json} (h : Writable maxDepth v)
    (names : UniqueNames v) : read (print a v) = .ok v := by
  obtain ⟨nests, -, fits, -⟩ := writable_iff.mp h
  rw [read_print a nests fits, readBack_eq_self a h.unpaired names]

/-- Values that are printed alike are alike. -/
theorem eq_of_print_eq (a : Alphabet) {u v : Json} (hu : Writable maxDepth u)
    (hv : Writable maxDepth v) (hunames : UniqueNames u) (hvnames : UniqueNames v)
    (h : print a u = print a v) : u = v := by
  have hread := read_print_writable a hu hunames
  rw [h, read_print_writable a hv hvnames] at hread
  exact (Except.ok.inj hread).symm

end Portcullis.Json
