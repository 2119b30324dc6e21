/-
# Cutting texts

**Main statements.**  A cut is at the first separator (`cut_eq_some_iff`), and the pieces of what
two texts make with a separator between them are the pieces of both (`splitOn_append_cons`).  No
piece holds a separator, and a text that holds none is a piece (`notMem_of_mem_splitOn`,
`splitOn_of_notMem`).  So cutting and joining undo each other (`splitOn_join`, `splitOn_inj`).
-/
import Portcullis.Text.Basic

namespace Portcullis.Text

/-- A text is cut at the first separator in it. -/
theorem cut_eq_some_iff (separator : CodePoint) (t head tail : Text) :
    cut separator t = (head, some tail) ↔ t = head ++ separator :: tail ∧ separator ∉ head := by
  induction t generalizing head with
  | nil =>
    refine iff_of_false ?_ ?_
    · rintro ⟨⟩
    · rintro ⟨heq, -⟩
      exact absurd (List.append_eq_nil_iff.mp heq.symm).2 (List.cons_ne_nil _ _)
  | cons c t ih =>
    rw [cut]
    by_cases h : c = separator
    · rw [if_pos h]
      constructor
      · rintro ⟨⟩
        exact ⟨congrArg (· :: tail) h, List.not_mem_nil⟩
      · rintro ⟨heq, hnot⟩
        cases head with
        | nil => exact congrArg (fun u => ([], some u)) (List.cons.inj heq).2
        | cons d head =>
          have hd : c = d := (List.cons.inj heq).1
          exact absurd List.mem_cons_self (h ▸ hd ▸ hnot)
    · rw [if_neg h]
      cases head with
      | nil =>
        refine iff_of_false ?_ ?_
        · rintro ⟨⟩
        · rintro ⟨heq, -⟩
          exact h (List.cons.inj heq).1
      | cons d head =>
        have hpair : ((c :: (cut separator t).1, (cut separator t).2) = (d :: head, some tail))
            ↔ c = d ∧ cut separator t = (head, some tail) := by
          rw [Prod.mk.injEq, List.cons.injEq, and_assoc, Prod.ext_iff]
        refine hpair.trans ?_
        rw [ih, List.cons_append, List.cons.injEq, List.mem_cons, not_or, and_assoc]
        constructor
        · rintro ⟨rfl, heq, hnot⟩
          exact ⟨rfl, heq, fun hsep => h hsep.symm, hnot⟩
        · rintro ⟨hd, heq, -, hnot⟩
          exact ⟨hd, heq, hnot⟩

/-- A text without a separator is not cut. -/
theorem cut_of_notMem {separator : CodePoint} {t : Text} (h : separator ∉ t) :
    cut separator t = (t, none) := by
  induction t with
  | nil => rfl
  | cons c t ih =>
    rw [List.mem_cons, not_or] at h
    rw [cut, if_neg (Ne.symm h.1), ih h.2]

theorem splitOn_of_notMem {separator : CodePoint} {t : Text} (h : separator ∉ t) :
    splitOn separator t = [t] := by
  induction t with
  | nil => rfl
  | cons c t ih =>
    rw [List.mem_cons, not_or] at h
    rw [splitOn, if_neg (Ne.symm h.1), ih h.2]

/-- **The pieces of two texts** with a separator between them are those of both. -/
theorem splitOn_append_cons (separator : CodePoint) (t rest : Text) :
    splitOn separator (t ++ separator :: rest) = splitOn separator t ++ splitOn separator rest := by
  induction t with
  | nil => simp [splitOn]
  | cons c t ih =>
    rw [List.cons_append, splitOn, splitOn, ih]
    split
    · rw [List.cons_append]
    · cases hpieces : splitOn separator t with
      | nil => exact absurd hpieces (splitOn_ne_nil separator t)
      | cons piece pieces => simp

/-- The first piece ends at the first separator. -/
theorem splitOn_append {separator : CodePoint} {t : Text} (h : separator ∉ t) (rest : Text) :
    splitOn separator (t ++ separator :: rest) = t :: splitOn separator rest := by
  rw [splitOn_append_cons, splitOn_of_notMem h, List.singleton_append]

/-- What holds no separator makes the first piece longer. -/
theorem splitOn_prepend {separator : CodePoint} {s : Text} (h : separator ∉ s) {t piece : Text}
    {pieces : List Text} (ht : splitOn separator t = piece :: pieces) :
    splitOn separator (s ++ t) = (s ++ piece) :: pieces := by
  induction s with
  | nil => exact ht
  | cons c s ih =>
    rw [List.mem_cons, not_or] at h
    rw [List.cons_append, splitOn, if_neg (Ne.symm h.1), ih h.2]
    rfl

/-- **Cutting undoes joining** of pieces that hold no separator. -/
theorem splitOn_join {separator : CodePoint} {pieces : List Text}
    (h : ∀ piece ∈ pieces, separator ∉ piece) (hne : pieces ≠ []) :
    splitOn separator (join [separator] pieces) = pieces := by
  induction pieces with
  | nil => exact absurd rfl hne
  | cons piece rest ih =>
    obtain ⟨hpiece, hrest⟩ := List.forall_mem_cons.mp h
    cases rest with
    | nil => exact splitOn_of_notMem hpiece
    | cons next others =>
      have hjoin : join [separator] (piece :: next :: others)
          = piece ++ separator :: join [separator] (next :: others) := by simp [join]
      rw [hjoin, splitOn_append hpiece, ih hrest (List.cons_ne_nil next others)]

/-- Texts with the same pieces are the same. -/
theorem splitOn_inj {separator : CodePoint} {t u : Text}
    (h : splitOn separator t = splitOn separator u) : t = u := by
  rw [← join_splitOn separator t, h, join_splitOn]

/-- There is one piece more than there are separators. -/
theorem length_splitOn (separator : CodePoint) (t : Text) :
    (splitOn separator t).length = t.count separator + 1 := by
  induction t with
  | nil => rfl
  | cons c t ih =>
    rw [splitOn]
    by_cases h : c = separator
    · rw [if_pos h, List.length_cons, ih, h, List.count_cons_self]
    · rw [if_neg h, List.count_cons_of_ne h, ← ih]
      cases hpieces : splitOn separator t with
      | nil => exact absurd hpieces (splitOn_ne_nil separator t)
      | cons piece pieces => rfl

/-- No piece holds a separator. -/
theorem notMem_of_mem_splitOn {separator : CodePoint} {t piece : Text}
    (h : piece ∈ splitOn separator t) : separator ∉ piece := by
  induction t generalizing piece with
  | nil =>
    rw [splitOn, List.mem_singleton] at h
    simp [h]
  | cons c t ih =>
    rw [splitOn] at h
    split at h
    · rcases List.mem_cons.mp h with rfl | hrest
      · simp
      · exact ih hrest
    next hne =>
    cases hpieces : splitOn separator t with
    | nil => exact absurd hpieces (splitOn_ne_nil separator t)
    | cons first others =>
      rw [hpieces] at h ih
      rcases List.mem_cons.mp h with rfl | hrest
      · have hfirst := ih List.mem_cons_self
        simp [hfirst, Ne.symm hne]
      · exact ih (List.mem_cons_of_mem first hrest)

end Portcullis.Text
