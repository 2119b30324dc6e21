/-
# JSON values

A value is `null`, a boolean, an integer, a binary64 number, a text, a list or an object.  Integers
are exact and apart from binary64 numbers; an object keeps the order of its members.

**Main statements.**  Equality of values is decidable (`beq_iff`), and a member that is set is the
one that is found (`get?_set_self`, `get?_set_of_ne`).
-/
import Portcullis.Text.Basic
import Portcullis.Number.Double

namespace Portcullis

/-! ## 1. Values -/

/-- A JSON value. -/
inductive Json where
  | null
  | bool (b : Bool)
  | int (i : Int)
  | num (x : Double)
  | text (t : Text)
  | list (items : List Json)
  | object (members : List (Text × Json))

/-- The members of an object, in order. -/
abbrev Members := List (Text × Json)

instance : Inhabited Json := ⟨.null⟩

namespace Json

/-- A text, or `null` for none. -/
def ofText? : Option Text → Json
  | some t => .text t
  | none => .null

/-- A list of texts. -/
def texts (ts : List Text) : Json := .list (ts.map .text)

/-- The text that a value is. -/
def text? : Json → Option Text
  | .text t => some t
  | _ => none

/-- The members of the object that a value is. -/
def members? : Json → Option Members
  | .object ms => some ms
  | _ => none

/-- Whether the value is `null`. -/
def isNull : Json → Bool
  | .null => true
  | _ => false

/-- Every value counts as present but `null`, `false`, zero, and what is empty. -/
def isTruthy : Json → Bool
  | .null => false
  | .bool b => b
  | .int i => i ≠ 0
  | .num x => !x.isZero
  | .text t => t ≠ []
  | .list items => !items.isEmpty
  | .object ms => !ms.isEmpty

/-! ## 2. Equality -/

mutual

/-- Whether two values are the same. -/
def beq : Json → Json → Bool
  | .null, .null => true
  | .bool a, .bool b => a == b
  | .int a, .int b => a == b
  | .num a, .num b => a == b
  | .text a, .text b => a == b
  | .list a, .list b => beqItems a b
  | .object a, .object b => beqMembers a b
  | _, _ => false

/-- Whether two lists of values are the same. -/
def beqItems : List Json → List Json → Bool
  | [], [] => true
  | a :: as, b :: bs => beq a b && beqItems as bs
  | _, _ => false

/-- Whether two lists of members are the same. -/
def beqMembers : Members → Members → Bool
  | [], [] => true
  | (k, a) :: as, (l, b) :: bs => k == l && beq a b && beqMembers as bs
  | _, _ => false

end

mutual

theorem beq_iff : ∀ a b : Json, beq a b = true ↔ a = b
  | .null, b => by cases b <;> simp [beq]
  | .bool _, b => by cases b <;> simp [beq]
  | .int _, b => by cases b <;> simp [beq]
  | .num _, b => by cases b <;> simp [beq]
  | .text _, b => by cases b <;> simp [beq]
  | .list as, b => by
    cases b with
    | list bs => simp [beq, beqItems_iff as bs]
    | _ => simp [beq]
  | .object as, b => by
    cases b with
    | object bs => simp [beq, beqMembers_iff as bs]
    | _ => simp [beq]

theorem beqItems_iff : ∀ a b : List Json, beqItems a b = true ↔ a = b
  | [], b => by cases b <;> simp [beqItems]
  | a :: as, b => by
    cases b with
    | nil => simp [beqItems]
    | cons b bs => simp [beqItems, beq_iff a b, beqItems_iff as bs]

theorem beqMembers_iff : ∀ a b : Members, beqMembers a b = true ↔ a = b
  | [], b => by cases b <;> simp [beqMembers]
  | (k, a) :: as, b => by
    cases b with
    | nil => simp [beqMembers]
    | cons m bs => obtain ⟨l, b⟩ := m; simp [beqMembers, beq_iff a b, beqMembers_iff as bs]

end

instance : DecidableEq Json := fun a b => decidable_of_iff _ (beq_iff a b)

/-! ## 3. Nesting -/

/-- Lists and objects are read, sorted and written down to this depth. -/
def maxDepth : Nat := 1000

/-- Whether lists and objects nest at most so deep. -/
def nestsWithin : Nat → Json → Bool
  | 0, .list _ | 0, .object _ => false
  | n + 1, .list items => items.all (nestsWithin n)
  | n + 1, .object ms => ms.all fun m => nestsWithin n m.2
  | _, _ => true

end Json

/-! ## 4. Members -/

namespace Members

/-- A single member. -/
def single (name : Text) (v : Json) : Members := [(name, v)]

/-- The value of the first member of a name. -/
def get? (name : Text) : Members → Option Json
  | [] => none
  | (k, v) :: rest => if k = name then some v else get? name rest

/-- The value of a member, `null` when there is none. -/
def getD (ms : Members) (name : Text) : Json := (ms.get? name).getD .null

/-- Sets a member: in its place if there is one of that name, at the end otherwise. -/
def set (name : Text) (value : Json) : Members → Members
  | [] => [(name, value)]
  | (k, v) :: rest => if k = name then (k, value) :: rest else (k, v) :: set name value rest

/-- The members without those of a name. -/
def erase (name : Text) (ms : Members) : Members := ms.filter fun m => m.1 ≠ name

/-- Whether there is a member of a name. -/
def has (name : Text) (ms : Members) : Bool := (ms.get? name).isSome

/-- The members of a sequence of pairs: of two with one name the later value stands in the earlier
place. -/
def ofPairs (pairs : List (Text × Json)) : Members :=
  pairs.foldl (fun ms m => set m.1 m.2 ms) []

/-- Sets several members in turn. -/
def setAll (ms : Members) (pairs : List (Text × Json)) : Members :=
  pairs.foldl (fun ms m => set m.1 m.2 ms) ms

@[simp] theorem get?_nil (name : Text) : get? name [] = none := rfl

theorem get?_cons (name k : Text) (v : Json) (rest : Members) :
    get? name ((k, v) :: rest) = if k = name then some v else get? name rest := rfl

@[simp] theorem get?_set_self (name : Text) (v : Json) (ms : Members) :
    get? name (set name v ms) = some v := by
  induction ms with
  | nil => simp [set, get?]
  | cons m ms ih =>
    obtain ⟨k, w⟩ := m
    simp only [set]
    split
    · next h => simp [get?, h]
    · next h => simp [get?, h, ih]

theorem get?_set_of_ne {name other : Text} (h : other ≠ name) (v : Json) (ms : Members) :
    get? other (set name v ms) = get? other ms := by
  induction ms with
  | nil => simp [set, get?, Ne.symm h]
  | cons m ms ih =>
    obtain ⟨k, w⟩ := m
    simp only [set]
    split
    · next hk => subst hk; simp [get?, Ne.symm h]
    · simp [get?, ih]

theorem get?_erase_self (name : Text) (ms : Members) : get? name (erase name ms) = none := by
  induction ms with
  | nil => rfl
  | cons m ms ih =>
    obtain ⟨k, w⟩ := m
    by_cases h : k = name
    · simpa [erase, h] using ih
    · simpa [erase, h, get?] using ih

end Members

end Portcullis
