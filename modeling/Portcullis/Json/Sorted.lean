/-
# Objects in the order of their names

Sorting puts the members of every object, at every depth, in the order of their names by code
point.  Lists keep their order.
-/
import Portcullis.Json.Basic

namespace Portcullis

/-- Inserts a member before the first one whose name is not smaller. -/
def Members.insertSorted (m : Text × Json) : Members → Members
  | [] => [m]
  | x :: rest => if Text.le m.1 x.1 then m :: x :: rest else x :: insertSorted m rest

/-- The members in the order of their names. -/
def Members.sort : Members → Members
  | [] => []
  | m :: rest => insertSorted m (sort rest)

namespace Json

mutual

/-- The value with the members of every object in the order of their names. -/
def sorted : Json → Json
  | .list items => .list (sortedItems items)
  | .object ms => .object (Members.sort (sortedMembers ms))
  | v => v

/-- Each item sorted. -/
def sortedItems : List Json → List Json
  | [] => []
  | v :: rest => sorted v :: sortedItems rest

/-- Each member sorted, the members in their order. -/
def sortedMembers : Members → Members
  | [] => []
  | (k, v) :: rest => (k, sorted v) :: sortedMembers rest

end

end Json

end Portcullis
