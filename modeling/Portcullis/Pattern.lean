/-
# Patterns of paths

The path of a route is a pattern: a name in braces, perhaps with a kind behind a colon, stands for a
stretch of the kind, everything else for itself.  A path matches as a whole; one line feed at its
end does not count.  Where several stretches would do, the parameters take as much as they can, the
first one before the others.

**Main statement.**  A pattern without parameters is matched by its own text
(`matchText_literal`).
-/
import Portcullis.Text.Digits

namespace Portcullis

/-! ## 1. Parts -/

/-- The kinds of stretches that parameters stand for. -/
inductive Pattern.Kind where
  /-- At least one code point, none of them a slash. -/
  | segment
  /-- Any code points but line feeds. -/
  | path
  /-- At least one digit. -/
  | integer
  /-- Digits, perhaps with a point and digits behind it. -/
  | decimal
  /-- Thirty-two hexadecimal digits, perhaps with hyphens between the five groups. -/
  | identifier
deriving DecidableEq

/-- A part of a pattern. -/
inductive Pattern.Part where
  | literal (c : CodePoint)
  | parameter (name : Text) (kind : Pattern.Kind)
deriving DecidableEq

/-- The parts of a pattern in their order. -/
abbrev Pattern := List Pattern.Part

namespace Pattern

/-- The kinds by name. -/
def Kind.names : List (Text × Kind) := [
  ("str", .segment), ("path", .path), ("int", .integer), ("float", .decimal), ("uuid", .identifier)]

/-- Why a path is no pattern. -/
inductive Problem where
  /-- A parameter is of a kind that does not exist. -/
  | unknownKind (name : Text)
  /-- Two parameters share a name. -/
  | repeatedName
deriving DecidableEq

/-! ## 2. Reading -/

/-- The code points that a name begins with. -/
def isNameStart (c : CodePoint) : Bool :=
  (0x41 ≤ c.val && c.val ≤ 0x5A) || (0x61 ≤ c.val && c.val ≤ 0x7A) || c.val == 0x5F

/-- The code points of a name behind the first. -/
def isNamePart (c : CodePoint) : Bool := isNameStart c || c.isAsciiDigit

/-- The name that a text begins with, and what follows it. -/
def cutName? (t : Text) : Option (Text × Text) :=
  match t with
  | c :: rest => if isNameStart c then some ((c :: rest).span isNamePart) else none
  | [] => none

/-- The name and the name of the kind in a parameter whose opening brace precedes a text, and the
number of code points up to the closing brace, which counts. -/
def cutParameter? (t : Text) : Option (Text × Text × Nat) := do
  let (name, rest) ← cutName? t
  match rest with
  | c :: rest =>
    if c.val = 0x7D then return (name, "str", name.length + 1)
    else if c.val = 0x3A then
      let (kind, rest) ← cutName? rest
      if Text.startsWith rest "\x7d" then
        return (name, kind, name.length + kind.length + 2)
      else none
    else none
  | [] => none

/-- The pattern of a text, of which some code points still belong to a parameter that has begun. -/
def readFrom : Nat → Text → Except Problem Pattern
  | _, [] => .ok []
  | n + 1, _ :: rest => readFrom n rest
  | 0, c :: rest =>
    match if c.val = 0x7B then cutParameter? rest else none with
    | some (name, kindName, n) => match Kind.names.lookup kindName with
      | none => .error (.unknownKind kindName)
      | some kind => (.parameter name kind :: ·) <$> readFrom n rest
    | none => (.literal c :: ·) <$> readFrom 0 rest

/-- The names of the parameters. -/
def parameterNames (p : Pattern) : List Text :=
  p.filterMap fun
    | .parameter name _ => some name
    | .literal _ => none

/-- The pattern of the path of a route. -/
def ofPath (path : Text) : Except Problem Pattern := do
  let p ← readFrom 0 path
  if p.parameterNames.Nodup then return p else .error .repeatedName

/-! ## 3. Stretches -/

/-- The line feed. -/
def lineFeed : CodePoint := CodePoint.ofNat 0x0A

/-- The slash. -/
def slash : CodePoint := CodePoint.ofNat 0x2F

/-- The numbers from one to another, the greatest first. -/
def downTo (least greatest : Nat) : List Nat :=
  ((List.range (greatest + 1)).filter (least ≤ ·)).reverse

/-- The number of code points that a text begins with and that satisfy a condition. -/
def run (p : CodePoint → Bool) (t : Text) : Nat := (t.takeWhile p).length

/-- The number of code points of an identifier that a text begins with: groups of so many digits. -/
def identifierLength? : List Nat → Text → Option Nat
  | [], _ => some 0
  | n :: groups, t => do
    let hyphen := if Text.startsWith t "-" then 1 else 0
    let group := (t.drop hyphen).take n
    guard (group.length = n ∧ group.all fun c => c.hexValue?.isSome)
    return hyphen + n + (← identifierLength? groups (t.drop (hyphen + n)))

/-- The lengths of the stretches of a kind that a text begins with, in the order in which they are
tried. -/
def Kind.lengths (kind : Kind) (t : Text) : List Nat :=
  match kind with
  | .segment => downTo 1 (run (· != slash) t)
  | .path => downTo 0 (run (· != lineFeed) t)
  | .integer => downTo 1 (run CodePoint.isAsciiDigit t)
  | .decimal => (downTo 1 (run CodePoint.isAsciiDigit t)).flatMap fun n =>
    let fraction := t.drop n
    if Text.startsWith fraction "." then
      (downTo 1 (run CodePoint.isAsciiDigit (fraction.drop 1))).map (n + 1 + ·) ++ [n]
    else [n]
  | .identifier =>
    if Text.startsWith t "-" then [] else (identifierLength? [8, 4, 4, 4, 12] t).toList

/-! ## 4. Matching -/

/-- The kinds of the parameters and the texts they stand for, if a text matches a pattern. -/
def matchText : Pattern → Text → Option (List (Kind × Text))
  | [], t => if t == [] || t == [lineFeed] then some [] else none
  | .literal _ :: _, [] => none
  | .literal c :: rest, d :: t => if c == d then matchText rest t else none
  | .parameter _ kind :: rest, t =>
    (kind.lengths t).findSome? fun n => ((kind, t.take n) :: ·) <$> matchText rest (t.drop n)

/-- Whether a stretch has a value: an integer has one unless it has too many digits. -/
def hasValue (stretch : Kind × Text) : Bool :=
  stretch.1 ≠ .integer || stretch.2.length ≤ Text.maxDigits

theorem matchText_literal (t : Text) : matchText (t.map .literal) t = some [] := by
  induction t with
  | nil => rfl
  | cons c t ih => simp [matchText, ih]

end Pattern

end Portcullis
