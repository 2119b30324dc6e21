/-
# Why a text is not JSON

Walks a text from its beginning to the first place where the grammar of JSON is left, and says what
was expected there.  Places are counted in code points from zero; a text without its end is told by
the place where it begins.
-/
import Portcullis.Json.Token

namespace Portcullis.Json

/-- What is wrong with a text, and where. -/
structure Diagnosis where
  message : Text
  position : Nat
deriving DecidableEq

namespace Diagnosis

/-- A place in a text: what follows, and how much precedes it. -/
structure Place where
  rest : Text
  position : Nat

/-- What is reached from a place, or what is wrong on the way. -/
abbrev Walk := Except Diagnosis Place

/-- The diagnosis at a place. -/
def diagnosisAt (message : Text) (p : Place) : Walk := .error ⟨message, p.position⟩

/-! ## 1. Small steps -/

/-- The place behind some code points. -/
def Place.advance (p : Place) (n : Nat) : Place := ⟨p.rest.drop n, p.position + n⟩

/-- The place behind the blanks. -/
def Place.skipSpace (p : Place) : Place := p.advance (p.rest.takeWhile isSpace).length

/-- Whether a sign stands at a place. -/
def Place.sees (p : Place) (c : CodePoint) : Bool := p.rest.head? == some c

/-- The comma. -/
def comma : CodePoint := CodePoint.ofNat 0x2C

/-- The colon between a name and its value. -/
def colon : CodePoint := CodePoint.ofNat 0x3A

/-- The bracket that ends a list. -/
def listEnd : CodePoint := CodePoint.ofNat 0x5D

/-- The bracket that ends an object. -/
def objectEnd : CodePoint := CodePoint.ofNat 0x7D

/-! ## 2. Scalars -/

/-- The place behind the quotation mark that ends a text which begins at a position. -/
def endOfText (start : Nat) : Text → Nat → Walk
  | [], _ => .error ⟨"Unterminated string starting at", start⟩
  | c :: rest, n =>
    if c = quote then .ok ⟨rest, n + 1⟩
    else if c = backslash then
      match rest with
      | [] => .error ⟨"Unterminated string starting at", start⟩
      | e :: after =>
        if e = CodePoint.ofChar 'u' then
          match after with
          | w :: x :: y :: z :: next :: more =>
            if [w, x, y, z].all fun d => d.hexValue?.isSome then
              endOfText start (next :: more) (n + 6)
            else .error ⟨"Invalid \\uXXXX escape", n + 1⟩
          | _ => .error ⟨"Invalid \\uXXXX escape", n + 1⟩
        else if (shortEscape? e).isSome then endOfText start after (n + 2)
        else .error ⟨"Invalid \\escape", n⟩
    else if c.val < 0x20 then .error ⟨"Invalid control character at", n⟩
    else endOfText start rest (n + 1)

/-- How many digits a text begins with. -/
def digitCount (t : Text) : Nat := (t.takeWhile CodePoint.isAsciiDigit).length

/-- How many code points the integer at the beginning of a text has. -/
def integerLength? (t : Text) : Option Nat :=
  let sign := if t.head? = some (CodePoint.ofChar '-') then 1 else 0
  match t.drop sign with
  | [] => none
  | d :: rest =>
    if d.val = 0x30 then some (sign + 1)
    else if d.isAsciiDigit then some (sign + 1 + digitCount rest)
    else none

/-- How many code points the fraction at the beginning of a text has, its point included. -/
def fractionLength (t : Text) : Nat :=
  match t with
  | [] => 0
  | c :: rest =>
    if c.val = 0x2E ∧ digitCount rest > 0 then 1 + digitCount rest else 0

/-- How many code points the exponent at the beginning of a text has, its mark included. -/
def exponentLength (t : Text) : Nat :=
  match t with
  | [] => 0
  | c :: rest =>
    if c = CodePoint.ofChar 'e' ∨ c = CodePoint.ofChar 'E' then
      let sign := match rest with
        | s :: _ => if s = CodePoint.ofChar '-' ∨ s = CodePoint.ofChar '+' then 1 else 0
        | [] => 0
      let digits := digitCount (rest.drop sign)
      if digits > 0 then 1 + sign + digits else 0
    else 0

/-- How many code points the literal or number at the beginning of a text has. -/
def scalarLength? (t : Text) : Option Nat :=
  match literals.find? fun l => t.startsWith l.1 with
  | some l => some l.1.length
  | none => do
    let whole ← integerLength? t
    let fraction := fractionLength (t.drop whole)
    return whole + fraction + exponentLength (t.drop (whole + fraction))

/-! ## 3. Values -/

/-- The place behind a comma, or behind the sign that ends a container. -/
def separator (closing : CodePoint) (p : Place) : Except Diagnosis (Bool × Place) :=
  let p := p.skipSpace
  if p.sees closing then .ok (true, p.advance 1)
  else if p.sees comma then .ok (false, (p.advance 1).skipSpace)
  else .error ⟨"Expecting ',' delimiter", p.position⟩

mutual

/-- The place behind a value; each container that is entered takes one from the bound. -/
def endOfValue (bound : Nat) (p : Place) : Walk :=
  match bound, p.rest with
  | 0, _ | _, [] => diagnosisAt "Expecting value" p
  | bound + 1, c :: rest =>
    let inside := (p.advance 1).skipSpace
    if c = quote then endOfText p.position rest (p.position + 1)
    else if c.val = 0x5B then
      if inside.sees listEnd then .ok (inside.advance 1) else endOfList bound inside
    else if c.val = 0x7B then
      if inside.sees objectEnd then .ok (inside.advance 1) else endOfObject bound inside
    else match scalarLength? p.rest with
      | some n => .ok (p.advance n)
      | none => diagnosisAt "Expecting value" p

/-- The place behind a list, from one of its items on. -/
def endOfList (bound : Nat) (p : Place) : Walk :=
  match bound with
  | 0 => diagnosisAt "Expecting value" p
  | bound + 1 => do
    let p ← endOfValue bound p
    match ← separator listEnd p with
    | (true, p) => return p
    | (false, p) => endOfList bound p

/-- The place behind an object, from one of its names on. -/
def endOfObject (bound : Nat) (p : Place) : Walk :=
  match bound, p.rest with
  | 0, _ | _, [] => diagnosisAt "Expecting property name enclosed in double quotes" p
  | bound + 1, c :: rest => do
    if c ≠ quote then diagnosisAt "Expecting property name enclosed in double quotes" p
    else
      let p := (← endOfText p.position rest (p.position + 1)).skipSpace
      if !p.sees colon then diagnosisAt "Expecting ':' delimiter" p
      else
        let p ← endOfValue bound (p.advance 1).skipSpace
        match ← separator objectEnd p with
        | (true, p) => return p
        | (false, p) => endOfObject bound p

end

end Diagnosis

/-- What is wrong with a text that is not JSON; a text that is JSON has nothing wrong with it. -/
def diagnose? (t : Text) : Option Diagnosis :=
  match Diagnosis.endOfValue (2 * t.length + 1) (Diagnosis.Place.skipSpace ⟨t, 0⟩) with
  | .error d => some d
  | .ok p =>
    let p := p.skipSpace
    if p.rest.isEmpty then none else some ⟨"Extra data", p.position⟩

end Portcullis.Json
