/-
# JSON tokens

The scanner reads a text one code point at a time and leaves the tokens behind it: brackets,
commas, colons, texts, and scalars.  What stands between two delimiters is one word, and a word is a
literal or a number as a whole or not at all.

In a text a pair of escapes for the halves of a code point is that code point; any other escape for
a half stays a lone surrogate.
-/
import Portcullis.Json.Basic
import Portcullis.Number.Decimal

namespace Portcullis.Json

/-! ## 1. Tokens -/

/-- Why a text is not read. -/
inductive ReadError where
  /-- The octets are not in the encoding they seem to be in. -/
  | undecodable
  /-- The text is not in the grammar. -/
  | malformed
  /-- An integer has more digits than are read. -/
  | tooManyDigits
  /-- Lists and objects nest too deep. -/
  | tooDeep
deriving DecidableEq

/-- A token; a fault stands where the scanner found one. -/
inductive Token where
  | openList
  | closeList
  | openObject
  | closeObject
  | comma
  | colon
  | text (t : Text)
  | scalar (v : Json)
  | fault (e : ReadError)

/-! ## 2. Words -/

/-- The parts of a number: sign, digits before and after the point, exponent. -/
structure Numeral where
  negative : Bool
  whole : List Nat
  fraction : List Nat
  exponent : Option Int

/-- The values of the ASCII digits that a text begins with, and the rest. -/
def takeDigits (t : Text) : List Nat × Text :=
  let (digits, rest) := t.span CodePoint.isAsciiDigit
  (digits.map fun c => c.val - 0x30, rest)

/-- The exponent at the end of a number, which may be missing. -/
def readExponent? : Text → Option (Option Int)
  | [] => some none
  | c :: rest =>
    if c = CodePoint.ofChar 'e' ∨ c = CodePoint.ofChar 'E' then
      let (negative, body) := Text.cutSign rest
      let (digits, rest) := takeDigits body
      if digits.isEmpty || !rest.isEmpty then none
      else
        let n : Int := Text.ofDigits digits
        some (some (if negative then -n else n))
    else none

/-- The parts of a word that is a number: no leading zeros, and digits on both sides of a point. -/
def readNumeral? (word : Text) : Option Numeral := do
  let (negative, body) :=
    match Text.dropStart? word "-" with
    | some body => (true, body)
    | none => (false, word)
  let (whole, rest) := takeDigits body
  guard (!whole.isEmpty && (whole.length == 1 || whole.head? != some 0))
  match Text.dropStart? rest "." with
  | some rest =>
    let (fraction, rest) := takeDigits rest
    guard !fraction.isEmpty
    return ⟨negative, whole, fraction, ← readExponent? rest⟩
  | none => return ⟨negative, whole, [], ← readExponent? rest⟩

/-- The value of a number: an integer unless it has a point or an exponent. -/
def Numeral.value (n : Numeral) : Except ReadError Json :=
  if n.fraction.isEmpty && n.exponent.isNone then
    if n.whole.length > Text.maxDigits then .error .tooManyDigits
    else
      let i : Int := Text.ofDigits n.whole
      .ok (.int (if n.negative then -i else i))
  else
    .ok (.num (Decimal.toDouble n.negative
      ⟨Text.ofDigits (n.whole ++ n.fraction), n.exponent.getD 0 - n.fraction.length⟩))

/-- The words that stand for a value of their own. -/
def literals : List (Text × Json) := [
  ("null", .null), ("true", .bool true), ("false", .bool false), ("NaN", .num .notANumber),
  ("Infinity", .num (.infinite false)), ("-Infinity", .num (.infinite true))]

/-- The token of a word. -/
def wordToken (word : Text) : Token :=
  match literals.lookup word with
  | some v => .scalar v
  | none => match readNumeral? word with
    | none => .fault .malformed
    | some n => match n.value with
      | .ok v => .scalar v
      | .error e => .fault e

/-! ## 3. Scanning -/

/-- Where the scanner is.  Code points of a word or text are held with the latest first; `high`
says whether the latest one of a text is an escaped high surrogate. -/
inductive Mode where
  | between
  | word (read : Text)
  | text (read : Text) (high : Bool)
  | escape (read : Text) (high : Bool)
  | hex (read : Text) (high : Bool) (missing value : Nat)

/-- The tokens so far, the latest first, and where the scanner is. -/
structure Scan where
  tokens : List Token
  mode : Mode

/-- The blanks between tokens. -/
def isSpace (c : CodePoint) : Bool :=
  c.val == 0x20 || c.val == 0x09 || c.val == 0x0A || c.val == 0x0D

/-- The token that a punctuation mark is. -/
def punctuation? (c : CodePoint) : Option Token :=
  if c = CodePoint.ofNat 0x5B then some .openList
  else if c = CodePoint.ofNat 0x5D then some .closeList
  else if c = CodePoint.ofNat 0x7B then some .openObject
  else if c = CodePoint.ofNat 0x7D then some .closeObject
  else if c = CodePoint.ofNat 0x2C then some .comma
  else if c = CodePoint.ofNat 0x3A then some .colon
  else none

/-- The quotation mark. -/
def quote : CodePoint := CodePoint.ofNat 0x22

/-- The backslash. -/
def backslash : CodePoint := CodePoint.ofNat 0x5C

/-- What a backslash and one sign stand for. -/
def shortEscape? (c : CodePoint) : Option CodePoint :=
  if c = quote ∨ c = backslash ∨ c = CodePoint.ofNat 0x2F then some c
  else if c = CodePoint.ofChar 'b' then some (CodePoint.ofNat 0x08)
  else if c = CodePoint.ofChar 'f' then some (CodePoint.ofNat 0x0C)
  else if c = CodePoint.ofChar 'n' then some (CodePoint.ofNat 0x0A)
  else if c = CodePoint.ofChar 'r' then some (CodePoint.ofNat 0x0D)
  else if c = CodePoint.ofChar 't' then some (CodePoint.ofNat 0x09)
  else none

/-- Adds an escaped unit to a text: a low surrogate joins an escaped high one before it. -/
def addUnit (read : Text) (high : Bool) (unit : Nat) : Mode :=
  match high, read with
  | true, h :: before =>
    if 0xDC00 ≤ unit ∧ unit ≤ 0xDFFF then
      .text (CodePoint.ofNat (0x10000 + (h.val - 0xD800) * 0x400 + (unit - 0xDC00)) :: before) false
    else .text (CodePoint.ofNat unit :: read) (0xD800 ≤ unit && unit ≤ 0xDBFF)
  | _, _ => .text (CodePoint.ofNat unit :: read) (0xD800 ≤ unit && unit ≤ 0xDBFF)

/-- Reads a code point between tokens. -/
def Scan.between (tokens : List Token) (c : CodePoint) : Scan :=
  if isSpace c then ⟨tokens, .between⟩
  else match punctuation? c with
    | some token => ⟨token :: tokens, .between⟩
    | none => if c = quote then ⟨tokens, .text [] false⟩ else ⟨tokens, .word [c]⟩

/-- Reads a code point. -/
def Scan.step (s : Scan) (c : CodePoint) : Scan :=
  let failed : Scan := ⟨.fault .malformed :: s.tokens, .between⟩
  match s.mode with
  | .between => Scan.between s.tokens c
  | .word read =>
    if isSpace c || (punctuation? c).isSome || c == quote then
      Scan.between (wordToken read.reverse :: s.tokens) c
    else ⟨s.tokens, .word (c :: read)⟩
  | .text read high =>
    if c = quote then ⟨.text read.reverse :: s.tokens, .between⟩
    else if c = backslash then ⟨s.tokens, .escape read high⟩
    else if c.val < 0x20 then failed
    else ⟨s.tokens, .text (c :: read) false⟩
  | .escape read high =>
    if c = CodePoint.ofChar 'u' then ⟨s.tokens, .hex read high 4 0⟩
    else match shortEscape? c with
      | some e => ⟨s.tokens, .text (e :: read) false⟩
      | none => failed
  | .hex read high missing value =>
    match c.hexValue? with
    | none => failed
    | some d =>
      let value := value * 16 + d
      if missing ≤ 1 then ⟨s.tokens, addUnit read high value⟩
      else ⟨s.tokens, .hex read high (missing - 1) value⟩

/-- The tokens at the end of the text; a text without its end is a fault. -/
def Scan.finish (s : Scan) : List Token :=
  (match s.mode with
    | .between => s.tokens
    | .word read => wordToken read.reverse :: s.tokens
    | _ => .fault .malformed :: s.tokens).reverse

/-- The tokens of a text. -/
def tokens (t : Text) : List Token := (t.foldl Scan.step ⟨[], .between⟩).finish

end Portcullis.Json
