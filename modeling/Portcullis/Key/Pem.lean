/-
# Armoured blocks

A block of octets in a text stands between a mark that begins it and one that ends it, both with the
same label, in base 64.  Header lines may come first, ended by an empty line.  What stands before,
between and after blocks is ignored.
-/
import Portcullis.Bytes.Base64
import Portcullis.Text.Blank
import Portcullis.Text.Utf8

namespace Portcullis.Pem

/-- A label, the named headers, and the octets under them. -/
structure Block where
  label : Text
  headers : List (Text × Text)
  content : Bytes

/-- The last of the headers of a name. -/
def Block.header? (b : Block) (name : Text) : Option Text := b.headers.reverse.lookup name

/-! ## 1. Cutting -/

/-- What precedes the first occurrence of a mark, and what follows it. -/
def cutAt {α : Type} [DecidableEq α] (mark : List α) : List α → Option (List α × List α)
  | [] => if mark.isEmpty then some ([], []) else none
  | c :: rest =>
    match mark.isPrefixOf? (c :: rest) with
    | some after => some ([], after)
    | none => (cutAt mark rest).map fun (head, after) => (c :: head, after)

/-- The parts of a block as they stand: the label at its beginning, all that is inside, and the
label at its end. -/
structure Frame where
  label : Bytes
  body : Bytes
  ending : Bytes

/-- What follows the blanks at the beginning. -/
def dropBlanks (b : Bytes) : Bytes := b.dropWhile [0x20, 0x09, 0x0A, 0x0D].contains

/-- The first block, and what follows it. -/
def cutFrame (b : Bytes) : Option (Frame × Bytes) := do
  let (_, b) ← cutAt (Bytes.ofAscii "-----BEGIN ") b
  let (label, b) ← cutAt (Bytes.ofAscii "-----") b
  let (body, b) ← cutAt (Bytes.ofAscii "-----END ") (dropBlanks b)
  let (ending, b) ← cutAt (Bytes.ofAscii "-----") b
  return (⟨label, body, ending⟩, b)

/-- All blocks, at most so many. -/
def cutFrames : Nat → Bytes → List Frame
  | 0, _ => []
  | n + 1, b =>
    match cutFrame b with
    | none => []
    | some (f, rest) => f :: cutFrames n rest

/-! ## 2. Reading -/

/-- The header lines of a block and what follows them, if an empty line ends such lines. -/
def cutHeaders (body : Bytes) : Bytes × Bytes :=
  ((cutAt (Bytes.ofAscii "\n\n") body) <|> (cutAt (Bytes.ofAscii "\r\n\r\n") body)).getD ([], body)

/-- The lines of a text; a line end at its end begins no further one. -/
def lines (t : Text) : List Text :=
  let all := Text.splitOn (CodePoint.ofNat 0x0A) t
  if all.getLast? = some [] then all.dropLast else all

/-- A text without the blanks at its end. -/
def trimEnd (t : Text) : Text := (t.reverse.dropWhile CodePoint.isSpace).reverse

/-- The name and the value in a header line. -/
def readHeader? (line : Text) : Option (Text × Text) :=
  match Text.cut (CodePoint.ofNat 0x3A) line with
  | (name, some value) =>
    some (Text.trimEnds CodePoint.isSpace name, Text.trimEnds CodePoint.isSpace value)
  | (_, none) => none

/-- The block in a frame, if it is well-formed. -/
def Frame.read? (f : Frame) : Option Block := do
  guard (!f.label.isEmpty && f.label == f.ending)
  let label ← Utf8.decode? f.label
  let (headers, data) := cutHeaders f.body
  let headers ← (lines (← Utf8.decode? headers)).mapM readHeader?
  let digits := (lines (← Utf8.decode? data)).flatMap trimEnd
  return ⟨label, headers, ← Base64.decodePadded Base64.standard digits⟩

/-- The first block, whatever follows it. -/
def first? (b : Bytes) : Option Block := do
  let (f, _) ← cutFrame b
  f.read?

/-- The blocks, if all of them are well-formed. -/
def blocks (b : Bytes) : Option (List Block) := (cutFrames b.length b).mapM Frame.read?

end Portcullis.Pem
