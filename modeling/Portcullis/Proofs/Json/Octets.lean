/-
# Reading octets

The first two octets of an object's text are ASCII and not zero, so the octets are taken for UTF-8
and an object is read from the octets that were written for it.

**Main statement.**  `readBytes_object`.
-/
import Portcullis.Proofs.Json.RoundTrip

namespace Portcullis

/-- Octets that begin with a brace and no zero are in UTF-8. -/
theorem Encoding.decode_brace {y : UInt8} (hy : y ≠ 0) (rest : Bytes) :
    decode (0x7B :: y :: rest) = Utf8.decodeWithSurrogates? (0x7B :: y :: rest) := by
  have hunmarked : decode (0x7B :: y :: rest) = decodeUnmarked (0x7B :: y :: rest) := rfl
  have hx : ¬ (0x7B : UInt8) = 0 := by decide
  rw [hunmarked]
  cases rest with
  | nil => rw [decodeUnmarked, if_neg hx, if_neg hy]
  | cons z rest =>
    cases rest with
    | nil => rfl
    | cons w rest => rw [decodeUnmarked, if_neg hx, if_neg hy]

namespace Json

/-- The text of an object begins with a brace, and a quotation mark or the other brace. -/
theorem print_object_eq (a : Alphabet) (ms : Members) :
    ∃ d rest, (d = CodePoint.ofNat 0x22 ∨ d = CodePoint.ofNat 0x7D)
      ∧ print a (.object ms) = CodePoint.ofNat 0x7B :: d :: rest := by
  rw [print]
  cases ms with
  | nil => exact ⟨_, _, Or.inr rfl, rfl⟩
  | cons m rest =>
    obtain ⟨k, v⟩ := m
    cases rest with
    | nil => exact ⟨_, _, Or.inl rfl, rfl⟩
    | cons n rest => exact ⟨_, _, Or.inl rfl, rfl⟩

/-- The octets of an object's text are taken for that text. -/
theorem decode_print_object (a : Alphabet) (ms : Members) :
    Encoding.decode ((print a (.object ms)).flatMap CodePoint.utf8)
      = some (print a (.object ms)) := by
  obtain ⟨d, rest, hd, hprint⟩ := print_object_eq a ms
  have hfirst : CodePoint.utf8 (CodePoint.ofNat 0x7B) = [0x7B] := by decide
  have hsecond : ∃ y : UInt8, y ≠ 0 ∧ CodePoint.utf8 d = [y] := by
    rcases hd with rfl | rfl
    · exact ⟨0x22, by decide, by decide⟩
    · exact ⟨0x7D, by decide, by decide⟩
  obtain ⟨y, hy, hoctet⟩ := hsecond
  have hstart : (print a (.object ms)).flatMap CodePoint.utf8
      = 0x7B :: y :: rest.flatMap CodePoint.utf8 := by
    rw [hprint, List.flatMap_cons, List.flatMap_cons, hfirst, hoctet]
    rfl
  rw [hstart, Encoding.decode_brace hy, ← hstart, Utf8.decodeWithSurrogates?_flatMap]

/-- **An object is read from its octets.** -/
theorem readBytes_object {ms : Members} {b : Bytes} (h : Writable maxDepth (.object ms))
    (names : UniqueNames (.object ms)) (hb : (print .unicode (.object ms)).utf8? = some b) :
    readBytes b = .ok (.object ms) := by
  obtain ⟨-, hflat⟩ := (Text.utf8?_eq_some_iff _ b).mp hb
  rw [readBytes, ← hflat, decode_print_object]
  exact read_print_writable .unicode h names

end Json

end Portcullis
