import TestScribe.Proofs.Text.Utf8
import TestScribe.Syntax.Source

/-!
# The text that a node covers

A node counts its span in bytes, its text is one of characters.  Where the two ends of the span lie
between characters the text is the part of the source between them, whatever the lengths of the
characters (`text_between`); wherever they lie, it is what the bytes of the source from the one to
the other are read as (`text_eq_iff`).
-/

namespace TestScribe.Syntax.Source

open Utf8

theorem slice_encode (a b c : List Char) :
    slice (encode (a ++ b ++ c)) (encode a).length (encode (a ++ b)).length = encode b := by
  rw [encode_append, encode_append, List.append_assoc, slice, List.drop_left, List.length_append,
    Nat.add_sub_cancel_left, List.take_left]

theorem text_between {a b c : String} {n : Node} (hstart : n.span.start = a.utf8ByteSize)
    (hstop : n.span.stop = (a ++ b).utf8ByteSize) : (ofText (a ++ b ++ c)).text n = b := by
  rw [← length_encode_toList, String.toList_append] at hstop
  rw [← length_encode_toList] at hstart
  rw [text, ofText, hstart, hstop, String.toList_append, String.toList_append, slice_encode,
    decode_encode, String.ofList_toList]

theorem text_eq_iff {source t : String} {n : Node} :
    (ofText source).text n = t ↔
      Reads (octets (source.toByteArray.extract n.span.start n.span.stop)) t.toList := by
  rw [reads_iff, ← slice_octets, ← encode_toList, text, ofText, ← String.toList_inj,
    String.toList_ofList]

/-- The text of a node whose span begins and ends between characters of the source is the part of
the source from there to there.  Whatever the span, beyond the end of the source or in the middle of
a character, the text is the one string that the bytes under it are read as. -/
theorem covered_text (source : String) (n : Node) :
    (∀ a b c : String, source = a ++ b ++ c → n.span.start = a.utf8ByteSize →
      n.span.stop = (a ++ b).utf8ByteSize → (ofText source).text n = b) ∧
    ∀ t : String, (ofText source).text n = t ↔
      Reads (octets (source.toByteArray.extract n.span.start n.span.stop)) t.toList := by
  refine ⟨?_, fun t => text_eq_iff⟩
  rintro a b c rfl hstart hstop
  exact text_between hstart hstop

/-- An identifier that covers the bytes from `start` up to `stop`. -/
def wordAt (start stop : Nat) : Node :=
  .mk "identifier" true none false false ⟨start, stop, ⟨0, start⟩, ⟨0, stop⟩⟩ []

/-- Characters of two, three and four bytes between others, and two characters cut in their
middles. -/
theorem covered_text_mixed :
    "λé€😀ß" = "λ" ++ "é€😀" ++ "ß" ∧ (wordAt 2 11).span.start = "λ".utf8ByteSize ∧
      (wordAt 2 11).span.stop = ("λ" ++ "é€😀").utf8ByteSize ∧
      (ofText "λé€😀ß").text (wordAt 2 11) = "é€😀" ∧
      octets ("λé€😀ß".toByteArray.extract 3 6) = [0xA9, 0xE2, 0x82] ∧
      (ofText "λé€😀ß").text (wordAt 3 6) = "\uFFFD\uFFFD" := by
  have hparts : "λé€😀ß" = "λ" ++ "é€😀" ++ "ß" := by decide
  have hcut : octets ("λé€😀ß".toByteArray.extract 3 6) = [0xA9, 0xE2, 0x82] := by decide
  refine ⟨hparts, rfl, rfl, (covered_text _ _).1 _ _ _ hparts rfl rfl, hcut,
    ((covered_text _ (wordAt 3 6)).2 _).2 ?_⟩
  show Reads (octets ("λé€😀ß".toByteArray.extract 3 6)) _
  rw [hcut]
  exact .brokenOne (by decide) (fun h => absurd h.second.1 (by decide))
    (.brokenTwo (by decide) (by decide) rfl trivial .nil)

end TestScribe.Syntax.Source
