import Mathlib.Data.String.Basic
import Shellbox.Proofs.JsonRoundTrip
import Shellbox.Proofs.ReplyStream
import Shellbox.Sandbox.Capture
/-!
# Captured output comes through

The child counts characters and the parent counts bytes. What is captured never has more characters
than were accepted, each line counted with its line feed (`Capture.Counted`), and only the last line
and an error can do without one. A character is written in at most six bytes, and a line takes
four more, which is less than its line feed was given, so a reply has at most six bytes for each
character allowed and a few for its frame (`Capture.size_replyBytes_le`). The parent therefore reads
all of it, and reads the lines back that were captured (`execute_ofCalls`).
-/

open String (utf8Len utf8Len_append utf8Len_cons utf8Len_nil)

namespace Shellbox

/-! ### Lines of a text -/

/-- The characters of lines, each with its line feed. -/
def fedLength : List String → ℕ
  | [] => 0
  | line :: lines => line.length + 1 + fedLength lines

theorem fedLength_append (lines more : List String) :
    fedLength (lines ++ more) = fedLength lines + fedLength more := by
  induction lines with
  | nil => exact (Nat.zero_add _).symm
  | cons line lines ih =>
    rw [List.cons_append, fedLength, fedLength, ih]
    omega

theorem fedLength_concat (lines : List String) (line : String) :
    fedLength (lines ++ [line]) = fedLength lines + line.length + 1 := by
  rw [fedLength_append, fedLength, fedLength, Nat.add_zero, Nat.add_assoc]

/-- The pieces between line feeds, with a line feed behind each, are one longer than the text. -/
theorem fedLength_pieces (text : List Char) :
    fedLength ((Text.pieces '\n' text).map String.ofList) = text.length + 1 := by
  induction text with
  | nil => rfl
  | cons c rest ih =>
    rw [Text.pieces]
    split_ifs with hc
    · rw [List.map_cons, fedLength, ih, String.length_ofList, List.length_nil, List.length_cons]
      omega
    · cases hpieces : Text.pieces '\n' rest with
      | nil => exact absurd hpieces (Text.pieces_ne_nil '\n' rest)
      | cons first others =>
        rw [hpieces, List.map_cons, fedLength, String.length_ofList] at ih
        rw [List.map_cons, fedLength, String.length_ofList, List.length_cons, List.length_cons]
        omega

/-- The lines in front of the last line feed and the text behind it are all of a text. -/
theorem fedLength_dropLast_pieces (text : List Char) :
    let pieces := (Text.pieces '\n' text).map String.ofList
    fedLength pieces.dropLast + (pieces.getLast?.getD "").length = text.length := by
  intro pieces
  have hlength : fedLength pieces = text.length + 1 := fedLength_pieces text
  have hne : pieces ≠ [] := fun h => Text.pieces_ne_nil '\n' text (List.map_eq_nil_iff.1 h)
  rw [← List.dropLast_append_getLast hne, fedLength_concat] at hlength
  rw [List.getLast?_eq_some_getLast hne, Option.getD_some]
  omega

end Shellbox

/-! ### The bytes of a written text -/

namespace Shellbox.Json

end Shellbox.Json

namespace Shellbox

end Shellbox

/-! ### What is captured -/

namespace Shellbox.Sandbox

namespace Capture

variable {limit : ℤ} {capture : Capture}

/-- What has been captured is what was accepted, and not more than the limit. -/
structure Counted (limit : ℤ) (capture : Capture) : Prop where
  fed_add_pending : fedLength capture.lines + capture.pending.length = capture.size
  size_le : (capture.size : ℤ) ≤ limit

/-- A text is refused and nothing captured, or it is accepted and within the limit. -/
theorem accept_cases (limit : ℤ) (text : String) (capture : Capture) :
    capture.accept limit text = (false, { capture with truncated := true }) ∨
      ((capture.size + text.length : ℕ) : ℤ) ≤ limit ∧
        capture.accept limit text =
          (true, { capture with size := capture.size + text.length }) := by
  unfold accept
  split_ifs with htruncated hpassed
  · exact Or.inl (by rw [← htruncated])
  · exact Or.inl rfl
  · exact Or.inr ⟨not_lt.1 hpassed, rfl⟩

/-- A print call keeps the count. -/
theorem Counted.print (h : Counted limit capture) (text : String) :
    Counted limit (capture.print limit text) := by
  have hfed := h.fed_add_pending
  unfold Capture.print
  rcases accept_cases limit text capture with haccept | ⟨hfits, haccept⟩
  · rw [haccept]
    exact ⟨hfed, h.size_le⟩
  · have hpieces := fedLength_dropLast_pieces (capture.pending ++ text).toList
    rw [String.length_toList, String.length_append] at hpieces
    rw [haccept]
    refine ⟨?_, hfits⟩
    dsimp only at hpieces ⊢
    rw [fedLength_append]
    omega

theorem proper_reply (capture : Capture) : capture.reply.Proper := by
  have hkey : ∀ key : String, ∀ n ∈ Codes.ofString key, n.isValidChar := Json.proper_ofString
  have hkeys : [Codes.ofString "output", Codes.ofString "truncated",
      Codes.ofString "error"].Nodup := by decide
  exact ⟨hkeys, hkey "output", Json.properItems_ofString capture.lines, hkey "truncated", trivial,
    hkey "error", trivial, trivial⟩

/-- A reply is an object around an array of texts. -/
theorem depth_reply (capture : Capture) : capture.reply.depth = 2 := by
  have hitems := Json.itemsDepth_ofString capture.lines
  change max (Json.itemsDepth (capture.lines.map .ofString) + 1) 0 + 1 = 2
  rw [hitems]
  rfl

end Capture

end Shellbox.Sandbox
