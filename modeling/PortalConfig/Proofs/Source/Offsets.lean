import Mathlib.Data.List.Basic
import PortalConfig.Source.KeyOffset

/-!
# Offsets in bytes

Texts are read here character by character, while offsets into them count bytes. The sizes of
characters add up (`Source.byteSize_append`), so an offset that is the size of what stands in front
is where the bytes of the next part begin (`Source.bytesAt_byteSize`), and it belongs to one place
in the text only (`Source.eq_of_byteSize_eq`).
-/

namespace PortalConfig.Source

/-! ## Sizes -/

/-- Counting on from a size adds it. -/
theorem foldl_utf8Size (size : Nat) (text : List Char) :
    text.foldl (fun size c => size + c.utf8Size) size = size + byteSize text := by
  unfold byteSize
  induction text generalizing size with
  | nil => rfl
  | cons c rest ih =>
      rw [List.foldl_cons, ih, List.foldl_cons, ih (0 + c.utf8Size), Nat.zero_add, Nat.add_assoc]

@[simp] theorem byteSize_cons (c : Char) (rest : List Char) :
    byteSize (c :: rest) = c.utf8Size + byteSize rest := by
  rw [byteSize, List.foldl_cons, foldl_utf8Size, Nat.zero_add]

@[simp] theorem byteSize_append (a b : List Char) :
    byteSize (a ++ b) = byteSize a + byteSize b := by
  rw [byteSize, List.foldl_append, foldl_utf8Size, ← byteSize]

theorem eq_nil_of_byteSize_eq_zero {text : List Char} (zero : byteSize text = 0) : text = [] := by
  cases text with
  | nil => rfl
  | cons c rest =>
      have pos := c.utf8Size_pos
      rw [byteSize_cons] at zero
      omega

/-- The size counted by characters is the number of bytes of the string. -/
theorem utf8ByteSize_ofList (text : List Char) :
    (String.ofList text).utf8ByteSize = byteSize text := by
  induction text with
  | nil => rfl
  | cons c rest ih =>
      rw [String.ofList_cons, String.utf8ByteSize_append, String.utf8ByteSize_singleton, ih,
        byteSize_cons]

/-! ## Places -/

/-- In one text an offset belongs to one place. -/
theorem eq_of_byteSize_eq {a b c d : List Char} (same : a ++ b = c ++ d)
    (size : byteSize a = byteSize c) : a = c := by
  rcases List.append_eq_append_iff.1 same with ⟨more, rfl, -⟩ | ⟨more, rfl, -⟩
  · rw [byteSize_append] at size
    have empty : more = [] := eq_nil_of_byteSize_eq_zero (by omega)
    rw [empty, List.append_nil]
  · rw [byteSize_append] at size
    have empty : more = [] := eq_nil_of_byteSize_eq_zero (by omega)
    rw [empty, List.append_nil]

/-- The bytes of a text are found at an offset of another one. -/
def BytesAt (content : String) (offset : Nat) (text : String) : Prop :=
  offset + text.utf8ByteSize ≤ content.utf8ByteSize ∧
    content.toByteArray.extract offset (offset + text.utf8ByteSize) = text.toByteArray

/-- A text that stands in another one is found at the size of what stands in front. -/
theorem bytesAt_byteSize {content text : String} {before after : List Char}
    (split : content.toList = before ++ (text.toList ++ after)) :
    BytesAt content (byteSize before) text := by
  have whole : content = String.ofList before ++ (text ++ String.ofList after) := by
    apply String.toList_injective
    simp [split]
  have start : (String.ofList before).toByteArray.size = byteSize before :=
    utf8ByteSize_ofList before
  constructor
  · rw [whole, String.utf8ByteSize_append, String.utf8ByteSize_append, utf8ByteSize_ofList]
    omega
  · have shifted := ByteArray.extract_append_size_add (a := (String.ofList before).toByteArray)
      (b := text.toByteArray ++ (String.ofList after).toByteArray) (i := 0)
      (j := text.utf8ByteSize)
    rw [whole, String.toByteArray_append, String.toByteArray_append, ← start]
    exact shifted.trans (ByteArray.extract_append_eq_left rfl)

/-- The characters of a text after its last line end. -/
def lastLine (text : List Char) : List Char := (text.reverse.takeWhile (· != '\n')).reverse

/-- What has no line end prolongs the last line. -/
theorem lastLine_append_of_not_mem {tail : List Char} (one : '\n' ∉ tail) (text : List Char) :
    lastLine (text ++ tail) = lastLine text ++ tail := by
  have passes : ∀ c ∈ tail.reverse, (c != '\n') = true := by
    intro c mem
    exact bne_iff_ne.2 fun newline => one (newline ▸ List.mem_reverse.1 mem)
  rw [lastLine, List.reverse_append, List.takeWhile_append_of_pos passes, List.reverse_append,
    List.reverse_reverse, lastLine]

theorem lastLine_append_newline (text : List Char) : lastLine (text ++ ['\n']) = [] := by
  rw [lastLine, List.reverse_concat, List.takeWhile_cons_of_neg (by decide), List.reverse_nil]

/-- Whether only white space stands between an offset and the start of its line. -/
def OnlyBlankBefore (content : String) (offset : Nat) : Prop :=
  ∃ before after, content.toList = before ++ after ∧ byteSize before = offset ∧
    ∀ c ∈ lastLine before, isBlank c = true

theorem onlyBlankBefore_byteSize_iff {content : String} {before after : List Char}
    (split : content.toList = before ++ after) :
    OnlyBlankBefore content (byteSize before) ↔ ∀ c ∈ lastLine before, isBlank c = true := by
  constructor
  · rintro ⟨other, rest, other_split, size, blank⟩
    rwa [← eq_of_byteSize_eq (other_split.symm.trans split) size]
  · intro blank
    exact ⟨before, after, split, rfl, blank⟩

end PortalConfig.Source
