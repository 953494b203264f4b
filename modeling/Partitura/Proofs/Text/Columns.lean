import Mathlib.Data.List.DropRight
import Mathlib.Data.String.Basic
import Partitura.Proofs.Text.Lines
import Partitura.Text
/-!
# Proofs.Text.Columns — what stands in a column can be read

Printed characters of ASCII take one byte each, so a column is as wide as its longest text whether bytes or characters
are counted.  None of them is a space, so a text that was filled up with spaces is found again at its place in the line
(`cell_eq`).
-/
namespace Partitura
namespace Text

/-- A printed character of ASCII, neither a blank nor a control. -/
def isPrinted (c : Char) : Bool := 0x20 < c.toNat && c.toNat < 0x7F

/-- **A text of printed characters.** -/
def Printed (text : String) : Prop := ∀ c ∈ text.toList, isPrinted c = true

instance (text : String) : Decidable (Printed text) :=
  decidable_of_iff (text.toList.all isPrinted = true) List.all_eq_true

namespace Printed

variable {text : String}

theorem not_mem (h : Printed text) {c : Char} (hc : isPrinted c = false) : c ∉ text.toList :=
  fun hmem => absurd (h c hmem) (Bool.eq_false_iff.1 hc)

theorem oneLine (h : Printed text) : OneLine text := h.not_mem (by decide)

theorem utf8ByteSize_eq (h : Printed text) : text.utf8ByteSize = text.length := by
  have hbyte : ∀ {c : Char}, isPrinted c = true → c.utf8Size = 1 := by
    intro c hc
    simp only [isPrinted, Bool.and_eq_true, decide_eq_true_eq] at hc
    rw [Char.utf8Size_eq_one_iff, UInt32.le_iff_toNat_le]
    exact Nat.le_of_lt hc.2
  have hlength : ∀ cs : List Char, (∀ c ∈ cs, isPrinted c = true) → String.utf8Len cs = cs.length := by
    intro cs hcs
    induction cs with
    | nil => rfl
    | cons c cs ih =>
      rw [List.forall_mem_cons] at hcs
      rw [String.utf8Len_cons, ih hcs.2, hbyte hcs.1, List.length_cons]
  rw [← String.utf8Len_toList, hlength text.toList h, String.length_toList]

end Printed

/-! ## Widths -/

/-- The length of the longest text. -/
def longest : List String → Nat
  | [] => 0
  | text :: texts => max text.length (longest texts)

theorem length_le_longest : ∀ {texts : List String}, ∀ text ∈ texts, text.length ≤ longest texts
  | [] => nofun
  | text :: texts => by
    rw [List.forall_mem_cons, longest]
    exact ⟨Nat.le_max_left _ _, fun other hother => (length_le_longest other hother).trans (Nat.le_max_right _ _)⟩

theorem widest_eq : ∀ {texts : List String} (least : Nat), (∀ text ∈ texts, Printed text) →
    widest least texts = max least (longest texts)
  | [], least, _ => (Nat.max_zero least).symm
  | text :: texts, least, h => by
    rw [List.forall_mem_cons] at h
    rw [widest, List.foldl_cons, ← widest, widest_eq _ h.2, longest, h.1.utf8ByteSize_eq, Nat.max_assoc]

/-! ## Cells -/

/-- **The text at a place of a line**, in a column of some width, without the spaces behind it. -/
def cell (start width : Nat) (line : List Char) : List Char :=
  ((line.drop start).take width).rdropWhile (· == ' ')

theorem toList_padRight (width : Nat) (text : String) :
    (padRight width text).toList = text.toList ++ List.replicate (width - text.length) ' ' := by
  rw [padRight, String.toList_append, String.toList_ofList]

/-- **A text that a column has room for** and that can be told from the spaces behind it. -/
structure FitsIn (width : Nat) (text : String) : Prop where
  length_le : text.length ≤ width
  printed : Printed text

theorem FitsIn.length_padRight {width : Nat} {text : String} (h : FitsIn width text) :
    (padRight width text).toList.length = width := by
  have hlength := h.length_le
  rw [toList_padRight, List.length_append, List.length_replicate, String.length_toList]
  omega

theorem FitsIn.oneLine_padRight {width : Nat} {text : String} (h : FitsIn width text) :
    OneLine (padRight width text) := by
  rw [padRight, oneLine_append_iff, oneLine_ofList_iff]
  exact ⟨h.printed.oneLine, fun hmem => absurd (List.eq_of_mem_replicate hmem) (by decide)⟩

theorem rdropWhile_spaces {cs : List Char} (h : ' ' ∉ cs) (count : Nat) :
    (cs ++ List.replicate count ' ').rdropWhile (· == ' ') = cs := by
  induction count with
  | zero =>
    rw [List.replicate_zero, List.append_nil, List.rdropWhile_eq_self_iff]
    intro hne hlast
    exact h (beq_iff_eq.1 hlast ▸ List.getLast_mem hne)
  | succ count ih => rw [List.replicate_succ', ← List.append_assoc, List.rdropWhile_concat_pos _ _ _ rfl, ih]

section Columns

variable {line gap behind : List Char} {start width : Nat} {text : String}

/-- **A text is found in its column**, whatever stands before and behind it. -/
theorem cell_eq (h : FitsIn width text) (hline : line.drop start = (padRight width text).toList ++ behind) :
    cell start width line = text.toList := by
  rw [cell, hline, List.take_left' h.length_padRight, toList_padRight, rdropWhile_spaces (h.printed.not_mem (by decide))]

/-- What stands behind a column and the gap next to it. -/
theorem drop_column (h : FitsIn width text) (hline : line.drop start = (padRight width text).toList ++ (gap ++ behind))
    {next : Nat} (hnext : start + (width + gap.length) = next) : line.drop next = behind := by
  rw [← hnext, ← List.drop_drop, hline, ← List.append_assoc]
  exact List.drop_left' (by rw [List.length_append, h.length_padRight])

end Columns

end Text
end Partitura
