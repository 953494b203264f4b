import Mathlib.Data.List.Basic
import Partitura.Layout
import Partitura.Text
/-!
# Proofs.Text.Lines — texts on one line, and texts one level deeper

A text goes one level deeper by a unit of indentation behind each of its newlines (`indented`).  That is done to a text
piece by piece (`indented_append`), and does nothing to a text on one line.
-/
namespace Partitura
namespace Text

/-- **A text on one line.** -/
def OneLine (text : String) : Prop := '\n' ∉ text.toList

instance (text : String) : Decidable (OneLine text) := inferInstanceAs (Decidable (_ ∉ _))

/-- **The text one level deeper**: a unit of indentation stands behind every newline. -/
def indented (text : String) : String :=
  String.ofList (text.toList.flatMap fun c => if c = '\n' then c :: Layout.indentUnit.toList else [c])

theorem oneLine_ofList_iff {cs : List Char} : OneLine (String.ofList cs) ↔ '\n' ∉ cs := by
  rw [OneLine, String.toList_ofList]

theorem oneLine_append_iff {a b : String} : OneLine (a ++ b) ↔ OneLine a ∧ OneLine b := by
  rw [OneLine, String.toList_append, List.mem_append, not_or]
  exact Iff.rfl

theorem oneLine_join_iff {texts : List String} : OneLine (String.join texts) ↔ ∀ text ∈ texts, OneLine text := by
  induction texts with
  | nil => exact iff_of_true (by decide) nofun
  | cons text texts ih => rw [String.join_cons, oneLine_append_iff, ih, List.forall_mem_cons]

theorem oneLine_intercalate_iff {sep : String} (hsep : OneLine sep) {parts : List String} :
    OneLine (sep.intercalate parts) ↔ ∀ part ∈ parts, OneLine part := by
  induction parts with
  | nil => exact iff_of_true nofun nofun
  | cons part parts ih =>
    cases parts with
    | nil => rw [String.intercalate_singleton, List.forall_mem_singleton]
    | cons next parts =>
      rw [String.intercalate_cons_cons, oneLine_append_iff, oneLine_append_iff, ih, List.forall_mem_cons (a := part)]
      exact and_congr_left' (and_iff_left hsep)

/-- A newline is written with a backslash in a literal. -/
theorem oneLine_quoted (text : String) : OneLine (quoted text) := by
  have hchar : ∀ c, '\n' ∉ quotedChar c := by
    intro c hc
    unfold quotedChar at hc
    split at hc
    · exact absurd hc (by decide)
    · split at hc
      · exact absurd hc (by decide)
      · split at hc
        · exact absurd hc (by decide)
        · next hnewline => exact hnewline (List.mem_singleton.1 hc).symm
  rw [quoted, oneLine_ofList_iff, quotedChars, List.mem_append, List.mem_cons, List.mem_flatMap, List.mem_singleton]
  rintro ((h | ⟨c, -, hc⟩) | h)
  · exact absurd h (by decide)
  · exact hchar c hc
  · exact absurd h (by decide)

theorem indented_append (a b : String) : indented (a ++ b) = indented a ++ indented b := by
  rw [indented, String.toList_append, List.flatMap_append, String.ofList_append]
  rfl

theorem indented_of_oneLine {text : String} (h : OneLine text) : indented text = text := by
  have hsame : ∀ c ∈ text.toList, (if c = '\n' then c :: Layout.indentUnit.toList else [c]) = [c] := by
    intro c hc
    rw [if_neg]
    rintro rfl
    exact h hc
  rw [indented, List.flatMap_congr hsame, List.flatMap_singleton', String.ofList_toList]

theorem indented_intercalate {sep : String} (hsep : OneLine sep) (parts : List String) :
    indented (sep.intercalate parts) = sep.intercalate (parts.map indented) := by
  induction parts with
  | nil => rfl
  | cons part parts ih =>
    cases parts with
    | nil => rw [List.map_cons, List.map_nil, String.intercalate_singleton, String.intercalate_singleton]
    | cons next parts =>
      rw [List.map_cons] at ih
      rw [String.intercalate_cons_cons, indented_append, indented_append, indented_of_oneLine hsep, ih, List.map_cons,
        List.map_cons, String.intercalate_cons_cons]

theorem isEmpty_indented (text : String) : (indented text).isEmpty = text.isEmpty := by
  rw [Bool.eq_iff_iff, String.isEmpty_iff, String.isEmpty_iff, ← String.toList_eq_nil_iff, ← String.toList_eq_nil_iff,
    indented, String.toList_ofList]
  cases text.toList with
  | nil => exact Iff.rfl
  | cons c cs =>
    rw [List.flatMap_cons]
    split <;> exact iff_of_false nofun nofun

end Text
end Partitura
