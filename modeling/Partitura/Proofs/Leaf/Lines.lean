import Partitura.Proofs.Leaf.Characters
import Partitura.Proofs.Text.Lines
/-!
# Proofs.Leaf.Lines — literals on one line

A literal has a newline in it only where a procedure has one: words have none, and a text in quotes has none.
-/
namespace Partitura

open Text (OneLine oneLine_append_iff)

theorem IsWord.oneLine {text : String} (h : IsWord text.toList) : OneLine text := h.not_mem (by decide)

theorem oneLine_natRepr (n : Nat) : OneLine n.repr := (isWord_natRepr n).oneLine

theorem Color.oneLine_literal (c : Color) : OneLine c.literal := by
  unfold literal
  split
  · exact c.isWord_name.oneLine
  · exact oneLine_append_iff.2 ⟨oneLine_append_iff.2 ⟨by decide, c.isWord_name.oneLine⟩, by decide⟩

namespace Leaf

mutual
/-- **No procedure in a value has a newline.** -/
def Plain : Leaf → Prop
  | procedure p => OneLine p.expression
  | pair first second => Plain first ∧ Plain second
  | list items => plainItems items
  | associationList entries => plainEntries entries
  | boolean _ | unsignedInt _ | signedInt _ | unsignedFloat _ | signedFloat _ => True
  | string _ | symbol _ | direction _ | axis _ | color _ => True
def plainItems : List Leaf → Prop
  | [] => True
  | item :: items => Plain item ∧ plainItems items
def plainEntries : List (Leaf × Leaf) → Prop
  | [] => True
  | (key, value) :: entries => (Plain key ∧ Plain value) ∧ plainEntries entries
end

theorem oneLine_pair {first second : String} (hfirst : OneLine first) (hsecond : OneLine second) :
    OneLine ("(" ++ first ++ " . " ++ second ++ ")") := by
  simp only [oneLine_append_iff]
  exact ⟨⟨⟨⟨by decide, hfirst⟩, by decide⟩, hsecond⟩, by decide⟩

theorem oneLine_group {texts : List String} (h : ∀ text ∈ texts, OneLine text) :
    OneLine ("(" ++ " ".intercalate texts ++ ")") := by
  rw [oneLine_append_iff, oneLine_append_iff, Text.oneLine_intercalate_iff (by decide)]
  exact ⟨⟨by decide, h⟩, by decide⟩

mutual
theorem oneLine_nested : ∀ (v : Leaf), v.Plain → OneLine v.nested
  | boolean true, _ | boolean false, _ => by decide
  | unsignedInt n, _ => oneLine_natRepr n
  | signedInt z, _ => (isWord_intRepr z).oneLine
  | unsignedFloat x, _ | signedFloat x, _ => x.isWord_text.oneLine
  | string text, _ => Text.oneLine_quoted text
  | symbol s, _ => s.isWord_name.oneLine
  | direction .up, _ | direction .down, _ | direction .center, _ => by decide
  | axis .x, _ | axis .y, _ => by decide
  | color c, _ => c.oneLine_literal
  | pair first second, h => oneLine_pair (oneLine_nested first h.1) (oneLine_nested second h.2)
  | list items, h => oneLine_group (oneLine_nestedItems items h)
  | associationList entries, h => oneLine_group (oneLine_nestedEntries entries h)
  | procedure _, h => h
theorem oneLine_nestedItems : ∀ (items : List Leaf), plainItems items → ∀ text ∈ nestedItems items, OneLine text
  | [], _ => nofun
  | item :: items, h => List.forall_mem_cons.2 ⟨oneLine_nested item h.1, oneLine_nestedItems items h.2⟩
theorem oneLine_nestedEntries : ∀ (entries : List (Leaf × Leaf)), plainEntries entries →
    ∀ text ∈ nestedEntries entries, OneLine text
  | [], _ => nofun
  | (key, value) :: entries, h => List.forall_mem_cons.2
    ⟨oneLine_pair (oneLine_nested key h.1.1) (oneLine_nested value h.1.2), oneLine_nestedEntries entries h.2⟩
end

/-- **A literal is on one line** unless a procedure in it is not. -/
theorem oneLine_topLevel {v : Leaf} (h : v.Plain) : OneLine v.topLevel := by
  have hnested := v.oneLine_nested h
  unfold topLevel
  split
  · exact oneLine_append_iff.2 ⟨by decide, hnested⟩
  · exact oneLine_append_iff.2 ⟨by decide, hnested⟩

end Leaf
end Partitura
