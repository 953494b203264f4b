import Partitura.Layout
import Partitura.Text
/-!
# Proofs.Text.Words — the words of a text, and the text but for its blanks

The words are what stands between blanks.  They say nothing about two texts that follow each other without a blank, so
what a layout keeps is said with more than the words: two texts are alike if they condense to the same characters, one
space for every run of blanks.  Texts alike have the same words (`words_condense`), and what is put together from texts
alike is alike (`condense_append_congr`).
-/
namespace Partitura
namespace Text

/-- **The words of a text**: what stands between its blanks. -/
def words (cs : List Char) : List (List Char) := (cs.splitOnP isBlank).filter (!·.isEmpty)

/-- What keeps two words apart. -/
def IsSeparator (cs : List Char) : Prop := cs ≠ [] ∧ ∀ c ∈ cs, isBlank c = true

theorem isSeparator_space : IsSeparator [' '] := ⟨nofun, List.forall_mem_singleton.2 rfl⟩

theorem isSeparator_newline (indent : Nat) : IsSeparator (Layout.newline indent).toList := by
  rw [Layout.newline, String.toList_append]
  refine ⟨nofun, fun c hc => ?_⟩
  rcases List.mem_append.1 hc with hc | hc
  · rw [List.mem_singleton.1 hc]
    rfl
  · rw [Layout.margin, String.toList_join, List.mem_flatMap] at hc
    obtain ⟨unit, hunit, hc⟩ := hc
    rw [List.eq_of_mem_replicate hunit] at hc
    have hblank : Layout.indentUnit.toList.all isBlank = true := rfl
    exact List.all_eq_true.1 hblank c hc

/-! ## Words -/

theorem words_append_blank (xs ys : List Char) {c : Char} (hc : isBlank c = true) :
    words (xs ++ c :: ys) = words xs ++ words ys := by
  rw [words, List.splitOnP_append_cons xs ys hc, List.filter_append]
  rfl

theorem words_blank_cons (ys : List Char) {c : Char} (hc : isBlank c = true) : words (c :: ys) = words ys :=
  words_append_blank [] ys hc

theorem words_blanks_append (ys : List Char) : ∀ {blanks : List Char}, (∀ c ∈ blanks, isBlank c = true) →
    words (blanks ++ ys) = words ys
  | [], _ => rfl
  | c :: cs, h => by
    rw [List.cons_append, words_blank_cons (cs ++ ys) (h c List.mem_cons_self)]
    exact words_blanks_append ys fun b hb => h b (List.mem_cons_of_mem c hb)

/-- **A separator** stands between the words before it and those after it. -/
theorem words_append_separator {sep : List Char} (hsep : IsSeparator sep) (xs ys : List Char) :
    words (xs ++ (sep ++ ys)) = words xs ++ words ys := by
  obtain ⟨hne, hblank⟩ := hsep
  obtain ⟨c, cs, rfl⟩ := List.exists_cons_of_ne_nil hne
  rw [List.cons_append, words_append_blank xs _ (hblank c List.mem_cons_self),
    words_blanks_append ys fun b hb => hblank b (List.mem_cons_of_mem c hb)]

/-- What is empty has no words, so it may be left out. -/
theorem flatMap_words_filter (parts : List (List Char)) :
    (parts.filter (!·.isEmpty)).flatMap words = parts.flatMap words := by
  induction parts with
  | nil => rfl
  | cons part parts ih =>
    cases part with
    | nil => exact ih
    | cons c cs => exact congrArg (words (c :: cs) ++ ·) ih

theorem words_intercalate : ∀ parts : List (List Char), words ([' '].intercalate parts) = parts.flatMap words
  | [] => rfl
  | [part] => by rw [List.intercalate_singleton, List.flatMap_singleton]
  | part :: next :: parts => by
    rw [List.intercalate_cons_cons, List.append_assoc, words_append_separator isSeparator_space,
      words_intercalate (next :: parts), ← List.flatMap_cons]

/-! ## Texts alike -/

/-- A character before condensed ones: a blank adds nothing to a space. -/
def glue (c : Char) (cs : List Char) : List Char :=
  if isBlank c then (if cs.head? = some ' ' then cs else ' ' :: cs) else c :: cs

/-- **The text but for its blanks**: one space for every run of them. -/
def condense (cs : List Char) : List Char := cs.foldr glue []

theorem isBlank_space : isBlank ' ' = true := rfl

theorem glue_of_blank {c : Char} (hc : isBlank c = true) (cs : List Char) : glue c cs = glue ' ' cs := by
  rw [glue, glue, if_pos hc, if_pos isBlank_space]

theorem glue_of_not_blank {c : Char} (hc : ¬ isBlank c = true) (cs : List Char) : glue c cs = c :: cs := if_neg hc

theorem head?_glue_space (cs : List Char) : (glue ' ' cs).head? = some ' ' := by
  rw [glue, if_pos isBlank_space]
  split
  · assumption
  · rfl

theorem glue_space_glue (cs : List Char) : glue ' ' (glue ' ' cs) = glue ' ' cs := by
  rw [glue, if_pos isBlank_space, if_pos (head?_glue_space cs)]

/-- A blank goes the same way before characters and before what they condense to. -/
theorem foldr_glue (s : List Char) (c : Char) (cs : List Char) :
    (glue c cs).foldr glue s = glue c (cs.foldr glue s) := by
  by_cases hc : isBlank c = true
  · rw [glue_of_blank hc, glue_of_blank hc, glue, if_pos isBlank_space]
    split
    · next hspace =>
      obtain ⟨rest, rfl⟩ := List.head?_eq_some_iff.1 hspace
      rw [List.foldr_cons, glue_space_glue]
    · rfl
  · rw [glue_of_not_blank hc]
    rfl

theorem foldr_condense (s : List Char) : ∀ cs : List Char, (condense cs).foldr glue s = cs.foldr glue s
  | [] => rfl
  | c :: cs => by
    rw [condense, List.foldr_cons, foldr_glue, List.foldr_cons]
    exact congrArg (glue c) (foldr_condense s cs)

@[simp] theorem condense_condense (cs : List Char) : condense (condense cs) = condense cs := foldr_condense [] cs

/-- **What two texts condense to together** depends on what each of them condenses to. -/
theorem condense_append (xs ys : List Char) : condense (xs ++ ys) = condense (condense xs ++ condense ys) := by
  rw [condense, condense, List.foldr_append, List.foldr_append, foldr_condense]
  exact congrArg (xs.foldr glue) (condense_condense ys).symm

theorem condense_append_congr {xs xs' ys ys' : List Char} (hxs : condense xs = condense xs')
    (hys : condense ys = condense ys') : condense (xs ++ ys) = condense (xs' ++ ys') := by
  rw [condense_append, hxs, hys, ← condense_append]

theorem condense_blanks : ∀ {blanks : List Char}, IsSeparator blanks → condense blanks = [' ']
  | [], h => absurd rfl h.1
  | [c], h => glue_of_blank (h.2 c List.mem_cons_self) []
  | c :: c' :: cs, h => by
    have hrest : IsSeparator (c' :: cs) := ⟨nofun, fun b hb => h.2 b (List.mem_cons_of_mem c hb)⟩
    have ih : (c' :: cs).foldr glue [] = [' '] := condense_blanks hrest
    rw [condense, List.foldr_cons, ih, glue_of_blank (h.2 c List.mem_cons_self)]
    rfl

/-- What condenses to nothing is nothing. -/
theorem isEmpty_condense : ∀ cs : List Char, (condense cs).isEmpty = cs.isEmpty
  | [] => rfl
  | c :: cs => by
    have hcondense : condense (c :: cs) = glue c (condense cs) := rfl
    by_cases hc : isBlank c = true
    · obtain ⟨rest, hrest⟩ := List.head?_eq_some_iff.1 (head?_glue_space (condense cs))
      rw [hcondense, glue_of_blank hc, hrest]
      rfl
    · rw [hcondense, glue_of_not_blank hc]
      rfl

theorem condense_intercalate : ∀ parts : List (List Char),
    condense ([' '].intercalate (parts.map condense)) = condense ([' '].intercalate parts)
  | [] => rfl
  | [part] => by
    rw [List.map_cons, List.map_nil, List.intercalate_singleton, List.intercalate_singleton, condense_condense]
  | part :: next :: parts => by
    rw [List.map_cons, List.map_cons, List.intercalate_cons_cons, List.intercalate_cons_cons]
    exact condense_append_congr (condense_append_congr (condense_condense part) rfl)
      (condense_intercalate (next :: parts))

/-- The words before and after condensing, whatever stands before. -/
theorem words_append_condense : ∀ xs cs : List Char, words (xs ++ condense cs) = words (xs ++ cs)
  | _, [] => rfl
  | xs, c :: cs => by
    have hcondense : condense (c :: cs) = glue c (condense cs) := rfl
    have ih : words (condense cs) = words cs := words_append_condense [] cs
    by_cases hc : isBlank c = true
    · rw [hcondense, words_append_blank xs cs hc, glue, if_pos hc]
      split
      · next hspace =>
        obtain ⟨rest, hrest⟩ := List.head?_eq_some_iff.1 hspace
        rw [← ih, hrest, words_append_blank xs rest isBlank_space, words_blank_cons rest isBlank_space]
      · rw [words_append_blank xs _ isBlank_space, ih]
    · rw [hcondense, glue_of_not_blank hc, List.append_cons, List.append_cons xs c cs]
      exact words_append_condense (xs ++ [c]) cs

/-- **Texts alike have the same words.** -/
theorem words_condense (cs : List Char) : words (condense cs) = words cs := words_append_condense [] cs

end Text
end Partitura
