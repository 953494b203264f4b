import Partitura.Proofs.Leaf.Datum
/-!
# Proofs.Leaf.Marked — one marker for an argument

A literal is words, signs between them, and what a user wrote in texts and procedures.  So a character that is neither
in a word nor such a sign stands in a literal as often as the user wrote it (`Leaf.count_nested`).  The marker and the
quote mark are such characters, and only an argument of its own begins with them.
-/
namespace Partitura

/-- A character that literals are written with. -/
def isLiteralChar (c : Char) : Bool := isSymbolChar c || "() \"\\\n".toList.contains c

theorem IsWord.count_eq_zero {cs : List Char} (h : IsWord cs) {c : Char} (hc : isLiteralChar c = false) :
    cs.count c = 0 :=
  List.count_eq_zero.2 (h.not_mem (Bool.or_eq_false_iff.1 hc).1)

theorem count_signs {c : Char} (hc : isLiteralChar c = false) (signs : List Char)
    (hsigns : signs.all isLiteralChar = true) : signs.count c = 0 := by
  refine List.count_eq_zero.2 fun hmem => ?_
  rw [List.all_eq_true.1 hsigns c hmem] at hc
  cases hc

theorem Text.count_quotedChars {c : Char} (hc : isLiteralChar c = false) (cs : List Char) :
    (quotedChars cs).count c = cs.count c := by
  have hchar : ∀ d, (quotedChar d).count c = [d].count c := by
    intro d
    -- A character behind a backslash is a sign, and so is what it stands for.
    unfold quotedChar
    split
    · next h => rw [h, count_signs hc _ (by decide), count_signs hc _ (by decide)]
    · split
      · next h => rw [h, count_signs hc _ (by decide), count_signs hc _ (by decide)]
      · split
        · next h => rw [h, count_signs hc _ (by decide), count_signs hc _ (by decide)]
        · rfl
  have hinner : (cs.flatMap quotedChar).count c = cs.count c := by
    induction cs with
    | nil => rfl
    | cons d cs ih => rw [List.flatMap_cons, List.count_append, hchar, ih, ← List.count_append, List.singleton_append]
  have hopening : quotedChars cs = ['"'] ++ cs.flatMap quotedChar ++ ['"'] := rfl
  rw [hopening, List.count_append, List.count_append, hinner, count_signs hc _ (by decide), Nat.zero_add, Nat.add_zero]

namespace Leaf

mutual
/-- **A value and all values inside it**, each before its members. -/
def values : Leaf → List Leaf
  | pair first second => pair first second :: (values first ++ values second)
  | list items => list items :: valuesOfItems items
  | associationList entries => associationList entries :: valuesOfEntries entries
  | v => [v]
def valuesOfItems : List Leaf → List Leaf
  | [] => []
  | item :: items => values item ++ valuesOfItems items
def valuesOfEntries : List (Leaf × Leaf) → List Leaf
  | [] => []
  | (key, value) :: entries => pair key value :: (values key ++ values value) ++ valuesOfEntries entries
end

/-- What a user wrote in a value itself: the text of a string, the expression of a procedure. -/
def ownText : Leaf → List Char
  | string text => text.toList
  | procedure p => p.expression.toList
  | _ => []

/-- **All that a user wrote in a value**, its members included. -/
def userText (v : Leaf) : List Char := v.values.flatMap ownText

theorem userText_pair (first second : Leaf) :
    (pair first second).userText = first.userText ++ second.userText := by
  unfold userText
  rw [values, List.flatMap_cons, List.flatMap_append]
  rfl

theorem mem_values_self (v : Leaf) : v ∈ v.values := by
  cases v <;> simp [values]

mutual
theorem values_subset : ∀ {v w : Leaf}, w ∈ v.values → w.values ⊆ v.values
  | pair first second, w, h => by
    rw [values, List.mem_cons, List.mem_append] at h
    rcases h with rfl | h | h
    · exact List.Subset.refl _
    · exact fun u hu => List.mem_cons_of_mem _ (List.mem_append_left _ (values_subset h hu))
    · exact fun u hu => List.mem_cons_of_mem _ (List.mem_append_right _ (values_subset h hu))
  | list items, w, h => by
    rw [values, List.mem_cons] at h
    rcases h with rfl | h
    · exact List.Subset.refl _
    · exact fun u hu => List.mem_cons_of_mem _ (valuesOfItems_subset h hu)
  | associationList entries, w, h => by
    rw [values, List.mem_cons] at h
    rcases h with rfl | h
    · exact List.Subset.refl _
    · exact fun u hu => List.mem_cons_of_mem _ (valuesOfEntries_subset h hu)
  | boolean _, w, h | unsignedInt _, w, h | signedInt _, w, h | unsignedFloat _, w, h | signedFloat _, w, h
  | string _, w, h | symbol _, w, h | direction _, w, h | axis _, w, h | color _, w, h | procedure _, w, h => by
    rw [List.mem_singleton.1 h]
    exact List.Subset.refl _
theorem valuesOfItems_subset : ∀ {items : List Leaf} {w : Leaf}, w ∈ valuesOfItems items →
    w.values ⊆ valuesOfItems items
  | item :: items, w, h => by
    rw [valuesOfItems, List.mem_append] at h
    rcases h with h | h
    · exact fun u hu => List.mem_append_left _ (values_subset h hu)
    · exact fun u hu => List.mem_append_right _ (valuesOfItems_subset h hu)
theorem valuesOfEntries_subset : ∀ {entries : List (Leaf × Leaf)} {w : Leaf}, w ∈ valuesOfEntries entries →
    w.values ⊆ valuesOfEntries entries
  | (key, value) :: entries, w, h => by
    rw [valuesOfEntries, List.mem_append, List.mem_cons, List.mem_append] at h
    rcases h with (rfl | h | h) | h
    · exact fun u hu => List.mem_append_left _ hu
    · exact fun u hu => List.mem_append_left _ (List.mem_cons_of_mem _ (List.mem_append_left _ (values_subset h hu)))
    · exact fun u hu => List.mem_append_left _ (List.mem_cons_of_mem _ (List.mem_append_right _ (values_subset h hu)))
    · exact fun u hu => List.mem_append_right _ (valuesOfEntries_subset h hu)
end

theorem userText_subset {v w : Leaf} (h : w ∈ v.values) : w.userText ⊆ v.userText := by
  intro c hc
  obtain ⟨u, hu, hc⟩ := List.mem_flatMap.1 hc
  exact List.mem_flatMap.2 ⟨u, values_subset h hu, hc⟩

/-! ## Counting -/

section
variable {c : Char} (hc : isLiteralChar c = false)
include hc

theorem count_pairText (first second : String) : ("(" ++ first ++ " . " ++ second ++ ")").toList.count c =
    first.toList.count c + second.toList.count c := by
  simp only [String.toList_append, List.count_append]
  rw [count_signs hc "(".toList (by decide), count_signs hc " . ".toList (by decide),
    count_signs hc ")".toList (by decide)]
  omega

theorem count_groupText (texts : List String) : ("(" ++ " ".intercalate texts ++ ")").toList.count c =
    (texts.flatMap String.toList).count c := by
  have hinner : (" ".intercalate texts).toList.count c = (texts.flatMap String.toList).count c := by
    cases texts with
    | nil => rw [String.intercalate_nil]; rfl
    | cons text texts =>
      rw [Text.toList_intercalate_cons, List.flatMap_cons, List.count_append, List.count_append]
      congr 1
      induction texts with
      | nil => rfl
      | cons next texts ih =>
        rw [List.flatMap_cons, List.flatMap_cons, List.count_append, List.count_append, ih, ← List.singleton_append,
          List.count_append, count_signs hc [' '] (by decide), Nat.zero_add]
  simp only [String.toList_append, List.count_append]
  rw [hinner, count_signs hc "(".toList (by decide), count_signs hc ")".toList (by decide)]
  omega

theorem count_colorLiteral (color : Color) : color.literal.toList.count c = 0 := by
  unfold Color.literal
  split
  · exact color.isWord_name.count_eq_zero hc
  · simp only [String.toList_append, List.count_append]
    rw [color.isWord_name.count_eq_zero hc, count_signs hc "(x11-color \"".toList (by decide),
      count_signs hc "\")".toList (by decide)]

end

mutual
/-- **A character that literals are not written with** stands in a literal as often as the user wrote it. -/
theorem count_nested {c : Char} (hc : isLiteralChar c = false) : ∀ v : Leaf,
    v.nested.toList.count c = v.userText.count c
  | boolean true | boolean false => count_signs hc _ (by decide)
  | unsignedInt n => (isWord_natRepr n).count_eq_zero hc
  | signedInt z => (isWord_intRepr z).count_eq_zero hc
  | unsignedFloat x | signedFloat x => x.isWord_text.count_eq_zero hc
  | string text => by
    rw [nested, Text.toList_quoted, Text.count_quotedChars hc]
    exact congrArg (List.count c) (List.append_nil text.toList).symm
  | symbol s => s.isWord_name.count_eq_zero hc
  | direction .up | direction .down | direction .center => count_signs hc _ (by decide)
  | axis .x | axis .y => count_signs hc _ (by decide)
  | color tint => count_colorLiteral hc tint
  | pair first second => by
    rw [nested, count_pairText hc, count_nested hc first, count_nested hc second, userText_pair, List.count_append]
  | list items => by
    rw [nested, count_groupText hc, count_nestedItems hc items]
    rfl
  | associationList entries => by
    rw [nested, count_groupText hc, count_nestedEntries hc entries]
    rfl
  | procedure p => congrArg (List.count c) (List.append_nil p.expression.toList).symm
theorem count_nestedItems {c : Char} (hc : isLiteralChar c = false) : ∀ items : List Leaf,
    ((nestedItems items).flatMap String.toList).count c = ((valuesOfItems items).flatMap ownText).count c
  | [] => rfl
  | item :: items => by
    rw [nestedItems, List.flatMap_cons, List.count_append, count_nested hc item, count_nestedItems hc items,
      valuesOfItems, List.flatMap_append, List.count_append]
    rfl
theorem count_nestedEntries {c : Char} (hc : isLiteralChar c = false) : ∀ entries : List (Leaf × Leaf),
    ((nestedEntries entries).flatMap String.toList).count c = ((valuesOfEntries entries).flatMap ownText).count c
  | [] => rfl
  | (key, value) :: entries => by
    rw [nestedEntries, List.flatMap_cons, List.count_append, count_pairText hc, count_nested hc key,
      count_nested hc value, count_nestedEntries hc entries, ← List.count_append, ← userText_pair, ← List.count_append]
    exact congrArg (List.count c) List.flatMap_append.symm
end

/-! ## The marker -/

theorem toList_topLevel (v : Leaf) : v.topLevel.toList =
    if v.kind.isQuoted then '#' :: '\'' :: v.nested.toList else '#' :: v.nested.toList := by
  unfold topLevel
  split <;> rw [String.toList_append] <;> rfl

/-- **One marker for an argument.**  A literal begins with the marker, and it has no other but those that the user wrote
in texts and procedures; so without them no value inside has any.  Behind the marker of a pair or list stands the quote
mark and then the bare literal, in which there are no quote marks but the user's. -/
theorem one_marker (v : Leaf) :
    v.topLevel.toList.count '#' = 1 + v.userText.count '#' ∧
    (∃ rest, v.topLevel.toList = '#' :: rest ∧ rest.count '#' = v.userText.count '#') ∧
    ('#' ∉ v.userText → ∀ w ∈ v.values, '#' ∉ w.nested.toList) ∧
    (v.kind = .pair ∨ v.kind = .list ∨ v.kind = .associationList →
      v.topLevel.toList = '#' :: '\'' :: v.nested.toList) ∧
    ∀ w ∈ v.values, w.nested.toList.count '\'' = w.userText.count '\'' := by
  have hmarks : ∀ w : Leaf, w.nested.toList.count '#' = w.userText.count '#' := count_nested (by decide)
  have hrest : ∃ rest, v.topLevel.toList = '#' :: rest ∧ rest.count '#' = v.userText.count '#' := by
    rw [toList_topLevel]
    split
    · exact ⟨_, rfl, (List.count_cons_of_ne (by decide)).trans (hmarks v)⟩
    · exact ⟨_, rfl, hmarks v⟩
  refine ⟨?_, hrest, fun hnone w hw => ?_, fun hkind => ?_, fun w _ => count_nested (by decide) w⟩
  · obtain ⟨rest, htext, hcount⟩ := hrest
    rw [htext, List.count_cons_self, hcount, Nat.add_comm]
  · rw [← List.count_eq_zero, hmarks w, List.count_eq_zero]
    exact fun hmem => hnone (userText_subset hw hmem)
  · have hquoted : v.kind.isQuoted = true := by
      rcases hkind with h | h | h <;> rw [h] <;> rfl
    rw [toList_topLevel, if_pos hquoted]

/-- A list in which a user wrote quote marks, and one marker. -/
theorem one_marker_list :
    let inner : Leaf := .pair (.symbol ⟨"on", by decide⟩) (.list [.string "it's", .boolean true])
    let v : Leaf := .list [inner, .string "#1"]
    inner.topLevel = "#'(on . (\"it's\" t))" ∧ '#' ∉ inner.nested.toList ∧ inner.nested.toList.count '\'' = 1 ∧
    v.topLevel = "#'((on . (\"it's\" t)) \"#1\")" ∧ v.topLevel.toList.count '#' = 2 := by
  intro inner v
  obtain ⟨-, -, hnone, -, hquotes⟩ := one_marker inner
  obtain ⟨hcount, -⟩ := one_marker v
  exact ⟨by decide, hnone (by decide) inner inner.mem_values_self, hquotes inner inner.mem_values_self, by decide,
    hcount⟩

end Leaf
end Partitura
