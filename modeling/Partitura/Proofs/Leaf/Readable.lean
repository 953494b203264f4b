import Partitura.Proofs.Leaf.Datum
import Std.Data.String.ToInt
/-!
# Proofs.Leaf.Readable — literals can be read back

The end of a literal can be found: a number or a symbol ends before a blank or a closing parenthesis, a text at its
closing quote, a pair or a list where its members end.  So no two values made of these have the same literal, however
deep they are.
-/
namespace Partitura
namespace Leaf

open Text (Delimited isDelimiter)

/-- **The end of a literal can be found**, whatever stands behind it: no other datum begins like it. -/
def Readable (v : Leaf) : Prop := ∀ {w : Leaf} {s t : List Char}, Datum w → Delimited s → Delimited t →
  v.nested.toList ++ s = w.nested.toList ++ t → v = w ∧ s = t

/-- Behind the first member of a list no datum begins as the second member of a pair does. -/
theorem rest_ne_point {items : List Leaf} (h : ∀ item ∈ items, Datum item) {s t : List Char} :
    rest items ++ s ≠ ' ' :: '.' :: t := by
  intro heq
  cases items with
  | nil => simp [rest] at heq
  | cons item items =>
    have hpoint : item.nested.toList ++ (rest items ++ s) = '.' :: t := by
      simpa [rest] using heq
    exact (h item List.mem_cons_self).ne_begin (by decide) hpoint

theorem rest_append_inj {items items' : List Leaf} {s t : List Char} (hread : ∀ item ∈ items, Readable item)
    (hdata : ∀ item ∈ items', Datum item) (h : rest items ++ s = rest items' ++ t) : items = items' ∧ s = t :=
  Text.spaced_append_inj (by decide) delimited_rest
    (fun item hitem item' hitem' => hread item hitem (hdata item' hitem')) h

theorem members_append_inj {items items' : List Leaf} {s t : List Char} (hitems : ∀ item ∈ items, Datum item)
    (hread : ∀ item ∈ items, Readable item) (hitems' : ∀ item ∈ items', Datum item)
    (h : members items ++ s = members items' ++ t) : items = items' ∧ s = t := by
  cases items with
  | nil =>
    cases items' with
    | nil => exact ⟨rfl, by simpa [members] using h⟩
    | cons item' items' =>
      rw [members, members, List.append_assoc] at h
      exact absurd h.symm ((hitems' item' List.mem_cons_self).ne_begin (by decide))
  | cons item items =>
    rw [members, List.append_assoc] at h
    cases items' with
    | nil => exact absurd h ((hitems item List.mem_cons_self).ne_begin (by decide))
    | cons item' items' =>
      rw [members, List.append_assoc] at h
      rw [List.forall_mem_cons] at hread hitems'
      obtain ⟨rfl, hbehind⟩ := hread.1 hitems'.1 (delimited_rest items s) (delimited_rest items' t) h
      obtain ⟨rfl, rfl⟩ := rest_append_inj hread.2 hitems'.2 hbehind
      exact ⟨rfl, rfl⟩

theorem delimited_point (cs : List Char) : Delimited (' ' :: cs) := by
  simp [isDelimiter]

theorem delimited_close (cs : List Char) : Delimited (')' :: cs) := by
  simp [isDelimiter]

/-- **No list is a pair**: if its first member were that of the pair, a point would have to follow. -/
theorem members_ne_pair {items : List Leaf} (hitems : ∀ item ∈ items, Datum item) {first : Leaf} (hfirst : Datum first)
    (hcut : ∀ item ∈ items, ∀ {s t}, Delimited s → Delimited t →
      item.nested.toList ++ s = first.nested.toList ++ t → s = t) {s cs : List Char} :
    members items ++ s ≠ first.nested.toList ++ ' ' :: '.' :: cs := by
  intro h
  cases items with
  | nil => exact hfirst.ne_begin (by decide) h.symm
  | cons item items =>
    -- Behind that member stands a blank, and then a datum, and no datum begins with a point.
    rw [members, List.append_assoc] at h
    have hbehind := hcut item List.mem_cons_self (delimited_rest items s) (delimited_point _) h
    exact rest_ne_point (fun item' hitem' => hitems item' (List.mem_cons_of_mem item hitem')) hbehind

theorem readable_pair {first second : Leaf} (hfirst : Datum first) (hsecond : Datum second)
    (hreadFirst : Readable first) (hreadSecond : Readable second) : Readable (.pair first second) := by
  intro w s t hw hs ht h
  have hbegins := (Datum.pair hfirst hsecond).begins_alike hw h
  rw [toList_pair_append] at h
  rcases hbegins with ⟨first', second', rfl, hfirst', hsecond'⟩ | ⟨items, rfl, hitems⟩
  · rw [toList_pair_append, List.cons.injEq] at h
    obtain ⟨rfl, hbehind⟩ := hreadFirst hfirst' (delimited_point _) (delimited_point _) h.2
    simp only [List.cons.injEq, true_and] at hbehind
    obtain ⟨rfl, hclose⟩ := hreadSecond hsecond' (delimited_close s) (delimited_close t) hbehind
    exact ⟨rfl, (List.cons.inj hclose).2⟩
  · rw [toList_list, List.cons_append, List.cons.injEq] at h
    refine absurd h.2.symm (members_ne_pair hitems hfirst fun item hitem _ _ hs ht heq => ?_)
    exact (hreadFirst (hitems item hitem) ht hs heq.symm).2.symm

theorem readable_list {items : List Leaf} (hitems : ∀ item ∈ items, Datum item)
    (hread : ∀ item ∈ items, Readable item) : Readable (.list items) := by
  intro w s t hw hs ht h
  have hbegins := (Datum.list hitems).begins_alike hw h
  rw [toList_list, List.cons_append] at h
  rcases hbegins with ⟨first, second, rfl, hfirst, hsecond⟩ | ⟨items', rfl, hitems'⟩
  · rw [toList_pair_append, List.cons.injEq] at h
    refine absurd h.2 (members_ne_pair hitems hfirst fun item hitem _ _ hs ht heq => ?_)
    exact (hread item hitem hfirst hs ht heq).2
  · rw [toList_list, List.cons_append, List.cons.injEq] at h
    obtain ⟨rfl, rfl⟩ := members_append_inj hitems hread hitems' h.2
    exact ⟨rfl, rfl⟩

/-- **Every datum is readable**, by induction on how it is made. -/
theorem Datum.readable {v : Leaf} (hv : Datum v) : Readable v := by
  induction hv with
  | signedInt z =>
    intro w s t hw hs ht h
    obtain ⟨z', rfl⟩ := (Datum.signedInt z).begins_alike hw h
    have hword := Text.word_append_inj (not_isDelimiter_of_isWord (isWord_intRepr z))
      (not_isDelimiter_of_isWord (isWord_intRepr z')) hs ht h
    rw [String.toList_inj, Int.repr_inj] at hword
    exact ⟨by rw [hword.1], hword.2⟩
  | string text =>
    intro w s t hw hs ht h
    obtain ⟨text', rfl⟩ := (Datum.string text).begins_alike hw h
    rw [nested, nested, Text.toList_quoted, Text.toList_quoted] at h
    have htext := Text.quotedChars_append_inj h
    rw [String.toList_inj] at htext
    exact ⟨by rw [htext.1], htext.2⟩
  | ofSymbol hname =>
    intro w s t hw hs ht h
    have hbegins := (Datum.ofSymbol hname).begins_alike hw h
    obtain ⟨symbol, -, rfl⟩ := ofSymbol_eq_ok_iff.1 hname
    obtain ⟨symbol', rfl⟩ := hbegins
    have hword := Text.word_append_inj (not_isDelimiter_of_isWord symbol.isWord_name)
      (not_isDelimiter_of_isWord symbol'.isWord_name) hs ht h
    rw [String.toList_inj] at hword
    have hsymbol : symbol = symbol' := by
      cases symbol
      cases symbol'
      simpa using hword.1
    exact ⟨by rw [hsymbol], hword.2⟩
  | pair hfirst hsecond ihfirst ihsecond => exact readable_pair hfirst hsecond ihfirst ihsecond
  | ofPair hitems hpair ih =>
    obtain ⟨first, second, rfl, rfl⟩ := ofPair_eq_ok_iff.1 hpair
    exact readable_pair (hitems first (by simp)) (hitems second (by simp)) (ih first (by simp)) (ih second (by simp))
  | list hitems ih => exact readable_list hitems ih

/-- **Literals can be read back.**  Two values made of numbers, texts, symbols, pairs and lists have the same bare
literal only if they are the same, and the same literal as arguments of their own only then. -/
theorem literals_unique {v w : Leaf} (hv : Datum v) (hw : Datum w) :
    (v.nested = w.nested ↔ v = w) ∧ (v.topLevel = w.topLevel ↔ v = w) := by
  have hnested : v.nested = w.nested → v = w := by
    intro h
    have hchars : v.nested.toList ++ [] = w.nested.toList ++ [] := by rw [h]
    exact (hv.readable hw Text.delimited_nil Text.delimited_nil hchars).1
  refine ⟨⟨hnested, congrArg nested⟩, fun h => hnested ?_, congrArg topLevel⟩
  -- A quote mark begins no literal, so it is behind both markers or behind none.
  have hmark : ∀ {v w : Leaf}, Datum v → marker ++ v.nested ≠ marker ++ quoteMark ++ w.nested := by
    intro v w hv heq
    have hchars := congrArg String.toList heq
    simp only [marker, quoteMark, String.toList_append] at hchars
    have hbegin : v.nested.toList ++ [] = '\'' :: w.nested.toList := by simpa using hchars
    exact hv.ne_begin (by decide) hbegin
  unfold topLevel at h
  split at h <;> split at h
  · simpa [String.append_assoc] using h
  · exact absurd h.symm (hmark hw)
  · exact absurd h (hmark hv)
  · simpa using h

/-- A pair, and a list with a text that looks like the inside of the pair. -/
theorem literals_unique_pair :
    let v : Leaf := .pair (.signedInt (-1)) (.symbol ⟨"a.b", by decide⟩)
    let w : Leaf := .list [.signedInt (-1), .string " . a.b"]
    Datum v ∧ Datum w ∧ v.nested ≠ w.nested ∧ v.topLevel ≠ w.topLevel := by
  intro v w
  have hnumber : Datum (.signedInt (-1)) := .signedInt _
  have hsymbol : Datum (.symbol ⟨"a.b", by decide⟩) := .ofSymbol (ofSymbol_eq_ok_iff.2 ⟨_, rfl, rfl⟩)
  have hv : Datum v := .pair hnumber hsymbol
  have hw : Datum w := by
    refine .list fun item hitem => ?_
    rcases List.mem_cons.1 hitem with rfl | hitem
    · exact hnumber
    · rw [List.mem_singleton.1 hitem]
      exact .string _
  obtain ⟨hnested, htop⟩ := literals_unique hv hw
  have hne : v ≠ w := by simp [v, w]
  exact ⟨hv, hw, fun h => hne (hnested.1 h), fun h => hne (htop.1 h)⟩

end Leaf
end Partitura
