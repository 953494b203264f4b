import Partitura.Proofs.Leaf.Marked
/-!
# Proofs.Leaf.Parentheses — literals cannot break out of their context

Parentheses match if none is closed before it is opened and none is left open (`balancedFrom_iff`).  Then reading them
leaves the depth as it was, whatever stands around them, so that texts with matching parentheses may be put together
(`Closed.append`, `Closed.enclosed`).  Literals are put together so, and where the user's texts have no parentheses
those of a literal match; as a literal has no blanks around it, it can be read as a procedure with the same text.
-/
namespace Partitura

/-! ## Matching parentheses -/

theorem balancedFrom_nil (depth : Nat) : balancedFrom depth [] = (depth == 0) := by
  cases depth <;> rfl

theorem balancedFrom_open (depth : Nat) (cs : List Char) :
    balancedFrom depth ('(' :: cs) = balancedFrom (depth + 1) cs := by
  cases depth <;> rfl

theorem balancedFrom_close_succ (depth : Nat) (cs : List Char) :
    balancedFrom (depth + 1) (')' :: cs) = balancedFrom depth cs := rfl

theorem balancedFrom_other {c : Char} (hopen : c ≠ '(') (hclose : c ≠ ')') (depth : Nat) (cs : List Char) :
    balancedFrom depth (c :: cs) = balancedFrom depth cs := by
  cases depth <;> simp only [balancedFrom, if_neg hopen, if_neg hclose]

theorem forall_prefix_cons_iff {c : Char} {cs : List Char} {P : List Char → Prop} :
    (∀ front, front <+: c :: cs → P front) ↔ P [] ∧ ∀ front, front <+: cs → P (c :: front) := by
  constructor
  · intro h
    exact ⟨h [] List.nil_prefix, fun front hfront => h _ ((List.prefix_cons_inj c).2 hfront)⟩
  · rintro ⟨hnil, hcons⟩ front hfront
    rcases List.prefix_cons_iff.1 hfront with rfl | ⟨rest, rfl, hrest⟩
    · exact hnil
    · exact hcons rest hrest

/-- **Matching parentheses, by counts**: no part from the beginning on closes more than are open, and altogether as many
are closed. -/
theorem balancedFrom_iff : ∀ {cs : List Char} {depth : Nat}, balancedFrom depth cs = true ↔
    (∀ front, front <+: cs → front.count ')' ≤ depth + front.count '(') ∧ cs.count ')' = depth + cs.count '('
  | [], depth => by
    rw [balancedFrom_nil, beq_iff_eq]
    constructor
    · rintro rfl
      exact ⟨fun front hfront => by rw [List.prefix_nil.1 hfront]; exact Nat.le_refl 0, rfl⟩
    · rintro ⟨-, hcount⟩
      exact hcount.symm
  | c :: cs, depth => by
    rw [forall_prefix_cons_iff]
    by_cases hopen : c = '('
    · subst hopen
      rw [balancedFrom_open, balancedFrom_iff]
      simp only [List.count_cons_self, List.count_cons_of_ne (show '(' ≠ ')' by decide), List.count_nil, Nat.zero_le,
        true_and, Nat.add_right_comm, Nat.add_assoc]
    · by_cases hclose : c = ')'
      · subst hclose
        cases depth with
        | zero =>
          -- The parenthesis that is closed here has not been opened.
          refine iff_of_false nofun fun h => ?_
          exact absurd (h.1.2 [] List.nil_prefix) (by decide)
        | succ depth =>
          rw [balancedFrom_close_succ, balancedFrom_iff]
          simp only [List.count_cons_self, List.count_cons_of_ne (show ')' ≠ '(' by decide), List.count_nil,
            Nat.zero_le, true_and, Nat.add_right_comm depth 1, Nat.add_le_add_iff_right, Nat.add_right_cancel_iff]
      · rw [balancedFrom_other hopen hclose, balancedFrom_iff]
        simp only [List.count_cons_of_ne hopen, List.count_cons_of_ne hclose, List.count_nil, Nat.zero_le, true_and]

theorem balancedFrom_append : ∀ {cs : List Char} {n : Nat}, balancedFrom n cs = true →
    ∀ (depth : Nat) (s : List Char), balancedFrom (n + depth) (cs ++ s) = balancedFrom depth s
  | [], n, h, depth, s => by
    rw [balancedFrom_nil, beq_iff_eq] at h
    rw [h, Nat.zero_add, List.nil_append]
  | c :: cs, n, h, depth, s => by
    rw [List.cons_append]
    by_cases hopen : c = '('
    · subst hopen
      rw [balancedFrom_open] at h ⊢
      rw [Nat.add_right_comm]
      exact balancedFrom_append h depth s
    · by_cases hclose : c = ')'
      · subst hclose
        cases n with
        | zero => cases h
        | succ n =>
          rw [balancedFrom_close_succ] at h
          rw [Nat.add_right_comm, balancedFrom_close_succ]
          exact balancedFrom_append h depth s
      · rw [balancedFrom_other hopen hclose] at h ⊢
        exact balancedFrom_append h depth s

/-- **Reading these characters leaves the depth as it is.** -/
def Closed (cs : List Char) : Prop :=
  ∀ (depth : Nat) (s : List Char), balancedFrom depth (cs ++ s) = balancedFrom depth s

theorem closed_iff {cs : List Char} : Closed cs ↔ balanced cs = true := by
  constructor
  · intro h
    have hend := h 0 []
    rwa [List.append_nil] at hend
  · intro h depth s
    have hbehind := balancedFrom_append h depth s
    rwa [Nat.zero_add] at hbehind

theorem closed_of_not_mem {cs : List Char} (hopen : '(' ∉ cs) (hclose : ')' ∉ cs) : Closed cs := by
  intro depth s
  induction cs with
  | nil => rfl
  | cons c cs ih =>
    rw [List.mem_cons, not_or] at hopen hclose
    rw [List.cons_append, balancedFrom_other (Ne.symm hopen.1) (Ne.symm hclose.1)]
    exact ih hopen.2 hclose.2

theorem IsWord.closed {cs : List Char} (h : IsWord cs) : Closed cs :=
  closed_of_not_mem (h.not_mem (by decide)) (h.not_mem (by decide))

namespace Closed

theorem append {cs ds : List Char} (hcs : Closed cs) (hds : Closed ds) : Closed (cs ++ ds) := by
  intro depth s
  rw [List.append_assoc, hcs, hds]

theorem enclosed {cs : List Char} (h : Closed cs) : Closed ('(' :: cs ++ [')']) := by
  intro depth s
  rw [List.cons_append, List.cons_append, List.append_assoc, balancedFrom_open, h]
  exact balancedFrom_close_succ depth s

theorem flatMap {α : Type} {f : α → List Char} {items : List α} (h : ∀ item ∈ items, Closed (f item)) :
    Closed (items.flatMap f) := by
  induction items with
  | nil => exact fun _ _ => rfl
  | cons item items ih =>
    rw [List.forall_mem_cons] at h
    exact h.1.append (ih h.2)

end Closed

/-! ## Literals -/

/-- No parenthesis is written for another character. -/
theorem Text.closed_quoted {text : String} (hopen : '(' ∉ text.toList) (hclose : ')' ∉ text.toList) :
    Closed (quoted text).toList := by
  have hnone : ∀ paren, paren = '(' ∨ paren = ')' → paren ∉ text.toList → paren ∉ (quoted text).toList := by
    intro paren hparen hmem
    rw [toList_quoted, quotedChars, List.mem_append, List.mem_cons, List.mem_flatMap]
    rintro ((rfl | ⟨c, hc, hin⟩) | hin)
    · exact absurd hparen (by decide)
    · rcases quotedChar_cases c with ⟨e, heq, hescape, -⟩ | ⟨heq, -, -⟩
      · rw [heq, List.mem_cons, List.mem_singleton] at hin
        rcases hin with rfl | rfl
        · exact absurd hparen (by decide)
        · rcases hparen with rfl | rfl <;> exact absurd hescape (by decide)
      · rw [heq, List.mem_singleton] at hin
        exact hmem (hin ▸ hc)
    · rw [List.mem_singleton.1 hin] at hparen
      exact absurd hparen (by decide)
  exact closed_of_not_mem (hnone '(' (.inl rfl) hopen) (hnone ')' (.inr rfl) hclose)

theorem Color.closed_literal (c : Color) : Closed c.literal.toList := by
  unfold literal
  split
  · exact c.isWord_name.closed
  · have hname : Closed ("x11-color \"".toList ++ c.name.toList ++ ['"']) :=
      ((closed_of_not_mem (by decide) (by decide)).append c.isWord_name.closed).append
        (closed_of_not_mem (by decide) (by decide))
    simpa using hname.enclosed

namespace Leaf

theorem closed_pairText {first second : String} (hfirst : Closed first.toList) (hsecond : Closed second.toList) :
    Closed ("(" ++ first ++ " . " ++ second ++ ")").toList := by
  have hpoint : Closed " . ".toList := closed_of_not_mem (by decide) (by decide)
  simpa using ((hfirst.append hpoint).append hsecond).enclosed

theorem closed_groupText {texts : List String} (h : ∀ text ∈ texts, Closed text.toList) :
    Closed ("(" ++ " ".intercalate texts ++ ")").toList := by
  have hspace : Closed [' '] := closed_of_not_mem (by decide) (by decide)
  have hinner : Closed (" ".intercalate texts).toList := by
    cases texts with
    | nil => exact fun _ _ => rfl
    | cons text texts =>
      rw [List.forall_mem_cons] at h
      rw [Text.toList_intercalate_cons]
      exact h.1.append (Closed.flatMap fun next hnext => hspace.append (h.2 next hnext))
  simpa using hinner.enclosed

/-- **No text among these values has parentheses.** -/
def NoParentheses (values : List Leaf) : Prop :=
  ∀ text, .string text ∈ values → '(' ∉ text.toList ∧ ')' ∉ text.toList

theorem NoParentheses.of_cons {v : Leaf} {vs : List Leaf} (h : NoParentheses (v :: vs)) : NoParentheses vs :=
  fun text htext => h text (List.mem_cons_of_mem v htext)

theorem noParentheses_append_iff {vs ws : List Leaf} :
    NoParentheses (vs ++ ws) ↔ NoParentheses vs ∧ NoParentheses ws := by
  constructor
  · intro h
    exact ⟨fun text ht => h text (List.mem_append_left ws ht), fun text ht => h text (List.mem_append_right vs ht)⟩
  · rintro ⟨hvs, hws⟩ text ht
    exact (List.mem_append.1 ht).elim (hvs text) (hws text)

mutual
theorem closed_nested : ∀ v : Leaf, NoParentheses v.values → Closed v.nested.toList
  | boolean true, _ | boolean false, _ => closed_of_not_mem (by decide) (by decide)
  | unsignedInt n, _ => (isWord_natRepr n).closed
  | signedInt z, _ => (isWord_intRepr z).closed
  | unsignedFloat x, _ | signedFloat x, _ => x.isWord_text.closed
  | string text, h => Text.closed_quoted (h text List.mem_cons_self).1 (h text List.mem_cons_self).2
  | symbol s, _ => s.isWord_name.closed
  | direction .up, _ | direction .down, _ | direction .center, _ => closed_of_not_mem (by decide) (by decide)
  | axis .x, _ | axis .y, _ => closed_of_not_mem (by decide) (by decide)
  | color tint, _ => tint.closed_literal
  | pair first second, h => by
    obtain ⟨hfirst, hsecond⟩ := noParentheses_append_iff.1 h.of_cons
    exact closed_pairText (closed_nested first hfirst) (closed_nested second hsecond)
  | list items, h => closed_groupText (closed_nestedItems items h.of_cons)
  | associationList entries, h => closed_groupText (closed_nestedEntries entries h.of_cons)
  | procedure p, _ => closed_iff.2 p.closed
theorem closed_nestedItems : ∀ items : List Leaf, NoParentheses (valuesOfItems items) →
    ∀ text ∈ nestedItems items, Closed text.toList
  | [], _ => nofun
  | item :: items, h => by
    obtain ⟨hitem, hitems⟩ := noParentheses_append_iff.1 h
    exact List.forall_mem_cons.2 ⟨closed_nested item hitem, closed_nestedItems items hitems⟩
theorem closed_nestedEntries : ∀ entries : List (Leaf × Leaf), NoParentheses (valuesOfEntries entries) →
    ∀ text ∈ nestedEntries entries, Closed text.toList
  | [], _ => nofun
  | (key, value) :: entries, h => by
    obtain ⟨hentry, hentries⟩ := noParentheses_append_iff.1 h
    obtain ⟨hkey, hvalue⟩ := noParentheses_append_iff.1 hentry.of_cons
    exact List.forall_mem_cons.2
      ⟨closed_pairText (closed_nested key hkey) (closed_nested value hvalue), closed_nestedEntries entries hentries⟩
end

end Leaf

/-! ## Blanks around literals -/

/-- **Characters with no blanks around them.** -/
def Text.Firm (cs : List Char) : Prop := cs ≠ [] ∧ trim cs = cs

theorem Text.firm_of_ends {cs : List Char} (hne : cs ≠ []) (hfirst : ∀ c ∈ cs.head?, isBlank c = false)
    (hlast : ∀ c ∈ cs.getLast?, isBlank c = false) : Firm cs := by
  have hkept : ∀ {ds : List Char}, (∀ c ∈ ds.head?, isBlank c = false) → ds.dropWhile isBlank = ds := by
    intro ds h
    cases ds with
    | nil => rfl
    | cons d ds => exact List.dropWhile_cons_of_neg (Bool.eq_false_iff.1 (h d rfl))
  refine ⟨hne, ?_⟩
  rw [trim, hkept hfirst, hkept (by rwa [List.head?_reverse]), List.reverse_reverse]

theorem Text.firm_enclosed {first last : Char} (hfirst : isBlank first = false) (hlast : isBlank last = false)
    (cs : List Char) : Firm (first :: cs ++ [last]) := by
  refine firm_of_ends nofun (fun c hc => ?_) (fun c hc => ?_)
  · rwa [← Option.some.inj hc]
  · rw [List.getLast?_concat] at hc
    rwa [← Option.some.inj hc]

theorem IsWord.firm {cs : List Char} (h : IsWord cs) (hne : cs ≠ []) : Text.Firm cs :=
  Text.firm_of_ends hne (fun c hc => not_isBlank_of_isSymbolChar (h c (List.mem_of_mem_head? hc)))
    fun c hc => not_isBlank_of_isSymbolChar (h c (List.mem_of_mem_getLast? hc))

theorem Color.firm_literal (c : Color) : Text.Firm c.literal.toList := by
  have hne : c.name.toList ≠ [] := by
    intro h
    have hknown := c.known
    rw [String.toList_eq_nil_iff.1 h] at hknown
    exact absurd hknown (by simp [show ColorFamily.of? "" = none by decide +kernel])
  unfold literal
  split
  · exact c.isWord_name.firm hne
  · simpa using Text.firm_enclosed (by decide : Text.isBlank '(' = false) (by decide : Text.isBlank ')' = false)
      ("x11-color \"".toList ++ c.name.toList ++ ['"'])

namespace Leaf

theorem firm_pairText (first second : String) : Text.Firm ("(" ++ first ++ " . " ++ second ++ ")").toList := by
  simpa using Text.firm_enclosed (by decide : Text.isBlank '(' = false) (by decide : Text.isBlank ')' = false)
    (first.toList ++ " . ".toList ++ second.toList)

theorem firm_groupText (texts : List String) : Text.Firm ("(" ++ " ".intercalate texts ++ ")").toList := by
  simpa using Text.firm_enclosed (by decide : Text.isBlank '(' = false) (by decide : Text.isBlank ')' = false)
    (" ".intercalate texts).toList

theorem firm_nested (v : Leaf) : Text.Firm v.nested.toList := by
  cases v with
  | boolean b => cases b <;> exact IsWord.firm (by decide) (by decide)
  | unsignedInt n =>
    have hne : n.repr.toList ≠ [] := by
      rw [Nat.toList_repr]
      exact Nat.toDigits_ne_nil
    exact (isWord_natRepr n).firm hne
  | signedInt z =>
    refine (isWord_intRepr z).firm ?_
    obtain ⟨digits, hne, -, heq | heq⟩ := toList_repr z
    · rwa [heq]
    · rw [heq]
      exact List.cons_ne_nil '-' digits
  | unsignedFloat x | signedFloat x => exact x.isWord_text.firm x.toList_text_ne_nil
  | string text =>
    rw [nested, Text.toList_quoted]
    exact Text.firm_enclosed (by decide) (by decide) _
  | symbol s =>
    refine s.isWord_name.firm fun h => ?_
    have hname := s.wellFormed
    rw [h] at hname
    cases hname
  | direction d => cases d <;> exact IsWord.firm (by decide) (by decide)
  | axis a => cases a <;> exact IsWord.firm (by decide) (by decide)
  | color tint => exact tint.firm_literal
  | pair first second => exact firm_pairText first.nested second.nested
  | list items => exact firm_groupText (nestedItems items)
  | associationList entries => exact firm_groupText (nestedEntries entries)
  | procedure p => exact ⟨p.nonempty, p.trimmed⟩

/-- A procedure is made of what is left of a text without the blanks around it. -/
theorem ofProcedure_eq_ok_iff {text : String} {v : Leaf} :
    ofProcedure text = .ok v ↔ ∃ p : Procedure, p.expression.toList = Text.trim text.toList ∧ v = .procedure p := by
  unfold ofProcedure
  dsimp only
  constructor
  · intro h
    split at h
    · cases h
    · split at h
      · cases h
        exact ⟨_, String.toList_ofList, rfl⟩
      · cases h
  · rintro ⟨p, hp, rfl⟩
    rw [dif_neg (hp ▸ p.nonempty), dif_pos (hp ▸ p.closed)]
    cases p
    simp only [← hp, String.ofList_toList]

/-- **Literals cannot break out of their context.**  If no text in a value has parentheses, those of its literal match:
no part of it from the beginning on closes more than it opened, and altogether as many are closed as opened.  So the
literal is a procedure that is written just as the value is. -/
theorem literals_closed (v : Leaf) (h : NoParentheses v.values) :
    balanced v.nested.toList = true ∧
    (∀ front, front <+: v.nested.toList → front.count ')' ≤ front.count '(') ∧
    v.nested.toList.count ')' = v.nested.toList.count '(' ∧
    ∃ p : Procedure, ofProcedure v.nested = .ok (.procedure p) ∧ (Leaf.procedure p).nested = v.nested := by
  have hbalanced : balanced v.nested.toList = true := closed_iff.1 (v.closed_nested h)
  obtain ⟨hne, htrim⟩ := v.firm_nested
  obtain ⟨hfronts, hcount⟩ := balancedFrom_iff.1 hbalanced
  simp only [Nat.zero_add] at hfronts hcount
  refine ⟨hbalanced, hfronts, hcount, ⟨v.nested, htrim, hne, hbalanced⟩, ?_, rfl⟩
  exact ofProcedure_eq_ok_iff.2 ⟨_, htrim.symm, rfl⟩

/-- A color, a procedure and a text inside one another. -/
theorem literals_closed_entries :
    let steps : Leaf := .procedure ⟨"(lambda (x) (f x))", by decide, by decide, by decide⟩
    let v : Leaf := .associationList
      [(.color ⟨"snow4", .numbered, by decide⟩, .list [steps, .pair (.string "a ' b") (.signedInt (-1))])]
    NoParentheses v.values ∧
    v.nested = "(((x11-color \"snow4\") . ((lambda (x) (f x)) (\"a ' b\" . -1))))" ∧
    balanced v.nested.toList = true ∧
    ∃ p : Procedure, ofProcedure v.nested = .ok (.procedure p) ∧ (Leaf.procedure p).nested = v.nested := by
  intro steps v
  have hv : NoParentheses v.values := by
    intro text htext
    simp only [v, steps, values, valuesOfEntries, valuesOfItems, List.cons_append, List.nil_append, List.append_nil,
      List.mem_cons, List.not_mem_nil, reduceCtorEq, string.injEq, false_or, or_false] at htext
    rw [htext]
    decide
  obtain ⟨hbalanced, -, -, hprocedure⟩ := literals_closed v hv
  exact ⟨hv, by decide +kernel, hbalanced, hprocedure⟩

end Leaf
end Partitura
