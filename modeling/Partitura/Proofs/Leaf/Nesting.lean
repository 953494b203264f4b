import Partitura.Proofs.Leaf.Parentheses
/-!
# Proofs.Leaf.Nesting — the language of matching parentheses

A word of matching parentheses is nothing, or a pair around such a word with such a word behind it (`Matched`).  What
closes the parentheses that are open at some depth has such a word before each closing one and behind the last
(`Unwinds`).  In this form a text can be taken apart from its first character on, so what the check accepts are exactly
the words of the grammar with other characters between them (`balanced_exact`).
-/
namespace Partitura

/-- **The words of matching parentheses.** -/
inductive Matched : List Char → Prop where
  | nil : Matched []
  | pair {inner rest : List Char} : Matched inner → Matched rest → Matched ('(' :: inner ++ ')' :: rest)

/-- **What closes so many parentheses** that are open before it. -/
inductive Unwinds : Nat → List Char → Prop where
  | done {cs : List Char} : Matched cs → Unwinds 0 cs
  | close {depth : Nat} {inner rest : List Char} :
    Matched inner → Unwinds depth rest → Unwinds (depth + 1) (inner ++ ')' :: rest)

/-- The parentheses of a text, its other characters left out. -/
def parentheses (cs : List Char) : List Char := cs.filter fun c => c == '(' || c == ')'

theorem parentheses_paren {c : Char} (h : c = '(' ∨ c = ')') (cs : List Char) :
    parentheses (c :: cs) = c :: parentheses cs :=
  List.filter_cons_of_pos (by simpa using h)

theorem parentheses_other {c : Char} (hopen : c ≠ '(') (hclose : c ≠ ')') (cs : List Char) :
    parentheses (c :: cs) = parentheses cs :=
  List.filter_cons_of_neg (by simp [hopen, hclose])

/-! ## What is read alike -/

/-- The check reads what is behind a character at one depth, or not at all. -/
theorem balancedFrom_cons_congr {s t : List Char} (h : ∀ depth, balancedFrom depth s = balancedFrom depth t) (c : Char)
    (depth : Nat) : balancedFrom depth (c :: s) = balancedFrom depth (c :: t) := by
  by_cases hopen : c = '('
  · subst hopen
    rw [balancedFrom_open, balancedFrom_open, h]
  · by_cases hclose : c = ')'
    · subst hclose
      cases depth with
      | zero => rfl
      | succ depth => rw [balancedFrom_close_succ, balancedFrom_close_succ, h]
    · rw [balancedFrom_other hopen hclose, balancedFrom_other hopen hclose, h]

theorem balancedFrom_append_congr {s t : List Char} (h : ∀ depth, balancedFrom depth s = balancedFrom depth t) :
    ∀ (cs : List Char) (depth : Nat), balancedFrom depth (cs ++ s) = balancedFrom depth (cs ++ t)
  | [], depth => h depth
  | c :: cs, depth => balancedFrom_cons_congr (balancedFrom_append_congr h cs) c depth

theorem balancedFrom_parentheses : ∀ (cs : List Char) (depth : Nat),
    balancedFrom depth (parentheses cs) = balancedFrom depth cs
  | [], _ => rfl
  | c :: cs, depth => by
    by_cases hparen : c = '(' ∨ c = ')'
    · rw [parentheses_paren hparen]
      exact balancedFrom_cons_congr (balancedFrom_parentheses cs) c depth
    · rw [not_or] at hparen
      rw [parentheses_other hparen.1 hparen.2, balancedFrom_other hparen.1 hparen.2, balancedFrom_parentheses cs]

/-! ## From the grammar to the check -/

theorem Matched.closed {cs : List Char} (h : Matched cs) : Closed cs := by
  induction h with
  | nil => exact fun _ _ => rfl
  | @pair inner rest _ _ hinner hrest =>
    have happ := hinner.enclosed.append hrest
    rwa [List.append_assoc, List.singleton_append] at happ

/-! ## From the check to the grammar -/

/-- A pair in front joins the word before the first closing parenthesis, or all that there is at depth zero. -/
theorem Unwinds.pair {depth : Nat} {inner rest : List Char} (hinner : Matched inner) (hrest : Unwinds depth rest) :
    Unwinds depth ('(' :: inner ++ ')' :: rest) := by
  cases hrest with
  | done hrest => exact .done (hinner.pair hrest)
  | @close depth inner' rest' hinner' hrest' =>
    have h := Unwinds.close (hinner.pair hinner') hrest'
    rwa [List.append_assoc, List.cons_append] at h

/-- The induction is on the text, at every depth: an opening parenthesis pairs with the first that closes behind it. -/
theorem unwinds_of_balancedFrom : ∀ {cs : List Char} {depth : Nat}, balancedFrom depth cs = true →
    Unwinds depth (parentheses cs)
  | [], depth, h => by
    rw [balancedFrom_nil, beq_iff_eq] at h
    subst h
    exact .done .nil
  | c :: cs, depth, h => by
    by_cases hopen : c = '('
    · subst hopen
      rw [balancedFrom_open] at h
      rw [parentheses_paren (.inl rfl)]
      have hrest := unwinds_of_balancedFrom h
      generalize parentheses cs = word at hrest
      cases hrest with
      | close hinner hrest => exact hrest.pair hinner
    · by_cases hclose : c = ')'
      · subst hclose
        cases depth with
        | zero => cases h
        | succ depth =>
          rw [balancedFrom_close_succ] at h
          rw [parentheses_paren (.inr rfl)]
          exact .close .nil (unwinds_of_balancedFrom h)
      · rw [balancedFrom_other hopen hclose] at h
        rw [parentheses_other hopen hclose]
        exact unwinds_of_balancedFrom h

theorem balanced_iff_matched {cs : List Char} : balanced cs = true ↔ Matched (parentheses cs) := by
  constructor
  · intro h
    cases unwinds_of_balancedFrom h with
    | done hmatched => exact hmatched
  · intro h
    have hword : balanced (parentheses cs) = true := closed_iff.1 h.closed
    rwa [balanced, balancedFrom_parentheses] at hword

theorem Closed.balanced_inserted {cs : List Char} (h : Closed cs) (before behind : List Char) :
    balanced (before ++ cs ++ behind) = balanced (before ++ behind) := by
  rw [balanced, List.append_assoc]
  exact balancedFrom_append_congr (fun depth => h depth behind) before 0

theorem Leaf.exists_ofProcedure_iff {text : String} : (∃ v, ofProcedure text = .ok v) ↔
    Text.trim text.toList ≠ [] ∧ balanced (Text.trim text.toList) = true := by
  unfold ofProcedure
  dsimp only
  by_cases hempty : Text.trim text.toList = []
  · rw [dif_pos hempty]
    exact iff_of_false nofun fun h => h.1 hempty
  · rw [dif_neg hempty]
    by_cases hbalanced : balanced (Text.trim text.toList) = true
    · rw [dif_pos hbalanced]
      exact iff_of_true ⟨_, rfl⟩ ⟨hempty, hbalanced⟩
    · rw [dif_neg hbalanced]
      exact iff_of_false nofun fun h => hbalanced h.2

/-- **The check accepts exactly the texts with matching parentheses**: those whose parentheses are a word of the
grammar, or whose every beginning closes no more than it opened, with as many opened as closed altogether.  Such texts
may follow each other, be enclosed in a pair, and stand anywhere in another text, where they change nothing.  A
procedure can be made of a text just if what is left without the blanks around it is not empty and matches, and then it
is that. -/
theorem balanced_exact :
    (∀ cs, balanced cs = true ↔ Matched (parentheses cs)) ∧
    (∀ cs, balanced cs = true ↔
      (∀ front, front <+: cs → front.count ')' ≤ front.count '(') ∧ cs.count ')' = cs.count '(') ∧
    (∀ cs ds, balanced cs = true → balanced ds = true → balanced (cs ++ ds) = true) ∧
    (∀ cs, balanced cs = true → balanced ('(' :: cs ++ [')']) = true) ∧
    (∀ cs before behind, balanced cs = true → balanced (before ++ cs ++ behind) = balanced (before ++ behind)) ∧
    ∀ text : String,
      ((∃ v, Leaf.ofProcedure text = .ok v) ↔
        Text.trim text.toList ≠ [] ∧ balanced (Text.trim text.toList) = true) ∧
      ∀ v, Leaf.ofProcedure text = .ok v → v.nested.toList = Text.trim text.toList := by
  refine ⟨fun _ => balanced_iff_matched, fun cs => ?_, fun cs ds hcs hds => ?_, fun cs hcs => ?_,
    fun cs before behind hcs => ?_, fun text => ⟨Leaf.exists_ofProcedure_iff, fun v hv => ?_⟩⟩
  · have hcounts : balancedFrom 0 cs = true ↔ _ := balancedFrom_iff
    simp only [Nat.zero_add] at hcounts
    exact hcounts
  · exact closed_iff.1 ((closed_iff.2 hcs).append (closed_iff.2 hds))
  · exact closed_iff.1 (closed_iff.2 hcs).enclosed
  · exact (closed_iff.2 hcs).balanced_inserted before behind
  · obtain ⟨p, hp, rfl⟩ := Leaf.ofProcedure_eq_ok_iff.1 hv
    exact hp

/-- A call alone, before another text, in a pair, and within a text; it is a procedure. -/
theorem balanced_exact_calls :
    let call := "(f (g x))".toList
    balanced call = true ∧ parentheses call = "(())".toList ∧ Matched "(())".toList ∧
    balanced (call ++ "[h]()".toList) = true ∧ balanced ('(' :: call ++ [')']) = true ∧
    balanced ("(lambda (x) ".toList ++ call ++ ")".toList) = true ∧
    ∃ p : Procedure, Leaf.ofProcedure " (f (g x))\n" = .ok (.procedure p) ∧ p.expression.toList = call := by
  intro call
  obtain ⟨hmatched, -, happend, henclosed, hinserted, hprocedure⟩ := balanced_exact
  have hcall : balanced call = true := by decide
  have hmade : Leaf.ofProcedure " (f (g x))\n" = .ok (.procedure ⟨"(f (g x))", by decide, by decide, by decide⟩) :=
    Leaf.ofProcedure_eq_ok_iff.2 ⟨_, by decide, rfl⟩
  refine ⟨hcall, by decide, (hmatched call).1 hcall, happend call _ hcall (by decide), henclosed call hcall, ?_, _, hmade,
    (hprocedure _).2 _ hmade⟩
  rw [hinserted call _ _ hcall]
  decide

end Partitura
