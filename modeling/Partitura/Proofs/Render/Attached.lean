import Partitura.Proofs.Render.Indentation
/-!
# Proofs.Render.Attached — the level of what is attached to a tone

A deeper level moves lines to the right and does nothing else, so it can be seen in the text of an element just where
the layout breaks lines, in a container of two children or more (`Element.spreads`): the text is longer on every deeper
level then, and the same on all levels otherwise (`Element.render_grows`).  A tone has no use for its level and lays out
at the outermost one whatever is attached to it; so an attachment that breaks lines stands at the level of its tone if
that is the outermost level, and nowhere else (`Tone.attachment_outermost`).
-/
namespace Partitura

/-! ## Texts that grow -/

namespace Text

/-- **The second text is longer**, or it is the first one. -/
structure Grows (longer : Bool) (p q : String) : Prop where
  same : longer = false → p = q
  length_le : p.length + longer.toNat ≤ q.length

/-- Texts that grow one by one: some are longer, or all stay as they are. -/
inductive GrowEach : Bool → List String → List String → Prop where
  | nil : GrowEach false [] []
  | cons {a b : Bool} {p q : String} {ps qs : List String} :
    Grows a p q → GrowEach b ps qs → GrowEach (a || b) (p :: ps) (q :: qs)

namespace Grows

variable {longer : Bool} {p q : String}

theorem refl (p : String) : Grows false p p := ⟨fun _ => rfl, Nat.le_refl _⟩

theorem of_lt (h : p.length < q.length) : Grows true p q := ⟨nofun, h⟩

theorem le (h : Grows longer p q) : p.length ≤ q.length := Nat.le_of_add_right_le h.length_le

theorem eq_iff (h : Grows longer p q) : p = q ↔ longer = false := by
  refine ⟨fun heq => ?_, h.same⟩
  have hlength := h.length_le
  rw [heq] at hlength
  cases longer with
  | false => rfl
  | true => exact absurd hlength (Nat.not_succ_le_self q.length)

end Grows

namespace GrowEach

variable {a b : Bool} {ps qs ps' qs' : List String}

theorem refl : ∀ ps : List String, GrowEach false ps ps
  | [] => .nil
  | p :: ps => .cons (.refl p) (refl ps)

theorem append (h : GrowEach a ps qs) (h' : GrowEach b ps' qs') : GrowEach (a || b) (ps ++ ps') (qs ++ qs') := by
  induction h with
  | nil => exact h'
  | cons hp _ ih =>
    rw [Bool.or_assoc]
    exact .cons hp ih

theorem same (h : GrowEach a ps qs) (hsame : a = false) : ps = qs := by
  induction h with
  | nil => rfl
  | cons hp _ ih =>
    rw [Bool.or_eq_false_iff] at hsame
    rw [hp.same hsame.1, ih hsame.2]

end GrowEach
end Text

open Text (Grows GrowEach)

namespace Layout

theorem join_cons {part : String} (h : part ≠ "") (parts : List String) :
    join (part :: parts) = if join parts = "" then part else part ++ " " ++ join parts := by
  have hempty : part.isEmpty = false := by rwa [Bool.eq_false_iff, ne_eq, String.isEmpty_iff]
  rw [join, List.filter_cons_of_pos (by rw [hempty]; rfl), join]
  cases hkept : parts.filter fun part => !part.isEmpty with
  | nil => rfl
  | cons next others =>
    have hnext : next ≠ "" := by
      have hmem : next ∈ parts.filter fun part => !part.isEmpty := by rw [hkept]; exact List.mem_cons_self
      simpa using (List.mem_filter.1 hmem).2
    rw [String.intercalate_cons_cons, if_neg]
    cases others with
    | nil => rwa [String.intercalate_singleton]
    | cons => simp [String.intercalate_cons_cons, hnext]

theorem length_join_cons (part : String) (parts : List String) :
    (join (part :: parts)).length = part.length + (join parts).length +
      if part.length = 0 ∨ (join parts).length = 0 then 0 else 1 := by
  have hspace : " ".length = 1 := rfl
  simp only [String.length_eq_zero_iff]
  by_cases hpart : part = ""
  · subst hpart
    have hleft : join ("" :: parts) = join parts := rfl
    simp [hleft]
  · rw [join_cons hpart]
    by_cases hparts : join parts = ""
    · simp [hparts]
    · rw [if_neg hparts, if_neg (not_or.2 ⟨hpart, hparts⟩), String.length_append, String.length_append, hspace]
      omega

theorem grows_join {longer : Bool} {ps qs : List String} (h : GrowEach longer ps qs) :
    Grows longer (join ps) (join qs) := by
  refine ⟨fun hsame => congrArg join (h.same hsame), ?_⟩
  -- A part or a rest that is empty has no space, and one that grows is not empty afterwards.
  induction h with
  | nil => exact Nat.le_refl _
  | @cons a b p q ps qs hp _ ih =>
    have hlength := hp.length_le
    have hflags : (a || b).toNat ≤ a.toNat + b.toNat := by cases a <;> cases b <;> decide
    rw [length_join_cons, length_join_cons]
    split <;> split <;> omega

theorem length_margin (indent : Nat) : (margin indent).length = 2 * indent := by
  induction indent with
  | zero => rfl
  | succ indent ih =>
    have hunit : indentUnit.length = 2 := rfl
    rw [margin, List.replicate_succ, String.join_cons, String.length_append, ← margin, ih, hunit]
    omega

theorem length_newline (indent : Nat) : (newline indent).length = 2 * indent + 1 := by
  have hbreak : "\n".length = 1 := rfl
  rw [newline, String.length_append, length_margin, hbreak]
  omega

theorem length_block_le {i j : Nat} (h : i < j) : ∀ {longer : Bool} (after : Bool) (ss ts : List Sibling),
    ss.map Sibling.inline = ts.map Sibling.inline → GrowEach longer (ss.map Sibling.text) (ts.map Sibling.text) →
      (block i after ss).length ≤ (block j after ts).length
  | _, _, [], [], _, _ => Nat.le_refl _
  | _, after, s :: ss, t :: ts, hinline, .cons htext hrest => by
    obtain ⟨hs, hinline⟩ := List.cons.inj hinline
    have hbreak : (if after && s.inline then " " else newline i).length ≤
        (if after && s.inline then " " else newline j).length := by
      split
      · exact Nat.le_refl _
      · rw [length_newline, length_newline]
        omega
    have hblock := length_block_le h s.inline ss ts hinline hrest
    have hle := htext.le
    rw [block, block, ← hs, String.length_append, String.length_append, String.length_append, String.length_append]
    omega

theorem grows_container {a b : Bool} {head head' : List String} (hhead : GrowEach a head head')
    (opening closing : String) {i j : Nat} (h : i < j) : ∀ {ss ts : List Sibling},
      ss.map Sibling.inline = ts.map Sibling.inline → GrowEach b (ss.map Sibling.text) (ts.map Sibling.text) →
        Grows (a || b || decide (2 ≤ ss.length)) (container head opening closing i ss)
          (container head' opening closing j ts)
  | [], [], _, .nil => by
    have hline := grows_join (hhead.append (.refl [opening, closing]))
    simpa [container] using hline
  | [s], [t], _, .cons htext hrest => by
    cases hrest
    have hline := grows_join (hhead.append (.cons (.refl opening) (.cons htext (.refl [closing]))))
    simpa [container] using hline
  | s :: s' :: ss, t :: t' :: ts, hinline, htexts => by
    have hblock := length_block_le (Nat.add_lt_add_right h 1) false _ _ hinline htexts
    have hopening := (grows_join (hhead.append (.refl [opening]))).le
    have hlong : 2 ≤ (s :: s' :: ss).length := Nat.le_add_left 2 ss.length
    rw [decide_eq_true hlong, Bool.or_true, container_many, container_many]
    refine .of_lt ?_
    simp only [String.length_append, length_newline]
    omega

theorem childIndent_lt {i j : Nat} (h : i < j) (count : Nat) : childIndent i count < childIndent j count := by
  unfold childIndent
  split
  · exact h
  · exact Nat.succ_lt_succ h

end Layout

/-! ## Where the level can be seen -/

mutual
/-- **The layout breaks lines in the element**: some container in it has two children or more.  What is attached to a
tone or closes a span has no part in it, for it does not see the level of the element. -/
def Element.spreads : Element → Bool
  | .node n => Node.spreads n
  | .toggle _ => false
  | .tone _ => false
  | .text _ => false
  | .comment _ => false
  termination_by structural e => e
def Node.spreads : Node → Bool
  | ⟨_, _, vs, none⟩ => anyValueSpreads vs
  | ⟨_, _, vs, some children⟩ => anyValueSpreads vs || anyElementSpreads children || decide (2 ≤ children.length)
  termination_by structural n => n
def Value.spreads : Value → Bool
  | .leaf _ => false
  | .element e => Element.spreads e
  termination_by structural v => v
def anyValueSpreads : List (String × Value) → Bool
  | [] => false
  | (_, v) :: vs => Value.spreads v || anyValueSpreads vs
  termination_by structural vs => vs
def anyElementSpreads : List Element → Bool
  | [] => false
  | e :: es => Element.spreads e || anyElementSpreads es
  termination_by structural es => es
end

theorem renderSiblings_inline : ∀ (es : List Element) (indent : Nat) (c : Counters),
    (renderSiblings es indent c).1.map Layout.Sibling.inline = es.map Element.isInline
  | [], _, _ => rfl
  | e :: es, indent, c => by
    rw [renderSiblings_cons]
    exact congrArg (e.isInline :: ·) (renderSiblings_inline es indent (e.render indent c).2)

-- The induction is on the tree.  The pieces of a node grow one by one, from the same counts, for the level changes none
-- of them; toggles, tones, words and comments are the same texts on all levels.
mutual
/-- **A deeper level makes a text longer** where the layout breaks lines, and changes nothing elsewhere. -/
theorem Element.render_grows : ∀ (e : Element) {i j : Nat} (c : Counters), i < j →
    Grows e.spreads (e.render i c).1 (e.render j c).1
  | .node n, _, _, c, h => Node.render_grows n c h
  | .toggle _, _, _, _, _ => .refl _
  | .tone _, _, _, _, _ => .refl _
  | .text _, _, _, _, _ => .refl _
  | .comment _, _, _, _, _ => .refl _
theorem Node.render_grows : ∀ (n : Node) {i j : Nat} (c : Counters), i < j →
    Grows n.spreads (n.render i c).1 (n.render j c).1
  | ⟨r, p, vs, none⟩, i, j, c, h => by
    have hvalues := GrowEach.cons (.refl (p.marker ++ r.tag)) (renderParameters_grows vs c h)
    rw [Node.render_command, Node.render_command]
    exact Layout.grows_join hvalues
  | ⟨r, p, vs, some children⟩, i, j, c, h => by
    have hvalues := GrowEach.cons (.refl (p.marker ++ r.tag)) (renderParameters_grows vs c h)
    have hindent := Layout.childIndent_lt h children.length
    have hchildren := renderSiblings_grows children (renderParameters vs i c).2 hindent
    have hinline (level : Nat) := renderSiblings_inline children level (renderParameters vs i c).2
    have hgrows := Layout.grows_container hvalues r.opening r.closing h ((hinline _).trans (hinline _).symm) hchildren
    rw [Node.render_container, Node.render_container, ← renderParameters_counts i j c vs]
    rw [length_renderSiblings, Bool.false_or] at hgrows
    exact hgrows
theorem Value.render_grows : ∀ (v : Value) {i j : Nat} (c : Counters), i < j →
    Grows v.spreads (v.render i c).1 (v.render j c).1
  | .leaf _, _, _, _, _ => .refl _
  | .element e, _, _, c, h => Element.render_grows e c h
theorem renderParameters_grows : ∀ (vs : List (String × Value)) {i j : Nat} (c : Counters), i < j →
    GrowEach (anyValueSpreads vs) (renderParameters vs i c).1 (renderParameters vs j c).1
  | [], _, _, _, _ => .nil
  | (name, v) :: vs, i, j, c, h => by
    rw [renderParameters_cons, renderParameters_cons, ← v.render_counts i j c]
    exact .cons (Value.render_grows v c h) (renderParameters_grows vs _ h)
theorem renderSiblings_grows : ∀ (es : List Element) {i j : Nat} (c : Counters), i < j →
    GrowEach (anyElementSpreads es) ((renderSiblings es i c).1.map Layout.Sibling.text)
      ((renderSiblings es j c).1.map Layout.Sibling.text)
  | [], _, _, _, _ => .nil
  | e :: es, i, j, c, h => by
    rw [renderSiblings_cons, renderSiblings_cons, ← e.render_counts i j c]
    exact .cons (Element.render_grows e c h) (renderSiblings_grows es _ h)
end

/-- **The level of an element is seen** on every level but the outermost if the layout breaks lines in it. -/
theorem Element.render_outermost_iff (e : Element) (indent : Nat) (c : Counters) :
    e.render 0 c = e.render indent c ↔ indent = 0 ∨ e.spreads = false := by
  rcases Nat.eq_zero_or_pos indent with rfl | hindent
  · simp
  · have hne : indent ≠ 0 := Nat.ne_of_gt hindent
    rw [Prod.ext_iff, (e.render_grows c hindent).eq_iff, e.render_counts 0 indent c]
    simp [hne]

/-! ## Tones with one more attachment -/

theorem renderAttachments_concat : ∀ (es : List Element) (e : Element) (c : Counters),
    renderAttachments (es ++ [e]) c =
      let before := renderAttachments es c
      (before.1 ++ [(e.render 0 before.2).1], (e.render 0 before.2).2)
  | [], _, _ => rfl
  | e' :: es, e, c => by
    rw [List.cons_append, renderAttachments_cons, renderAttachments_cons, renderAttachments_concat es e]
    rfl

namespace Tone

theorem render_concat (s : Sound) (attachments : List Element) (e : Element) (c : Counters) :
    Tone.render ⟨s, attachments ++ [e]⟩ c =
      let before := Tone.render ⟨s, attachments⟩ c
      (before.1 ++ (e.render 0 before.2).1, (e.render 0 before.2).2) := by
  rw [Tone.render_attachments, Tone.render_attachments, renderAttachments_concat]
  dsimp only
  rw [String.join_append, String.join_cons, String.join_nil, String.append_empty, String.append_assoc]

/-- **An attachment is laid out at the outermost level.**  Whatever the level of a tone, its text is followed by what
is attached to it as it is on the outermost level.  That is how it is on the level of the tone exactly if this is the
outermost one or the layout breaks no line in the attachment. -/
theorem attachment_outermost {e : Element} (he : e.categories.contains .attachment = true) (t : Tone) :
    ∃ t', t.attach e = .ok t' ∧ ∀ (indent : Nat) (c : Counters),
      let before := (Element.tone t).render indent c
      let outermost := e.render 0 before.2
      let level := e.render indent before.2
      (t.attachments = [] → before = (t.sound.text, c)) ∧
      (Element.tone t').render indent c = (before.1 ++ outermost.1, outermost.2) ∧
      ((Element.tone t').render indent c = (before.1 ++ level.1, level.2) ↔ indent = 0 ∨ e.spreads = false) := by
  obtain ⟨s, attachments⟩ := t
  refine ⟨⟨s, attachments ++ [e]⟩, if_pos he, fun indent c => ?_⟩
  intro before outermost level
  have hrender : (Element.tone ⟨s, attachments ++ [e]⟩).render indent c = (before.1 ++ outermost.1, outermost.2) :=
    render_concat s attachments e c
  refine ⟨?_, hrender, ?_⟩
  · rintro rfl
    exact Prod.ext String.append_empty rfl
  · rw [hrender, ← e.render_outermost_iff indent before.2, Prod.ext_iff, Prod.ext_iff]
    dsimp only
    rw [String.append_right_inj]

def wholeRest : Tone := .ofSound ⟨.rest, "1", isDuration_whole, none, false⟩

/-- Two words in a container that stands above a tone. -/
def wordsAbove : Element := .node {
  rule := Rule.container "markup" "\\markup" (.single .attachment) (.single .markup)
  position := .up
  parameters := []
  children := some [.text "a", .text "b"] }

theorem attachment_outermost_words :
    wordsAbove.categories.contains .attachment = true ∧
    ∃ t', wholeRest.attach wordsAbove = .ok t' ∧
      ((Element.tone t').render 1 .start).1 = "r1^\\markup \x7b\n  a b\n\x7d" ∧
      (Element.tone t').render 0 .start = ("r1" ++ (wordsAbove.render 0 .start).1, .start) := by
  obtain ⟨t', ht', hlevels⟩ := attachment_outermost (e := wordsAbove) rfl wholeRest
  refine ⟨rfl, t', ht', ?_, ((hlevels 0 .start).2.2.2 (.inl rfl))⟩
  rw [(hlevels 1 .start).2.1]
  rfl

/-- **On a level below the outermost**, the lines of an attachment are not where those of a child would be. -/
theorem attachment_outdented :
    ∃ t', wholeRest.attachments = [] ∧ wholeRest.attach wordsAbove = .ok t' ∧
      ((Element.tone t').render 1 .start).1 = "r1^\\markup \x7b\n  a b\n\x7d" ∧
      (wordsAbove.render 1 .start).1 = "^\\markup \x7b\n    a b\n  \x7d" ∧
      ((Element.tone t').render 1 .start).1 ≠
        ((Element.tone wholeRest).render 1 .start).1 ++ (wordsAbove.render 1 .start).1 :=
  ⟨⟨wholeRest.sound, [wordsAbove]⟩, rfl, rfl, rfl, rfl, by decide⟩

end Tone
end Partitura
