import Partitura.Render
import Partitura.Proofs.Render.Occurrences
/-!
# Proofs.Render.Alternation — shared toggles open and close in turn

Where a toggle stands, it shows its opening mark if it was shown an even number of times: before the rendering, or at an
earlier place of the tree.  So a tree has the text of another one, in which every toggle is replaced by a fixed text
(`Element.fixed`), and the counts go up by the number of places.  The invariant behind it says what the counts are on
the way (`Counters.after`): the counts at first and the places passed.
-/
namespace Partitura

/-- The number of places at which a toggle stands. -/
def occurrences (ts : List Toggle) (id : Nat) : Nat := ts.countP (·.id == id)

/-- The counts after some toggles were shown. -/
def Counters.after (c : Counters) (shown : List Toggle) : Counters := fun id => c id + occurrences shown id

/-- A mark, or the text of a node at the outermost level. -/
def Closing.text : Closing → String
  | .mark text => text
  | .node n => (n.render 0 .start).1

/-- **What a toggle shows** when it was shown so many times. -/
def Toggle.shown (t : Toggle) (times : Nat) : String := if times % 2 = 0 then t.opening else t.closing.text

/-- An inline element that is nothing but a text. -/
def Element.ofText (text : String) : Element :=
  .node ⟨{ Rule.command "text" text .empty with inline := true }, .unset, [], none⟩

mutual
/-- **The element with a fixed text for every toggle**, when rendering starts from the counts `c` and some toggles were
passed before it. -/
def Element.fixed (c : Counters) : Element → List Toggle → Element
  | .node n, passed => .node (Node.fixed c n passed)
  | .toggle t, passed => .ofText (t.shown (c t.id + occurrences passed t.id))
  | .tone t, passed => .tone (Tone.fixed c t passed)
  | .text words, _ => .text words
  | .comment remark, _ => .comment remark
  termination_by structural e => e
/-- The node with fixed texts in its values, and then in its children. -/
def Node.fixed (c : Counters) : Node → List Toggle → Node
  | ⟨r, p, vs, none⟩, passed => ⟨r, p, fixedValues c vs passed, none⟩
  | ⟨r, p, vs, some children⟩, passed =>
    ⟨r, p, fixedValues c vs passed, some (fixedElements c children (passed ++ togglesOfValues vs))⟩
  termination_by structural n => n
def Value.fixed (c : Counters) : Value → List Toggle → Value
  | .leaf v, _ => .leaf v
  | .element e, passed => .element (Element.fixed c e passed)
  termination_by structural v => v
def Tone.fixed (c : Counters) : Tone → List Toggle → Tone
  | ⟨sound, attachments⟩, passed => ⟨sound, fixedElements c attachments passed⟩
  termination_by structural t => t
def fixedValues (c : Counters) : List (String × Value) → List Toggle → List (String × Value)
  | [], _ => []
  | (name, v) :: vs, passed => (name, Value.fixed c v passed) :: fixedValues c vs (passed ++ v.toggles)
  termination_by structural vs => vs
def fixedElements (c : Counters) : List Element → List Toggle → List Element
  | [], _ => []
  | e :: es, passed => Element.fixed c e passed :: fixedElements c es (passed ++ e.toggles)
  termination_by structural es => es
end

/-- The document with fixed texts. -/
def Document.fixed (d : Document) (c : Counters) : Document := { d with elements := fixedElements c d.elements [] }

/-! ## Fixed texts -/

theorem join_singleton (text : String) : Layout.join [text] = text := by
  unfold Layout.join
  by_cases h : text = ""
  · subst h
    rfl
  · have hempty : text.isEmpty = false := by simpa using h
    rw [List.filter_cons_of_pos (by simp [hempty]), List.filter_nil]
    simp

theorem Element.render_ofText (text : String) (indent : Nat) (c : Counters) :
    (Element.ofText text).render indent c = (text, c) := by
  rw [Element.ofText, Element.render, Node.render_command]
  change (Layout.join ["" ++ text], c) = (text, c)
  rw [String.empty_append, join_singleton]

theorem Element.isInline_fixed (c : Counters) (e : Element) (passed : List Toggle) :
    (e.fixed c passed).isInline = e.isInline := by
  cases e with
  | node n =>
    obtain ⟨r, p, vs, children⟩ := n
    cases children <;> rfl
  | toggle t => rfl
  | tone t => rfl
  | text words => rfl
  | comment remark => rfl

theorem length_fixedElements (c : Counters) : ∀ (es : List Element) (passed : List Toggle),
    (fixedElements c es passed).length = es.length
  | [], _ => rfl
  | e :: es, passed => by rw [fixedElements, List.length_cons, length_fixedElements c es, List.length_cons]

mutual
/-- **No toggle is left.** -/
theorem Element.toggles_fixed (c : Counters) : ∀ (e : Element) (passed : List Toggle), (e.fixed c passed).toggles = []
  | .node n, passed => Node.toggles_fixed c n passed
  | .toggle _, _ => rfl
  | .tone t, passed => Tone.toggles_fixed c t passed
  | .text _, _ => rfl
  | .comment _, _ => rfl
theorem Node.toggles_fixed (c : Counters) : ∀ (n : Node) (passed : List Toggle), (n.fixed c passed).toggles = []
  | ⟨_, _, vs, none⟩, passed => togglesOfValues_fixed c vs passed
  | ⟨_, _, vs, some children⟩, passed =>
    List.append_eq_nil_iff.2 ⟨togglesOfValues_fixed c vs passed, togglesOfElements_fixed c children _⟩
theorem Value.toggles_fixed (c : Counters) : ∀ (v : Value) (passed : List Toggle), (v.fixed c passed).toggles = []
  | .leaf _, _ => rfl
  | .element e, passed => Element.toggles_fixed c e passed
theorem Tone.toggles_fixed (c : Counters) : ∀ (t : Tone) (passed : List Toggle), (t.fixed c passed).toggles = []
  | ⟨_, attachments⟩, passed => togglesOfElements_fixed c attachments passed
theorem togglesOfValues_fixed (c : Counters) : ∀ (vs : List (String × Value)) (passed : List Toggle),
    togglesOfValues (fixedValues c vs passed) = []
  | [], _ => rfl
  | (_, v) :: vs, passed =>
    List.append_eq_nil_iff.2 ⟨Value.toggles_fixed c v passed, togglesOfValues_fixed c vs _⟩
theorem togglesOfElements_fixed (c : Counters) : ∀ (es : List Element) (passed : List Toggle),
    togglesOfElements (fixedElements c es passed) = []
  | [], _ => rfl
  | e :: es, passed => List.append_eq_nil_iff.2 ⟨Element.toggles_fixed c e passed, togglesOfElements_fixed c es _⟩
end

/-! ## Counts on the way -/

theorem Counters.after_nil (c : Counters) : c.after [] = c := rfl

theorem Counters.advance_after (c : Counters) (passed : List Toggle) (t : Toggle) :
    (c.after passed).advance t.id = c.after (passed ++ [t]) := by
  funext id
  unfold Counters.advance Counters.after occurrences
  rw [List.countP_append, List.countP_singleton]
  by_cases h : id = t.id
  · subst h
    simp [Nat.add_assoc]
  · have hother : (t.id == id) = false := by simpa using Ne.symm h
    simp [h, hother]

theorem Toggle.render_after (c : Counters) (t : Toggle) (passed : List Toggle) (h : t.closing.toggles = []) :
    t.render (c.after passed) = (t.shown (c t.id + occurrences passed t.id), c.after (passed ++ [t])) := by
  rw [← Counters.advance_after]
  obtain ⟨id, opening, closing⟩ := t
  rw [Toggle.render, Toggle.shown]
  change (if (c id + occurrences passed id) % 2 = 0 then _ else _) = _
  split
  · rfl
  · cases closing with
    | mark text => rfl
    | node n => exact Node.render_still n 0 _ _ h

mutual
/-- **An element after some toggles** has the text of the element with fixed texts, and passes its own toggles. -/
theorem Element.render_after (c : Counters) : ∀ (e : Element) (indent : Nat) (passed : List Toggle) (c' : Counters),
    (∀ t ∈ e.toggles, t.closing.toggles = []) →
    e.render indent (c.after passed) = (((e.fixed c passed).render indent c').1, c.after (passed ++ e.toggles))
  | .node n, indent, passed, c', h => Node.render_after c n indent passed c' h
  | .toggle t, indent, passed, c', h => by
    rw [Element.fixed, Element.render_ofText]
    exact Toggle.render_after c t passed (h t List.mem_cons_self)
  | .tone t, _, passed, c', h => Tone.render_after c t passed c' h
  | .text _, _, passed, _, _ => by rw [Element.toggles, List.append_nil]; rfl
  | .comment _, _, passed, _, _ => by rw [Element.toggles, List.append_nil]; rfl
theorem Node.render_after (c : Counters) : ∀ (n : Node) (indent : Nat) (passed : List Toggle) (c' : Counters),
    (∀ t ∈ n.toggles, t.closing.toggles = []) →
    n.render indent (c.after passed) = (((n.fixed c passed).render indent c').1, c.after (passed ++ n.toggles))
  | ⟨r, p, vs, none⟩, indent, passed, c', h => by
    rw [Node.fixed, Node.render_command, Node.render_command, renderParameters_after c vs indent passed c' h]
    rfl
  | ⟨r, p, vs, some children⟩, indent, passed, c', h => by
    -- The children begin with the counts that the values leave, and with as many levels as before.
    obtain ⟨hvs, hchildren⟩ := List.forall_mem_append.1 h
    rw [Node.fixed, Node.render_container, Node.render_container, length_fixedElements,
      renderParameters_after c vs indent passed c' hvs]
    dsimp only
    rw [renderSiblings_after c children _ _ (renderParameters (fixedValues c vs passed) indent c').2 hchildren,
      Node.toggles, List.append_assoc]
theorem Value.render_after (c : Counters) : ∀ (v : Value) (indent : Nat) (passed : List Toggle) (c' : Counters),
    (∀ t ∈ v.toggles, t.closing.toggles = []) →
    v.render indent (c.after passed) = (((v.fixed c passed).render indent c').1, c.after (passed ++ v.toggles))
  | .leaf _, _, passed, _, _ => by rw [Value.toggles, List.append_nil]; rfl
  | .element e, indent, passed, c', h => Element.render_after c e indent passed c' h
theorem Tone.render_after (c : Counters) : ∀ (t : Tone) (passed : List Toggle) (c' : Counters),
    (∀ u ∈ t.toggles, u.closing.toggles = []) →
    t.render (c.after passed) = (((t.fixed c passed).render c').1, c.after (passed ++ t.toggles))
  | ⟨s, attachments⟩, passed, c', h => by
    rw [Tone.fixed, Tone.render_attachments, Tone.render_attachments,
      renderAttachments_after c attachments passed c' h]
    rfl
theorem renderParameters_after (c : Counters) : ∀ (vs : List (String × Value)) (indent : Nat) (passed : List Toggle)
    (c' : Counters), (∀ t ∈ togglesOfValues vs, t.closing.toggles = []) →
    renderParameters vs indent (c.after passed) =
      ((renderParameters (fixedValues c vs passed) indent c').1, c.after (passed ++ togglesOfValues vs))
  | [], _, passed, _, _ => by rw [togglesOfValues, List.append_nil]; rfl
  | (name, v) :: vs, indent, passed, c', h => by
    obtain ⟨hv, hvs⟩ := List.forall_mem_append.1 h
    rw [fixedValues, renderParameters_cons, renderParameters_cons, Value.render_after c v indent passed c' hv]
    dsimp only
    rw [renderParameters_after c vs indent _ ((v.fixed c passed).render indent c').2 hvs, togglesOfValues,
      List.append_assoc]
theorem renderSiblings_after (c : Counters) : ∀ (es : List Element) (indent : Nat) (passed : List Toggle)
    (c' : Counters), (∀ t ∈ togglesOfElements es, t.closing.toggles = []) →
    renderSiblings es indent (c.after passed) =
      ((renderSiblings (fixedElements c es passed) indent c').1, c.after (passed ++ togglesOfElements es))
  | [], _, passed, _, _ => by rw [togglesOfElements, List.append_nil]; rfl
  | e :: es, indent, passed, c', h => by
    obtain ⟨he, hes⟩ := List.forall_mem_append.1 h
    rw [fixedElements, renderSiblings_cons, renderSiblings_cons, Element.render_after c e indent passed c' he,
      Element.isInline_fixed]
    dsimp only
    rw [renderSiblings_after c es indent _ ((e.fixed c passed).render indent c').2 hes, togglesOfElements,
      List.append_assoc]
theorem renderAttachments_after (c : Counters) : ∀ (es : List Element) (passed : List Toggle) (c' : Counters),
    (∀ t ∈ togglesOfElements es, t.closing.toggles = []) →
    renderAttachments es (c.after passed) =
      ((renderAttachments (fixedElements c es passed) c').1, c.after (passed ++ togglesOfElements es))
  | [], passed, _, _ => by rw [togglesOfElements, List.append_nil]; rfl
  | e :: es, passed, c', h => by
    obtain ⟨he, hes⟩ := List.forall_mem_append.1 h
    rw [fixedElements, renderAttachments_cons, renderAttachments_cons, Element.render_after c e 0 passed c' he]
    dsimp only
    rw [renderAttachments_after c es _ ((e.fixed c passed).render 0 c').2 hes, togglesOfElements, List.append_assoc]
end

theorem Document.render_fixed (d : Document) (c c' : Counters)
    (h : ∀ t ∈ togglesOfElements d.elements, t.closing.toggles = []) :
    d.render c = (((d.fixed c).render c').1, c.after (togglesOfElements d.elements)) := by
  have hsiblings := renderSiblings_after c d.elements 0 [] c' h
  rw [Counters.after_nil, List.nil_append] at hsiblings
  change (Document.versionLine d.version ++ Layout.document (renderSiblings d.elements 0 c).1,
    (renderSiblings d.elements 0 c).2) = _
  rw [hsiblings]
  rfl

/-- **Shared toggles alternate in the order of the tree**: an element, and a document, has the text of the one with
fixed texts for its toggles, in which there is no toggle and no count matters; and rendering it counts every toggle up
by the number of its places.  What closes a hairpin may not hold toggles itself. -/
theorem render_alternates :
    (∀ (e : Element) (indent : Nat) (c : Counters), (∀ t ∈ e.toggles, t.closing.toggles = []) →
      (e.fixed c []).toggles = [] ∧ (∀ c', (e.render indent c).1 = ((e.fixed c []).render indent c').1) ∧
      ∀ id, (e.render indent c).2 id = c id + occurrences e.toggles id) ∧
    (∀ (d : Document) (c : Counters), (∀ t ∈ togglesOfElements d.elements, t.closing.toggles = []) →
      togglesOfElements (d.fixed c).elements = [] ∧ (∀ c', (d.render c).1 = ((d.fixed c).render c').1) ∧
      ∀ id, (d.render c).2 id = c id + occurrences (togglesOfElements d.elements) id) := by
  constructor
  · intro e indent c h
    have hrender : ∀ c', e.render indent c = (((e.fixed c []).render indent c').1, c.after e.toggles) :=
      fun c' => Element.render_after c e indent [] c' h
    refine ⟨Element.toggles_fixed c e [], fun c' => ?_, fun id => ?_⟩
    · rw [hrender c']
    · rw [hrender c]
      rfl
  · intro d c h
    refine ⟨togglesOfElements_fixed c d.elements [], fun c' => ?_, fun id => ?_⟩
    · rw [Document.render_fixed d c c' h]
    · rw [Document.render_fixed d c c h]
      rfl

/-- One slur in a parameter, after a tone, and among the children, beside a hairpin that ends at a node. -/
def Element.spans : Element :=
  .node {
    rule := { Rule.container "line" "\\line" (.ofList [.markup]) (.ofList [.music, .attachment]) with
      parameters := [⟨"mark", .any, false⟩] }
    position := .unset
    parameters := [("mark", .element (.toggle (.slur 1)))]
    children := some [
      .tone ⟨⟨.rest, "2", rfl, none, false⟩, [.toggle (.slur 1), .toggle ⟨2, "\\<", .node f⟩]⟩,
      .toggle (.slur 1),
      .toggle ⟨2, "\\<", .node f⟩] }
where
  /-- An inline attachment without children. -/
  f : Node := ⟨{ Rule.command "f" "\\f" (.ofList [.attachment]) with inline := true }, .unset, [], none⟩

theorem render_alternates_spans :
    (∀ t ∈ Element.spans.toggles, t.closing.toggles = []) ∧
    (Element.spans.render 0 .start).1 = "\\line ( \x7b\n  r2)\\< ( \\f\n\x7d" ∧
    (Element.spans.render 0 .start).2 1 = 3 ∧
    ((Document.mk none [.spans, .toggle (.slur 1)]).render .start).1 =
      "\\line ( \x7b\n  r2)\\< ( \\f\n\x7d\n)\n" := by
  have h : ∀ t ∈ Element.spans.toggles, t.closing.toggles = [] := by decide
  have hdocument : ∀ t ∈ togglesOfElements [.spans, .toggle (.slur 1)], t.closing.toggles = [] := by decide
  obtain ⟨-, htext, hcounts⟩ := render_alternates.1 .spans 0 .start h
  obtain ⟨-, hwhole, -⟩ := render_alternates.2 ⟨none, [.spans, .toggle (.slur 1)]⟩ .start hdocument
  refine ⟨h, ?_, ?_, ?_⟩
  · rw [htext .start]
    rfl
  · rw [hcounts 1]
    rfl
  · rw [hwhole .start]
    rfl

end Partitura
