import Partitura.Render
/-!
# Proofs.Render.Occurrences — where toggles stand in a tree

The occurrences of toggles, in the order in which rendering comes by them: the values of a node before its children, and
the attachments of a tone.  What closes a hairpin is apart (`Closing.toggles`), for it is not always shown.  Without
toggles a text depends on no count and leaves all of them as they are (`Element.render_still`).
-/
namespace Partitura

mutual
/-- **The toggles of an element**, once for each place where they stand. -/
def Element.toggles : Element → List Toggle
  | .node n => Node.toggles n
  | .toggle t => [t]
  | .tone t => Tone.toggles t
  | .text _ => []
  | .comment _ => []
  termination_by structural e => e
/-- The toggles in the values of a node, and then those in its children. -/
def Node.toggles : Node → List Toggle
  | ⟨_, _, vs, none⟩ => togglesOfValues vs
  | ⟨_, _, vs, some children⟩ => togglesOfValues vs ++ togglesOfElements children
  termination_by structural n => n
def Value.toggles : Value → List Toggle
  | .leaf _ => []
  | .element e => Element.toggles e
  termination_by structural v => v
def Tone.toggles : Tone → List Toggle
  | ⟨_, attachments⟩ => togglesOfElements attachments
  termination_by structural t => t
def togglesOfValues : List (String × Value) → List Toggle
  | [] => []
  | (_, v) :: vs => Value.toggles v ++ togglesOfValues vs
  termination_by structural vs => vs
def togglesOfElements : List Element → List Toggle
  | [] => []
  | e :: es => Element.toggles e ++ togglesOfElements es
  termination_by structural es => es
end

/-- The toggles in what closes a span. -/
def Closing.toggles : Closing → List Toggle
  | .mark _ => []
  | .node n => n.toggles

/-! ## One step of rendering -/

theorem Node.render_command (r : Rule) (p : Position) (vs : List (String × Value)) (indent : Nat) (c : Counters) :
    Node.render ⟨r, p, vs, none⟩ indent c =
      (Layout.join ((p.marker ++ r.tag) :: (renderParameters vs indent c).1), (renderParameters vs indent c).2) := rfl

theorem Node.render_container (r : Rule) (p : Position) (vs : List (String × Value)) (children : List Element)
    (indent : Nat) (c : Counters) :
    Node.render ⟨r, p, vs, some children⟩ indent c =
      let siblings :=
        renderSiblings children (Layout.childIndent indent children.length) (renderParameters vs indent c).2
      (Layout.container ((p.marker ++ r.tag) :: (renderParameters vs indent c).1) r.opening r.closing indent siblings.1,
        siblings.2) := rfl

theorem Tone.render_attachments (s : Sound) (attachments : List Element) (c : Counters) :
    Tone.render ⟨s, attachments⟩ c =
      (s.text ++ String.join (renderAttachments attachments c).1, (renderAttachments attachments c).2) := rfl

theorem renderParameters_cons (name : String) (v : Value) (vs : List (String × Value)) (indent : Nat) (c : Counters) :
    renderParameters ((name, v) :: vs) indent c =
      let rest := renderParameters vs indent (v.render indent c).2
      ((v.render indent c).1 :: rest.1, rest.2) := rfl

theorem renderSiblings_cons (e : Element) (es : List Element) (indent : Nat) (c : Counters) :
    renderSiblings (e :: es) indent c =
      let rest := renderSiblings es indent (e.render indent c).2
      (⟨e.isInline, (e.render indent c).1⟩ :: rest.1, rest.2) := rfl

theorem renderAttachments_cons (e : Element) (es : List Element) (c : Counters) :
    renderAttachments (e :: es) c =
      let rest := renderAttachments es (e.render 0 c).2
      ((e.render 0 c).1 :: rest.1, rest.2) := rfl

/-! ## Texts without toggles -/

mutual
/-- **Without toggles** an element has one text, and the counts stay. -/
theorem Element.render_still : ∀ (e : Element) (indent : Nat) (c c' : Counters), e.toggles = [] →
    e.render indent c = ((e.render indent c').1, c)
  | .node n, indent, c, c', h => Node.render_still n indent c c' h
  | .toggle _, _, _, _, h => nomatch h
  | .tone t, _, c, c', h => Tone.render_still t c c' h
  | .text _, _, _, _, _ => rfl
  | .comment _, _, _, _, _ => rfl
theorem Node.render_still : ∀ (n : Node) (indent : Nat) (c c' : Counters), n.toggles = [] →
    n.render indent c = ((n.render indent c').1, c)
  | ⟨r, p, vs, none⟩, indent, c, c', h => by
    rw [Node.render_command, Node.render_command, renderParameters_still vs indent c c' h]
  | ⟨r, p, vs, some children⟩, indent, c, c', h => by
    obtain ⟨hvs, hchildren⟩ := List.append_eq_nil_iff.1 h
    rw [Node.render_container, Node.render_container, renderParameters_still vs indent c c' hvs]
    dsimp only
    rw [renderSiblings_still children _ c (renderParameters vs indent c').2 hchildren]
theorem Value.render_still : ∀ (v : Value) (indent : Nat) (c c' : Counters), v.toggles = [] →
    v.render indent c = ((v.render indent c').1, c)
  | .leaf _, _, _, _, _ => rfl
  | .element e, indent, c, c', h => Element.render_still e indent c c' h
theorem Tone.render_still : ∀ (t : Tone) (c c' : Counters), t.toggles = [] → t.render c = ((t.render c').1, c)
  | ⟨s, attachments⟩, c, c', h => by
    rw [Tone.render_attachments, Tone.render_attachments, renderAttachments_still attachments c c' h]
theorem renderParameters_still : ∀ (vs : List (String × Value)) (indent : Nat) (c c' : Counters),
    togglesOfValues vs = [] → renderParameters vs indent c = ((renderParameters vs indent c').1, c)
  | [], _, _, _, _ => rfl
  | (name, v) :: vs, indent, c, c', h => by
    obtain ⟨hv, hvs⟩ := List.append_eq_nil_iff.1 h
    rw [renderParameters_cons, renderParameters_cons, Value.render_still v indent c c' hv]
    dsimp only
    rw [renderParameters_still vs indent c (v.render indent c').2 hvs]
theorem renderSiblings_still : ∀ (es : List Element) (indent : Nat) (c c' : Counters),
    togglesOfElements es = [] → renderSiblings es indent c = ((renderSiblings es indent c').1, c)
  | [], _, _, _, _ => rfl
  | e :: es, indent, c, c', h => by
    obtain ⟨he, hes⟩ := List.append_eq_nil_iff.1 h
    rw [renderSiblings_cons, renderSiblings_cons, Element.render_still e indent c c' he]
    dsimp only
    rw [renderSiblings_still es indent c (e.render indent c').2 hes]
theorem renderAttachments_still : ∀ (es : List Element) (c c' : Counters),
    togglesOfElements es = [] → renderAttachments es c = ((renderAttachments es c').1, c)
  | [], _, _, _ => rfl
  | e :: es, c, c', h => by
    obtain ⟨he, hes⟩ := List.append_eq_nil_iff.1 h
    rw [renderAttachments_cons, renderAttachments_cons, Element.render_still e 0 c c' he]
    dsimp only
    rw [renderAttachments_still es c (e.render 0 c').2 hes]
end

end Partitura
