import Partitura.Proofs.Render.Lines
/-!
# Proofs.Render.Indentation — a level deeper, every line is

The level of an element is the level of its lines but for the first, which stands where its place is.  So a plain element
one level deeper has one unit of indentation more behind every newline (`Element.render_succ`): a container passes the
level on to its parameters and to a single child, and one more to several, and its closing is at its own level.
-/
namespace Partitura

open Text (OneLine indented indented_append indented_of_oneLine)

namespace Layout

def Sibling.indented (s : Sibling) : Sibling := { s with text := Text.indented s.text }

theorem oneLine_margin (indent : Nat) : OneLine (margin indent) := by
  rw [margin, Text.oneLine_join_iff]
  intro unit hunit
  rw [List.eq_of_mem_replicate hunit]
  decide

theorem indented_newline (indent : Nat) : indented (newline indent) = newline (indent + 1) := by
  have hbreak : indented "\n" = "\n" ++ indentUnit := by decide
  have hmargin : margin (indent + 1) = indentUnit ++ margin indent := by
    rw [margin, List.replicate_succ, String.join_cons, margin]
  rw [newline, indented_append, hbreak, indented_of_oneLine (oneLine_margin indent), String.append_assoc, ← hmargin,
    newline]

theorem indented_join (parts : List String) : indented (join parts) = join (parts.map indented) := by
  have hkept : (fun part : String => !part.isEmpty) ∘ indented = fun part => !part.isEmpty :=
    funext fun part => congrArg not (Text.isEmpty_indented part)
  rw [join, Text.indented_intercalate (by decide), join, List.filter_map, hkept]

theorem indented_block (indent : Nat) : ∀ (after : Bool) (siblings : List Sibling),
    indented (block indent after siblings) = block (indent + 1) after (siblings.map Sibling.indented)
  | _, [] => rfl
  | after, s :: rest => by
    have hbreak : indented (if after && s.inline then " " else newline indent) =
        if after && s.inline then " " else newline (indent + 1) := by
      split
      · exact indented_of_oneLine (by decide)
      · exact indented_newline indent
    rw [block, indented_append, indented_append, hbreak, indented_block indent s.inline rest]
    rfl

/-- **A container one level deeper** has its parts one level deeper. -/
theorem indented_container (head : List String) {opening closing : String} (hopening : OneLine opening)
    (hclosing : OneLine closing) (indent : Nat) (siblings : List Sibling) :
    indented (container head opening closing indent siblings) =
      container (head.map indented) opening closing (indent + 1) (siblings.map Sibling.indented) := by
  have hopened : indented opening = opening := indented_of_oneLine hopening
  have hclosed : indented closing = closing := indented_of_oneLine hclosing
  match siblings with
  | [] =>
    rw [container, indented_join, List.map_append, List.map_cons, List.map_singleton, hopened, hclosed]
    rfl
  | [s] =>
    rw [container, indented_join, List.map_append, List.map_cons, List.map_cons, List.map_singleton, hopened, hclosed]
    rfl
  | s :: t :: rest =>
    rw [container_many, indented_append, indented_append, indented_append, indented_join, List.map_append,
      List.map_singleton, hopened, hclosed, indented_block, indented_newline]
    rfl

theorem childIndent_succ (indent count : Nat) : childIndent (indent + 1) count = childIndent indent count + 1 := by
  unfold childIndent
  split <;> rfl

end Layout

/-! ## A tree one level deeper -/

theorem indented_head (p : Position) {tag : String} (h : OneLine tag) :
    indented (p.marker ++ tag) = p.marker ++ tag :=
  indented_of_oneLine (Text.oneLine_append_iff.2 ⟨p.oneLine_marker, h⟩)

mutual
/-- **A plain element one level deeper** is its text one level deeper, and leaves the same counts. -/
theorem Element.render_succ : ∀ (e : Element), e.Plain → ∀ (indent : Nat) (c : Counters),
    e.render (indent + 1) c = (indented (e.render indent c).1, (e.render indent c).2)
  | .node n, h, indent, c => Node.render_succ n h indent c
  | .toggle t, h, _, c => Prod.ext (indented_of_oneLine (t.oneLine_render h c)).symm rfl
  | .tone t, h, _, c => Prod.ext (indented_of_oneLine (t.oneLine_render h c)).symm rfl
  | .text words, _, _, _ => Prod.ext (indented_of_oneLine (oneLine_markupText words)).symm rfl
  | .comment _, h, _, _ => Prod.ext (indented_of_oneLine (oneLine_commentText h)).symm rfl
theorem Node.render_succ : ∀ (n : Node), n.Plain → ∀ (indent : Nat) (c : Counters),
    n.render (indent + 1) c = (indented (n.render indent c).1, (n.render indent c).2)
  | ⟨r, p, vs, none⟩, ⟨htag, hvs⟩, indent, c => by
    rw [Node.render_command, Node.render_command, renderParameters_succ vs hvs indent c, Layout.indented_join,
      List.map_cons, indented_head p htag]
  | ⟨r, p, vs, some children⟩, ⟨⟨htag, hopening, hclosing⟩, hvs, hchildren⟩, indent, c => by
    -- The level of the children depends on their number, but rises with that of the node either way.
    rw [Node.render_container, Node.render_container, renderParameters_succ vs hvs indent c, Layout.childIndent_succ,
      renderSiblings_succ children hchildren]
    dsimp only
    rw [Layout.indented_container _ hopening hclosing, List.map_cons, indented_head p htag]
theorem Value.render_succ : ∀ (v : Value), v.Plain → ∀ (indent : Nat) (c : Counters),
    v.render (indent + 1) c = (indented (v.render indent c).1, (v.render indent c).2)
  | .leaf _, h, _, _ => Prod.ext (indented_of_oneLine (Leaf.oneLine_topLevel h)).symm rfl
  | .element e, h, indent, c => Element.render_succ e h indent c
theorem renderParameters_succ : ∀ (vs : List (String × Value)), plainParameters vs → ∀ (indent : Nat) (c : Counters),
    renderParameters vs (indent + 1) c = ((renderParameters vs indent c).1.map indented, (renderParameters vs indent c).2)
  | [], _, _, _ => rfl
  | (name, v) :: vs, ⟨hv, hvs⟩, indent, c => by
    rw [renderParameters_cons, renderParameters_cons, Value.render_succ v hv indent c]
    dsimp only
    rw [renderParameters_succ vs hvs indent, List.map_cons]
theorem renderSiblings_succ : ∀ (es : List Element), plainElements es → ∀ (indent : Nat) (c : Counters),
    renderSiblings es (indent + 1) c =
      ((renderSiblings es indent c).1.map Layout.Sibling.indented, (renderSiblings es indent c).2)
  | [], _, _, _ => rfl
  | e :: es, ⟨he, hes⟩, indent, c => by
    rw [renderSiblings_cons, renderSiblings_cons, Element.render_succ e he indent c]
    dsimp only
    rw [renderSiblings_succ es hes indent, List.map_cons]
    rfl
end

/-- **Indentation is uniform.**  One level deeper a plain element has one unit of indentation more behind every newline
and nothing else, and the counts after it are the same. -/
theorem indentation_uniform {e : Element} (h : e.Plain) (indent : Nat) (c : Counters) :
    (e.render (indent + 1) c).1 = indented (e.render indent c).1 ∧
      (e.render (indent + 1) c).2 = (e.render indent c).2 :=
  Prod.ext_iff.1 (e.render_succ h indent c)

theorem isDuration_whole : isDuration "1".toList = true := rfl

/-- A rest with a hairpin that a node closes, above a comment: two lines in a container that is an only child. -/
def Element.stave : Element :=
  let rest : Sound := ⟨.rest, "1", isDuration_whole, none, false⟩
  let voice : Element := .node {
    rule := Rule.container "voice" "\\voice" (.single .music) (.ofList [.music, .comment])
    position := .unset
    parameters := []
    children := some [.tone ⟨rest, [.toggle hairpin, .toggle hairpin]⟩, .comment "end"] }
  .node ⟨Rule.container "stave" "\\stave" (.single .music) (.single .music), .unset, [], some [voice]⟩
where
  hairpin : Toggle := ⟨0, "\\<", .node {
    rule := { Rule.command "f" "\\f" (.single .attachment) with inline := true }
    position := .unset
    parameters := []
    children := none }⟩

theorem indentation_uniform_stave :
    Element.stave.Plain ∧
    (Element.stave.render 0 .start).1 = "\\stave \x7b \\voice \x7b\n  r1\\<\\f\n  %\x7b end %\x7d\n\x7d \x7d" ∧
    (Element.stave.render 1 .start).1 = "\\stave \x7b \\voice \x7b\n    r1\\<\\f\n    %\x7b end %\x7d\n  \x7d \x7d" ∧
    (Element.stave.render 1 .start).2 = (Element.stave.render 0 .start).2 := by
  have hmark : OneLine "\\f" ∧ True := ⟨by decide, trivial⟩
  have hhairpin : Element.stave.hairpin.Plain := ⟨by decide, hmark, .start, by decide⟩
  have hshown : ∃ c, OneLine (Element.stave.hairpin.render c).1 := ⟨.start, by decide⟩
  have htone : plainAttachments [.toggle Element.stave.hairpin, .toggle Element.stave.hairpin] :=
    ⟨⟨hhairpin, hshown⟩, ⟨hhairpin, hshown⟩, trivial⟩
  have hcomment : OneLine "end" := by decide
  have hdelimiters : OneLine Rule.defaultOpening ∧ OneLine Rule.defaultClosing := by decide
  have hplain : Element.stave.Plain :=
    ⟨⟨by decide, hdelimiters⟩, trivial, ⟨⟨by decide, hdelimiters⟩, trivial, htone, hcomment, trivial⟩, trivial⟩
  have htext : (Element.stave.render 0 .start).1 =
      "\\stave \x7b \\voice \x7b\n  r1\\<\\f\n  %\x7b end %\x7d\n\x7d \x7d" := by decide
  have huniform := indentation_uniform hplain 0 .start
  rw [Nat.zero_add] at huniform
  obtain ⟨hdeeper, hcounts⟩ := huniform
  refine ⟨hplain, htext, ?_, hcounts⟩
  rw [hdeeper, htext]
  decide

end Partitura
