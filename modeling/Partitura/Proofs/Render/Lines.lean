import Partitura.Proofs.Leaf.Lines
import Partitura.Proofs.Render.Words
import Partitura.Proofs.Tone.Readable
/-!
# Proofs.Render.Lines — elements on one line

In a plain element the layout alone breaks lines: no text that is written as it stands has a newline in it, and what is
attached to a tone or closes a hairpin is on one line.  A container with two children or more is never on one line, and
any other element is if its pieces are; so it is on one line from all counts or from none (`Element.oneLine_render`), and
toggles and tones always are.
-/
namespace Partitura

open Text (OneLine oneLine_ofList_iff oneLine_append_iff)

/-! ## Sounds, words and comments -/

theorem Pitch.oneLine_text (p : Pitch) : OneLine p.text := by
  refine oneLine_append_iff.2 ⟨fun hc => ?_, fun hc => ?_⟩
  · exact absurd (p.isNameChar_of_mem_name '\n' hc) (by decide)
  · exact absurd (p.isOctaveChar_of_mem_octave '\n' hc) (by decide)

namespace Sound

theorem newline_not_mem_duration {cs : List Char} (h : isDuration cs = true) : '\n' ∉ cs :=
  fun hc => absurd (isDurationChar_of_mem h '\n' hc) (by decide)

theorem oneLine_bodyText : ∀ body : Body, OneLine (bodyText body)
  | .note pitch => pitch.oneLine_text
  | .rest => by decide
  | .chord first others => by
    rw [bodyText, oneLine_append_iff, oneLine_append_iff, Text.oneLine_intercalate_iff (by decide), List.forall_mem_map]
    exact ⟨⟨by decide, fun pitch _ => pitch.oneLine_text⟩, by decide⟩

theorem oneLine_text (s : Sound) : OneLine s.text := by
  rw [text, oneLine_append_iff, oneLine_append_iff, oneLine_append_iff]
  refine ⟨⟨⟨oneLine_bodyText s.body, newline_not_mem_duration s.timed⟩, ?_⟩, ?_⟩
  · split
    · exact oneLine_append_iff.2 ⟨by decide, oneLine_natRepr _⟩
    · decide
  · split <;> decide

end Sound

/-- A word with a newline in it is not bare, and in quotes a newline is no newline. -/
theorem oneLine_markupText (words : String) : OneLine (markupText words) := by
  unfold markupText
  split
  · next hbare =>
    rw [isBareWord, Bool.and_eq_true, List.all_eq_true] at hbare
    exact fun hc => absurd (hbare.2 '\n' hc) (by decide)
  · exact Text.oneLine_quoted words

theorem newline_not_mem_partClosings (cs : List Char) (h : '\n' ∉ cs) : '\n' ∉ partClosings cs := by
  fun_induction partClosings cs with
  | case1 cs ih =>
    simp only [List.mem_cons, not_or] at h ⊢
    exact ⟨h.1, by decide, h.2.1, ih h.2.2⟩
  | case2 c cs _ ih =>
    rw [List.mem_cons, not_or] at h ⊢
    exact ⟨h.1, ih h.2⟩
  | case3 => exact h

theorem oneLine_commentText {remark : String} (h : OneLine remark) : OneLine (commentText remark) := by
  have hremark := newline_not_mem_partClosings remark.toList h
  rw [commentText, oneLine_ofList_iff]
  simp [hremark]

theorem Position.oneLine_marker (p : Position) : OneLine p.marker := by cases p <;> decide

namespace Layout

/-! ## Lines of a layout -/

theorem oneLine_join_iff {parts : List String} : OneLine (join parts) ↔ ∀ part ∈ parts, OneLine part := by
  rw [join, Text.oneLine_intercalate_iff (by decide)]
  refine ⟨fun h part hpart => ?_, fun h part hpart => h part (List.mem_filter.1 hpart).1⟩
  cases hempty : part.isEmpty with
  | true =>
    rw [String.isEmpty_iff.1 hempty]
    decide
  | false => exact h part (List.mem_filter.2 ⟨hpart, by rw [hempty]; rfl⟩)

theorem not_oneLine_newline (indent : Nat) : ¬ OneLine (newline indent) := by
  rw [newline, oneLine_append_iff, not_and_or]
  exact .inl (by decide)

/-- **A container is on one line** if its pieces are, and its children are no more than one. -/
theorem oneLine_container_iff {head : List String} {opening closing : String} {indent : Nat} {siblings : List Sibling} :
    OneLine (container head opening closing indent siblings) ↔ siblings.length ≤ 1 ∧ (∀ part ∈ head, OneLine part) ∧
      OneLine opening ∧ (∀ s ∈ siblings, OneLine s.text) ∧ OneLine closing := by
  match siblings with
  | [] =>
    rw [container, oneLine_join_iff]
    simp [or_imp, forall_and]
  | [s] =>
    rw [container, oneLine_join_iff]
    simp [or_imp, forall_and]
  | s :: t :: rest =>
    refine iff_of_false ?_ fun h => absurd h.1 (by simp)
    rw [container_many, oneLine_append_iff, oneLine_append_iff]
    exact fun h => not_oneLine_newline indent h.1.2

end Layout

/-! ## Plain elements -/

mutual
/-- **The layout alone breaks lines.**  Comments, marks, procedures, tags and delimiters have no newline, and every
attachment of a tone and every node in place of a mark is on one line, wherever they stand in the element; from which
counts they are is left open. -/
def Element.Plain : Element → Prop
  | .node n => Node.Plain n
  | .toggle t => Toggle.Plain t
  | .tone t => Tone.Plain t
  | .text _ => True
  | .comment remark => OneLine remark
  termination_by structural e => e
/-- The delimiters of a command are not written. -/
def Node.Plain : Node → Prop
  | ⟨r, _, vs, none⟩ => OneLine r.tag ∧ plainParameters vs
  | ⟨r, _, vs, some children⟩ =>
    (OneLine r.tag ∧ OneLine r.opening ∧ OneLine r.closing) ∧ plainParameters vs ∧ plainElements children
  termination_by structural n => n
def Value.Plain : Value → Prop
  | .leaf v => v.Plain
  | .element e => Element.Plain e
  termination_by structural v => v
def Toggle.Plain : Toggle → Prop
  | ⟨_, opening, closing⟩ => OneLine opening ∧ Closing.Plain closing
  termination_by structural t => t
def Closing.Plain : Closing → Prop
  | .mark text => OneLine text
  | .node n => Node.Plain n ∧ ∃ c, OneLine (n.render 0 c).1
  termination_by structural closing => closing
def Tone.Plain : Tone → Prop
  | ⟨_, attachments⟩ => plainAttachments attachments
  termination_by structural t => t
def plainParameters : List (String × Value) → Prop
  | [] => True
  | (_, v) :: vs => Value.Plain v ∧ plainParameters vs
  termination_by structural vs => vs
def plainElements : List Element → Prop
  | [] => True
  | e :: es => Element.Plain e ∧ plainElements es
  termination_by structural es => es
def plainAttachments : List Element → Prop
  | [] => True
  | e :: es => (Element.Plain e ∧ ∃ c, OneLine (e.render 0 c).1) ∧ plainAttachments es
  termination_by structural es => es
end

theorem length_renderSiblings : ∀ (es : List Element) (indent : Nat) (c : Counters),
    (renderSiblings es indent c).1.length = es.length
  | [], _, _ => rfl
  | e :: es, indent, c => by
    rw [renderSiblings_cons]
    exact congrArg (· + 1) (length_renderSiblings es indent (e.render indent c).2)

-- The induction is on the tree.  The counts change nothing but the texts of toggles, and a plain toggle is on one line
-- whichever of its marks is shown: what closes it is on one line from some counts, and by induction from all.
mutual
/-- **A plain element on one line** is on one line from any counts. -/
theorem Element.oneLine_render : ∀ (e : Element), e.Plain → ∀ (indent : Nat) (c c' : Counters),
    OneLine (e.render indent c).1 → OneLine (e.render indent c').1
  | .node n, h, indent, c, c', hline => Node.oneLine_render n h indent c c' hline
  | .toggle t, h, _, _, c', _ => Toggle.oneLine_render t h c'
  | .tone t, h, _, _, c', _ => Tone.oneLine_render t h c'
  | .text _, _, _, _, _, hline => hline
  | .comment _, _, _, _, _, hline => hline
theorem Node.oneLine_render : ∀ (n : Node), n.Plain → ∀ (indent : Nat) (c c' : Counters),
    OneLine (n.render indent c).1 → OneLine (n.render indent c').1
  | ⟨r, p, vs, none⟩, ⟨_, hvs⟩, indent, c, c', hline => by
    rw [Node.render_command, Layout.oneLine_join_iff, List.forall_mem_cons] at hline ⊢
    exact ⟨hline.1, oneLine_renderParameters vs hvs indent c c' hline.2⟩
  | ⟨r, p, vs, some children⟩, ⟨_, hvs, hchildren⟩, indent, c, c', hline => by
    rw [Node.render_container, Layout.oneLine_container_iff, length_renderSiblings, List.forall_mem_cons] at hline ⊢
    obtain ⟨hcount, ⟨htag, hvalues⟩, hopening, hsiblings, hclosing⟩ := hline
    exact ⟨hcount, ⟨htag, oneLine_renderParameters vs hvs indent c c' hvalues⟩, hopening,
      oneLine_renderSiblings children hchildren _ _ _ hsiblings, hclosing⟩
theorem Value.oneLine_render : ∀ (v : Value), v.Plain → ∀ (indent : Nat) (c c' : Counters),
    OneLine (v.render indent c).1 → OneLine (v.render indent c').1
  | .leaf _, _, _, _, _, hline => hline
  | .element e, h, indent, c, c', hline => Element.oneLine_render e h indent c c' hline
theorem Toggle.oneLine_render : ∀ (t : Toggle), t.Plain → ∀ c : Counters, OneLine (t.render c).1
  | ⟨id, opening, closing⟩, ⟨hopening, hclosing⟩, c => by
    rw [Toggle.render]
    split
    · exact hopening
    · exact Closing.oneLine_render closing hclosing (c.advance id)
theorem Closing.oneLine_render : ∀ (closing : Closing), closing.Plain → ∀ c : Counters, OneLine (closing.render c).1
  | .mark _, h, _ => h
  | .node n, ⟨hn, c', hline⟩, c => Node.oneLine_render n hn 0 c' c hline
theorem Tone.oneLine_render : ∀ (t : Tone), t.Plain → ∀ c : Counters, OneLine (t.render c).1
  | ⟨s, attachments⟩, h, c => by
    rw [Tone.render_attachments, oneLine_append_iff, Text.oneLine_join_iff]
    exact ⟨s.oneLine_text, oneLine_renderAttachments attachments h c⟩
theorem oneLine_renderParameters : ∀ (vs : List (String × Value)), plainParameters vs →
    ∀ (indent : Nat) (c c' : Counters), (∀ text ∈ (renderParameters vs indent c).1, OneLine text) →
      ∀ text ∈ (renderParameters vs indent c').1, OneLine text
  | [], _, _, _, _, _ => nofun
  | (name, v) :: vs, ⟨hv, hvs⟩, indent, c, c', hlines => by
    rw [renderParameters_cons, List.forall_mem_cons] at hlines ⊢
    exact ⟨Value.oneLine_render v hv indent c c' hlines.1, oneLine_renderParameters vs hvs indent _ _ hlines.2⟩
theorem oneLine_renderSiblings : ∀ (es : List Element), plainElements es → ∀ (indent : Nat) (c c' : Counters),
    (∀ s ∈ (renderSiblings es indent c).1, OneLine s.text) → ∀ s ∈ (renderSiblings es indent c').1, OneLine s.text
  | [], _, _, _, _, _ => nofun
  | e :: es, ⟨he, hes⟩, indent, c, c', hlines => by
    rw [renderSiblings_cons, List.forall_mem_cons] at hlines ⊢
    exact ⟨Element.oneLine_render e he indent c c' hlines.1, oneLine_renderSiblings es hes indent _ _ hlines.2⟩
theorem oneLine_renderAttachments : ∀ (es : List Element), plainAttachments es → ∀ c : Counters,
    ∀ text ∈ (renderAttachments es c).1, OneLine text
  | [], _, _ => nofun
  | e :: es, ⟨⟨he, c', hline⟩, hes⟩, c => by
    rw [renderAttachments_cons, List.forall_mem_cons]
    exact ⟨Element.oneLine_render e he 0 c' c hline, oneLine_renderAttachments es hes _⟩
end

end Partitura
