import Mathlib.Algebra.Group.Nat.Even
import Mathlib.Logic.Function.Iterate
import Partitura.Render
import Partitura.Proofs.Render.Occurrences
/-!
# Proofs.Render.Parity — of the counts, a rendering sees whether they are even

Two renderings of one tree go the same way as long as the counts they begin with agree modulo 2 on the toggles in it,
those in what closes a hairpin included: a toggle then shows the same, and what is shown is rendered alike.  So their
texts are equal and they count every toggle up by the same number (`Element.render_alike`), with counts that agree again
for what comes next.
-/
namespace Partitura

mutual
/-- **The toggles in an element** by their `id`, also those that are shown only when another one closes. -/
def Element.ids : Element → List Nat
  | .node n => Node.ids n
  | .toggle t => Toggle.ids t
  | .tone t => Tone.ids t
  | .text _ => []
  | .comment _ => []
  termination_by structural e => e
def Node.ids : Node → List Nat
  | ⟨_, _, vs, none⟩ => idsOfValues vs
  | ⟨_, _, vs, some children⟩ => idsOfValues vs ++ idsOfElements children
  termination_by structural n => n
def Value.ids : Value → List Nat
  | .leaf _ => []
  | .element e => Element.ids e
  termination_by structural v => v
def Toggle.ids : Toggle → List Nat
  | ⟨id, _, closing⟩ => id :: Closing.ids closing
  termination_by structural t => t
def Closing.ids : Closing → List Nat
  | .mark _ => []
  | .node n => Node.ids n
  termination_by structural closing => closing
def Tone.ids : Tone → List Nat
  | ⟨_, attachments⟩ => idsOfElements attachments
  termination_by structural t => t
def idsOfValues : List (String × Value) → List Nat
  | [] => []
  | (_, v) :: vs => Value.ids v ++ idsOfValues vs
  termination_by structural vs => vs
def idsOfElements : List Element → List Nat
  | [] => []
  | e :: es => Element.ids e ++ idsOfElements es
  termination_by structural es => es
end

/-- Counts that are even for the same toggles, of some. -/
def Counters.Agree (ids : List Nat) (c c' : Counters) : Prop := ∀ id ∈ ids, c id % 2 = c' id % 2

/-- **Two renderings that went the same way**, from counts `c` and `c'`: what they gave is the same, and every toggle was
counted up by the same number. -/
def Counters.Alike {α : Type} (c c' : Counters) (x x' : α × Counters) : Prop :=
  x.1 = x'.1 ∧ ∃ gained : Nat → Nat, ∀ id, x.2 id = c id + gained id ∧ x'.2 id = c' id + gained id

namespace Counters

variable {ids ids' : List Nat} {c c' : Counters} {α β γ : Type} {x x' : α × Counters} {y y' : β × Counters}

theorem Agree.left (h : Agree (ids ++ ids') c c') : Agree ids c c' := fun id hid => h id (List.mem_append_left _ hid)

theorem Agree.right (h : Agree (ids ++ ids') c c') : Agree ids' c c' := fun id hid => h id (List.mem_append_right _ hid)

theorem Agree.after (h : Agree ids c c') (hx : Alike c c' x x') : Agree ids x.2 x'.2 := by
  obtain ⟨-, gained, hgained⟩ := hx
  intro id hid
  have hbefore := h id hid
  obtain ⟨hleft, hright⟩ := hgained id
  omega

theorem Agree.refl (ids : List Nat) (c : Counters) : Agree ids c c := fun _ _ => rfl

theorem Agree.trans {c'' : Counters} (h : Agree ids c c') (h' : Agree ids c' c'') : Agree ids c c'' :=
  fun id hid => (h id hid).trans (h' id hid)

/-- What counts every toggle up by an even number leaves counts that agree with those before it. -/
theorem Alike.agree_of_even (h : Alike c c x x) (heven : ∀ id ∈ ids, Even (x.2 id - c id)) : Agree ids c x.2 := by
  obtain ⟨-, gained, hgained⟩ := h
  intro id hid
  have hmore := heven id hid
  rw [(hgained id).1, Nat.add_sub_cancel_left, Nat.even_iff] at hmore
  have hcount := (hgained id).1
  omega

theorem alike_still (a : α) (c c' : Counters) : Alike c c' (a, c) (a, c') :=
  ⟨rfl, fun _ => 0, fun _ => ⟨rfl, rfl⟩⟩

theorem alike_advance (id : Nat) (c c' : Counters) : Alike c c' ((), c.advance id) ((), c'.advance id) := by
  refine ⟨rfl, fun i => if i = id then 1 else 0, fun i => ?_⟩
  dsimp only [advance]
  split <;> exact ⟨rfl, rfl⟩

theorem Alike.map (f : α → β) (h : Alike c c' x x') : Alike c c' (f x.1, x.2) (f x'.1, x'.2) :=
  ⟨congrArg f h.1, h.2⟩

/-- **One rendering after another**: the second begins with the counts that the first leaves. -/
theorem Alike.seq (f : α → β → γ) (h : Alike c c' x x') (h' : Alike x.2 x'.2 y y') :
    Alike c c' (f x.1 y.1, y.2) (f x'.1 y'.1, y'.2) := by
  obtain ⟨htext, first, hfirst⟩ := h
  obtain ⟨htext', second, hsecond⟩ := h'
  refine ⟨by rw [htext, htext'], fun id => first id + second id, fun id => ?_⟩
  obtain ⟨hl, hr⟩ := hfirst id
  obtain ⟨hl', hr'⟩ := hsecond id
  dsimp only
  constructor
  · omega
  · omega

end Counters

open Counters (Agree Alike alike_still alike_advance)

mutual
/-- **From counts that agree** on its toggles, an element is rendered alike. -/
theorem Element.render_alike : ∀ (e : Element) (indent : Nat) {c c' : Counters}, Agree e.ids c c' →
    Alike c c' (e.render indent c) (e.render indent c')
  | .node n, indent, _, _, h => Node.render_alike n indent h
  | .toggle t, _, _, _, h => Toggle.render_alike t h
  | .tone t, _, _, _, h => Tone.render_alike t h
  | .text _, _, c, c', _ => alike_still _ c c'
  | .comment _, _, c, c', _ => alike_still _ c c'
theorem Node.render_alike : ∀ (n : Node) (indent : Nat) {c c' : Counters}, Agree n.ids c c' →
    Alike c c' (n.render indent c) (n.render indent c')
  | ⟨r, p, vs, none⟩, indent, c, c', h => (renderParameters_alike vs indent h).map fun values =>
    Layout.join ((p.marker ++ r.tag) :: values)
  | ⟨r, p, vs, some children⟩, indent, c, c', h => by
    have hvalues := renderParameters_alike vs indent h.left
    have hchildren := renderSiblings_alike children (Layout.childIndent indent children.length) (h.right.after hvalues)
    exact hvalues.seq (fun values siblings =>
      Layout.container ((p.marker ++ r.tag) :: values) r.opening r.closing indent siblings) hchildren
theorem Value.render_alike : ∀ (v : Value) (indent : Nat) {c c' : Counters}, Agree v.ids c c' →
    Alike c c' (v.render indent c) (v.render indent c')
  | .leaf _, _, c, c', _ => alike_still _ c c'
  | .element e, indent, _, _, h => Element.render_alike e indent h
theorem Toggle.render_alike : ∀ (t : Toggle) {c c' : Counters}, Agree t.ids c c' →
    Alike c c' (t.render c) (t.render c')
  | ⟨id, opening, closing⟩, c, c', h => by
    -- Its own count decides what is shown, and agrees; what closes begins with one more of it.
    have hsame : c id % 2 = c' id % 2 := h id List.mem_cons_self
    have hclosing : Agree closing.ids c c' := fun i hi => h i (List.mem_cons_of_mem _ hi)
    have hadvance := alike_advance id c c'
    rw [Toggle.render, Toggle.render, ← hsame]
    split
    · exact hadvance.map fun _ => opening
    · exact hadvance.seq (fun _ text => text) (Closing.render_alike closing (hclosing.after hadvance))
theorem Closing.render_alike : ∀ (closing : Closing) {c c' : Counters}, Agree closing.ids c c' →
    Alike c c' (closing.render c) (closing.render c')
  | .mark _, c, c', _ => alike_still _ c c'
  | .node n, _, _, h => Node.render_alike n 0 h
theorem Tone.render_alike : ∀ (t : Tone) {c c' : Counters}, Agree t.ids c c' → Alike c c' (t.render c) (t.render c')
  | ⟨s, attachments⟩, _, _, h => (renderAttachments_alike attachments h).map fun texts => s.text ++ String.join texts
theorem renderParameters_alike : ∀ (vs : List (String × Value)) (indent : Nat) {c c' : Counters},
    Agree (idsOfValues vs) c c' → Alike c c' (renderParameters vs indent c) (renderParameters vs indent c')
  | [], _, c, c', _ => alike_still _ c c'
  | (name, v) :: vs, indent, c, c', h => by
    have hv := Value.render_alike v indent h.left
    exact hv.seq List.cons (renderParameters_alike vs indent (h.right.after hv))
theorem renderSiblings_alike : ∀ (es : List Element) (indent : Nat) {c c' : Counters},
    Agree (idsOfElements es) c c' → Alike c c' (renderSiblings es indent c) (renderSiblings es indent c')
  | [], _, c, c', _ => alike_still _ c c'
  | e :: es, indent, c, c', h => by
    have he := Element.render_alike e indent h.left
    exact he.seq (fun text siblings => ⟨e.isInline, text⟩ :: siblings)
      (renderSiblings_alike es indent (h.right.after he))
theorem renderAttachments_alike : ∀ (es : List Element) {c c' : Counters},
    Agree (idsOfElements es) c c' → Alike c c' (renderAttachments es c) (renderAttachments es c')
  | [], c, c', _ => alike_still _ c c'
  | e :: es, c, c', h => by
    have he := Element.render_alike e 0 h.left
    exact he.seq List.cons (renderAttachments_alike es (h.right.after he))
end

theorem Document.render_alike (d : Document) {c c' : Counters} (h : Agree (idsOfElements d.elements) c c') :
    Alike c c' (d.render c) (d.render c') :=
  (renderSiblings_alike d.elements 0 h).map fun siblings => versionLine d.version ++ Layout.document siblings

/-! ## Rendering again -/

/-- **A rendering that reads nothing of the counts but parities**, and of those only for the toggles `ids`. -/
structure ReadsParity (ids : List Nat) (render : Counters → String × Counters) : Prop where
  /-- From counts that agree, it gives one text, and counts every toggle up by one number. -/
  alike : ∀ c c', Agree ids c c' → Alike c c' (render c) (render c')
  /-- If it counts each of them up by an even number, it gives the same text as often as it is repeated. -/
  again : ∀ c, (∀ id ∈ ids, Even ((render c).2 id - c id)) →
    ∀ times, (render ((fun c => (render c).2)^[times] c)).1 = (render c).1
  /-- Whatever was shown before, with each of them reset it gives the text of a first rendering. -/
  rewound : ∀ c resets, ids ⊆ resets → (render (resets.foldl Counters.reset c)).1 = (render .start).1

namespace Counters

theorem foldl_reset {id : Nat} : ∀ {resets : List Nat} {c : Counters}, (id ∈ resets ∨ c id = 0) →
    resets.foldl reset c id = 0
  | [], _, h => h.resolve_left List.not_mem_nil
  | other :: resets, c, h => by
    rw [List.foldl_cons]
    apply foldl_reset
    by_cases heq : id = other
    · exact .inr (if_pos heq)
    · refine h.imp (fun hmem => (List.mem_cons.1 hmem).resolve_left heq) fun hzero => ?_
      exact (if_neg heq).trans hzero

end Counters

theorem ReadsParity.ofAlike {ids : List Nat} {render : Counters → String × Counters}
    (h : ∀ c c', Agree ids c c' → Alike c c' (render c) (render c')) : ReadsParity ids render where
  alike := h
  again := by
    intro c heven times
    -- Every repetition begins with counts that agree with those at first, for an even number was added each time.
    have honce : Agree ids c (render c).2 := (h c c (.refl ids c)).agree_of_even heven
    have hagree : Agree ids c ((fun c => (render c).2)^[times] c) := by
      induction times with
      | zero => exact .refl ids c
      | succ times ih =>
        rw [Function.iterate_succ_apply']
        exact honce.trans (ih.after (h _ _ ih))
    exact (h _ _ hagree).1.symm
  rewound := by
    intro c resets hall
    have hagree : Agree ids (resets.foldl Counters.reset c) .start := fun id hid => by
      rw [Counters.foldl_reset (.inl (hall hid)), Counters.start]
    exact (h _ _ hagree).1

/-- **Rendering reads nothing of the counts but parities**: of an element at any level, and of a document. -/
theorem render_reads_parity :
    (∀ (e : Element) (indent : Nat), ReadsParity e.ids (e.render indent)) ∧
    (∀ d : Document, ReadsParity (idsOfElements d.elements) d.render) :=
  ⟨fun e indent => .ofAlike fun _ _ h => e.render_alike indent h, fun d => .ofAlike fun _ _ h => d.render_alike h⟩

theorem isDuration_half : isDuration "2".toList = true := rfl

/-- Hairpins that end at a node with a slur in it, which opens where the first of them ends. -/
def Element.hairpins : Element :=
  .tone ⟨⟨.rest, "2", isDuration_half, none, false⟩, [.toggle wedge, .toggle wedge, .toggle wedge, .toggle wedge]⟩
where
  wedge : Toggle := ⟨2, "\\<", .node {
    rule := { Rule.command "f" "\\f" (.ofList [.attachment]) with parameters := [⟨"span", .any, true⟩], inline := true }
    position := .unset
    parameters := [("span", .element (.toggle (.slur 1)))]
    children := none }⟩

theorem render_reads_parity_hairpins :
    let text := "r2\\<\\f (\\<\\f )"
    let shown : Counters := fun id => if id = 2 then 6 else 4
    Agree Element.hairpins.ids .start shown ∧ (Element.hairpins.render 0 shown).1 = text ∧
    (∀ times, (Element.hairpins.render 0 ((fun c => (Element.hairpins.render 0 c).2)^[times] .start)).1 = text) ∧
    (∀ c, (Element.hairpins.render 0 ([1, 2].foldl Counters.reset c)).1 = text) ∧
    ((Document.mk none [.hairpins]).render shown).1 = text ++ "\n" := by
  intro text shown
  have hagree : Agree Element.hairpins.ids .start shown := by
    unfold Agree
    decide
  have hfirst : (Element.hairpins.render 0 .start).1 = text := by decide
  obtain ⟨halike, hagain, hrewound⟩ := render_reads_parity.1 .hairpins 0
  have hdocument := (render_reads_parity.2 ⟨none, [.hairpins]⟩).alike .start shown
  refine ⟨hagree, ?_, fun times => ?_, fun c => ?_, ?_⟩
  · rw [← (halike .start shown hagree).1, hfirst]
  · rw [hagain .start (by decide) times, hfirst]
  · rw [hrewound c [1, 2] (by decide), hfirst]
  · rw [← (hdocument hagree).1]
    rfl

end Partitura
