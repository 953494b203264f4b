import Partitura.Proofs.Node.Effect
/-!
# Proofs.Node.Reachable — whatever a caller gets hold of is valid

One call keeps a node valid (`Call.Effect.valid`), a refused one because nothing changes.  Every element is made in
finitely many steps, so all of them are valid (`Element.Made.valid`), and a run of calls with such elements ends in a
valid node.
-/
namespace Partitura

namespace Node

/-- **A call keeps a node valid**, be it done or refused. -/
theorem valid_after {n : Node} {c : Call} (h : n.Valid) (hc : ∀ e ∈ c.elements, e.Valid) : (n.after c).Valid := by
  rcases n.after_eq_or_effect c with heq | heffect
  · rw [heq]
    exact h
  · exact heffect.valid h hc

theorem valid_afterAll (calls : List Call) {n : Node} (h : n.Valid) (hc : ∀ c ∈ calls, ∀ e ∈ c.elements, e.Valid) :
    (n.afterAll calls).Valid :=
  invariant_afterAll (fun c hmem _ _ hm he => he.valid hm (hc c hmem)) h

end Node

theorem Element.Valid.ofParts {e p : Element} (h : e.Valid) (hp : p ∈ e.parts) : p.Valid := by
  cases e with
  | node n =>
    obtain ⟨-, hvalues, hchildren⟩ := (Node.valid_iff n).1 h
    rcases List.mem_append.1 hp with hp | hp
    · obtain ⟨⟨name, value⟩, hentry, hvalue⟩ := List.mem_filterMap.1 hp
      cases value with
      | leaf leaf => cases hvalue
      | element e =>
        cases hvalue
        exact hvalues _ hentry
    · cases hs : n.children with
      | none => simp [hs] at hp
      | some children =>
        rw [hs] at hp
        exact hchildren children hs p hp
  | tone t => exact ((Tone.valid_iff t).1 h).2 p hp
  | toggle t => cases hp
  | text words => cases hp
  | comment remark => cases hp

theorem Toggle.valid_hairpin {id : Nat} {opening : String} {closing : Option Node} {t : Toggle}
    (hclosing : ∀ n ∈ closing, n.Valid) (h : Toggle.hairpin id opening closing = .ok t) : t.Valid := by
  unfold Toggle.hairpin at h
  cases closing with
  | none =>
    cases h
    trivial
  | some n =>
    dsimp only at h
    split at h
    · rename_i hends
      rw [Bool.and_eq_true] at hends
      cases h
      exact ⟨hends.1, hends.2, hclosing n rfl⟩
    · cases h

theorem Tone.valid_attach {t t' : Tone} {e : Element} (ht : t.Valid) (he : e.Valid) (h : t.attach e = .ok t') :
    t'.Valid := by
  unfold Tone.attach at h
  split at h
  · rename_i hcategory
    cases h
    obtain ⟨hcategories, hvalid⟩ := (Tone.valid_iff t).1 ht
    refine (Tone.valid_iff _).2 ⟨fun a ha => ?_, fun a ha => ?_⟩
    · rcases List.mem_append.1 ha with ha | ha
      · exact hcategories a ha
      · rw [List.mem_singleton.1 ha]
        exact hcategory
    · rcases List.mem_append.1 ha with ha | ha
      · exact hvalid a ha
      · rw [List.mem_singleton.1 ha]
        exact he
  · cases h

/-- **Every element that a caller can get hold of is valid.** -/
theorem Element.Made.valid {e : Element} (h : e.Made) : e.Valid := by
  induction h with
  | text words => trivial
  | comment remark => trivial
  | marks id opening closing => trivial
  | hairpin _ h ihclosing => exact Toggle.valid_hairpin ihclosing h
  | sound s => exact (Tone.valid_iff _).2 ⟨by simp [Tone.ofSound], by simp [Tone.ofSound]⟩
  | @resound t _ s iht => exact (Tone.valid_iff _).2 ((Tone.valid_iff t).1 iht)
  | attach _ _ h iht ihe => exact Tone.valid_attach iht ihe h
  | node hr _ h ihargs => exact valid_of_ofArguments hr ihargs h
  | call _ c _ ihn ihc => exact Node.valid_after ihn ihc
  | part _ hp ihe => exact ihe.ofParts hp

/-- **Every node on every run is valid, to its depths**: built with a rule that declares every name once, and changed by
any calls, done or refused, from elements that a caller can get hold of. -/
theorem Node.valid_of_run {r : Rule} {args : Arguments} {n : Node} {calls : List Call}
    (hr : (r.parameters.map (·.name)).Nodup) (hargs : ∀ e ∈ args.elements, e.Made)
    (hbuilt : Node.ofArguments r args = .ok n) (hcalls : ∀ c ∈ calls, ∀ e ∈ c.elements, e.Made) :
    (n.afterAll calls).Valid :=
  valid_afterAll calls (valid_of_ofArguments hr (fun e he => (hargs e he).valid) hbuilt)
    fun c hc e he => (hcalls c hc e he).valid

namespace Node

/-- An attachment that holds tones and attachments, with an optional parameter before a required one. -/
def phraseRule : Rule :=
  { Rule.container "phrase" "\\phrase" (.ofList [.attachment]) (.ofList [.music, .attachment]) with
    parameters := [⟨"depth", .leaf .signedInt, true⟩, ⟨"mark", .any, false⟩] }

/-- A rest on which a slur opens or closes. -/
def slurredRest : Tone := ⟨⟨.rest, "4", rfl, none, false⟩, [.toggle (.slur 1)]⟩

/-- The rest as the only child, and a hairpin in the required parameter. -/
def phraseArguments : Arguments where
  positional := [.sequence [.tone slurredRest]]
  named := [("mark", .element (.toggle ⟨2, "\\<", .mark hairpinEnd⟩))]

/-- The node of these arguments. -/
def phrase : Node where
  rule := phraseRule
  position := .unset
  parameters := [("mark", .element (.toggle ⟨2, "\\<", .mark hairpinEnd⟩))]
  children := some [.tone slurredRest]

/-- A parameter that was unbound, a child that is refused, the node in itself, and its children twice in reverse. -/
def phraseCalls : List Call :=
  [.setParameter "depth" (.leaf (.signedInt 2)), .append (.comment "refused"), .setPosition .up,
    .append (.node phrase), .repeatChildren 2, .reverse (-1)]

theorem made_phraseArguments : ∀ e ∈ phraseArguments.elements, e.Made := by
  intro e he
  rcases List.mem_cons.1 he with rfl | he
  · exact .attach (.sound ⟨.rest, "4", rfl, none, false⟩) (.marks 1 "(" ")") rfl
  · rw [List.mem_singleton.1 he]
    have hbuilt : Toggle.hairpin 2 "\\<" none = .ok ⟨2, "\\<", .mark hairpinEnd⟩ := rfl
    exact .hairpin (by simp) hbuilt

theorem made_phrase : (Element.node phrase).Made := by
  have hbuilt : Node.ofArguments phraseRule phraseArguments = .ok phrase := rfl
  exact .node (by decide) made_phraseArguments hbuilt

theorem made_phraseCalls : ∀ c ∈ phraseCalls, ∀ e ∈ c.elements, e.Made := by
  intro c hc e he
  simp only [phraseCalls, List.mem_cons, List.not_mem_nil, or_false] at hc
  rcases hc with rfl | rfl | rfl | rfl | rfl | rfl
  · cases he
  · rw [List.mem_singleton.1 he]
    exact .comment "refused"
  · cases he
  · rw [List.mem_singleton.1 he]
    exact made_phrase
  · cases he
  · cases he

theorem valid_of_run_phrase :
    (phraseRule.parameters.map (·.name)).Nodup ∧ Node.ofArguments phraseRule phraseArguments = .ok phrase ∧
      (phrase.afterAll phraseCalls).size = 4 ∧ (phrase.afterAll phraseCalls).Valid := by
  have hr : (phraseRule.parameters.map (·.name)).Nodup := by decide
  have hbuilt : Node.ofArguments phraseRule phraseArguments = .ok phrase := rfl
  exact ⟨hr, hbuilt, rfl, valid_of_run hr made_phraseArguments hbuilt made_phraseCalls⟩

end Node
end Partitura
