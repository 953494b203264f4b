import Partitura.Proofs.Render.Occurrences
import Partitura.Proofs.Text.Words
/-!
# Proofs.Render.Words — the layout keeps the words

The words of a node are those of its pieces, in their order (`Node.pieces`): its position and tag, each value and each
child rendered from the counts that the one before it leaves, and its delimiters.  Nothing is glued together, whatever
the number of children and whichever pieces are empty.  Where lines are broken depends on the level and on the inline
flags, and on both in the runs of blanks only.  The attachments of a tone follow each other without a blank, so what the
induction keeps is the text but for its blanks (`Text.gist`), not just its words.
-/
namespace Partitura

/-- **The text but for its blanks.** -/
def Text.gist (text : String) : List Char := condense text.toList

open Text (words condense gist)

namespace Text

theorem gist_append_congr {a a' b b' : String} (ha : gist a = gist a') (hb : gist b = gist b') :
    gist (a ++ b) = gist (a' ++ b') := by
  rw [gist, gist, String.toList_append, String.toList_append]
  exact condense_append_congr ha hb

/-- Texts that follow each other without a blank. -/
theorem gist_join (texts : List String) : gist (String.join texts) = condense (texts.map gist).flatten := by
  induction texts with
  | nil => rfl
  | cons text texts ih =>
    rw [String.join_cons, gist, String.toList_append, List.map_cons, List.flatten_cons]
    exact condense_append_congr (condense_condense text.toList).symm ih

/-- **Texts alike have the same words.** -/
theorem words_eq_of_gist_eq {a b : String} (h : gist a = gist b) : words a.toList = words b.toList := by
  rw [← words_condense a.toList, ← words_condense b.toList]
  exact congrArg words h

end Text

namespace Layout

/-! ## The words of a layout -/

theorem isEmpty_toList (part : String) : part.toList.isEmpty = part.isEmpty := by
  rw [Bool.eq_iff_iff, List.isEmpty_iff, String.toList_eq_nil_iff, String.isEmpty_iff]

theorem toList_join (parts : List String) :
    (join parts).toList = [' '].intercalate ((parts.map String.toList).filter (!·.isEmpty)) := by
  have hkept : (fun cs : List Char => !cs.isEmpty) ∘ String.toList = fun part => !part.isEmpty :=
    funext fun part => congrArg not (isEmpty_toList part)
  rw [join, String.toList_intercalate, List.filter_map, hkept]
  rfl

theorem words_join (parts : List String) : words (join parts).toList = parts.flatMap fun part => words part.toList := by
  rw [toList_join, Text.words_intercalate, Text.flatMap_words_filter, List.flatMap_map]

/-- What stands before a child keeps its words apart from those before. -/
theorem isSeparator_break (indent : Nat) (s : Sibling) (after : Bool) :
    Text.IsSeparator (if after && s.inline then " " else newline indent).toList := by
  split
  · exact Text.isSeparator_space
  · exact Text.isSeparator_newline indent

theorem words_append_block (indent : Nat) : ∀ (after : Bool) (xs : List Char) (siblings : List Sibling),
    words (xs ++ (block indent after siblings).toList) =
      words xs ++ siblings.flatMap fun s => words s.text.toList
  | _, xs, [] => by
    have hempty : "".toList = [] := rfl
    rw [block, hempty, List.append_nil, List.flatMap_nil, List.append_nil]
  | after, xs, s :: rest => by
    rw [block, String.toList_append, String.toList_append, List.append_assoc,
      Text.words_append_separator (isSeparator_break indent s after), words_append_block indent s.inline,
      List.flatMap_cons]

theorem container_many (head : List String) (opening closing : String) (indent : Nat) (s t : Sibling)
    (rest : List Sibling) : container head opening closing indent (s :: t :: rest) =
      join (head ++ [opening]) ++ block (indent + 1) false (s :: t :: rest) ++ newline indent ++ closing := rfl

/-- **The words of a container** are those of its head, its opening, its children and its closing. -/
theorem words_container (head : List String) (opening closing : String) (indent : Nat) (siblings : List Sibling) :
    words (container head opening closing indent siblings).toList =
      (head ++ opening :: (siblings.map Sibling.text ++ [closing])).flatMap fun piece => words piece.toList := by
  match siblings with
  | [] => rw [container, words_join, List.map_nil, List.nil_append]
  | [s] => rw [container, words_join]; rfl
  | s :: t :: rest =>
    rw [container_many, String.toList_append, String.toList_append, String.toList_append, List.append_assoc,
      Text.words_append_separator (Text.isSeparator_newline indent), words_append_block, words_join]
    simp only [List.flatMap_append, List.flatMap_cons, List.flatMap_map, List.flatMap_nil, List.append_assoc,
      List.append_nil, List.map_cons, List.cons_append]

/-! ## The layout but for its blanks -/

/-- The parts of a line but for the blanks in them. -/
def joined (parts : List (List Char)) : List Char := condense ([' '].intercalate (parts.filter (!·.isEmpty)))

/-- The pieces of a container but for the blanks in them, on one line or on several. -/
def contained (head : List (List Char)) (opening closing : List Char) : List (List Char) → List Char
  | [] => joined (head ++ [opening, closing])
  | [child] => joined (head ++ [opening, child, closing])
  | children => condense (joined (head ++ [opening]) ++ children.flatMap ([' '] ++ ·) ++ [' '] ++ closing)

theorem gist_join (parts : List String) : gist (join parts) = joined (parts.map gist) := by
  have hkept : (fun cs : List Char => !cs.isEmpty) ∘ condense = fun cs => !cs.isEmpty :=
    funext fun cs => congrArg not (Text.isEmpty_condense cs)
  have hgist : parts.map gist = (parts.map String.toList).map condense := (List.map_map).symm
  rw [gist, toList_join, joined, hgist, List.filter_map (f := condense), hkept, Text.condense_intercalate]

theorem gist_block (indent : Nat) : ∀ (after : Bool) (siblings : List Sibling),
    gist (block indent after siblings) = condense (((siblings.map Sibling.text).map gist).flatMap ([' '] ++ ·))
  | _, [] => rfl
  | after, s :: rest => by
    rw [block, gist, String.toList_append, String.toList_append, List.map_cons, List.map_cons, List.flatMap_cons]
    refine Text.condense_append_congr (Text.condense_append_congr ?_ ?_) (gist_block indent s.inline rest)
    · exact Text.condense_blanks (isSeparator_break indent s after)
    · exact (Text.condense_condense s.text.toList).symm

/-- **A container but for its blanks** depends on its pieces but for theirs: neither on the level nor on what is
inline. -/
theorem gist_container (head : List String) (opening closing : String) (indent : Nat) (siblings : List Sibling) :
    gist (container head opening closing indent siblings) =
      contained (head.map gist) (gist opening) (gist closing) ((siblings.map Sibling.text).map gist) := by
  match siblings with
  | [] => rw [container, gist_join, List.map_append]; rfl
  | [s] => rw [container, gist_join, List.map_append]; rfl
  | s :: t :: rest =>
    have hhead : gist (join (head ++ [opening])) = joined (head.map gist ++ [gist opening]) := by
      rw [gist_join, List.map_append]
      rfl
    have hclosing : condense (gist closing) = gist closing := Text.condense_condense closing.toList
    rw [container_many, gist, String.toList_append, String.toList_append, String.toList_append]
    refine Text.condense_append_congr (Text.condense_append_congr (Text.condense_append_congr ?_ ?_) ?_) hclosing.symm
    · rw [← hhead]
      exact (Text.condense_condense _).symm
    · exact gist_block (indent + 1) false (s :: t :: rest)
    · exact Text.condense_blanks (Text.isSeparator_newline indent)

end Layout

/-! ## Trees that differ in their inline flags -/

mutual
/-- **The element with no rule inline**: two elements that have it in common differ in the inline flags of their rules
only. -/
def Element.unflagged : Element → Element
  | .node n => .node (Node.unflagged n)
  | .toggle t => .toggle (Toggle.unflagged t)
  | .tone t => .tone (Tone.unflagged t)
  | .text words => .text words
  | .comment remark => .comment remark
  termination_by structural e => e
def Node.unflagged : Node → Node
  | ⟨r, p, vs, none⟩ => ⟨{ r with inline := false }, p, unflaggedValues vs, none⟩
  | ⟨r, p, vs, some children⟩ => ⟨{ r with inline := false }, p, unflaggedValues vs, some (unflaggedElements children)⟩
  termination_by structural n => n
def Value.unflagged : Value → Value
  | .leaf v => .leaf v
  | .element e => .element (Element.unflagged e)
  termination_by structural v => v
def Toggle.unflagged : Toggle → Toggle
  | ⟨id, opening, closing⟩ => ⟨id, opening, Closing.unflagged closing⟩
  termination_by structural t => t
def Closing.unflagged : Closing → Closing
  | .mark text => .mark text
  | .node n => .node (Node.unflagged n)
  termination_by structural closing => closing
def Tone.unflagged : Tone → Tone
  | ⟨sound, attachments⟩ => ⟨sound, unflaggedElements attachments⟩
  termination_by structural t => t
def unflaggedValues : List (String × Value) → List (String × Value)
  | [] => []
  | (name, v) :: vs => (name, Value.unflagged v) :: unflaggedValues vs
  termination_by structural vs => vs
def unflaggedElements : List Element → List Element
  | [] => []
  | e :: es => Element.unflagged e :: unflaggedElements es
  termination_by structural es => es
end

mutual
/-- **The level and the inline flags** change an element in its blanks only, and no count. -/
theorem Element.render_unflagged : ∀ (e : Element) (i j : Nat) (c : Counters),
    gist (e.render i c).1 = gist (e.unflagged.render j c).1 ∧ (e.render i c).2 = (e.unflagged.render j c).2
  | .node n, i, j, c => Node.render_unflagged n i j c
  | .toggle t, _, _, c => Toggle.render_unflagged t c
  | .tone t, _, _, c => Tone.render_unflagged t c
  | .text _, _, _, _ => ⟨rfl, rfl⟩
  | .comment _, _, _, _ => ⟨rfl, rfl⟩
theorem Node.render_unflagged : ∀ (n : Node) (i j : Nat) (c : Counters),
    gist (n.render i c).1 = gist (n.unflagged.render j c).1 ∧ (n.render i c).2 = (n.unflagged.render j c).2
  | ⟨r, p, vs, none⟩, i, j, c => by
    obtain ⟨hvs, hc⟩ := renderParameters_unflagged vs i j c
    rw [Node.unflagged, Node.render_command, Node.render_command]
    refine ⟨?_, hc⟩
    rw [Layout.gist_join, Layout.gist_join, List.map_cons, List.map_cons, hvs]
  | ⟨r, p, vs, some children⟩, i, j, c => by
    obtain ⟨hvs, hc⟩ := renderParameters_unflagged vs i j c
    rw [Node.unflagged, Node.render_container, Node.render_container]
    dsimp only
    obtain ⟨hchildren, hc'⟩ := renderSiblings_unflagged children (Layout.childIndent i children.length)
      (Layout.childIndent j (unflaggedElements children).length) (renderParameters vs i c).2
    rw [← hc]
    refine ⟨?_, hc'⟩
    rw [Layout.gist_container, Layout.gist_container, List.map_cons, List.map_cons, hvs, hchildren]
theorem Value.render_unflagged : ∀ (v : Value) (i j : Nat) (c : Counters),
    gist (v.render i c).1 = gist (v.unflagged.render j c).1 ∧ (v.render i c).2 = (v.unflagged.render j c).2
  | .leaf _, _, _, _ => ⟨rfl, rfl⟩
  | .element e, i, j, c => Element.render_unflagged e i j c
theorem Toggle.render_unflagged : ∀ (t : Toggle) (c : Counters),
    gist (t.render c).1 = gist (t.unflagged.render c).1 ∧ (t.render c).2 = (t.unflagged.render c).2
  | ⟨id, opening, closing⟩, c => by
    rw [Toggle.unflagged, Toggle.render, Toggle.render]
    split
    · exact ⟨rfl, rfl⟩
    · exact Closing.render_unflagged closing (c.advance id)
theorem Closing.render_unflagged : ∀ (closing : Closing) (c : Counters),
    gist (closing.render c).1 = gist (closing.unflagged.render c).1 ∧
      (closing.render c).2 = (closing.unflagged.render c).2
  | .mark _, _ => ⟨rfl, rfl⟩
  | .node n, c => Node.render_unflagged n 0 0 c
theorem Tone.render_unflagged : ∀ (t : Tone) (c : Counters),
    gist (t.render c).1 = gist (t.unflagged.render c).1 ∧ (t.render c).2 = (t.unflagged.render c).2
  | ⟨s, attachments⟩, c => by
    obtain ⟨htexts, hc⟩ := renderAttachments_unflagged attachments c
    rw [Tone.unflagged, Tone.render_attachments, Tone.render_attachments]
    refine ⟨Text.gist_append_congr rfl ?_, hc⟩
    rw [Text.gist_join, Text.gist_join, htexts]
theorem renderParameters_unflagged : ∀ (vs : List (String × Value)) (i j : Nat) (c : Counters),
    (renderParameters vs i c).1.map gist = (renderParameters (unflaggedValues vs) j c).1.map gist ∧
      (renderParameters vs i c).2 = (renderParameters (unflaggedValues vs) j c).2
  | [], _, _, _ => ⟨rfl, rfl⟩
  | (name, v) :: vs, i, j, c => by
    obtain ⟨hv, hc⟩ := Value.render_unflagged v i j c
    obtain ⟨hvs, hc'⟩ := renderParameters_unflagged vs i j (v.render i c).2
    rw [unflaggedValues, renderParameters_cons, renderParameters_cons]
    dsimp only
    rw [List.map_cons, List.map_cons, hv, ← hc, hvs]
    exact ⟨rfl, hc'⟩
theorem renderSiblings_unflagged : ∀ (es : List Element) (i j : Nat) (c : Counters),
    ((renderSiblings es i c).1.map Layout.Sibling.text).map gist =
        ((renderSiblings (unflaggedElements es) j c).1.map Layout.Sibling.text).map gist ∧
      (renderSiblings es i c).2 = (renderSiblings (unflaggedElements es) j c).2
  | [], _, _, _ => ⟨rfl, rfl⟩
  | e :: es, i, j, c => by
    obtain ⟨he, hc⟩ := Element.render_unflagged e i j c
    obtain ⟨hes, hc'⟩ := renderSiblings_unflagged es i j (e.render i c).2
    rw [unflaggedElements, renderSiblings_cons, renderSiblings_cons]
    dsimp only
    rw [List.map_cons, List.map_cons, List.map_cons, List.map_cons, he, ← hc, hes]
    exact ⟨rfl, hc'⟩
theorem renderAttachments_unflagged : ∀ (es : List Element) (c : Counters),
    (renderAttachments es c).1.map gist = (renderAttachments (unflaggedElements es) c).1.map gist ∧
      (renderAttachments es c).2 = (renderAttachments (unflaggedElements es) c).2
  | [], _ => ⟨rfl, rfl⟩
  | e :: es, c => by
    obtain ⟨he, hc⟩ := Element.render_unflagged e 0 0 c
    obtain ⟨hes, hc'⟩ := renderAttachments_unflagged es (e.render 0 c).2
    rw [unflaggedElements, renderAttachments_cons, renderAttachments_cons]
    dsimp only
    rw [List.map_cons, List.map_cons, he, ← hc, hes]
    exact ⟨rfl, hc'⟩
end

/-! ## Another level -/

section
variable (i j : Nat) (c : Counters)

/-- The level changes no word. -/
theorem Element.render_words (e : Element) : words (e.render i c).1.toList = words (e.render j c).1.toList :=
  Text.words_eq_of_gist_eq ((e.render_unflagged i 0 c).1.trans (e.render_unflagged j 0 c).1.symm)

theorem Value.render_words (v : Value) : words (v.render i c).1.toList = words (v.render j c).1.toList :=
  Text.words_eq_of_gist_eq ((v.render_unflagged i 0 c).1.trans (v.render_unflagged j 0 c).1.symm)

/-- The level changes no count. -/
theorem Element.render_counts (e : Element) : (e.render i c).2 = (e.render j c).2 :=
  (e.render_unflagged i 0 c).2.trans (e.render_unflagged j 0 c).2.symm

theorem Value.render_counts (v : Value) : (v.render i c).2 = (v.render j c).2 :=
  (v.render_unflagged i 0 c).2.trans (v.render_unflagged j 0 c).2.symm

theorem renderParameters_counts (vs : List (String × Value)) :
    (renderParameters vs i c).2 = (renderParameters vs j c).2 :=
  (renderParameters_unflagged vs i 0 c).2.trans (renderParameters_unflagged vs j 0 c).2.symm

theorem renderSiblings_counts (es : List Element) : (renderSiblings es i c).2 = (renderSiblings es j c).2 :=
  (renderSiblings_unflagged es i 0 c).2.trans (renderSiblings_unflagged es j 0 c).2.symm

end

/-! ## The words of a node -/

/-- **Several renderings in turn**, each from the counts that the one before it leaves: their texts, and the counts
after the last. -/
def inTurn {α : Type} (render : α → Counters → String × Counters) : List α → Counters → List String × Counters
  | [], c => ([], c)
  | a :: as, c =>
    let first := render a c
    let rest := inTurn render as first.2
    (first.1 :: rest.1, rest.2)

/-- Renderings of the same words that leave the same counts do so in turn. -/
theorem inTurn_congr {α : Type} {render render' : α → Counters → String × Counters}
    (h : ∀ a c, words (render a c).1.toList = words (render' a c).1.toList ∧ (render a c).2 = (render' a c).2) :
    ∀ (as : List α) (c : Counters),
      ((inTurn render as c).1.flatMap fun text => words text.toList) =
          ((inTurn render' as c).1.flatMap fun text => words text.toList) ∧
        (inTurn render as c).2 = (inTurn render' as c).2
  | [], _ => ⟨rfl, rfl⟩
  | a :: as, c => by
    obtain ⟨hwords, hcounts⟩ := h a c
    obtain ⟨hrest, hrest'⟩ := inTurn_congr h as (render a c).2
    dsimp only [inTurn]
    rw [List.flatMap_cons, List.flatMap_cons, hwords, hrest, hrest', hcounts]
    exact ⟨rfl, rfl⟩

theorem renderParameters_eq (indent : Nat) : ∀ (vs : List (String × Value)) (c : Counters),
    renderParameters vs indent c = inTurn (fun v => v.2.render indent) vs c
  | [], _ => rfl
  | (name, v) :: vs, c => by
    rw [renderParameters_cons, renderParameters_eq indent vs]
    rfl

theorem renderSiblings_eq (indent : Nat) : ∀ (es : List Element) (c : Counters),
    ((renderSiblings es indent c).1.map Layout.Sibling.text, (renderSiblings es indent c).2) =
      inTurn (fun e => e.render indent) es c
  | [], _ => rfl
  | e :: es, c => by
    rw [renderSiblings_cons, inTurn, ← renderSiblings_eq indent es]
    rfl

/-- **The pieces of a node**: its position and tag, the values of its parameters, and for a container its opening, its
children and its closing.  Values and children are rendered in turn, the values at one level, the children at
another. -/
def Node.pieces (n : Node) (outer inner : Nat) (c : Counters) : List String :=
  let values := inTurn (fun v => v.2.render outer) n.parameters c
  let head := (n.position.marker ++ n.rule.tag) :: values.1
  match n.children with
  | none => head
  | some children =>
    head ++ n.rule.opening :: ((inTurn (fun e => e.render inner) children values.2).1 ++ [n.rule.closing])

theorem Node.words_render : ∀ (n : Node) (indent : Nat) (c : Counters), ∃ inner,
    words (n.render indent c).1.toList = (n.pieces indent inner c).flatMap fun piece => words piece.toList
  | ⟨_, _, vs, none⟩, indent, c => ⟨indent, by
    rw [Node.render_command, Layout.words_join, renderParameters_eq]
    rfl⟩
  | ⟨_, _, vs, some children⟩, indent, c => ⟨Layout.childIndent indent children.length, by
    rw [Node.render_container, Layout.words_container, renderParameters_eq]
    dsimp only [pieces]
    rw [← renderSiblings_eq]⟩

/-- The words of the pieces are the same at every level. -/
theorem Node.words_pieces (n : Node) (outer inner outer' inner' : Nat) (c : Counters) :
    ((n.pieces outer inner c).flatMap fun piece => words piece.toList) =
      (n.pieces outer' inner' c).flatMap fun piece => words piece.toList := by
  have hvalue (v : String × Value) (c : Counters) := And.intro (v.2.render_words outer outer' c)
    (v.2.render_counts outer outer' c)
  have hchild (e : Element) (c : Counters) := And.intro (e.render_words inner inner' c)
    (e.render_counts inner inner' c)
  obtain ⟨hvalues, hcounts⟩ := inTurn_congr hvalue n.parameters c
  unfold pieces
  cases n.children with
  | none =>
    dsimp only
    rw [List.flatMap_cons, List.flatMap_cons, hvalues]
  | some children =>
    have hchildren := (inTurn_congr hchild children (inTurn (fun v => v.2.render outer') n.parameters c).2).1
    dsimp only
    simp only [List.flatMap_append, List.flatMap_cons, hvalues, hcounts, hchildren]

/-- **The layout keeps the words.**  The words of a node are those of its pieces in their order, at whatever levels its
values and its children are rendered; and elements that differ in the inline flags of their rules at most have the same
words from the same counts, each at any level. -/
theorem layout_keeps_words :
    (∀ (n : Node) (indent outer inner : Nat) (c : Counters),
      words (n.render indent c).1.toList = (n.pieces outer inner c).flatMap fun piece => words piece.toList) ∧
    ∀ e e' : Element, e.unflagged = e'.unflagged → ∀ (indent indent' : Nat) (c : Counters),
      words (e.render indent c).1.toList = words (e'.render indent' c).1.toList := by
  refine ⟨fun n indent outer inner c => ?_, fun e e' h indent indent' c => Text.words_eq_of_gist_eq ?_⟩
  · obtain ⟨level, hwords⟩ := n.words_render indent c
    exact hwords.trans (n.words_pieces indent level outer inner c)
  · calc gist (e.render indent c).1
        = gist (e.unflagged.render 0 c).1 := (e.render_unflagged indent 0 c).1
      _ = gist (e'.unflagged.render 0 c).1 := by rw [h]
      _ = gist (e'.render indent' c).1 := (e'.render_unflagged indent' 0 c).1.symm

/-- A text and a container of its own as values, and three children, on lines of their own unless they are inline.  A
slur opens in the container and closes behind the notes. -/
def slurredPhrase (inline : Bool) : Node where
  rule := Rule.container "phrase" "\\phrase" (.ofList [.music, .attachment]) (.single .music)
  position := .up
  parameters := [("title", .leaf (.string "two words")), ("pickup", .element (.node (pickup [slur, note "c"])))]
  children := some [note "d", note "e", slur]
where
  slur : Element := .toggle (.slur 0)
  note (tag : String) : Element :=
    .node ⟨{ Rule.command "note" tag (.single .music) with inline := inline }, .unset, [], none⟩
  pickup (es : List Element) : Node :=
    ⟨Rule.container "pickup" "" (.single .music) (.single .music), .unset, [], some es⟩

theorem layout_keeps_words_slurred :
    let n := slurredPhrase true
    let apart := slurredPhrase false
    n.pieces 0 0 .start =
      ["^\\phrase", "#\"two words\"", "\x7b\n  ( c\n\x7d", "\x7b", "d", "e", ")", "\x7d"] ∧
    (n.render 0 .start).1 = "^\\phrase #\"two words\" \x7b\n  ( c\n\x7d \x7b\n  d e )\n\x7d" ∧
    words (n.render 0 .start).1.toList = (n.pieces 0 0 .start).flatMap (fun piece => words piece.toList) ∧
    (Element.node n).unflagged = (Element.node apart).unflagged ∧
    (apart.render 1 .start).1 =
      "^\\phrase #\"two words\" \x7b\n    (\n    c\n  \x7d \x7b\n    d\n    e\n    )\n  \x7d" ∧
    words (n.render 0 .start).1.toList = words (apart.render 1 .start).1.toList := by
  intro n apart
  obtain ⟨hpieces, hflags⟩ := layout_keeps_words
  have hunflagged : (Element.node n).unflagged = (Element.node apart).unflagged := rfl
  exact ⟨by decide, by decide, hpieces n 0 0 0 .start, hunflagged, by decide,
    hflags (.node n) (.node apart) hunflagged 0 1 .start⟩

end Partitura
