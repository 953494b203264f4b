import Partitura.Render
import Partitura.Proofs.Render.Repetition
/-!
# Proofs.Render.Siblings — elements that follow each other

The children of a container stand each behind a break, the elements of a document each but the first, with the end of
the last line behind them.  Both breaks are a space between two inline elements and a new line otherwise, so at the
outermost level the two layouts have one text between their ends (`Layout.body`).  That text can be cut between any two
elements: what is before them is laid out without regard to what is behind (`Document.siblings_alike`).
-/
namespace Partitura
namespace Layout

/-- **The elements of a document** up to the end of the last line. -/
def body : List Sibling → String
  | [] => ""
  | s :: rest => s.text ++ block 0 s.inline rest

/-- What stands between two elements of a document. -/
def divider (left right : Bool) : String := if left && right then " " else "\n"

theorem break_outermost (left right : Bool) : (if left && right then " " else newline 0) = divider left right := by
  cases left <;> cases right <;> rfl

theorem block_outermost (s : Sibling) (rest : List Sibling) :
    block 0 false (s :: rest) = "\n" ++ body (s :: rest) := by
  rw [block, break_outermost, String.append_assoc]
  rfl

/-- Behind an element that was inline or not, the two layouts break alike. -/
theorem following_eq : ∀ (after : Bool) (siblings : List Sibling),
    following after siblings = block 0 after siblings ++ "\n"
  | _, [] => rfl
  | after, s :: rest => by
    rw [following, block, following_eq s.inline rest, break_outermost]
    simp only [String.append_assoc, divider]

theorem document_eq (s : Sibling) (rest : List Sibling) : document (s :: rest) = body (s :: rest) ++ "\n" := by
  rw [document, body, following_eq, String.append_assoc]

/-! ## Cutting -/

/-- What is behind an element depends on what is before only by whether that element is inline. -/
theorem block_cut (indent : Nat) (s : Sibling) (behind : List Sibling) : ∀ (after : Bool) (before : List Sibling),
    block indent after (before ++ s :: behind) = block indent after (before ++ [s]) ++ block indent s.inline behind
  | after, [] => by
    rw [List.nil_append, List.nil_append, block, block, block, String.append_empty]
  | after, x :: before => by
    rw [List.cons_append, List.cons_append, block, block, block_cut indent s behind x.inline before]
    simp only [String.append_assoc]

theorem body_cut (before : List Sibling) (s t : Sibling) (behind : List Sibling) :
    body (before ++ s :: t :: behind) = body (before ++ [s]) ++ divider s.inline t.inline ++ body (t :: behind) := by
  have hblock : block 0 s.inline (t :: behind) = divider s.inline t.inline ++ body (t :: behind) := by
    rw [block, break_outermost, String.append_assoc]
    rfl
  cases before with
  | nil => rw [List.nil_append, List.nil_append, body, body, hblock, block, String.append_empty, String.append_assoc]
  | cons x before =>
    rw [List.cons_append, List.cons_append, body, body, block_cut, hblock]
    simp only [String.append_assoc]

end Layout

/-! ## Rendering -/

/-- **The children of a container**, each behind its break, and the counts after them. -/
def renderBlock (es : List Element) (indent : Nat) (c : Counters) : String × Counters :=
  let siblings := renderSiblings es indent c
  (Layout.block indent false siblings.1, siblings.2)

theorem Node.render_block (r : Rule) (p : Position) (vs : List (String × Value)) (e e' : Element) (es : List Element)
    (indent : Nat) (c : Counters) :
    Node.render ⟨r, p, vs, some (e :: e' :: es)⟩ indent c =
      let values := renderParameters vs indent c
      let children := renderBlock (e :: e' :: es) (indent + 1) values.2
      (Layout.join ((p.marker ++ r.tag) :: values.1 ++ [r.opening]) ++ children.1 ++ Layout.newline indent ++ r.closing,
        children.2) := by
  rw [Node.render_container]
  rfl

/-- The elements of a document up to the end of the last line, and the counts after them. -/
def renderBody (es : List Element) (c : Counters) : String × Counters :=
  let siblings := renderSiblings es 0 c
  (Layout.body siblings.1, siblings.2)

theorem renderBlock_outermost (e : Element) (es : List Element) (c : Counters) :
    renderBlock (e :: es) 0 c = ("\n" ++ (renderBody (e :: es) c).1, (renderBody (e :: es) c).2) := by
  rw [renderBlock, renderBody, renderSiblings_cons]
  dsimp only
  rw [Layout.block_outermost]

theorem renderBody_cut (before : List Element) (last first : Element) (behind : List Element) (c : Counters) :
    renderBody (before ++ last :: first :: behind) c =
      let left := renderBody (before ++ [last]) c
      let right := renderBody (first :: behind) left.2
      (left.1 ++ Layout.divider last.isInline first.isInline ++ right.1, right.2) := by
  simp only [renderBody, renderSiblings_append before, renderSiblings, Layout.body_cut]

namespace Document

theorem render_eq (version : Option String) {es : List Element} (hes : es ≠ []) (c : Counters) :
    Document.render ⟨version, es⟩ c =
      (versionLine version ++ (renderBody es c).1 ++ "\n", (renderBody es c).2) := by
  obtain ⟨e, es, rfl⟩ := List.exists_cons_of_ne_nil hes
  rw [Document.render, renderBody, renderSiblings_cons]
  dsimp only
  rw [Layout.document_eq, String.append_assoc]

theorem render_unversioned {es : List Element} (hes : es ≠ []) (c : Counters) :
    Document.render ⟨none, es⟩ c = ((renderBody es c).1 ++ "\n", (renderBody es c).2) := by
  rw [render_eq none hes, versionLine, String.empty_append]

/-- **Documents and containers lay out siblings alike.**  A container with several children writes them as a block one
level deeper.  As a block on the outermost level, the elements of a document are what the document is without its
version line, but for a newline that is before them there and behind them here; the counts are left alike.  A document
that goes on with further elements is the one before them up to the end of its last line, a space between two inline
elements or a newline, and the document of those behind, from the counts that are left. -/
theorem siblings_alike (c : Counters) :
    (∀ (r : Rule) (p : Position) (vs : List (String × Value)) (e e' : Element) (es : List Element) (indent : Nat),
      let values := renderParameters vs indent c
      let children := renderBlock (e :: e' :: es) (indent + 1) values.2
      Node.render ⟨r, p, vs, some (e :: e' :: es)⟩ indent c =
        (Layout.join ((p.marker ++ r.tag) :: values.1 ++ [r.opening]) ++ children.1 ++ Layout.newline indent ++ r.closing,
          children.2)) ∧
    (∀ (e : Element) (es : List Element), ∃ text : String,
      let children := renderBlock (e :: es) 0 c
      children.1 = "\n" ++ text ∧
      Document.render ⟨none, e :: es⟩ c = (text ++ "\n", children.2) ∧
      ∀ version, Document.render ⟨some version, e :: es⟩ c =
        ("\\version " ++ Text.quoted version ++ "\n" ++ text ++ "\n", children.2)) ∧
    ∀ (version : Option String) (before : List Element) (last first : Element) (behind : List Element),
      let left := Document.render ⟨version, before ++ [last]⟩ c
      let right := Document.render ⟨none, first :: behind⟩ left.2
      ∃ text : String, left.1 = text ++ "\n" ∧
        Document.render ⟨version, before ++ last :: first :: behind⟩ c =
          (text ++ (if last.isInline && first.isInline then " " else "\n") ++ right.1, right.2) := by
  refine ⟨fun r p vs e e' es indent => Node.render_block r p vs e e' es indent c,
    fun e es => ⟨(renderBody (e :: es) c).1, ?_, ?_, fun version => ?_⟩, ?_⟩
  · rw [renderBlock_outermost]
  · rw [renderBlock_outermost, render_unversioned (List.cons_ne_nil e es)]
  · rw [renderBlock_outermost, render_eq _ (List.cons_ne_nil e es), versionLine]
  · intro version before last first behind left right
    have hne : ∀ es : List Element, before ++ last :: es ≠ [] := fun es =>
      List.append_ne_nil_of_right_ne_nil before (List.cons_ne_nil last es)
    have hleft : left = (versionLine version ++ (renderBody (before ++ [last]) c).1 ++ "\n",
        (renderBody (before ++ [last]) c).2) := render_eq version (hne []) c
    have hright : right = ((renderBody (first :: behind) left.2).1 ++ "\n", (renderBody (first :: behind) left.2).2) :=
      render_unversioned (List.cons_ne_nil first behind) left.2
    refine ⟨versionLine version ++ (renderBody (before ++ [last]) c).1, by rw [hleft], ?_⟩
    rw [render_eq version (hne _), renderBody_cut, hright, hleft]
    simp only [String.append_assoc, Layout.divider]

example : (Document.render ⟨none, [.text "a", .text "b", .comment "c", .text "d"]⟩ .start).1 =
    "a b\n%\x7b c %\x7d\nd\n" := by
  decide

end Document
end Partitura
