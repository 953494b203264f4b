import Partitura.Listing
import Partitura.Proofs.Catalog.Words
import Partitura.Proofs.Rule.Faults
import Partitura.Proofs.Text.Columns
import Partitura.Proofs.Text.Tokens
/-!
# Proofs.Listing — the table of rules can be read

The names and tags of well-formed rules are printed characters of ASCII, so every line of their table has its columns at
the same places and can be cut there (`Row.cut_text`).  The categories come last and are told apart by their labels.  So
a line of the table says what the rule is called, its tag, its shape and its categories, and nothing else
(`Listing.table_readable`).
-/
namespace Partitura

open Text (FitsIn OneLine Printed longest)

/-! ## Texts of categories -/

namespace CategorySet

/-- What the text of a set enumerates. -/
def words (s : CategorySet) : List String := if s.isEmpty then ["nothing"] else s.labels

theorem text_eq (s : CategorySet) : s.text = ", ".intercalate s.words := by
  unfold text words
  split
  · rw [String.intercalate_singleton]
  · rfl

theorem words_ne_nil (s : CategorySet) : s.words ≠ [] := by
  unfold words
  split
  · exact List.cons_ne_nil _ _
  · rename_i hsome
    intro hnone
    have hempty : s = ofList [] := by rw [← s.ofList_toList, List.map_eq_nil_iff.1 hnone]
    exact hsome (hempty ▸ rfl)

theorem printed_words {s : CategorySet} : ∀ word ∈ s.words, Printed word ∧ ',' ∉ word.toList := by
  intro word hword
  unfold words at hword
  split at hword
  · rw [List.mem_singleton.1 hword]
    decide
  · obtain ⟨c, -, rfl⟩ := List.mem_map.1 hword
    cases c <;> decide

theorem eq_empty_of_isEmpty {s : CategorySet} (h : s.isEmpty = true) : s = .empty :=
  congrArg CategorySet.mk (beq_iff_eq.1 h)

/-- No label is the word for none. -/
theorem filter_words (s : CategorySet) : s.words.filter (· != "nothing") = s.labels := by
  unfold words
  split
  · rename_i hempty
    rw [eq_empty_of_isEmpty hempty]
    decide
  · rw [List.filter_eq_self]
    intro label hlabel
    obtain ⟨c, -, rfl⟩ := List.mem_map.1 hlabel
    cases c <;> decide

theorem words_inj {s t : CategorySet} (h : s.words = t.words) : s = t := by
  have hlabels : s.labels = t.labels := by rw [← filter_words, h, filter_words]
  have hread := congrArg ofLabels hlabels
  rw [ofLabels_labels, ofLabels_labels] at hread
  exact Except.ok.inj hread

theorem oneLine_text (s : CategorySet) : OneLine s.text := by
  rw [text_eq, Text.oneLine_intercalate_iff (by decide)]
  exact fun word hword => (printed_words word hword).1.oneLine

/-- **Different sets have different texts**: no comma stands in a label. -/
theorem text_inj {s t : CategorySet} (h : s.text = t.text) : s = t := by
  have hseparated : ∀ s : CategorySet,
      ',' :: ' ' :: s.text.toList = s.words.flatMap fun word => [',', ' '] ++ word.toList := by
    intro s
    obtain ⟨word, words, hwords⟩ := List.exists_cons_of_ne_nil s.words_ne_nil
    rw [text_eq, hwords, Text.toList_enumeration, List.flatMap_cons]
    rfl
  have hsame := hseparated s
  rw [h, hseparated t] at hsame
  have hcomma : ∀ {s : CategorySet}, ∀ word ∈ s.words, ',' ∉ word.toList :=
    fun word hword => (printed_words word hword).2
  exact words_inj (Text.separated_inj hcomma hcomma hsame).symm

end CategorySet

/-! ## Names and tags -/

theorem Rule.printed_name {r : Rule} (h : r.check = .ok ()) : Printed r.name := by
  obtain ⟨c, cs, hname, hc, hcs⟩ := (isElementName_iff r.name).1 (check_eq_ok_iff.1 h).1
  have hinitials : ('_' :: Text.letters).all Text.isPrinted = true := by decide
  have hothers : Text.wordChars.all Text.isPrinted = true := by decide
  rw [Printed, hname, List.forall_mem_cons]
  exact ⟨List.all_eq_true.1 hinitials c hc, fun d hd => List.all_eq_true.1 hothers d (hcs d hd)⟩

theorem Rule.printed_tag {r : Rule} (h : r.check = .ok ()) : Printed r.tag := by
  have htag := (isTag_iff r.tag).1 (check_eq_ok_iff.1 h).2.1
  have halphabet : tagAlphabet.all Text.isPrinted = true := by decide
  exact fun c hc => List.all_eq_true.1 halphabet c (htag c hc)

/-! ## Lines -/

namespace Listing

/-- **What a line of the table says.** -/
structure Row where
  name : String
  tag : String
  shape : String
  categories : String
  deriving DecidableEq

namespace Row

def headings : Row := ⟨"NAME", "TAG", "KIND", "CATEGORIES"⟩

def ofRule (r : Rule) : Row where
  name := r.name
  tag := r.tag
  shape := if r.isContainer then "container" else "command"
  categories := r.categories.text

/-- The line without its end, in a table with columns of these widths. -/
def text (nameWidth tagWidth : Nat) (row : Row) : String :=
  Text.padRight nameWidth row.name ++ gutter ++ Text.padRight tagWidth row.tag ++ gutter ++
    Text.padRight shapeWidth row.shape ++ gutter ++ row.categories

/-- **The line cut at the places of its columns.** -/
def cut (nameWidth tagWidth : Nat) (line : String) : Row where
  name := String.ofList (Text.cell 0 nameWidth line.toList)
  tag := String.ofList (Text.cell (nameWidth + 2) tagWidth line.toList)
  shape := String.ofList (Text.cell (nameWidth + tagWidth + 4) 9 line.toList)
  categories := String.ofList (line.toList.drop (nameWidth + tagWidth + 15))

/-- A row whose texts have room in their columns. -/
structure Fits (nameWidth tagWidth : Nat) (row : Row) : Prop where
  name : FitsIn nameWidth row.name
  tag : FitsIn tagWidth row.tag
  shape : FitsIn shapeWidth row.shape
  categories : OneLine row.categories

variable {nameWidth tagWidth : Nat} {row : Row}

/-- **What is written in a row is read from its line.** -/
theorem cut_text (h : row.Fits nameWidth tagWidth) : cut nameWidth tagWidth (row.text nameWidth tagWidth) = row := by
  obtain ⟨name, tag, shape, categories⟩ := row
  obtain ⟨hname, htag, hshape, -⟩ := h
  dsimp only at hname htag hshape
  have hgutter : gutter.toList.length = 2 := rfl
  have hwidth : shapeWidth = 9 := rfl
  rw [cut]
  generalize hline : (text nameWidth tagWidth ⟨name, tag, shape, categories⟩).toList = line
  simp only [text, String.toList_append, List.append_assoc] at hline
  -- The columns from left to right: each begins where the gap behind the one before it ends.
  have hfirst : line.drop 0 = _ := hline.symm
  have hsecond : line.drop (nameWidth + 2) = _ := Text.drop_column hname hfirst (by rw [hgutter, Nat.zero_add])
  have hthird : line.drop (nameWidth + tagWidth + 4) = _ := Text.drop_column htag hsecond (by rw [hgutter]; omega)
  have hrest : line.drop (nameWidth + tagWidth + 15) = categories.toList :=
    Text.drop_column hshape hthird (by rw [hgutter, hwidth])
  rw [Text.cell_eq hname hfirst, Text.cell_eq htag hsecond, ← hwidth, Text.cell_eq hshape hthird, hrest]
  simp only [String.ofList_toList]

theorem Fits.oneLine_text (h : row.Fits nameWidth tagWidth) : OneLine (row.text nameWidth tagWidth) := by
  have hgutter : OneLine gutter := by decide
  simp only [text, Text.oneLine_append_iff]
  exact ⟨⟨⟨⟨⟨⟨h.name.oneLine_padRight, hgutter⟩, h.tag.oneLine_padRight⟩, hgutter⟩, h.shape.oneLine_padRight⟩,
    hgutter⟩, h.categories⟩

end Row

/-! ## The table -/

theorem table_eq (rules : List Rule) :
    let nameWidth := Text.widest 4 (rules.map (·.name))
    let tagWidth := Text.widest 3 (rules.map (·.tag))
    table rules =
      String.join ((Row.headings :: rules.map Row.ofRule).map fun row => row.text nameWidth tagWidth ++ "\n") := by
  intro nameWidth tagWidth
  rw [table, List.map_cons, List.map_map]
  rfl

/-- The columns are wide enough for the headings and for every rule. -/
theorem fits_of_checked {rules : List Rule} (h : ∀ r ∈ rules, r.check = .ok ()) :
    ∀ row ∈ Row.headings :: rules.map Row.ofRule,
      row.Fits (max 4 (longest (rules.map (·.name)))) (max 3 (longest (rules.map (·.tag)))) := by
  have hshape : ∀ b : Bool, FitsIn shapeWidth (if b then "container" else "command") := by
    intro b
    cases b <;> exact ⟨by decide, by decide⟩
  rw [List.forall_mem_cons, List.forall_mem_map]
  constructor
  · exact {
      name := ⟨Nat.le_max_left _ _, by decide⟩
      tag := ⟨Nat.le_max_left _ _, by decide⟩
      shape := ⟨by decide, by decide⟩
      categories := by decide }
  · intro r hr
    have hname := Text.length_le_longest _ (List.mem_map_of_mem (f := (·.name)) hr)
    have htag := Text.length_le_longest _ (List.mem_map_of_mem (f := (·.tag)) hr)
    exact {
      name := ⟨hname.trans (Nat.le_max_right _ _), Rule.printed_name (h r hr)⟩
      tag := ⟨htag.trans (Nat.le_max_right _ _), Rule.printed_tag (h r hr)⟩
      shape := hshape r.isContainer
      categories := r.categories.oneLine_text }

theorem Row.ofRule_eq_iff {r s : Rule} : ofRule r = ofRule s ↔
    r.name = s.name ∧ r.tag = s.tag ∧ r.isContainer = s.isContainer ∧ r.categories = s.categories := by
  have hshape : ∀ a b : Bool, (if a then "container" else "command") = (if b then "container" else "command") ↔
      a = b := by decide
  have hcategories : r.categories.text = s.categories.text ↔ r.categories = s.categories :=
    ⟨CategorySet.text_inj, congrArg CategorySet.text⟩
  rw [ofRule, ofRule, Row.mk.injEq, hshape, hcategories]

/-- **The listing is a readable table.**  The table of well-formed rules has a line of headings and a line for each
rule, in their order, and no line breaks in one of them.  The columns are as wide as the longest name and the longest
tag; cut at their places, a line gives back what it was written from.  So two rules have one line only if they agree in
name, tag, shape and categories. -/
theorem table_readable {rules : List Rule} (h : ∀ r ∈ rules, r.check = .ok ()) :
    let nameWidth := max 4 (longest (rules.map (·.name)))
    let tagWidth := max 3 (longest (rules.map (·.tag)))
    ∃ lines : List String, table rules = String.join (lines.map (· ++ "\n")) ∧ (∀ line ∈ lines, OneLine line) ∧
      lines.map (Row.cut nameWidth tagWidth) = Row.headings :: rules.map Row.ofRule ∧
      ∀ (i j : Nat) (r s : Rule), rules[i]? = some r → rules[j]? = some s →
        (lines[i + 1]? = lines[j + 1]? ↔
          r.name = s.name ∧ r.tag = s.tag ∧ r.isContainer = s.isContainer ∧ r.categories = s.categories) := by
  intro nameWidth tagWidth
  have hnames : Text.widest 4 (rules.map (·.name)) = nameWidth :=
    Text.widest_eq 4 (List.forall_mem_map.2 fun r hr => Rule.printed_name (h r hr))
  have htags : Text.widest 3 (rules.map (·.tag)) = tagWidth :=
    Text.widest_eq 3 (List.forall_mem_map.2 fun r hr => Rule.printed_tag (h r hr))
  have hread : ∀ row ∈ Row.headings :: rules.map Row.ofRule,
      Row.cut nameWidth tagWidth (row.text nameWidth tagWidth) = row :=
    fun row hrow => Row.cut_text (fits_of_checked h row hrow)
  refine ⟨(Row.headings :: rules.map Row.ofRule).map (Row.text nameWidth tagWidth), ?_, ?_, ?_, ?_⟩
  · rw [table_eq, hnames, htags, List.map_map]
    rfl
  · exact List.forall_mem_map.2 fun row hrow => (fits_of_checked h row hrow).oneLine_text
  · rw [List.map_map]
    exact (List.map_congr_left hread).trans (List.map_id' _)
  · intro i j r s hr hs
    have hline : ∀ {i : Nat} {r : Rule}, rules[i]? = some r →
        ((Row.headings :: rules.map Row.ofRule).map (Row.text nameWidth tagWidth))[i + 1]? =
          some ((Row.ofRule r).text nameWidth tagWidth) := by
      intro i r hr
      rw [List.getElem?_map, List.getElem?_cons_succ, List.getElem?_map, hr]
      rfl
    have hmem : ∀ {i : Nat} {r : Rule}, rules[i]? = some r → Row.ofRule r ∈ Row.headings :: rules.map Row.ofRule :=
      fun hr => List.mem_cons_of_mem _ (List.mem_map_of_mem (List.mem_of_getElem? hr))
    rw [hline hr, hline hs, Option.some.injEq, ← Row.ofRule_eq_iff]
    refine ⟨fun hsame => ?_, congrArg (Row.text nameWidth tagWidth)⟩
    rw [← hread _ (hmem hr), hsame, hread _ (hmem hs)]

/-- A rule without tag and categories, and one with the longest name and tag. -/
theorem table_readable_pair :
    let silent := Rule.command "s" "" .empty
    let verse := Rule.container "verse" "\\verse" (.ofList [.lyrics, .markup]) .empty
    (∀ r ∈ [silent, verse], r.check = .ok ()) ∧
    table [silent, verse] =
      "NAME   TAG     KIND       CATEGORIES\n" ++
      "s              command    nothing\n" ++
      "verse  \\verse  container  markup, lyrics\n" ∧
    ∃ lines : List String, table [silent, verse] = String.join (lines.map (· ++ "\n")) ∧
      (∀ line ∈ lines, OneLine line) ∧
      lines.map (Row.cut 5 6) = [Row.headings, ⟨"s", "", "command", "nothing"⟩,
        ⟨"verse", "\\verse", "container", "markup, lyrics"⟩] ∧
      lines[1]? ≠ lines[2]? := by
  intro silent verse
  have hchecked : ∀ r ∈ [silent, verse], r.check = .ok () := by decide
  have hnames : max 4 (longest ([silent, verse].map (·.name))) = 5 := by decide
  have htags : max 3 (longest ([silent, verse].map (·.tag))) = 6 := by decide
  have hrows : [silent, verse].map Row.ofRule =
      [⟨"s", "", "command", "nothing"⟩, ⟨"verse", "\\verse", "container", "markup, lyrics"⟩] := by decide
  obtain ⟨lines, htable, honeLine, hcut, hsame⟩ := table_readable hchecked
  rw [hnames, htags, hrows] at hcut
  refine ⟨hchecked, by decide +kernel, lines, htable, honeLine, hcut, fun hlines => ?_⟩
  exact absurd ((hsame 0 1 silent verse rfl rfl).1 hlines).1 (by decide)

end Listing
end Partitura
