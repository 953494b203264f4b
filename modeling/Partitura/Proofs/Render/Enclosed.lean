import Partitura.Proofs.Render.Lines
/-!
# Proofs.Render.Enclosed — words in quotes and comments end where they should

Whatever a user writes, no quote and no closing mark in it ends what was put around it.  A reader that knows nothing of
what comes behind finds the end of a literal at its last quote (`quoted_reads_back`), and the end of a comment at its
last mark, for there is no other in it (`comment_ends_once`).
-/
namespace Partitura

open Text (isBlank quoted readQuoted)

/-! ## Words of markup -/

/-- **Reads a literal**: its opening quote, and the text up to the quote that closes it. -/
def readLiteral : List Char → Option (List Char × List Char)
  | '"' :: cs => readQuoted cs
  | _ => none

theorem readLiteral_quoted_append (text : String) (rest : List Char) :
    readLiteral ((quoted text).toList ++ rest) = some (text.toList, rest) := by
  have hread := Text.readQuoted_quotedChars_append text.toList rest
  rw [Text.toList_quoted, Text.quotedChars, List.cons_append, List.cons_append, List.append_assoc]
  exact hread

theorem quoted_inj {a b : String} (h : quoted a = quoted b) : a = b := by
  have hread := readLiteral_quoted_append a []
  rw [h, readLiteral_quoted_append b [], Option.some.injEq, Prod.mk.injEq] at hread
  exact (String.toList_inj.1 hread.1).symm

theorem head?_quoted (text : String) : (quoted text).toList.head? = some '"' := by
  rw [Text.toList_quoted]
  rfl

theorem isBareWord_iff {cs : List Char} :
    isBareWord cs = true ↔ cs ≠ [] ∧ ∀ c ∈ cs, isBlank c = false ∧ isMarkupSpecial c = false := by
  simp [isBareWord]

theorem head?_ne_of_isBareWord {cs : List Char} (h : isBareWord cs = true) : cs.head? ≠ some '"' := by
  intro hhead
  have hquote := ((isBareWord_iff.1 h).2 '"' (List.mem_of_mem_head? hhead)).2
  exact absurd hquote (by decide)

/-- A word is written as it stands or as its literal, and its first character tells which. -/
theorem markupText_cases (words : String) :
    (isBareWord words.toList = true ∧ markupText words = words ∧ words.toList.head? ≠ some '"') ∨
      (isBareWord words.toList = false ∧ markupText words = quoted words) := by
  unfold markupText
  split
  · rename_i hbare
    exact .inl ⟨hbare, rfl, head?_ne_of_isBareWord hbare⟩
  · rename_i hbare
    exact .inr ⟨Bool.eq_false_iff.2 hbare, rfl⟩

theorem markupText_inj {a b : String} (h : markupText a = markupText b) : a = b := by
  rcases markupText_cases a with ⟨-, ha, hhead⟩ | ⟨-, ha⟩
  · rcases markupText_cases b with ⟨-, hb, -⟩ | ⟨-, hb⟩
    · rwa [ha, hb] at h
    · rw [ha, hb] at h
      rw [h] at hhead
      exact absurd (head?_quoted b) hhead
  · rcases markupText_cases b with ⟨-, hb, hhead⟩ | ⟨-, hb⟩
    · rw [ha, hb] at h
      rw [← h] at hhead
      exact absurd (head?_quoted a) hhead
    · rw [ha, hb] at h
      exact quoted_inj h

/-- **Quoted text reads back.**  The reader finds any text behind its opening quote and leaves what follows, and no
literal has a newline.  So a word of markup can be told from what is written for it: that is its literal if the word is
empty or has a blank or a special character in it, and otherwise the bare word, which does not begin with a quote. -/
theorem quoted_reads_back :
    (∀ (text : String) (rest : List Char), readLiteral ((quoted text).toList ++ rest) = some (text.toList, rest)) ∧
    (∀ text, '\n' ∉ (quoted text).toList) ∧
    (∀ words, (markupText words = quoted words ∧ (markupText words).toList.head? = some '"') ∨
      (markupText words = words ∧ (markupText words).toList.head? ≠ some '"' ∧
        ∀ c ∈ (markupText words).toList, isBlank c = false ∧ isMarkupSpecial c = false)) ∧
    (∀ words, markupText words = quoted words ↔
      words = "" ∨ ∃ c ∈ words.toList, isBlank c = true ∨ isMarkupSpecial c = true) ∧
    ∀ a b, markupText a = markupText b ↔ a = b := by
  refine ⟨readLiteral_quoted_append, Text.oneLine_quoted, fun words => ?_, fun words => ?_, fun a b => ?_⟩
  · rcases markupText_cases words with ⟨hbare, hself, hhead⟩ | ⟨-, hquoted⟩
    · rw [hself]
      exact .inr ⟨rfl, hhead, (isBareWord_iff.1 hbare).2⟩
    · rw [hquoted]
      exact .inl ⟨rfl, head?_quoted words⟩
  · have hneeds : isBareWord words.toList = false ↔
        words = "" ∨ ∃ c ∈ words.toList, isBlank c = true ∨ isMarkupSpecial c = true := by
      simp [isBareWord, or_iff_not_imp_left]
    rw [← hneeds]
    rcases markupText_cases words with ⟨hbare, hself, hhead⟩ | ⟨hbare, hquoted⟩
    · have hnot : markupText words ≠ quoted words := by
        intro h
        rw [← hself, h] at hhead
        exact hhead (head?_quoted words)
      exact iff_of_false hnot (ne_false_of_eq_true hbare)
    · exact iff_of_true hquoted hbare
  · exact ⟨markupText_inj, congrArg markupText⟩

/-! ## Comments -/

/-- What is behind the first closing mark. -/
def behindClosing : List Char → Option (List Char)
  | [] => none
  | '%' :: '}' :: rest => some rest
  | _ :: cs => behindClosing cs

/-- **Skips a comment**: its opening mark, and all up to the first closing mark behind it. -/
def skipComment : List Char → Option (List Char)
  | '%' :: '{' :: cs => behindClosing cs
  | _ => none

theorem head?_partClosings (cs : List Char) : (partClosings cs).head? = cs.head? := by
  unfold partClosings
  split <;> rfl

/-- A remark with its closing marks parted has none, and makes none with the blank behind it. -/
theorem behindClosing_partClosings (cs rest : List Char) :
    behindClosing (partClosings cs ++ ' ' :: '%' :: '}' :: rest) = some rest := by
  fun_induction partClosings cs with
  | case1 cs ih => simpa [behindClosing] using ih
  | case2 c cs hparted ih =>
    -- A percent sign that was not parted from a brace has none behind it now: what follows begins as it did.
    have hopen : ∀ rest', c = '%' → partClosings cs ++ ' ' :: '%' :: '}' :: rest = '}' :: rest' → False := by
      intro rest' hc hbrace
      have hhead := congrArg List.head? hbrace
      rw [List.head?_append, head?_partClosings] at hhead
      cases cs with
      | nil => cases hhead
      | cons d cs => exact hparted cs hc (by rw [Option.some.inj hhead])
    rw [List.cons_append, behindClosing]
    · exact ih
    · exact hopen
  | case3 => rfl

/-- No closing mark stands before the first one. -/
theorem suffix_of_behindClosing {cs behind : List Char} (h : '%' :: '}' :: behind <:+ cs) :
    ∃ rest, behindClosing cs = some rest ∧ behind <:+ rest := by
  fun_induction behindClosing cs with
  | case1 => cases List.suffix_nil.1 h
  | case2 rest =>
    -- The reader stops here, at this mark or before it; a brace begins no mark.
    rcases List.suffix_cons_iff.1 h with heq | h
    · cases heq
      exact ⟨_, rfl, List.suffix_rfl⟩
    · rcases List.suffix_cons_iff.1 h with heq | h
      · cases heq
      · exact ⟨_, rfl, ((List.suffix_cons '}' behind).trans (List.suffix_cons '%' _)).trans h⟩
  | case3 c cs hopen ih =>
    rcases List.suffix_cons_iff.1 h with heq | h
    · cases heq
      exact absurd rfl (hopen behind rfl)
    · exact ih h

theorem suffix_of_skipComment {cs behind rest : List Char} (hskip : skipComment cs = some rest)
    (h : '%' :: '}' :: behind <:+ cs) : behind <:+ rest := by
  unfold skipComment at hskip
  split at hskip
  · rename_i cs
    have hinside : '%' :: '}' :: behind <:+ cs := by
      rcases List.suffix_cons_iff.1 h with heq | h
      · cases heq
      · rcases List.suffix_cons_iff.1 h with heq | h
        · cases heq
        · exact h
    obtain ⟨rest', hrest', hbehind⟩ := suffix_of_behindClosing hinside
    rwa [← Option.some.inj (hrest'.symm.trans hskip)]
  · cases hskip

theorem toList_commentText (remark : String) : (commentText remark).toList =
    '%' :: '{' :: (' ' :: partClosings remark.toList ++ [' ']) ++ ['%', '}'] := by
  simp [commentText]

theorem skipComment_commentText_append (remark : String) (rest : List Char) :
    skipComment ((commentText remark).toList ++ rest) = some rest := by
  have hbehind := behindClosing_partClosings (' ' :: remark.toList) rest
  rw [toList_commentText]
  simpa [skipComment, partClosings] using hbehind

/-- **A comment always ends where it should.**  It begins with its opening mark and ends with its closing mark, which
stands nowhere else in it; so a reader that skips to the first closing mark skips the comment and nothing else. -/
theorem comment_ends_once (remark : String) :
    ∃ body, (commentText remark).toList = '%' :: '{' :: body ++ ['%', '}'] ∧
      (∀ before behind, (commentText remark).toList = before ++ '%' :: '}' :: behind ↔
        before = '%' :: '{' :: body ∧ behind = []) ∧
      ∀ rest, skipComment ((commentText remark).toList ++ rest) = some rest := by
  have htext := toList_commentText remark
  refine ⟨_, htext, fun before behind => ?_, skipComment_commentText_append remark⟩
  constructor
  · intro h
    -- The reader comes to this mark at the latest, and it leaves nothing behind the comment.
    have hskip := skipComment_commentText_append remark []
    rw [List.append_nil] at hskip
    have hnothing : behind <:+ [] := suffix_of_skipComment hskip ⟨before, h.symm⟩
    obtain rfl := List.suffix_nil.1 hnothing
    rw [htext] at h
    exact ⟨(List.append_cancel_right h).symm, rfl⟩
  · rintro ⟨rfl, rfl⟩
    exact htext

end Partitura
