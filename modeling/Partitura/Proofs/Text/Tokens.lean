import Partitura.Text
/-!
# Proofs.Text.Tokens — where a token ends

A run of characters of one kind ends before whatever is not of it (`run_append_inj`), so a word without blanks and
closing parentheses ends where one of them, or nothing, follows.  A text in quotes ends at the first quote that no
backslash stands before: a reader that knows nothing of what comes behind finds the text and leaves the rest
(`readQuoted_quotedChars_append`).  So two texts that begin with such tokens are equal only if the tokens are, and what
is behind them.
-/
namespace Partitura
namespace Text

/-- **A run of a kind of characters may end before this text.** -/
def Stops (kind : Char → Bool) (cs : List Char) : Prop := ∀ c ∈ cs.head?, kind c = false

theorem stops_nil {kind : Char → Bool} : Stops kind [] := nofun

theorem stops_cons {kind : Char → Bool} {c : Char} {cs : List Char} (h : kind c = false) : Stops kind (c :: cs) := by
  intro c' hc'
  rw [List.head?_cons, Option.mem_some_iff] at hc'
  rwa [← hc']

theorem stops_append {kind : Char → Bool} {xs cs : List Char} (hxs : ∀ c ∈ xs, kind c = false) (h : Stops kind cs) :
    Stops kind (xs ++ cs) := by
  cases xs with
  | nil => exact h
  | cons c xs => exact stops_cons (hxs c List.mem_cons_self)

/-- **Two runs of a kind** that are followed by something else are told apart from what follows. -/
theorem run_append_inj {kind : Char → Bool} : ∀ {w w' s s' : List Char}, (∀ c ∈ w, kind c = true) →
    (∀ c ∈ w', kind c = true) → Stops kind s → Stops kind s' → w ++ s = w' ++ s' → w = w' ∧ s = s'
  | [], [], _, _, _, _, _, _, h => ⟨rfl, h⟩
  | [], c :: w', s, s', _, hw', hs, _, h => by
    rw [List.nil_append, List.cons_append] at h
    have hstop : kind c = false := hs c (by rw [h]; rfl)
    rw [hw' c List.mem_cons_self] at hstop
    cases hstop
  | c :: w, [], s, s', hw, _, _, hs', h => by
    rw [List.nil_append, List.cons_append] at h
    have hstop : kind c = false := hs' c (by rw [← h]; rfl)
    rw [hw c List.mem_cons_self] at hstop
    cases hstop
  | c :: w, c' :: w', s, s', hw, hw', hs, hs', h => by
    rw [List.cons_append, List.cons_append, List.cons.injEq] at h
    rw [List.forall_mem_cons] at hw hw'
    obtain ⟨rfl, rfl⟩ := run_append_inj hw.2 hw'.2 hs hs' h.2
    exact ⟨by rw [h.1], rfl⟩

/-! ## Words -/

/-- A character behind which a word is at an end. -/
def isDelimiter (c : Char) : Bool := c == ' ' || c == ')'

/-- **A word may end before this text.** -/
def Delimited (cs : List Char) : Prop := ∀ c ∈ cs.head?, isDelimiter c = true

@[simp] theorem delimited_nil : Delimited [] := nofun

@[simp] theorem delimited_cons {c : Char} {cs : List Char} : Delimited (c :: cs) ↔ isDelimiter c = true := by
  simp [Delimited]

theorem Delimited.stops {cs : List Char} (h : Delimited cs) : Stops (fun c => !isDelimiter c) cs :=
  fun c hc => congrArg not (h c hc)

theorem word_append_inj {w w' s s' : List Char} (hw : ∀ c ∈ w, isDelimiter c = false)
    (hw' : ∀ c ∈ w', isDelimiter c = false) (hs : Delimited s) (hs' : Delimited s') (h : w ++ s = w' ++ s') :
    w = w' ∧ s = s' :=
  run_append_inj (fun c hc => congrArg not (hw c hc)) (fun c hc => congrArg not (hw' c hc)) hs.stops hs'.stops h

/-- An enumeration is its first word, and the others behind a separator each. -/
theorem toList_enumeration (sep word : String) (words : List String) :
    (sep.intercalate (word :: words)).toList = word.toList ++ words.flatMap fun w => sep.toList ++ w.toList := by
  induction words generalizing word with
  | nil => simp
  | cons next words ih =>
    rw [String.intercalate_cons_cons, String.toList_append, String.toList_append, ih next, List.flatMap_cons]
    simp

theorem toList_intercalate_cons (word : String) (words : List String) :
    (" ".intercalate (word :: words)).toList = word.toList ++ words.flatMap fun w => ' ' :: w.toList :=
  toList_enumeration " " word words

/-- **Words behind a separator each** are told apart if it begins with a character that is in none of them. -/
theorem separated_inj {mark : Char} {gap : List Char} : ∀ {xs ys : List String},
    (∀ x ∈ xs, mark ∉ x.toList) → (∀ y ∈ ys, mark ∉ y.toList) →
      (xs.flatMap fun x => mark :: gap ++ x.toList) = (ys.flatMap fun y => mark :: gap ++ y.toList) → xs = ys
  | [], [], _, _, _ => rfl
  | [], _ :: _, _, _, h => nomatch h
  | _ :: _, [], _, _, h => nomatch h
  | x :: xs, y :: ys, hxs, hys, h => by
    have hword : ∀ {x : String}, mark ∉ x.toList → ∀ c ∈ x.toList, (c != mark) = true :=
      fun hx c hc => bne_iff_ne.2 fun heq => hx (heq ▸ hc)
    have hstops : ∀ xs : List String, Stops (· != mark) (xs.flatMap fun x => mark :: gap ++ x.toList) := by
      intro xs
      cases xs with
      | nil => exact stops_nil
      | cons x xs => exact stops_cons (bne_self_eq_false mark)
    rw [List.forall_mem_cons] at hxs hys
    rw [List.flatMap_cons, List.flatMap_cons, List.append_assoc, List.append_assoc, List.append_cancel_left_eq] at h
    obtain ⟨hfirst, hrest⟩ := run_append_inj (hword hxs.1) (hword hys.1) (hstops xs) (hstops ys) h
    rw [String.toList_inj.1 hfirst, separated_inj hxs.2 hys.2 hrest]

/-- Items with a space before each of them, and a character that closes them. -/
def spaced {α : Type} (text : α → List Char) (close : Char) (items : List α) : List Char :=
  items.flatMap (fun item => ' ' :: text item) ++ [close]

/-- **Spaced items are told apart from what follows** if each of them is wherever a space or the closing character may
stand behind it. -/
theorem spaced_append_inj {α : Type} {text : α → List Char} {close : Char} (hclose : close ≠ ' ')
    {Ends : List Char → Prop} (hends : ∀ items s, Ends (spaced text close items ++ s)) :
    ∀ {xs ys : List α} {s t : List Char},
      (∀ x ∈ xs, ∀ y ∈ ys, ∀ {s t}, Ends s → Ends t → text x ++ s = text y ++ t → x = y ∧ s = t) →
        spaced text close xs ++ s = spaced text close ys ++ t → xs = ys ∧ s = t
  | [], [], _, _, _, h => ⟨rfl, (List.cons.inj h).2⟩
  | [], _ :: _, _, _, _, h => absurd (List.cons.inj h).1 hclose
  | _ :: _, [], _, _, _, h => absurd (List.cons.inj h).1.symm hclose
  | x :: xs, y :: ys, s, t, hread, h => by
    have hitems : text x ++ (spaced text close xs ++ s) = text y ++ (spaced text close ys ++ t) := by
      simpa [spaced] using h
    obtain ⟨rfl, hrest⟩ := hread x List.mem_cons_self y List.mem_cons_self (hends xs s) (hends ys t) hitems
    obtain ⟨rfl, rfl⟩ := spaced_append_inj hclose hends
      (fun x' hx y' hy => hread x' (List.mem_cons_of_mem _ hx) y' (List.mem_cons_of_mem _ hy)) hrest
    exact ⟨rfl, rfl⟩

/-! ## Numbers -/

theorem isDigit_of_mem_repr {n : Nat} {c : Char} (hc : c ∈ n.repr.toList) : isDigit c = true := by
  rw [Nat.toList_repr] at hc
  have hdigit : c.isDigit = true := Nat.isDigit_of_mem_toDigits (by decide) (by decide) hc
  simpa [isDigit, Char.isDigit, Char.le_def] using hdigit

theorem not_isLetter_of_isDigit {c : Char} (h : isDigit c = true) : isLetter c = false := by
  have hbehind : '9' < 'A' ∧ '9' < 'a' := by decide
  simp only [isLetter, isDigit, Bool.or_eq_false_iff, Bool.and_eq_true, Bool.and_eq_false_iff, decide_eq_true_eq,
    decide_eq_false_iff_not, Char.le_def, Char.lt_def, UInt32.le_iff_toNat_le, UInt32.lt_iff_toNat_lt] at h hbehind ⊢
  omega

/-! ## Texts in quotes -/

/-- What a character behind a backslash stands for. -/
def escaped (c : Char) : Char := if c = 'n' then '\n' else c

def isEscape (c : Char) : Bool := c == '"' || c == '\\' || c == 'n'

/-- A character in quotes is behind a backslash, or stands for itself and is neither a backslash nor a quote. -/
theorem quotedChar_cases (c : Char) :
    (∃ e, quotedChar c = ['\\', e] ∧ isEscape e = true ∧ escaped e = c) ∨
      (quotedChar c = [c] ∧ c ≠ '\\' ∧ c ≠ '"') := by
  unfold quotedChar
  split
  · rename_i hquote
    exact .inl ⟨'"', rfl, rfl, hquote.symm⟩
  · rename_i hquote
    split
    · rename_i hbackslash
      exact .inl ⟨'\\', rfl, rfl, hbackslash.symm⟩
    · rename_i hbackslash
      split
      · rename_i hbreak
        exact .inl ⟨'n', rfl, rfl, hbreak.symm⟩
      · exact .inr ⟨rfl, hbackslash, hquote⟩

/-- **Reads a text behind its opening quote**, and leaves what is behind the closing one.  A quote, a backslash and an n
make another character with a backslash before them; everything else stands for itself. -/
def readQuoted : List Char → Option (List Char × List Char)
  | [] => none
  | '"' :: rest => some ([], rest)
  | '\\' :: e :: cs =>
    if isEscape e then (readQuoted cs).map fun (text, rest) => (escaped e :: text, rest)
    else (readQuoted (e :: cs)).map fun (text, rest) => ('\\' :: text, rest)
  | c :: cs => (readQuoted cs).map fun (text, rest) => (c :: text, rest)

theorem readQuoted_quotedChar_append (c : Char) (cs : List Char) :
    readQuoted (quotedChar c ++ cs) = (readQuoted cs).map fun (text, rest) => (c :: text, rest) := by
  rcases quotedChar_cases c with ⟨e, hc, hescape, he⟩ | ⟨hc, hbackslash, hquote⟩
  · rw [hc, List.cons_append, List.cons_append, List.nil_append, readQuoted, if_pos hescape, he]
  · simp [hc, readQuoted, hbackslash]

/-- **A text in quotes reads back**, whatever characters are in it and whatever comes behind it. -/
theorem readQuoted_quotedChars_append (cs rest : List Char) :
    readQuoted (cs.flatMap quotedChar ++ '"' :: rest) = some (cs, rest) := by
  induction cs with
  | nil => rfl
  | cons c cs ih => rw [List.flatMap_cons, List.append_assoc, readQuoted_quotedChar_append, ih, Option.map_some]

theorem quotedChars_append_inj {cs cs' s s' : List Char} (h : quotedChars cs ++ s = quotedChars cs' ++ s') :
    cs = cs' ∧ s = s' := by
  have hinner : cs.flatMap quotedChar ++ '"' :: s = cs'.flatMap quotedChar ++ '"' :: s' := by
    simpa [quotedChars] using h
  have hread := congrArg readQuoted hinner
  rw [readQuoted_quotedChars_append, readQuoted_quotedChars_append, Option.some.injEq, Prod.mk.injEq] at hread
  exact hread

end Text
end Partitura
