import Partitura.Proofs.Text.Tokens
import Partitura.Render
import Std.Data.String.ToNat
/-!
# Proofs.Tone.Readable — tones can be read back

The parts of a tone are written one behind the other with nothing between them, but each is made of characters that the
next cannot begin with: the name of a pitch of letters and signs, its octave of marks, a duration of digits and dots,
and a colon and a tilde stand before what is left.  So two tones without attachments have one text only if they are the
same tone (`Tone.text_unique`).
-/
namespace Partitura

open Text (Stops run_append_inj stops_append stops_cons stops_nil)

namespace Pitch

def isNameChar (c : Char) : Bool :=
  ('a' ≤ c && c ≤ 'g') || c == 's' || c == 'i' || c == 'h' || c == '!' || c == '?'

def isOctaveChar (c : Char) : Bool := c == '=' || c == '\'' || c == ','

theorem isNameChar_of_mem_syllables : ∀ {cs : List Char}, isSyllables cs = true → ∀ c ∈ cs, isNameChar c = true
  | [], _ => nofun
  | [_], h => nomatch h
  | v :: s :: cs, h => by
    simp only [isSyllables, Bool.and_eq_true, Bool.or_eq_true, beq_iff_eq] at h
    obtain ⟨⟨hv, hs⟩, hcs⟩ := h
    rw [List.forall_mem_cons, List.forall_mem_cons]
    refine ⟨?_, ?_, isNameChar_of_mem_syllables hcs⟩
    · rcases hv with rfl | rfl <;> decide
    · rcases hs with rfl | rfl <;> decide

theorem isNameChar_of_mem_accidental {cs : List Char} (h : isAccidental cs = true) :
    ∀ c ∈ cs, isNameChar c = true := by
  unfold isAccidental at h
  split at h
  · exact List.forall_mem_singleton.2 rfl
  · exact List.forall_mem_singleton.2 rfl
  · rw [List.forall_mem_cons]
    exact ⟨by decide, isNameChar_of_mem_syllables h⟩
  · exact isNameChar_of_mem_syllables h

theorem isNameChar_of_mem_name (p : Pitch) : ∀ c ∈ p.name.toList, isNameChar c = true := by
  have hnamed := p.named
  unfold isName at hnamed
  split at hnamed
  · cases hnamed
  · rename_i c cs hname
    rw [Bool.and_eq_true] at hnamed
    rw [hname, List.forall_mem_cons]
    refine ⟨?_, isNameChar_of_mem_accidental hnamed.2⟩
    simp [isNameChar, hnamed.1]

theorem isOctaveChar_of_mem_marks {cs : List Char} (h : isMarks cs = true) : ∀ c ∈ cs, isOctaveChar c = true := by
  intro c hc
  have hmark := List.all_eq_true.1 h c hc
  simp only [Bool.or_eq_true, beq_iff_eq] at hmark
  rcases hmark with rfl | rfl <;> decide

theorem isOctaveChar_of_mem_octave (p : Pitch) : ∀ c ∈ p.octave.toList, isOctaveChar c = true := by
  have hplaced := p.placed
  unfold isOctave at hplaced
  split at hplaced
  · rename_i cs hoctave
    rw [hoctave, List.forall_mem_cons]
    exact ⟨by decide, isOctaveChar_of_mem_marks hplaced⟩
  · exact isOctaveChar_of_mem_marks hplaced

/-- A note name begins with a letter, so the text of a pitch never begins like a rest or a chord. -/
theorem text_append_ne (p : Pitch) {c : Char} (hc : ('a' ≤ c && c ≤ 'g') = false) {s t : List Char} :
    p.text.toList ++ s ≠ c :: t := by
  intro h
  have hnamed := p.named
  unfold isName at hnamed
  split at hnamed
  · cases hnamed
  · rename_i letter cs hname
    rw [text, String.toList_append, hname, List.cons_append, List.cons_append, List.cons.injEq] at h
    rw [h.1, hc] at hnamed
    cases hnamed

def isPitchChar (c : Char) : Bool := isNameChar c || isOctaveChar c

/-- **A pitch ends where it ends**, and its name where its octave begins. -/
theorem text_append_inj {p q : Pitch} {s t : List Char} (hs : Stops isPitchChar s) (ht : Stops isPitchChar t)
    (h : p.text.toList ++ s = q.text.toList ++ t) : p = q ∧ s = t := by
  -- No octave mark stands in a name, so the name ends where the octave begins, or where the pitch does.
  have hapart : ∀ c, isOctaveChar c = true → isNameChar c = false := by
    intro c hc
    simp only [isOctaveChar, Bool.or_eq_true, beq_iff_eq] at hc
    rcases hc with (rfl | rfl) | rfl <;> decide
  have hname : ∀ (p : Pitch) {s : List Char}, Stops isPitchChar s → Stops isNameChar (p.octave.toList ++ s) :=
    fun p _ hs => stops_append (fun c hc => hapart c (p.isOctaveChar_of_mem_octave c hc))
      fun c hc => (Bool.or_eq_false_iff.1 (hs c hc)).1
  have hoctave : ∀ {s : List Char}, Stops isPitchChar s → Stops isOctaveChar s :=
    fun hs c hc => (Bool.or_eq_false_iff.1 (hs c hc)).2
  rw [text, text, String.toList_append, String.toList_append, List.append_assoc, List.append_assoc] at h
  obtain ⟨hnames, hrest⟩ := run_append_inj p.isNameChar_of_mem_name q.isNameChar_of_mem_name (hname p hs) (hname q ht) h
  obtain ⟨hoctaves, rfl⟩ :=
    run_append_inj p.isOctaveChar_of_mem_octave q.isOctaveChar_of_mem_octave (hoctave hs) (hoctave ht) hrest
  refine ⟨?_, rfl⟩
  cases p
  cases q
  rw [Pitch.mk.injEq]
  exact ⟨String.toList_inj.1 hnames, String.toList_inj.1 hoctaves⟩

end Pitch

namespace Sound

open Pitch (isPitchChar)

/-! ## Bodies -/

/-- The pitches of a chord behind the first, and the bracket that closes it. -/
def chordRest (pitches : List Pitch) : List Char := Text.spaced (fun p => p.text.toList) '>' pitches

theorem stops_chordRest (pitches : List Pitch) (s : List Char) : Stops isPitchChar (chordRest pitches ++ s) := by
  cases pitches with
  | nil => exact stops_cons (by decide)
  | cons p pitches => exact stops_cons (by decide)

theorem toList_chord (first : Pitch) (others : List Pitch) :
    (bodyText (.chord first others)).toList = '<' :: (first.text.toList ++ chordRest others) := by
  have hpitches := Text.toList_intercalate_cons first.text (others.map Pitch.text)
  rw [List.flatMap_map] at hpitches
  simp [bodyText, chordRest, Text.spaced, hpitches]

theorem chordRest_append_inj {ps qs : List Pitch} {s t : List Char} (h : chordRest ps ++ s = chordRest qs ++ t) :
    ps = qs ∧ s = t :=
  Text.spaced_append_inj (by decide) stops_chordRest (fun _ _ _ _ => Pitch.text_append_inj) h

/-- **A body ends where it ends**: a note and a rest before what no pitch goes on with, a chord at its bracket. -/
theorem bodyText_append_inj {b b' : Body} {s t : List Char} (hs : Stops isPitchChar s) (ht : Stops isPitchChar t)
    (h : (bodyText b).toList ++ s = (bodyText b').toList ++ t) : b = b' ∧ s = t := by
  have hrest : (bodyText .rest).toList = ['r'] := rfl
  cases b with
  | note p =>
    cases b' with
    | note q =>
      obtain ⟨rfl, rfl⟩ := Pitch.text_append_inj hs ht h
      exact ⟨rfl, rfl⟩
    | rest => exact absurd h (p.text_append_ne (by decide))
    | chord first others =>
      rw [toList_chord] at h
      exact absurd h (p.text_append_ne (by decide))
  | rest =>
    cases b' with
    | note q => exact absurd h.symm (q.text_append_ne (by decide))
    | rest => exact ⟨rfl, (List.cons.inj h).2⟩
    | chord first others =>
      rw [toList_chord, hrest] at h
      exact absurd (List.cons.inj h).1 (by decide)
  | chord first others =>
    rw [toList_chord] at h
    cases b' with
    | note q => exact absurd h.symm (q.text_append_ne (by decide))
    | rest => exact absurd (List.cons.inj h).1 (by decide)
    | chord first' others' =>
      rw [toList_chord, List.cons_append, List.cons_append, List.append_assoc, List.append_assoc] at h
      obtain ⟨rfl, hothers⟩ :=
        Pitch.text_append_inj (stops_chordRest others s) (stops_chordRest others' t) (List.cons.inj h).2
      obtain ⟨rfl, rfl⟩ := chordRest_append_inj hothers
      exact ⟨rfl, rfl⟩

/-! ## Durations, tremolos and ties -/

def isDurationChar (c : Char) : Bool := Text.isDigit c || c == '.'

theorem isDurationChar_of_mem {cs : List Char} (h : isDuration cs = true) : ∀ c ∈ cs, isDurationChar c = true := by
  unfold isDuration at h
  split at h
  · exact nofun
  · rename_i digit cs
    rw [Bool.and_eq_true, List.all_eq_true] at h
    rw [List.forall_mem_cons]
    refine ⟨by rw [isDurationChar, h.1, Bool.true_or], fun c hc => ?_⟩
    rw [← List.takeWhile_append_dropWhile (p := Text.isDigit) (l := cs), List.mem_append] at hc
    rcases hc with hdigit | hdot
    · rw [isDurationChar, List.all_eq_true.1 List.all_takeWhile c hdigit, Bool.true_or]
    · rw [isDurationChar, h.2 c hdot, Bool.or_true]

theorem not_isPitchChar_of_isDurationChar {c : Char} (h : isDurationChar c = true) : isPitchChar c = false := by
  rw [Bool.eq_false_iff]
  intro hpitch
  simp only [isPitchChar, Pitch.isNameChar, Pitch.isOctaveChar, Bool.or_eq_true, beq_iff_eq] at hpitch
  -- All letters are behind the digits and the dot; the other characters of a pitch are looked at one by one.
  have hletter : ¬ ('a' ≤ c && c ≤ 'g') = true := by
    have hbehind : '9' < 'a' ∧ '.' < 'a' := by decide
    simp only [isDurationChar, Text.isDigit, Bool.or_eq_true, Bool.and_eq_true, decide_eq_true_eq, beq_iff_eq,
      Char.le_def, Char.lt_def, Char.ext_iff, UInt32.le_iff_toNat_le, UInt32.lt_iff_toNat_lt,
      ← UInt32.toNat_inj] at h hbehind ⊢
    omega
  rcases hpitch with (((((hrange | rfl) | rfl) | rfl) | rfl) | rfl) | ((rfl | rfl) | rfl)
  · exact hletter hrange
  all_goals exact absurd h (by decide)

/-- What is written behind a duration. -/
def marks (tremolo : Option Tremolo) (tied : Bool) : List Char :=
  (match tremolo with
    | some t => ':' :: t.division.repr.toList
    | none => []) ++ (if tied then ['~'] else [])

theorem toList_text (s : Sound) :
    s.text.toList = (bodyText s.body).toList ++ (s.duration.toList ++ marks s.tremolo s.tied) := by
  obtain ⟨body, duration, timed, tremolo, tied⟩ := s
  cases tremolo <;> cases tied <;> simp [text, marks]

theorem stops_marks {kind : Char → Bool} (hcolon : kind ':' = false) (htilde : kind '~' = false)
    (tremolo : Option Tremolo) (tied : Bool) : Stops kind (marks tremolo tied) := by
  cases tremolo with
  | some t => exact stops_cons hcolon
  | none =>
    cases tied with
    | true => exact stops_cons htilde
    | false => exact stops_nil

theorem marks_inj {x y : Option Tremolo} {b b' : Bool} (h : marks x b = marks y b') : x = y ∧ b = b' := by
  have htie : ∀ b : Bool, Stops Text.isDigit (if b then ['~'] else []) := by
    intro b
    cases b with
    | true => exact stops_cons (by decide)
    | false => exact stops_nil
  have htied : ∀ {b b' : Bool}, (if b then ['~'] else []) = (if b' then ['~'] else []) → b = b' := by decide
  cases x with
  | none =>
    cases y with
    | none => exact ⟨rfl, htied h⟩
    | some t => cases b <;> simp [marks] at h
  | some t =>
    cases y with
    | none => cases b' <;> simp [marks] at h
    | some t' =>
      obtain ⟨hdivision, hrest⟩ := run_append_inj (fun _ hc => Text.isDigit_of_mem_repr hc)
        (fun _ hc => Text.isDigit_of_mem_repr hc) (htie b) (htie b') (List.cons.inj h).2
      have hsame : t.division = t'.division := Nat.repr_inj.1 (String.toList_inj.1 hdivision)
      cases t
      cases t'
      cases hsame
      exact ⟨rfl, htied hrest⟩

/-- **A sound can be read off its text**: its body, its duration, its tremolo and its tie. -/
theorem text_inj {a b : Sound} (h : a.text = b.text) : a = b := by
  have hchars := congrArg String.toList h
  rw [toList_text, toList_text] at hchars
  have hduration : ∀ s : Sound, Stops isPitchChar (s.duration.toList ++ marks s.tremolo s.tied) := fun s =>
    stops_append (fun c hc => not_isPitchChar_of_isDurationChar (isDurationChar_of_mem s.timed c hc))
      (stops_marks (by decide) (by decide) _ _)
  obtain ⟨hbody, hrest⟩ := bodyText_append_inj (hduration a) (hduration b) hchars
  obtain ⟨htime, hmarks⟩ := run_append_inj (isDurationChar_of_mem a.timed) (isDurationChar_of_mem b.timed)
    (stops_marks (by decide) (by decide) _ _) (stops_marks (by decide) (by decide) _ _) hrest
  obtain ⟨htremolo, htied⟩ := marks_inj hmarks
  cases a
  cases b
  rw [Sound.mk.injEq]
  exact ⟨hbody, String.toList_inj.1 htime, htremolo, htied⟩

end Sound

/-- **Tones are uniquely readable.**  Two tones without attachments have one text only if they are the same: the same
note, rest or chord, with the same names and octaves, the same duration, tremolo and tie. -/
theorem Tone.text_unique {a b : Tone} (ha : a.attachments = []) (hb : b.attachments = []) (c c' : Counters) :
    (a.render c).1 = (b.render c').1 ↔ a = b := by
  have htext : ∀ (sound : Sound) (c : Counters), (Tone.render ⟨sound, []⟩ c).1 = sound.text := fun sound c => by
    rw [Tone.render, renderAttachments]
    exact String.append_empty
  obtain ⟨sound, attachments⟩ := a
  obtain ⟨sound', attachments'⟩ := b
  cases ha
  cases hb
  rw [htext, htext, Tone.mk.injEq, and_iff_left rfl]
  exact ⟨Sound.text_inj, congrArg Sound.text⟩

/-- A chord that trembles and is tied. -/
def Tone.tremblingChord : Tone :=
  .ofSound ⟨.chord ⟨"ces", "=,", rfl, rfl⟩ [⟨"e!", "", rfl, rfl⟩], "2.", rfl, some ⟨16, rfl⟩, true⟩

/-- Its first pitch alone, which trembles at another pace. -/
def Tone.tremblingNote : Tone := .ofSound ⟨.note ⟨"ces", "=,", rfl, rfl⟩, "2.", rfl, some ⟨8, rfl⟩, true⟩

theorem Tone.text_unique_trembling :
    tremblingChord.attachments = [] ∧ tremblingNote.attachments = [] ∧
    (tremblingChord.render .start).1 = "<ces=, e!>2.:16~" ∧ (tremblingNote.render .start).1 = "ces=,2.:8~" ∧
    ((tremblingChord.render .start).1 = (tremblingNote.render .start).1 ↔ tremblingChord = tremblingNote) :=
  ⟨rfl, rfl, by decide, by decide, Tone.text_unique rfl rfl .start .start⟩

end Partitura
