import Mathlib.Logic.ExistsUnique
import Partitura.Tone.Pitch
/-!
# Proofs.Tone.Spelling — how note names are spelled

A note name is spelled with a letter, and behind it one of two signs or accidentals, the first of which may be short of
its vowel (`Pitch.Spelling`).  The scanner of names accepts exactly what can be spelled so, and nothing can be spelled in
two ways: a letter of its own begins every kind of alteration, and all accidentals are of one length
(`Pitch.spelling_exact`).
-/
namespace Partitura
namespace Pitch

/-- The accidentals, half of them of quarter tones. -/
inductive Accidental where
  | es
  | is
  | eh
  | ih
  deriving DecidableEq

/-- **What stands behind the letter of a name**: a sign, or accidentals behind an `s` or without one. -/
inductive Alteration where
  | reminder
  | caution
  | accidentals (contracted : Bool) (syllables : List Accidental)
  deriving DecidableEq

/-- **A name taken apart.** -/
structure Spelling where
  letter : Char
  inScale : 'a' ≤ letter ∧ letter ≤ 'g'
  alteration : Alteration

def Accidental.chars : Accidental → List Char
  | es => ['e', 's']
  | is => ['i', 's']
  | eh => ['e', 'h']
  | ih => ['i', 'h']

def Alteration.chars : Alteration → List Char
  | reminder => ['!']
  | caution => ['?']
  | accidentals contracted syllables => (if contracted then ['s'] else []) ++ syllables.flatMap Accidental.chars

def Spelling.chars (s : Spelling) : List Char := s.letter :: s.alteration.chars

/-- A name that can be spelled. -/
def Spelled (name : String) : Prop := ∃ s : Spelling, s.chars = name.toList

/-- **Octave marks**: an equals sign or none, and any mix of quotes and commas. -/
def Marked (octave : String) : Prop :=
  ∃ marks : List Char, (∀ c ∈ marks, c = '\'' ∨ c = ',') ∧ (octave.toList = marks ∨ octave.toList = '=' :: marks)

/-! ## What the scanners accept -/

theorem isSyllables_iff : ∀ {cs : List Char},
    isSyllables cs = true ↔ ∃ syllables : List Accidental, syllables.flatMap Accidental.chars = cs
  | [] => iff_of_true rfl ⟨[], rfl⟩
  | [c] => by
    refine iff_of_false nofun ?_
    rintro ⟨syllables, h⟩
    cases syllables with
    | nil => cases h
    | cons a syllables => cases a <;> cases h
  | v :: h :: cs => by
    simp only [isSyllables, Bool.and_eq_true, Bool.or_eq_true, beq_iff_eq, isSyllables_iff]
    constructor
    · rintro ⟨⟨rfl | rfl, rfl | rfl⟩, syllables, rfl⟩
      · exact ⟨.es :: syllables, rfl⟩
      · exact ⟨.eh :: syllables, rfl⟩
      · exact ⟨.is :: syllables, rfl⟩
      · exact ⟨.ih :: syllables, rfl⟩
    · rintro ⟨syllables, heq⟩
      cases syllables with
      | nil => cases heq
      | cons a syllables => cases a <;> cases heq <;> exact ⟨by decide, syllables, rfl⟩

theorem isAccidental_iff {cs : List Char} : isAccidental cs = true ↔ ∃ a : Alteration, a.chars = cs := by
  constructor
  · intro h
    unfold isAccidental at h
    split at h
    · exact ⟨.reminder, rfl⟩
    · exact ⟨.caution, rfl⟩
    · obtain ⟨syllables, rfl⟩ := isSyllables_iff.1 h
      exact ⟨.accidentals true syllables, rfl⟩
    · obtain ⟨syllables, rfl⟩ := isSyllables_iff.1 h
      exact ⟨.accidentals false syllables, rfl⟩
  · rintro ⟨a, rfl⟩
    cases a with
    | reminder => rfl
    | caution => rfl
    | accidentals contracted syllables =>
      have hsyllables : isSyllables (syllables.flatMap Accidental.chars) = true := isSyllables_iff.2 ⟨syllables, rfl⟩
      cases contracted with
      | true => exact hsyllables
      | false =>
        cases syllables with
        | nil => rfl
        | cons a syllables => cases a <;> exact hsyllables

theorem isName_iff : ∀ {cs : List Char}, isName cs = true ↔ ∃ s : Spelling, s.chars = cs
  | [] => iff_of_false nofun nofun
  | c :: cs => by
    simp only [isName, Bool.and_eq_true, decide_eq_true_eq, isAccidental_iff]
    constructor
    · rintro ⟨hscale, a, rfl⟩
      exact ⟨⟨c, hscale, a⟩, rfl⟩
    · rintro ⟨s, hs⟩
      cases hs
      exact ⟨s.inScale, s.alteration, rfl⟩

theorem isMarks_iff {cs : List Char} : isMarks cs = true ↔ ∀ c ∈ cs, c = '\'' ∨ c = ',' := by
  simp only [isMarks, List.all_eq_true, Bool.or_eq_true, beq_iff_eq]

theorem isOctave_iff {octave : String} : isOctave octave.toList = true ↔ Marked octave := by
  unfold isOctave Marked
  split
  · rename_i cs heq
    rw [isMarks_iff]
    constructor
    · exact fun h => ⟨cs, h, .inr heq⟩
    · rintro ⟨marks, hmarks, hall | hbehind⟩
      · -- An equals sign is no mark.
        rw [heq] at hall
        exact absurd (hmarks '=' (hall ▸ List.mem_cons_self)) (by decide)
      · rw [heq] at hbehind
        cases hbehind
        exact hmarks
  · rename_i hplain
    rw [isMarks_iff]
    constructor
    · exact fun h => ⟨_, h, .inl rfl⟩
    · rintro ⟨marks, hmarks, hall | hbehind⟩
      · rwa [hall]
      · exact absurd hbehind (hplain marks)

/-! ## Only one spelling -/

theorem syllables_inj : ∀ {as bs : List Accidental},
    as.flatMap Accidental.chars = bs.flatMap Accidental.chars → as = bs
  | [], [], _ => rfl
  | [], b :: _, h => by cases b <;> cases h
  | a :: _, [], h => by cases a <;> cases h
  | a :: as, b :: bs, h => by
    have hlength : a.chars.length = b.chars.length := by cases a <;> cases b <;> rfl
    obtain ⟨hfirst, hrest⟩ := List.append_inj h hlength
    have hsame : a = b := by
      revert hfirst
      cases a <;> cases b <;> decide
    rw [hsame, syllables_inj hrest]

/-- Accidentals begin with a vowel. -/
theorem vowel_of_syllables {syllables : List Accidental} {c : Char} {cs : List Char}
    (h : syllables.flatMap Accidental.chars = c :: cs) : c = 'e' ∨ c = 'i' := by
  cases syllables with
  | nil => cases h
  | cons a syllables => cases a <;> cases h <;> decide

theorem Alteration.chars_inj {a b : Alteration} (h : a.chars = b.chars) : a = b := by
  -- Neither a sign nor an `s` is a vowel.
  have hsign : ∀ {c : Char} {cs : List Char} {contracted : Bool} {syllables : List Accidental},
      c :: cs = (accidentals contracted syllables).chars → c = 's' ∨ c = 'e' ∨ c = 'i' := by
    intro c cs contracted syllables h
    cases contracted with
    | true => exact .inl (List.cons.inj h).1
    | false => exact .inr (vowel_of_syllables h.symm)
  cases a with
  | reminder =>
    cases b with
    | reminder => rfl
    | caution => cases h
    | accidentals contracted syllables => exact absurd (hsign h) (by decide)
  | caution =>
    cases b with
    | reminder => cases h
    | caution => rfl
    | accidentals contracted syllables => exact absurd (hsign h) (by decide)
  | accidentals contracted syllables =>
    cases b with
    | reminder => exact absurd (hsign h.symm) (by decide)
    | caution => exact absurd (hsign h.symm) (by decide)
    | accidentals contracted' syllables' =>
      cases contracted with
      | true =>
        cases contracted' with
        | true => rw [syllables_inj (List.cons.inj h).2]
        | false => exact absurd (vowel_of_syllables h.symm) (by decide)
      | false =>
        cases contracted' with
        | true => exact absurd (vowel_of_syllables h) (by decide)
        | false => rw [syllables_inj h]

theorem Spelling.chars_inj {s t : Spelling} (h : s.chars = t.chars) : s = t := by
  obtain ⟨hletter, halteration⟩ := List.cons.inj h
  cases s
  cases t
  rw [Spelling.mk.injEq]
  exact ⟨hletter, Alteration.chars_inj halteration⟩

/-! ## Longer names -/

/-- Another accidental may follow unless a sign has closed the name. -/
theorem Spelled.append {name : String} (h : Spelled name)
    (hopen : ∀ c ∈ name.toList.getLast?, c ≠ '!' ∧ c ≠ '?') (a : Accidental) :
    Spelled (name ++ String.ofList a.chars) := by
  obtain ⟨⟨letter, hscale, alteration⟩, hs⟩ := h
  unfold Spelled
  rw [String.toList_append, String.toList_ofList, ← hs]
  rw [← hs] at hopen
  cases alteration with
  | reminder => exact absurd rfl (hopen '!' rfl).1
  | caution => exact absurd rfl (hopen '?' rfl).2
  | accidentals contracted syllables =>
    refine ⟨⟨letter, hscale, .accidentals contracted (syllables ++ [a])⟩, ?_⟩
    simp only [Spelling.chars, Alteration.chars, List.flatMap_append, List.flatMap_singleton, List.cons_append,
      List.append_assoc]

/-! ## Pitches -/

/-- Whether a pitch can be made, and what is said if not. -/
theorem of_answers (name octave : String) :
    ((∃ p, Pitch.of name octave = .ok p) ↔ Spelled name ∧ Marked octave) ∧
    (Pitch.of name octave = .error (.invalidPitch name) ↔ ¬ Spelled name) ∧
    (Pitch.of name octave = .error (.invalidOctave octave) ↔ Spelled name ∧ ¬ Marked octave) := by
  have hspelled : isName name.toList = true ↔ Spelled name := isName_iff
  rw [← hspelled, ← isOctave_iff]
  unfold Pitch.of
  by_cases hname : isName name.toList = true
  · rw [dif_pos hname]
    by_cases hoctave : isOctave octave.toList = true
    · rw [dif_pos hoctave]
      exact ⟨iff_of_true ⟨_, rfl⟩ ⟨hname, hoctave⟩, iff_of_false nofun (not_not_intro hname),
        iff_of_false nofun fun h => h.2 hoctave⟩
    · rw [dif_neg hoctave]
      exact ⟨iff_of_false nofun fun h => hoctave h.2, iff_of_false nofun (not_not_intro hname),
        iff_of_true rfl ⟨hname, hoctave⟩⟩
  · rw [dif_neg hname]
    exact ⟨iff_of_false nofun fun h => hname h.1, iff_of_true rfl hname, iff_of_false nofun fun h => hname h.1⟩

/-- **Pitches are made of exactly the names that can be spelled and of octave marks.**  A name that cannot be spelled is
refused as a name, whatever the octave is, and an octave of other characters is refused as an octave if the name is
good.  A name can be spelled in one way only, and goes on with any accidental unless it ends in a sign. -/
theorem spelling_exact (name octave : String) :
    ((∃ p, Pitch.of name octave = .ok p) ↔ Spelled name ∧ Marked octave) ∧
    (Pitch.of name octave = .error (.invalidPitch name) ↔ ¬ Spelled name) ∧
    (Pitch.of name octave = .error (.invalidOctave octave) ↔ Spelled name ∧ ¬ Marked octave) ∧
    (Spelled name ↔ ∃! s : Spelling, s.chars = name.toList) ∧
    (Spelled name → (∀ c ∈ name.toList.getLast?, c ≠ '!' ∧ c ≠ '?') →
      ∀ a : Accidental, Spelled (name ++ String.ofList a.chars)) := by
  obtain ⟨hok, hname, hoctave⟩ := of_answers name octave
  refine ⟨hok, hname, hoctave, ⟨?_, ?_⟩, Spelled.append⟩
  · rintro ⟨s, hs⟩
    exact ⟨s, hs, fun t ht => Spelling.chars_inj (ht.trans hs.symm)⟩
  · rintro ⟨s, hs, -⟩
    exact ⟨s, hs⟩

/-- A contracted name goes on with whole accidentals, and no name behind a sign. -/
theorem spelling_exact_contracted :
    Spelled "as" ∧ (∀ c ∈ "as".toList.getLast?, c ≠ '!' ∧ c ≠ '?') ∧ Spelled "ases" ∧ Spelled "asih" ∧
    (∃ p, Pitch.of "as" "=,'" = .ok p) ∧ Pitch.of "ass" "'=" = .error (.invalidPitch "ass") ∧
    Pitch.of "c!es" "" = .error (.invalidPitch "c!es") ∧ Pitch.of "as" "'=" = .error (.invalidOctave "'=") := by
  have hspelled : Spelled "as" := ⟨⟨'a', by decide, .accidentals true []⟩, rfl⟩
  have hopen : ∀ c ∈ "as".toList.getLast?, c ≠ '!' ∧ c ≠ '?' := by
    intro c hc
    cases (hc : some 's' = some c)
    decide
  obtain ⟨hok, -, -, -, happend⟩ := spelling_exact "as" "=,'"
  refine ⟨hspelled, hopen, happend hspelled hopen .es, happend hspelled hopen .ih,
    hok.2 ⟨hspelled, isOctave_iff.1 (by decide)⟩, ?_, ?_, ?_⟩
  · exact (spelling_exact "ass" "'=").2.1.2 (mt isName_iff.2 (by decide))
  · exact (spelling_exact "c!es" "").2.1.2 (mt isName_iff.2 (by decide))
  · exact (spelling_exact "as" "'=").2.2.1.2 ⟨hspelled, mt isOctave_iff.2 (by decide)⟩

end Pitch
end Partitura
