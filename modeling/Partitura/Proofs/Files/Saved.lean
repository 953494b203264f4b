import Partitura.Files
import Partitura.Proofs.Outcome
/-!
# Proofs.Files.Saved — a text that was written is read

Where a path leads depends on the directories alone, and writing a text makes none.  So the path leads to the same place
afterwards, and there the text stands.
-/
namespace Partitura
namespace Files

variable {f g : Files}

theorem isDirectory_congr (h : g.directories = f.directories) (place : List String) :
    g.isDirectory place = f.isDirectory place := by
  unfold isDirectory
  rw [h]

theorem needDirectory_eq_ok_iff {place : List String} :
    f.needDirectory place = .ok () ↔ f.isDirectory place = true := by
  unfold needDirectory
  split
  · simp [*]
  · split <;> simp [*]

theorem enter_congr (h : g.directories = f.directories) {place reached : List String} {part : String}
    (he : f.enter place part = .ok reached) : g.enter place part = .ok reached := by
  unfold enter at he ⊢
  obtain ⟨⟨⟩, hneed, hrest⟩ := bind_eq_ok_iff.1 he
  rw [needDirectory_eq_ok_iff, ← isDirectory_congr h, ← needDirectory_eq_ok_iff] at hneed
  exact bind_eq_ok_iff.2 ⟨(), hneed, hrest⟩

theorem walk_congr (h : g.directories = f.directories) {reached : List String} : ∀ (parts place : List String),
    f.walk place parts = .ok reached → g.walk place parts = .ok reached
  | [], _, hw => hw
  | part :: parts, place, hw => by
    rw [walk] at hw ⊢
    obtain ⟨next, hnext, hrest⟩ := bind_eq_ok_iff.1 hw
    exact bind_eq_ok_iff.2 ⟨next, enter_congr h hnext, walk_congr h parts next hrest⟩

/-- **A path leads to one place** in trees with the same directories, whatever their files. -/
theorem resolve_congr (h : g.directories = f.directories) {path : String} {place : List String}
    (hr : f.resolve path = .ok place) : g.resolve path = .ok place := by
  unfold resolve at hr ⊢
  split at hr
  · cases hr
  · rename_i hzero
    rw [if_neg hzero]
    split at hr
    · cases hr
    · rename_i hempty
      rw [if_neg hempty]
      split at hr
      · cases hr
      · rename_i hlong
        rw [if_neg hlong]
        exact walk_congr h _ _ hr

/-- **A text is written** exactly if its path leads to a place that is no directory, and then it stands there. -/
theorem write_eq_ok_iff {path text : String} :
    f.write path text = .ok g ↔ path.endsWith "/" = false ∧ ∃ place, f.resolve path = .ok place ∧
      f.isDirectory place = false ∧ g = { f with texts := (place, text) :: f.texts.filter (·.1 != place) } := by
  unfold write
  by_cases hslash : path.endsWith "/" = true
  · rw [if_pos hslash]
    simp [hslash, bind_eq_ok_iff]
  · rw [if_neg hslash]
    simp only [pure_eq_ok, throw_eq_error, bind_eq_ok_iff]
    constructor
    · rintro ⟨place, hplace, hrest⟩
      by_cases hdirectory : f.isDirectory place = true
      · rw [if_pos hdirectory] at hrest
        cases hrest
      · rw [if_neg hdirectory] at hrest
        cases hrest
        exact ⟨by simpa using hslash, place, hplace, by simpa using hdirectory, rfl⟩
    · rintro ⟨-, place, hplace, hdirectory, rfl⟩
      exact ⟨place, hplace, by rw [hdirectory]; rfl⟩

/-- **What was written is read.** -/
theorem read_of_write {path text : String} (h : f.write path text = .ok g) : g.read path = .ok text := by
  obtain ⟨-, place, hplace, hdirectory, heq⟩ := write_eq_ok_iff.1 h
  have hsame : g.directories = f.directories := by rw [heq]
  have htext : g.text? place = some text := by simp [heq, text?]
  unfold read
  rw [resolve_congr hsame hplace, ok_bind, isDirectory_congr hsame, hdirectory, htext]
  rfl

/-- Whether a text can be written is a question for its path. -/
theorem write_of_write {path text : String} (h : f.write path text = .ok g) (other : String) :
    ∃ g', f.write path other = .ok g' := by
  obtain ⟨hslash, place, hplace, hdirectory, -⟩ := write_eq_ok_iff.1 h
  exact ⟨_, write_eq_ok_iff.2 ⟨hslash, place, hplace, hdirectory, rfl⟩⟩

end Files
end Partitura
