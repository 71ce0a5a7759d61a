import ReleaseGate.Builder
import ReleaseGate.Proofs.Version.Spelling

/-!
# The output directory of a version

The text of a version is the name of an entry of a directory, and the directory for its output is that entry of the output root.
-/

namespace ReleaseGate

theorem Version.isName (v : Version) : Path.IsName v.text := by
  obtain ⟨d, inside, digit⟩ := v.exists_digit
  have holds : ∀ s : String, d ∉ s.toList → v.text ≠ s := by
    rintro s missing rfl
    exact missing inside
  have lacks : ∀ c, isVersionCharacter c = false → c ∉ v.text.toList := by
    intro c foreign there
    exact absurd ((isVersionCharacter_of_mem there).symm.trans foreign) (by decide)
  have noDot : d ≠ '.' := by
    rintro rfl
    exact absurd digit (by decide)
  exact ⟨holds _ (by simp), holds _ (by simp [noDot]), holds _ (by simp [noDot]), lacks _ (by decide), lacks _ (by decide)⟩

namespace Builder

variable (b : Builder) (v : Version)

variable {b v} in
theorem outputDir_of_rootless (rootless : b.root.text = "") : b.outputDir v = ⟨v.text⟩ := by
  unfold outputDir Path.join
  rw [v.isName.isAbsolute, rootless]
  rfl

/-- The path of an output directory: the output root, a slash unless it needs none, and the version. -/
theorem exists_outputDir_text :
    ∃ gap, '\x7b' ∉ gap ∧ '\x7d' ∉ gap ∧ (b.outputDir v).text.toList = b.root.text.toList ++ (gap ++ v.text.toList) := by
  by_cases rootless : b.root.text = ""
  · refine ⟨[], by simp, by simp, ?_⟩
    simp [outputDir_of_rootless rootless, rootless]
  · obtain ⟨before, whole, plain | slash⟩ : ∃ before, (b.outputDir v).text.toList = before ++ '/' :: v.text.toList ∧
        (b.root.text.toList = before ∨ b.root.text.toList = before ++ ['/']) := Path.entry_text v.isName rootless
    · exact ⟨['/'], by decide, by decide, by simpa [plain] using whole⟩
    · exact ⟨[], by simp, by simp, by simpa [slash] using whole⟩

theorem outputDir_inhabited : (b.outputDir v).text ≠ "" := by
  obtain ⟨gap, -, -, whole⟩ := b.exists_outputDir_text v
  obtain ⟨d, inside, -⟩ := v.exists_digit
  intro empty
  have there : d ∈ (b.outputDir v).text.toList := by simp [whole, inside]
  simp [empty] at there

/-- The way to an output directory is the way to the output root, and then the version. -/
theorem steps_outputDir : (b.outputDir v).steps = b.root.steps ++ [v.text] := by
  by_cases rootless : b.root.text = ""
  · have steps : b.root.steps = [] := by
      unfold Path.steps
      rw [rootless]
      rfl
    rw [outputDir_of_rootless rootless, steps]
    exact v.isName.steps
  · exact Path.steps_entry v.isName rootless

theorem isAbsolute_outputDir : (b.outputDir v).isAbsolute = b.root.isAbsolute := by
  by_cases rootless : b.root.text = ""
  · have relative : b.root.isAbsolute = false := by
      unfold Path.isAbsolute
      rw [rootless]
      rfl
    rw [outputDir_of_rootless rootless, relative]
    exact v.isName.isAbsolute
  · exact Path.isAbsolute_entry v.isName rootless

theorem namesDirectory_outputDir : (b.outputDir v).namesDirectory = false := by
  by_cases rootless : b.root.text = ""
  · rw [outputDir_of_rootless rootless]
    exact v.isName.namesDirectory
  · exact Path.namesDirectory_entry v.isName rootless

/-- Versions that are spelled differently have different output directories. -/
theorem eq_of_steps_outputDir {w : Version} (same : (b.outputDir w).steps = (b.outputDir v).steps) : w = v := by
  rw [steps_outputDir, steps_outputDir] at same
  have text : w.text = v.text := by simpa using same
  cases w
  cases v
  cases text
  rfl

end Builder

end ReleaseGate
