import ItemHover.Settings.File
import ItemHover.Proofs.File.Write
import ItemHover.Proofs.Settings.Format

/-!
# Saved settings

Settings that are saved are loaded again, and can be saved again.
-/

namespace ItemHover.Settings

open File

variable {s : Settings} {d d' : Disk} {h : Home}

theorem join_ne_empty {folder p : Path} (hp : p ≠ "") : folder.join p ≠ "" := by
  unfold Path.join
  split
  · exact hp
  · split <;> simp [hp]

theorem hoverFolder_complete (s : Settings) (h : Home) :
    (s.complete h).hoverFolder = if s.hoverFolder.isEmpty then h.hoverFolder else s.hoverFolder := by
  unfold complete
  split <;> rfl

theorem complete_complete (s : Settings) (h : Home) : (s.complete h).complete h = s.complete h := by
  have hne : (s.complete h).hoverFolder.isEmpty = false := by
    have hfolder : h.hoverFolder ≠ "" := join_ne_empty (by decide)
    rw [hoverFolder_complete]
    split
    · simpa using hfolder
    · rename_i hset
      simpa using hset
  rw [complete, hne]
  rfl

theorem of_save (hs : s.save d h = .ok d') :
    ∃ d₁ made changes, d.makeFolders [] h.folder = .ok (d₁, made) ∧
      d₁.write [] h.file (String.ofList s.write).toUTF8 = .ok (d', changes) := by
  unfold save at hs
  split at hs
  · cases hs
  · rename_i d₁ made hmade
    split at hs
    · cases hs
    · rename_i d₂ changes hwrite
      cases hs
      exact ⟨d₁, made, changes, hmade, hwrite⟩

theorem load_of_save_eq (hs : s.save d h = .ok d') : load d' h = (s.complete h, d') := by
  obtain ⟨d₁, made, changes, -, hwrite⟩ := of_save hs
  rw [load, Disk.readText_of_write hwrite]
  simp only [String.toList_ofList, read?_write, Option.getD_some]

theorem save_again (hs : s.save d h = .ok d') (t : Settings) : ∃ d'', t.save d' h = .ok d'' := by
  obtain ⟨d₁, made, changes, hmade, hwrite⟩ := of_save hs
  obtain ⟨d'', changes', hagain⟩ := Disk.write_again hwrite (String.ofList t.write).toUTF8
  refine ⟨d'', ?_⟩
  rw [save, Disk.makeFolders_again hmade (Disk.keeps_of_write hwrite)]
  simp only [hagain]

/-- Settings that are saved are loaded as they were, but for an empty hover folder, which is the one of
the home. What is loaded can be saved, and is loaded again. -/
theorem load_of_save (hs : s.save d h = .ok d') :
    load d' h =
      ({ s with hoverFolder := if s.hoverFolder.isEmpty then h.hoverFolder else s.hoverFolder }, d') ∧
    ∃ d'', (load d' h).1.save d' h = .ok d'' ∧ load d'' h = ((load d' h).1, d'') := by
  have hload := load_of_save_eq hs
  obtain ⟨d'', hagain⟩ := save_again hs (s.complete h)
  refine ⟨?_, d'', ?_, ?_⟩
  · rw [hload, complete]
    split <;> rfl
  · rw [hload]
    exact hagain
  · rw [hload, load_of_save_eq hagain, complete_complete]

/-- Settings with marks of both kinds, line feeds and control characters. -/
def markedSettings : Settings where
  hotReload := true
  reloadCommand := "a\"\"\"\"'''\\\n\t\x01\x7f\rz"
  nameChoice := .symbolTable
  catalogPath := "C:\\'items'"
  symbolTablePath := "\"\n"

theorem load_of_save_marked : ∃ d', markedSettings.save {} ⟨"/home/u", none⟩ = .ok d' ∧
    load d' ⟨"/home/u", none⟩ =
      ({ markedSettings with hoverFolder := "/home/u/.config/item-hovers/hovers" }, d') := by
  have hok : (markedSettings.save {} ⟨"/home/u", none⟩).toOption.isSome = true := by decide +kernel
  cases hs : markedSettings.save {} ⟨"/home/u", none⟩ with
  | error e => rw [hs] at hok; cases hok
  | ok d' => exact ⟨d', rfl, (load_of_save hs).1⟩

end ItemHover.Settings
