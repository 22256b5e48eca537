import ItemHover.Proofs.File.Disk

/-!
# Written files and made folders

A file that is written is read back under the same path, and can be written again. Folders that are made
are there. Neither makes a path lead elsewhere, because no folder is lost.
-/

namespace ItemHover.File.Disk

variable {d d' : Disk} {base p q place : Place} {path : Path} {parts : List String} {node : Node}
  {content : ByteArray} {changes : List Change}

/-! ## What stands at a place -/

theorem at?_put_self (hp : p ≠ []) (node : Node) : (d.put p node).at? p = some node := by
  have hempty : p.isEmpty = false := by simpa using hp
  have hnone : (d.nodes.filter fun e => e.1 != p).find? (·.1 == p) = none := by
    simp [List.find?_eq_none]
  simp [at?, put, hempty, List.find?_append, hnone]

theorem at?_put_of_ne (h : q ≠ p) (node : Node) : (d.put p node).at? q = d.at? q := by
  have hsame : (fun e : Place × Node => decide ((e.1 != p) = true ∧ (e.1 == q) = true)) =
      fun e => e.1 == q := by
    funext e
    by_cases he : e.1 = q
    · simp [he, h]
    · simp [he]
  have hpq : (p == q) = false := by simpa using Ne.symm h
  simp only [at?, put, List.find?_append, List.find?_filter, hsame, List.find?_singleton, hpq,
    Bool.false_eq_true, if_false, Option.or_none]

/-! ## Paths on a disk with more on it -/

def Keeps (d d' : Disk) : Prop := ∀ p, d.at? p = some .folder → d'.at? p = some .folder

theorem keeps_put (hp : d.at? p ≠ some .folder) (node : Node) : d.Keeps (d.put p node) := by
  intro q hq
  have hne : q ≠ p := by
    rintro rfl
    exact hp hq
  rw [at?_put_of_ne hne, hq]

theorem Keeps.walk (h : d.Keeps d') (hw : d.walk p parts = .ok q) : d'.walk p parts = .ok q := by
  induction parts generalizing p with
  | nil => exact hw
  | cons s rest ih =>
    rw [Disk.walk] at hw ⊢
    cases hat : d.at? p with
    | none => rw [hat] at hw; cases hw
    | some node =>
      cases node with
      | file content => rw [hat] at hw; cases hw
      | folder =>
        rw [hat] at hw
        rw [h p hat]
        simp only at hw ⊢
        by_cases hidle : Path.isIdle s = true
        · rw [if_pos hidle] at hw ⊢
          exact ih hw
        · rw [if_neg hidle] at hw ⊢
          by_cases hback : (s == "..") = true
          · rw [if_pos hback] at hw ⊢
            exact ih hw
          · rw [if_neg hback] at hw ⊢
            exact ih hw

theorem Keeps.locate (h : d.Keeps d') (hl : d.locate base path = .ok place) :
    d'.locate base path = .ok place := by
  unfold Disk.locate at hl ⊢
  split at hl
  · cases hl
  · rename_i hne
    rw [if_neg hne]
    exact h.walk hl

/-! ## Writing a file -/

theorem write_eq_ok (hl : d.locate base path = .ok place) (hp : d.at? place ≠ some .folder)
    (content : ByteArray) : ∃ changes, d.write base path content = .ok (d.put place (.file content), changes) := by
  unfold write
  rw [hl]
  simp only [bind, Except.bind]
  cases hat : d.at? place with
  | none => exact ⟨_, rfl⟩
  | some node =>
    cases node with
    | folder => exact absurd hat hp
    | file old => exact ⟨_, rfl⟩

theorem exists_put_of_write (h : d.write base path content = .ok (d', changes)) :
    ∃ place, d.locate base path = .ok place ∧ d.at? place ≠ some .folder ∧
      d' = d.put place (.file content) ∧
      (changes = [.written place] ∨ changes = [.created place, .written place]) := by
  unfold write at h
  cases hl : d.locate base path with
  | error cause => rw [hl] at h; cases h
  | ok place =>
    refine ⟨place, rfl, ?_⟩
    rw [hl] at h
    simp only [bind, Except.bind] at h
    cases hat : d.at? place with
    | none =>
      rw [hat] at h
      cases h
      simp
    | some node =>
      rw [hat] at h
      cases node with
      | folder => cases h
      | file old =>
        cases h
        simp

theorem keeps_of_write (h : d.write base path content = .ok (d', changes)) : d.Keeps d' := by
  obtain ⟨place, -, hp, rfl, -⟩ := exists_put_of_write h
  exact keeps_put hp _

theorem find_of_write (h : d.write base path content = .ok (d', changes)) :
    ∃ place, d'.find base path = .ok (place, .file content) := by
  have hkeeps := keeps_of_write h
  obtain ⟨place, hl, hp, rfl, -⟩ := exists_put_of_write h
  have hne : place ≠ [] := by
    rintro rfl
    exact hp rfl
  exact ⟨place, find_eq_ok_iff.2 ⟨hkeeps.locate hl, at?_put_self hne _⟩⟩

theorem fromUTF8?_toUTF8 (s : String) : String.fromUTF8? s.toUTF8 = some s := by
  unfold String.fromUTF8?
  exact dif_pos s.isValidUTF8

theorem readText_of_write {s : String} (h : d.write base path s.toUTF8 = .ok (d', changes)) :
    d'.readText base path = .ok s := by
  obtain ⟨place, hf⟩ := find_of_write h
  simp only [readText, hf, bind, Except.bind, fromUTF8?_toUTF8]
  rfl

theorem write_again (h : d.write base path content = .ok (d', changes)) (new : ByteArray) :
    ∃ d'' changes', d'.write base path new = .ok (d'', changes') := by
  obtain ⟨place, hf⟩ := find_of_write h
  obtain ⟨hl, hat⟩ := find_eq_ok_iff.1 hf
  obtain ⟨changes', hwrite⟩ := write_eq_ok hl (by simp [hat]) new
  exact ⟨_, changes', hwrite⟩

theorem write_of_readText {s : String} (h : d.readText base path = .ok s) (new : ByteArray) :
    ∃ d' changes, d.write base path new = .ok (d', changes) := by
  unfold readText at h
  cases hf : d.find base path with
  | error cause => rw [hf] at h; cases h
  | ok found =>
    obtain ⟨place, node⟩ := found
    obtain ⟨hl, hat⟩ := find_eq_ok_iff.1 hf
    cases node with
    | folder => rw [hf] at h; cases h
    | file old =>
      obtain ⟨changes, hwrite⟩ := write_eq_ok hl (by simp [hat]) new
      exact ⟨_, changes, hwrite⟩

/-! ## Making folders -/

theorem exists_put_of_makeFolder (h : d.makeFolder base parts = .ok (d', changes)) :
    ∃ place, d.walk base parts = .ok place ∧ d.at? place = none ∧ d' = d.put place .folder ∧
      changes = [.created place] := by
  unfold makeFolder at h
  cases hw : d.walk base parts with
  | error cause => rw [hw] at h; cases h
  | ok place =>
    refine ⟨place, rfl, ?_⟩
    rw [hw] at h
    simp only [bind, Except.bind] at h
    cases hat : d.at? place with
    | some node => rw [hat] at h; cases h
    | none =>
      rw [hat] at h
      cases h
      exact ⟨rfl, rfl, rfl⟩

/-- Making a folder and those above it is making folders one after another. -/
theorem makeBack_induction {P : Disk → List Change → Prop} (start : P d [])
    (step : ∀ d₁ d₂ made more names, (∀ s ∈ names, s ∈ parts) → P d₁ made →
      d₁.makeFolder base names = .ok (d₂, more) → P d₂ (made ++ more))
    (h : d.makeBack base parts = .ok (d', changes)) : P d' changes := by
  induction parts generalizing d' changes with
  | nil =>
    cases h
    exact start
  | cons s back ih =>
    have hlast : ∀ t ∈ (s :: back).reverse, t ∈ s :: back := fun t => List.mem_reverse.1
    rw [makeBack] at h
    split at h
    · -- The folder above is there already.
      rename_i made hmade
      cases h
      exact step d d' [] changes _ hlast start hmade
    · split at h
      · cases h
      · -- The folders above are made first.
        rename_i d₁ made hback
        have habove := ih (fun d₁ d₂ made more names hnames =>
          step d₁ d₂ made more names fun t ht => List.mem_cons_of_mem s (hnames t ht)) hback
        split at h
        · rename_i d₂ more hmade
          cases h
          exact step d₁ d' made more _ hlast habove hmade
        · split at h <;> cases h
          exact habove
    · split at h <;> cases h
      exact start

/-- Another disk has all that a disk has, and beyond that only folders. -/
structure AddsFolders (d d' : Disk) : Prop where
  at? : ∀ p node, d.at? p = some node → d'.at? p = some node
  file : ∀ p content, d'.at? p = some (.file content) → d.at? p = some (.file content)

theorem AddsFolders.keeps (h : d.AddsFolders d') : d.Keeps d' := fun p => h.at? p .folder

theorem AddsFolders.file_iff (h : d.AddsFolders d') :
    d'.at? p = some (.file content) ↔ d.at? p = some (.file content) :=
  ⟨h.file p content, h.at? p (.file content)⟩

theorem addsFolders_refl (d : Disk) : d.AddsFolders d := ⟨fun _ _ h => h, fun _ _ h => h⟩

theorem AddsFolders.trans {d'' : Disk} (h : d.AddsFolders d') (h' : d'.AddsFolders d'') : d.AddsFolders d'' :=
  ⟨fun p node hp => h'.at? p node (h.at? p node hp), fun p content hp => h.file p content (h'.file p content hp)⟩

theorem addsFolders_of_makeFolder (h : d.makeFolder base parts = .ok (d', changes)) : d.AddsFolders d' := by
  obtain ⟨place, -, hat, rfl, -⟩ := exists_put_of_makeFolder h
  have hroot : place ≠ [] := by
    rintro rfl
    cases hat
  refine ⟨?_, ?_⟩
  · intro q node hq
    have hne : q ≠ place := by
      rintro rfl
      rw [hq] at hat
      cases hat
    rw [at?_put_of_ne hne, hq]
  · intro q content hq
    have hne : q ≠ place := by
      rintro rfl
      rw [at?_put_self hroot] at hq
      cases hq
    rwa [at?_put_of_ne hne] at hq

theorem leadToFolder_iff :
    d.leadToFolder base parts = true ↔ ∃ place, d.walk base parts = .ok place ∧ d.at? place = some .folder := by
  unfold leadToFolder
  cases d.walk base parts <;> simp

theorem leadToFolder_of_makeFolder (h : d.makeFolder base parts = .ok (d', changes)) :
    d'.leadToFolder base parts = true := by
  have hkeeps := (addsFolders_of_makeFolder h).keeps
  obtain ⟨place, hw, hat, rfl, -⟩ := exists_put_of_makeFolder h
  have hne : place ≠ [] := by
    rintro rfl
    cases hat
  exact leadToFolder_iff.2 ⟨place, hkeeps.walk hw, at?_put_self hne _⟩

theorem Keeps.leadToFolder (h : d.Keeps d') (hl : d.leadToFolder base parts = true) :
    d'.leadToFolder base parts = true := by
  obtain ⟨place, hw, hat⟩ := leadToFolder_iff.1 hl
  exact leadToFolder_iff.2 ⟨place, h.walk hw, h place hat⟩

theorem makeFolder_of_leadToFolder (h : d.leadToFolder base parts = true) :
    d.makeFolder base parts = .error .occupied := by
  obtain ⟨place, hw, hat⟩ := leadToFolder_iff.1 h
  simp [makeFolder, hw, bind, Except.bind, hat, throw, throwThe, MonadExceptOf.throw]

theorem addsFolders_of_makeBack (h : d.makeBack base parts = .ok (d', changes)) : d.AddsFolders d' :=
  makeBack_induction (P := fun d' _ => d.AddsFolders d') (addsFolders_refl d)
    (fun _ _ _ _ _ _ hadds hmade => hadds.trans (addsFolders_of_makeFolder hmade)) h

theorem leadToFolder_of_makeBack {s : String} {back : List String}
    (h : d.makeBack base (s :: back) = .ok (d', changes)) :
    d'.leadToFolder base (s :: back).reverse = true := by
  rw [makeBack] at h
  split at h
  · rename_i made hmade
    cases h
    exact leadToFolder_of_makeFolder hmade
  · split at h
    · cases h
    · split at h
      · rename_i d₂ more hmade
        cases h
        exact leadToFolder_of_makeFolder hmade
      · split at h
        · rename_i hlead
          cases h
          exact hlead
        · cases h
  · split at h
    · rename_i hlead
      cases h
      exact hlead
    · cases h

/-- Folders that have been made are not made again, whatever else has come on the disk. -/
theorem makeBack_again {d'' : Disk} (h : d.makeBack base parts = .ok (d', changes)) (hk : d'.Keeps d'') :
    d''.makeBack base parts = .ok (d'', []) := by
  cases parts with
  | nil => rfl
  | cons s back =>
    have hlead := hk.leadToFolder (leadToFolder_of_makeBack h)
    simp only [makeBack, makeFolder_of_leadToFolder hlead, hlead, if_true]

theorem addsFolders_of_makeFolders (h : d.makeFolders base path = .ok (d', changes)) : d.AddsFolders d' :=
  addsFolders_of_makeBack h

theorem makeFolders_again {d'' : Disk} (h : d.makeFolders base path = .ok (d', changes))
    (hk : d'.Keeps d'') : d''.makeFolders base path = .ok (d'', []) :=
  makeBack_again h hk

end ItemHover.File.Disk
