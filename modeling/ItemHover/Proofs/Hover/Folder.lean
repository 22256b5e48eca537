import ItemHover.Hover.Folder
import ItemHover.Proofs.File.Disk
import ItemHover.Proofs.Text.ByteOrder
import Mathlib.Data.List.Sort

/-!
# What a hover folder holds

Loading a folder gives the hover maps among its hover files in byte order of their names, whatever the
order in which the disk lists them.
-/

namespace ItemHover.Hover

open File File.Disk

variable {d d' : Disk} {base place : Place} {folder : Path} {n : String}

/-- The hover map that some bytes hold: they are text that reads as a document with the sentinel. -/
def hoverMap? (content : ByteArray) : Option Document :=
  ((String.fromUTF8? content).bind fun s => Document.read? s.toList).filter (·.isHoverMap)

def hoverMapAt? (d : Disk) (p : Place) : Option Document :=
  match d.at? p with
  | some (.file content) => hoverMap? content
  | _ => none

def hoverNames (d : Disk) (place : Place) : List String :=
  (((d.names place).filter fun n => d.at? (place ++ [n]) != some .folder).mergeSort
    (· ≤ ·)).filter isHoverFile

/-! ## Sorting -/

/-- Where two elements in either order are one element, sorting forgets the order that there was. -/
theorem mergeSort_eq_of_perm {α : Type} {le : α → α → Bool}
    (htrans : ∀ a b c, le a b = true → le b c = true → le a c = true)
    (htotal : ∀ a b, (le a b || le b a) = true)
    (hanti : ∀ a b, le a b = true → le b a = true → a = b) {as bs : List α} (h : as.Perm bs) :
    as.mergeSort le = bs.mergeSort le := by
  have hp : (as.mergeSort le).Perm (bs.mergeSort le) :=
    (List.mergeSort_perm as le).trans (h.trans (List.mergeSort_perm bs le).symm)
  exact hp.eq_of_pairwise (fun a b _ _ => hanti a b) (List.pairwise_mergeSort htrans htotal as)
    (List.pairwise_mergeSort htrans htotal bs)

theorem le_or_le (a b : String) : (decide (a ≤ b) || decide (b ≤ a)) = true := by
  simpa using String.le_total a b

theorem le_of_le_of_le (a b c : String) (h : decide (a ≤ b) = true) (h' : decide (b ≤ c) = true) :
    decide (a ≤ c) = true := by
  simp only [decide_eq_true_eq] at *
  exact String.le_trans h h'

theorem eq_of_le_of_le (a b : String) (h : decide (a ≤ b) = true) (h' : decide (b ≤ a) = true) : a = b := by
  simp only [decide_eq_true_eq] at *
  exact String.le_antisymm h h'

theorem pairwise_lt_mergeSort {ns : List String} (h : ns.Nodup) :
    (ns.mergeSort (· ≤ ·)).Pairwise (· < ·) := by
  have hle := List.pairwise_mergeSort le_of_le_of_le le_or_le ns
  have hne : (ns.mergeSort (· ≤ ·)).Nodup := (List.mergeSort_perm ns _).nodup_iff.2 h
  refine (hle.and hne).imp ?_
  rintro a b ⟨hab, hne⟩
  simp only [decide_eq_true_eq] at hab
  by_contra hlt
  exact hne (String.le_antisymm hab (String.not_lt.1 hlt))

theorem mergeSort_filter (q : String → Bool) (ns : List String) :
    (ns.filter q).mergeSort (· ≤ ·) = (ns.mergeSort (· ≤ ·)).filter q := by
  rw [mergeSort_eq_of_perm le_of_le_of_le le_or_le eq_of_le_of_le ((List.mergeSort_perm ns _).symm.filter q)]
  exact List.mergeSort_of_pairwise ((List.pairwise_mergeSort le_of_le_of_le le_or_le ns).filter q)

/-! ## The hover files of a folder -/

theorem mem_hoverNames_iff (hd : d.WellFormed) :
    n ∈ hoverNames d place ↔
      isHoverFile n = true ∧ ∃ content, d.at? (place ++ [n]) = some (.file content) := by
  simp only [hoverNames, List.mem_filter, List.mem_mergeSort, hd.mem_names_iff]
  cases hn : d.at? (place ++ [n]) with
  | none => simp
  | some node =>
    cases node with
    | folder => simp
    | file content => simp [and_comm]

theorem hoverNames_pairwise_bytes (hd : d.WellFormed) (place : Place) :
    (hoverNames d place).Pairwise fun m n => Text.bytes m < Text.bytes n := by
  have hlt := pairwise_lt_mergeSort ((hd.nodup_names place).filter
    fun n => d.at? (place ++ [n]) != some .folder)
  exact (hlt.filter isHoverFile).imp Text.bytes_lt

theorem eq_of_pairwise_bytes {ms ns : List String} (hm : ms.Pairwise fun m n => Text.bytes m < Text.bytes n)
    (hn : ns.Pairwise fun m n => Text.bytes m < Text.bytes n) (h : ∀ n, n ∈ ms ↔ n ∈ ns) : ms = ns := by
  have hirrefl : Std.Irrefl fun m n => Text.bytes m < Text.bytes n := ⟨fun _ => List.lt_irrefl _⟩
  have hantisymm : Std.Antisymm fun m n => Text.bytes m < Text.bytes n :=
    ⟨fun _ _ hab hba => absurd (List.lt_trans hab hba) (List.lt_irrefl _)⟩
  exact List.Pairwise.eq_of_mem_iff hm hn h

theorem isName_of_mem_hoverNames (hd : d.WellFormed) (h : n ∈ hoverNames d place) : Path.IsName n := by
  simp only [hoverNames, List.mem_filter, List.mem_mergeSort] at h
  exact hd.isName_of_mem_names h.1.1

/-! ## Loading -/

theorem loadFile_join (h : d.find base folder = .ok (place, .folder)) (hn : Path.IsName n) :
    (loadFile d base (folder.join n)).toOption = hoverMapAt? d (place ++ [n]) := by
  unfold loadFile readText hoverMapAt?
  rw [find_join h hn]
  cases d.at? (place ++ [n]) with
  | none => rfl
  | some node =>
    cases node with
    | folder => rfl
    | file content =>
      simp only [bind, Except.bind, hoverMap?]
      cases String.fromUTF8? content with
      | none => rfl
      | some s =>
        simp only [pure, Except.pure, Option.bind_some]
        cases Document.read? s.toList with
        | none => rfl
        | some doc => by_cases hm : doc.isHoverMap = true <;> simp [hm, Except.toOption, Option.filter]

theorem fileNames_of_find (h : d.find base folder = .ok (place, .folder)) :
    d.fileNames base folder =
      .ok (((d.names place).filter fun n => d.at? (place ++ [n]) != some .folder).mergeSort
        (· ≤ ·)) := by
  unfold fileNames
  rw [h]
  rfl

theorem exists_find_of_loadFolder {docs : List Document} (h : loadFolder d base folder = .ok docs) :
    ∃ place, d.find base folder = .ok (place, .folder) := by
  unfold loadFolder fileNames at h
  cases hf : d.find base folder with
  | error cause => rw [hf] at h; cases h
  | ok found =>
    obtain ⟨place, node⟩ := found
    cases node with
    | folder => exact ⟨place, rfl⟩
    | file content => rw [hf] at h; cases h

theorem loadFolder_of_find (hd : d.WellFormed) (h : d.find base folder = .ok (place, .folder)) :
    loadFolder d base folder =
      .ok ((hoverNames d place).filterMap fun n => hoverMapAt? d (place ++ [n])) := by
  unfold loadFolder
  rw [fileNames_of_find h]
  refine congrArg Except.ok (List.filterMap_congr ?_)
  intro n hn
  exact loadFile_join h (isName_of_mem_hoverNames hd hn)

theorem loadFolder_of_names (hd : d.WellFormed) (h : d.find base folder = .ok (place, .folder)) :
    loadFolder d base folder = .ok (((d.names place).mergeSort (· ≤ ·)).filterMap fun n =>
      if isHoverFile n then (loadFile d base (folder.join n)).toOption else none) := by
  rw [loadFolder_of_find hd h, hoverNames, mergeSort_filter, List.filterMap_filter, List.filterMap_filter]
  refine congrArg Except.ok (List.filterMap_congr ?_)
  intro n hn
  rw [loadFile_join h (hd.isName_of_mem_names (List.mem_mergeSort.1 hn)), hoverMapAt?]
  cases d.at? (place ++ [n]) with
  | none => simp
  | some node => cases node <;> simp

theorem mem_loadFolderOrEmpty_iff (hd : d.WellFormed) {doc : Document} :
    doc ∈ loadFolderOrEmpty d base folder ↔ ∃ place n, d.find base folder = .ok (place, .folder) ∧
      n ∈ hoverNames d place ∧ hoverMapAt? d (place ++ [n]) = some doc := by
  unfold loadFolderOrEmpty
  constructor
  · intro hdoc
    cases hload : loadFolder d base folder with
    | error e =>
      rw [hload] at hdoc
      cases hdoc
    | ok docs =>
      obtain ⟨place, hfind⟩ := exists_find_of_loadFolder hload
      rw [loadFolder_of_find hd hfind] at hdoc
      obtain ⟨n, hn, hmap⟩ := List.mem_filterMap.1 hdoc
      exact ⟨place, n, hfind, hn, hmap⟩
  · rintro ⟨place, n, hfind, hn, hmap⟩
    rw [loadFolder_of_find hd hfind]
    exact List.mem_filterMap.2 ⟨n, hn, hmap⟩

/-! ## Another order of the same files -/

theorem walk_congr (h : d'.at? = d.at?) (p : Place) (parts : List String) :
    d'.walk p parts = d.walk p parts := by
  induction parts generalizing p with
  | nil => rfl
  | cons s rest ih => simp only [walk, h, ih]

theorem find_congr (h : d'.at? = d.at?) (base : Place) (folder : Path) :
    d'.find base folder = d.find base folder := by
  simp only [find, locate, walk_congr h, h]

theorem loadFolder_perm (hd : d.WellFormed) (h : d.nodes.Perm d'.nodes) (base : Place) (folder : Path) :
    loadFolder d' base folder = loadFolder d base folder := by
  have hat := hd.at?_perm h
  have hfile : loadFile d' base = loadFile d base := by
    funext p
    simp only [loadFile, readText, find_congr hat]
  have hnames : d'.fileNames base folder = d.fileNames base folder := by
    simp only [fileNames, find_congr hat, hat]
    cases d.find base folder with
    | error cause => rfl
    | ok found =>
      obtain ⟨place, node⟩ := found
      cases node with
      | file content => rfl
      | folder =>
        have hperm := ((names_perm h place).filter fun n => d.at? (place ++ [n]) != some .folder)
        simp only [bind, Except.bind,
          mergeSort_eq_of_perm le_of_le_of_le le_or_le eq_of_le_of_le hperm]
  simp only [loadFolder, hnames, hfile]

end ItemHover.Hover
