import ItemHover.Proofs.Hover.Folder
import ItemHover.Proofs.Hover.Format

/-!
# Loading a hover folder

What is loaded from a folder hangs on the hover maps in it and on nothing else: not on other files or
folders, not on files that are broken, and not on the order in which the disk lists them all.
-/

namespace ItemHover.Hover

open File File.Disk

variable {d d' : Disk} {base base' place place' : Place} {folder folder' : Path} {n : String}
  {p : PreparedDocument}

/-! ## Names of hover files -/

def IsHoverName (n : String) : Prop := ∃ stem, stem ≠ "" ∧ n = stem ++ ".json"

theorem isHoverFile_iff : isHoverFile n = true ↔ IsHoverName n := by
  unfold isHoverFile Path.extension?
  constructor
  · intro h
    simp only [beq_iff_eq] at h
    split at h
    · rename_i point c cs hdrop
      split at h
      · cases h
      · -- The extension is read from the end of the name.
        have hext : n.toList.reverse.takeWhile (· != '.') = ['n', 'o', 's', 'j'] := by
          simpa [fileExtension, ← String.toList_inj, List.reverse_eq_iff] using h
        have hpoint : point = '.' := by
          have := List.head?_dropWhile_not (· != '.') n.toList.reverse
          simpa [hdrop] using this
        have hsplit := List.takeWhile_append_dropWhile (p := (· != '.')) (l := n.toList.reverse)
        rw [hext, hdrop, hpoint] at hsplit
        have hn : n.toList = (c :: cs).reverse ++ ".json".toList := by
          rw [← List.reverse_reverse n.toList, ← hsplit, List.reverse_append, List.reverse_cons,
            List.append_assoc]
          rfl
        refine ⟨String.ofList (c :: cs).reverse, ?_, ?_⟩
        · simp [← String.toList_inj]
        · simp [← String.toList_inj, hn]
    · cases h
  · rintro ⟨stem, hne, rfl⟩
    have hne' : stem.toList.reverse ≠ [] := by simpa using hne
    obtain ⟨c, cs, hstem⟩ := List.exists_cons_of_ne_nil hne'
    have hback : (stem ++ ".json").toList.reverse = ['n', 'o', 's', 'j', '.'] ++ c :: cs := by
      rw [String.toList_append, List.reverse_append, hstem]
      rfl
    rw [hback]
    simp [fileExtension]

/-! ## Hover maps of a folder -/

theorem hoverMap?_write (doc : Document) :
    hoverMap? (String.ofList doc.write).toUTF8 = if doc.isHoverMap = true then some doc else none := by
  rw [hoverMap?, fromUTF8?_toUTF8, Option.bind_some, String.toList_ofList, read?_write, Option.filter_some]

def HasMap (d : Disk) (base : Place) (folder : Path) (n : String) : Prop :=
  Path.IsName n ∧ IsHoverName n ∧ ∃ doc, loadFile d base (folder.join n) = .ok doc

def mapNames (d : Disk) (place : Place) : List String :=
  (hoverNames d place).filter fun n => (hoverMapAt? d (place ++ [n])).isSome

theorem exists_file_of_hoverMapAt? (h : (hoverMapAt? d (place ++ [n])).isSome = true) :
    ∃ content, d.at? (place ++ [n]) = some (.file content) := by
  unfold hoverMapAt? at h
  split at h
  · exact ⟨_, ‹_›⟩
  · cases h

theorem mem_mapNames (hd : d.WellFormed) :
    n ∈ mapNames d place ↔ IsHoverName n ∧ (hoverMapAt? d (place ++ [n])).isSome = true := by
  rw [mapNames, List.mem_filter, mem_hoverNames_iff hd, isHoverFile_iff, and_assoc]
  exact and_congr_right fun _ => and_iff_right_of_imp exists_file_of_hoverMapAt?

theorem mem_mapNames_iff_hasMap (hd : d.WellFormed) (h : d.find base folder = .ok (place, .folder)) :
    n ∈ mapNames d place ↔ HasMap d base folder n := by
  have hloaded (hn : Path.IsName n) : (hoverMapAt? d (place ++ [n])).isSome = true ↔
      ∃ doc, loadFile d base (folder.join n) = .ok doc := by
    rw [← loadFile_join h hn]
    cases loadFile d base (folder.join n) <;> simp [Except.toOption]
  constructor
  · intro hmem
    have hn : Path.IsName n := isName_of_mem_hoverNames hd (List.mem_of_mem_filter hmem)
    rw [mem_mapNames hd, hloaded hn] at hmem
    exact ⟨hn, hmem⟩
  · rintro ⟨hn, hmap⟩
    rwa [mem_mapNames hd, hloaded hn]

theorem loadFolder_of_mapNames (hd : d.WellFormed) (h : d.find base folder = .ok (place, .folder)) :
    loadFolder d base folder =
      .ok ((mapNames d place).filterMap fun n => hoverMapAt? d (place ++ [n])) := by
  rw [loadFolder_of_find hd h, mapNames, List.filterMap_filter]
  refine congrArg Except.ok (List.filterMap_congr fun n _ => ?_)
  cases hoverMapAt? d (place ++ [n]) <;> rfl

/-- Two folders with the same hover maps under the same names give the same documents. -/
theorem loadFolder_congr (hd : d.WellFormed) (h : d.find base folder = .ok (place, .folder))
    (hd' : d'.WellFormed) (h' : d'.find base' folder' = .ok (place', .folder))
    (hsame : ∀ n, HasMap d base folder n ∨ HasMap d' base' folder' n →
      d'.at? (place' ++ [n]) = d.at? (place ++ [n])) :
    loadFolder d' base' folder' = loadFolder d base folder := by
  have hat (n : String) (hn : n ∈ mapNames d place ∨ n ∈ mapNames d' place') :
      hoverMapAt? d' (place' ++ [n]) = hoverMapAt? d (place ++ [n]) := by
    simp only [hoverMapAt?,
      hsame n (hn.imp (mem_mapNames_iff_hasMap hd h).1 (mem_mapNames_iff_hasMap hd' h').1)]
  -- Both lists are in byte order, so they are equal once they have the same members.
  have hnames : mapNames d' place' = mapNames d place := by
    refine eq_of_pairwise_bytes ((hoverNames_pairwise_bytes hd' place').filter _)
      ((hoverNames_pairwise_bytes hd place).filter _) fun n => ⟨fun hn => ?_, fun hn => ?_⟩
    · have hmap := (mem_mapNames hd').1 hn
      rw [hat n (Or.inr hn)] at hmap
      exact (mem_mapNames hd).2 hmap
    · have hmap := (mem_mapNames hd).1 hn
      rw [← hat n (Or.inl hn)] at hmap
      exact (mem_mapNames hd').2 hmap
  rw [loadFolder_of_mapNames hd h, loadFolder_of_mapNames hd' h', hnames]
  refine congrArg Except.ok (List.filterMap_congr fun n hn => ?_)
  exact hat n (Or.inl hn)

/-! ## Documents with their templates -/

namespace PreparedDocument

def loadFolder (d : Disk) (base : Place) (folder : Path) : Except Error (List PreparedDocument) :=
  (Hover.loadFolder d base folder).map (·.map fun doc => (ofDocument doc).prepare)

/-- A file is accepted if its text is a document with the sentinel. The lines of every hover are joined. -/
theorem load_eq_ok_iff {path : Path} :
    load d base path = .ok p ↔ ∃ s doc, d.readText base path = .ok s ∧
      Document.read? s.toList = some doc ∧ doc.sentinel = some "absolutely" ∧
      p = ⟨doc.sentinel, doc.definitions.map fun f => ⟨f, f.hovers.map ("</br>".intercalate ·), ∅⟩⟩ := by
  unfold load loadFile
  cases d.readText base path with
  | error cause => simp [Except.map]
  | ok s =>
    cases hdoc : Document.read? s.toList with
    | none => simp [Except.map, hdoc]
    | some doc =>
      have hprepare : (ofDocument doc).prepare =
          ⟨doc.sentinel, doc.definitions.map fun f => ⟨f, f.hovers.map ("</br>".intercalate ·), ∅⟩⟩ := by
        simp [ofDocument, prepare, Definition.templates, lineBreak, Function.comp_def]
      by_cases hmap : doc.sentinel = some "absolutely"
      · simp [Except.map, hdoc, hmap, Document.isHoverMap, hoverMapSentinel, hprepare, eq_comm]
      · simp [Except.map, hdoc, hmap, Document.isHoverMap, hoverMapSentinel]

theorem toOption_load (h : d.find base folder = .ok (place, .folder)) (hn : Path.IsName n) :
    (load d base (folder.join n)).toOption =
      (hoverMapAt? d (place ++ [n])).map fun doc => (ofDocument doc).prepare := by
  rw [← loadFile_join h hn, load]
  cases loadFile d base (folder.join n) <;> rfl

theorem loadFolder_of_hoverNames (hd : d.WellFormed) (h : d.find base folder = .ok (place, .folder)) :
    loadFolder d base folder =
      .ok ((hoverNames d place).filterMap fun n => (load d base (folder.join n)).toOption) := by
  rw [loadFolder, loadFolder_of_find hd h, Except.map, List.map_filterMap]
  refine congrArg Except.ok (List.filterMap_congr fun n hn => ?_)
  exact (toOption_load h (isName_of_mem_hoverNames hd hn)).symm

/-- Loading a folder gives what loading each of its hover files gives, in byte order of their names, and
every document comes with the lines of its hovers joined. The order in which the disk lists the files does
not matter, and neither does anything in the folder but its hover maps. -/
theorem loadFolder_exact (hd : d.WellFormed) (h : d.find base folder = .ok (place, .folder)) :
    (∃ files : List String,
      files.Pairwise (fun m n => Text.bytes m < Text.bytes n) ∧
      (∀ n, n ∈ files ↔
        (∃ stem, stem ≠ "" ∧ n = stem ++ ".json") ∧ ∃ content, d.at? (place ++ [n]) = some (.file content)) ∧
      loadFolder d base folder =
        .ok (files.filterMap fun n => (load d base (folder.join n)).toOption)) ∧
    (∀ path p, load d base path = .ok p ↔ ∃ s doc, d.readText base path = .ok s ∧
      Document.read? s.toList = some doc ∧ doc.sentinel = some "absolutely" ∧
      p = ⟨doc.sentinel, doc.definitions.map fun f => ⟨f, f.hovers.map ("</br>".intercalate ·), ∅⟩⟩) ∧
    (∀ d', d.nodes.Perm d'.nodes → loadFolder d' base folder = loadFolder d base folder) ∧
    ∀ d' base' folder' place', d'.WellFormed → d'.find base' folder' = .ok (place', .folder) →
      (∀ n, HasMap d base folder n ∨ HasMap d' base' folder' n →
        d'.at? (place' ++ [n]) = d.at? (place ++ [n])) →
      loadFolder d' base' folder' = loadFolder d base folder := by
  refine ⟨⟨hoverNames d place, hoverNames_pairwise_bytes hd place, fun n => ?_,
    loadFolder_of_hoverNames hd h⟩, fun path p => load_eq_ok_iff,
    fun d' hperm => ?_, fun d' base' folder' place' hd' h' hsame => ?_⟩
  · rw [mem_hoverNames_iff hd, isHoverFile_iff, IsHoverName]
  · rw [loadFolder, loadFolder_perm hd hperm, loadFolder]
  · rw [loadFolder, loadFolder_congr hd h hd' h' hsame, loadFolder]

/-! ## Two folders -/

def mapFor (id : ItemId) : Document := ⟨some hoverMapSentinel, [⟨⟨[id], [], []⟩, [["one", "two"]]⟩]⟩

def fileOf (d : Document) : Node := .file (String.ofList d.write).toUTF8

/-- Two hover maps and much that is none, also a file without the sentinel and one that is no text. -/
def mixedDisk : Disk := ⟨[
  (["h"], .folder),
  (["h", "b.json"], fileOf (mapFor 2)),
  (["h", ".json"], fileOf (mapFor 3)),
  (["h", "a.JSON"], fileOf (mapFor 4)),
  (["h", "a.json.bak"], fileOf (mapFor 5)),
  (["h", "x.json"], .folder),
  (["h", "c.json"], fileOf { mapFor 6 with sentinel := some "Absolutely" }),
  (["h", "a.json"], fileOf (mapFor 1)),
  (["h", "A.json"], .file ⟨#[0xff]⟩)]⟩

def tidyDisk : Disk := ⟨[
  (["h"], .folder),
  (["h", "a.json"], fileOf (mapFor 1)),
  (["h", "b.json"], fileOf (mapFor 2)),
  (["h", "c.json"], .folder)]⟩

theorem wellFormed_mixedDisk : mixedDisk.WellFormed := by decide

theorem wellFormed_tidyDisk : tidyDisk.WellFormed := by decide

theorem find_mixedDisk : mixedDisk.find [] "h" = .ok (["h"], .folder) := by decide +kernel

theorem find_tidyDisk : tidyDisk.find [] "/h/" = .ok (["h"], .folder) := by decide +kernel

theorem mem_files_mixedDisk :
    n ∈ ["A.json", "a.json", "b.json", "c.json"] ↔ (∃ stem, stem ≠ "" ∧ n = stem ++ ".json") ∧
      ∃ content, mixedDisk.at? (["h"] ++ [n]) = some (.file content) := by
  have hfiles : ∀ n ∈ ["A.json", "a.json", "b.json", "c.json"], isHoverFile n = true ∧
      ∃ content, mixedDisk.at? (["h"] ++ [n]) = some (.file content) := by
    simp only [List.forall_mem_cons, List.not_mem_nil, false_implies, implies_true, and_true]
    exact ⟨⟨by decide, _, rfl⟩, ⟨by decide, _, rfl⟩, ⟨by decide, _, rfl⟩, ⟨by decide, _, rfl⟩⟩
  have hlisted : ∀ n ∈ mixedDisk.names ["h"], isHoverFile n = true → n = "x.json" ∨
      n ∈ ["A.json", "a.json", "b.json", "c.json"] := by decide
  rw [← IsHoverName, ← isHoverFile_iff]
  constructor
  · exact hfiles n
  · rintro ⟨hname, content, hat⟩
    have hmem : n ∈ mixedDisk.names ["h"] := by
      rw [wellFormed_mixedDisk.mem_names_iff, hat]
      rfl
    rcases hlisted n hmem hname with rfl | hn
    · cases hat
    · exact hn

def mapOf? (n : String) : Option Document :=
  if n = "a.json" then some (mapFor 1) else if n = "b.json" then some (mapFor 2) else none

theorem hoverMapAt?_mixedDisk :
    ∀ n ∈ ["A.json", "a.json", "b.json", "c.json"], hoverMapAt? mixedDisk (["h"] ++ [n]) = mapOf? n := by
  have hfirst : mixedDisk.at? ["h", "a.json"] = some (fileOf (mapFor 1)) := rfl
  have hsecond : mixedDisk.at? ["h", "b.json"] = some (fileOf (mapFor 2)) := rfl
  have hother : mixedDisk.at? ["h", "c.json"] =
      some (fileOf { mapFor 6 with sentinel := some "Absolutely" }) := rfl
  simp only [List.forall_mem_cons, List.singleton_append, hoverMapAt?, hfirst, hsecond, hother, fileOf,
    hoverMap?_write]
  decide

theorem at?_of_hasMap (h : HasMap mixedDisk [] "h" n ∨ HasMap tidyDisk [] "/h/" n) :
    tidyDisk.at? (["h"] ++ [n]) = mixedDisk.at? (["h"] ++ [n]) := by
  suffices hn : n = "a.json" ∨ n = "b.json" by rcases hn with rfl | rfl <;> rfl
  rcases h with h | h
  · obtain ⟨hname, hmap⟩ := (mem_mapNames wellFormed_mixedDisk).1
      ((mem_mapNames_iff_hasMap wellFormed_mixedDisk find_mixedDisk).2 h)
    have hn := mem_files_mixedDisk.2 ⟨hname, exists_file_of_hoverMapAt? hmap⟩
    rw [hoverMapAt?_mixedDisk n hn, mapOf?] at hmap
    by_contra hneither
    rw [not_or] at hneither
    rw [if_neg hneither.1, if_neg hneither.2] at hmap
    cases hmap
  · obtain ⟨-, hmap⟩ := (mem_mapNames wellFormed_tidyDisk).1
      ((mem_mapNames_iff_hasMap wellFormed_tidyDisk find_tidyDisk).2 h)
    obtain ⟨content, hat⟩ := exists_file_of_hoverMapAt? hmap
    have hn : n ∈ tidyDisk.names ["h"] := by
      rw [wellFormed_tidyDisk.mem_names_iff, hat]
      rfl
    have hnames : tidyDisk.names ["h"] = ["a.json", "b.json", "c.json"] := by decide
    simp only [hnames, List.mem_cons, List.not_mem_nil, or_false] at hn
    rcases hn with rfl | rfl | rfl
    · exact Or.inl rfl
    · exact Or.inr rfl
    · cases hat

theorem loadFolder_mixedDisk :
    let p (id : ItemId) : PreparedDocument :=
      ⟨some "absolutely", [⟨⟨⟨[id], [], []⟩, [["one", "two"]]⟩, ["one</br>two"], ∅⟩]⟩
    mixedDisk.WellFormed ∧ mixedDisk.find [] "h" = .ok (["h"], .folder) ∧
      loadFolder mixedDisk [] "h" = .ok [p 1, p 2] ∧
      loadFolder ⟨mixedDisk.nodes.reverse⟩ [] "h" = .ok [p 1, p 2] ∧
      loadFolder tidyDisk [] "/h/" = .ok [p 1, p 2] := by
  intro p
  obtain ⟨⟨files, hsorted, hfiles, hload⟩, -, hperm, hother⟩ :=
    loadFolder_exact wellFormed_mixedDisk find_mixedDisk
  have hlist : files = ["A.json", "a.json", "b.json", "c.json"] :=
    eq_of_pairwise_bytes hsorted (by decide) fun n => (hfiles n).trans mem_files_mixedDisk.symm
  have hmixed : loadFolder mixedDisk [] "h" = .ok [p 1, p 2] := by
    have hnames : ∀ n ∈ ["A.json", "a.json", "b.json", "c.json"], Path.IsName n := by decide
    have hloaded : ∀ n ∈ ["A.json", "a.json", "b.json", "c.json"],
        (load mixedDisk [] (Path.join "h" n)).toOption =
          (mapOf? n).map fun doc => (ofDocument doc).prepare := by
      intro n hn
      rw [toOption_load find_mixedDisk (hnames n hn), hoverMapAt?_mixedDisk n hn]
    rw [hload, hlist, List.filterMap_congr hloaded]
    rfl
  refine ⟨wellFormed_mixedDisk, find_mixedDisk, hmixed, ?_, ?_⟩
  · rw [hperm ⟨mixedDisk.nodes.reverse⟩ (List.reverse_perm _).symm, hmixed]
  · rw [hother tidyDisk [] "/h/" ["h"] wellFormed_tidyDisk find_tidyDisk fun _ => at?_of_hasMap, hmixed]

end PreparedDocument

end ItemHover.Hover
