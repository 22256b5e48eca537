import ItemHover.File.Disk
import ItemHover.Proofs.File.Path
import Mathlib.Data.List.Nodup

/-!
# What a disk holds

A well-formed disk lists every place once and under names that a path can say. The order in which it
lists them means nothing, and what lies in a folder is found by the path of the folder and its name.
-/

namespace ItemHover.File.Disk

open ItemHover.File.Path (IsName)

variable {d d' : Disk} {base p place : Place} {folder : Path} {n : String} {node : Node}

/-! ## Well-formed disks -/

/-- Every place is listed once, and each is below the root and named as something can be. -/
structure WellFormed (d : Disk) : Prop where
  once : (d.nodes.map (·.1)).Nodup
  below : ∀ e ∈ d.nodes, e.1 ≠ []
  named : ∀ e ∈ d.nodes, ∀ n ∈ e.1, IsName n

instance (d : Disk) : Decidable d.WellFormed :=
  decidable_of_iff ((d.nodes.map (·.1)).Nodup ∧ (∀ e ∈ d.nodes, e.1 ≠ []) ∧
      ∀ e ∈ d.nodes, ∀ n ∈ e.1, IsName n)
    ⟨fun ⟨honce, hbelow, hnamed⟩ => ⟨honce, hbelow, hnamed⟩, fun h => ⟨h.once, h.below, h.named⟩⟩

theorem WellFormed.at?_eq_some_iff (hd : d.WellFormed) (hp : p ≠ []) :
    d.at? p = some node ↔ (p, node) ∈ d.nodes := by
  have hempty : p.isEmpty = false := by simpa using hp
  unfold at?
  simp only [hempty, Bool.false_eq_true, if_false, Option.map_eq_some_iff]
  constructor
  · rintro ⟨e, he, rfl⟩
    have heq : e.1 = p := by simpa using List.find?_some he
    have hmem := List.mem_of_find?_eq_some he
    rwa [← heq]
  · intro hmem
    cases hf : d.nodes.find? (·.1 == p) with
    | none =>
      have hnot := List.find?_eq_none.1 hf _ hmem
      simp at hnot
    | some e =>
      have heq : e.1 = p := by simpa using List.find?_some hf
      have hemem := List.mem_of_find?_eq_some hf
      -- No place has two nodes.
      have he : e = (p, node) := List.inj_on_of_nodup_map hd.once hemem hmem heq
      exact ⟨e, rfl, by rw [he]⟩

/-! ## The names in a folder -/

def nameIn (place q : Place) : Option String := if q.dropLast == place then q.getLast? else none

theorem nameIn_eq_some_iff {q : Place} : nameIn place q = some n ↔ q = place ++ [n] := by
  unfold nameIn
  constructor
  · intro h
    split at h
    · rename_i hq
      have hq : q.dropLast = place := by simpa using hq
      rw [← hq]
      exact (List.dropLast_append_getLast? n h).symm
    · cases h
  · rintro rfl
    simp

theorem names_eq_filterMap : d.names place = (d.nodes.map (·.1)).filterMap (nameIn place) := by
  rw [List.filterMap_map]
  rfl

theorem mem_names_iff_exists :
    n ∈ d.names place ↔ ∃ node, (place ++ [n], node) ∈ d.nodes := by
  simp [names_eq_filterMap, nameIn_eq_some_iff]

theorem WellFormed.mem_names_iff (hd : d.WellFormed) :
    n ∈ d.names place ↔ (d.at? (place ++ [n])).isSome := by
  rw [mem_names_iff_exists, Option.isSome_iff_exists]
  simp only [hd.at?_eq_some_iff (p := place ++ [n]) (by simp)]

theorem WellFormed.isName_of_mem_names (hd : d.WellFormed) (h : n ∈ d.names place) : IsName n := by
  obtain ⟨node, hmem⟩ := mem_names_iff_exists.1 h
  exact hd.named _ hmem n (by simp)

theorem WellFormed.nodup_names (hd : d.WellFormed) (place : Place) : (d.names place).Nodup := by
  rw [names_eq_filterMap]
  refine hd.once.filterMap ?_
  intro q q' m h h'
  rw [nameIn_eq_some_iff.1 h, nameIn_eq_some_iff.1 h']

/-! ## Another order of the same places -/

theorem WellFormed.perm (hd : d.WellFormed) (h : d.nodes.Perm d'.nodes) : d'.WellFormed where
  once := (h.map _).nodup hd.once
  below e he := hd.below e (h.mem_iff.2 he)
  named e he := hd.named e (h.mem_iff.2 he)

theorem WellFormed.at?_perm (hd : d.WellFormed) (h : d.nodes.Perm d'.nodes) : d'.at? = d.at? := by
  funext p
  by_cases hp : p = []
  · rw [hp]; rfl
  · ext node
    rw [(hd.perm h).at?_eq_some_iff hp, hd.at?_eq_some_iff hp, h.mem_iff]

theorem names_perm (h : d.nodes.Perm d'.nodes) (place : Place) :
    (d.names place).Perm (d'.names place) := by
  rw [names_eq_filterMap, names_eq_filterMap]
  exact (h.map _).filterMap _

/-! ## Walking along a path -/

theorem walk_append (d : Disk) (p : Place) (xs ys : List String) :
    d.walk p (xs ++ ys) = (d.walk p xs).bind (d.walk · ys) := by
  induction xs generalizing p with
  | nil => rfl
  | cons x xs ih =>
    rw [List.cons_append, walk, walk]
    cases d.at? p with
    | none => rfl
    | some node =>
      cases node with
      | file content => rfl
      | folder =>
        simp only
        split
        · exact ih p
        · split
          · exact ih p.dropLast
          · exact ih (p ++ [x])

theorem walk_name (h : d.at? p = some .folder) (hn : IsName n) : d.walk p [n] = .ok (p ++ [n]) := by
  have hback : (n == "..") = false := by simpa using hn.ne_points
  simp [walk, h, hn.not_idle, hback]

theorem walk_end {q : Place} (h : d.walk p [""] = .ok q) : q = p ∧ d.at? p = some .folder := by
  unfold walk at h
  split at h
  · cases h
  · cases h
  · rename_i hp
    have hidle : Path.isIdle "" = true := rfl
    rw [if_pos hidle] at h
    cases h
    exact ⟨rfl, hp⟩

theorem find_eq_ok_iff :
    d.find base folder = .ok (place, node) ↔
      d.locate base folder = .ok place ∧ d.at? place = some node := by
  unfold find
  cases hl : d.locate base folder with
  | error cause => simp [bind, Except.bind]
  | ok q =>
    simp only [bind, Except.bind, Except.ok.injEq]
    cases hq : d.at? q with
    | none =>
      simp only [throw, throwThe, MonadExceptOf.throw, reduceCtorEq, false_iff, not_and]
      rintro rfl
      simp [hq]
    | some node' =>
      simp only [pure, Except.pure, Except.ok.injEq, Prod.mk.injEq]
      constructor
      · rintro ⟨rfl, rfl⟩
        exact ⟨rfl, hq⟩
      · rintro ⟨rfl, h⟩
        exact ⟨rfl, Option.some.inj (hq.symm.trans h)⟩

theorem ne_empty_of_locate (h : d.locate base folder = .ok place) : folder ≠ "" := by
  rintro rfl
  cases h

theorem locate_join (h : d.find base folder = .ok (place, .folder)) (hn : IsName n) :
    d.locate base (folder.join n) = .ok (place ++ [n]) := by
  obtain ⟨hl, hplace⟩ := find_eq_ok_iff.1 h
  have hne := ne_empty_of_locate hl
  have hempty : folder.isEmpty = false := by simpa using hne
  have hempty' : (folder.join n).isEmpty = false := by simpa using Path.join_ne_empty hne hn
  simp only [locate, hempty, Bool.false_eq_true, if_false] at hl
  simp only [locate, hempty', Bool.false_eq_true, if_false, Path.isAbsolute_join hne hn]
  generalize (if folder.isAbsolute then [] else base) = start at hl ⊢
  rcases Path.parts_join hne hn with hparts | ⟨q, hfolder, hparts⟩
  · rw [hparts, walk_append, hl]
    exact walk_name hplace hn
  · -- The folder is written with a slash at its end: the walk to it ends where it was before that.
    rw [hfolder, walk_append] at hl
    rw [hparts, walk_append]
    cases hq : d.walk start q with
    | error cause => rw [hq] at hl; cases hl
    | ok r =>
      rw [hq] at hl
      obtain ⟨rfl, _⟩ := walk_end hl
      exact walk_name hplace hn

theorem find_join (h : d.find base folder = .ok (place, .folder)) (hn : IsName n) :
    d.find base (folder.join n) =
      match d.at? (place ++ [n]) with
      | some node => .ok (place ++ [n], node)
      | none => .error .missing := by
  unfold find
  rw [locate_join h hn]
  simp only [bind, Except.bind]
  cases d.at? (place ++ [n]) <;> rfl

end ItemHover.File.Disk
