import ItemHover.File.Edit
import ItemHover.Proofs.File.Write

/-!
# Edits keep a disk well-formed

A disk that has been edited from a well-formed one lists every place once and under names, wherever the
relative paths of the edits start.
-/

namespace ItemHover

/-! ## The parts of paths -/

theorem Text.not_mem_of_mem_split {m : Char} {s part : List Char} (h : part ∈ split [m] s) : m ∉ part := by
  induction s generalizing part with
  | nil =>
    rw [split_nil, List.mem_singleton] at h
    rw [h]
    exact List.not_mem_nil
  | cons c s ih =>
    by_cases hc : c = m
    · subst hc
      rw [split_mark] at h
      rcases List.mem_cons.1 h with rfl | h
      · exact List.not_mem_nil
      · exact ih h
    · obtain ⟨x, xs, hx⟩ := List.exists_cons_of_ne_nil (split_ne_nil m s)
      rw [split_other hc, hx, List.modifyHead_cons] at h
      rcases List.mem_cons.1 h with rfl | h
      · have hm : m ∉ x := ih (hx ▸ List.mem_cons_self)
        simp [hm, Ne.symm hc]
      · exact ih (hx ▸ List.mem_cons_of_mem _ h)

namespace File.Disk

open ItemHover.File.Path (IsName)

variable {d d' : Disk} {base p q place : Place} {path : Path} {parts : List String} {node : Node}
  {changes : List Change}

theorem noSlash_of_mem_parts {s : String} (h : s ∈ path.parts) : '/' ∉ s.toList := by
  obtain ⟨part, hpart, rfl⟩ := List.mem_map.1 h
  simpa using Text.not_mem_of_mem_split hpart

theorem named_of_walk (hp : ∀ n ∈ p, IsName n) (hparts : ∀ s ∈ parts, '/' ∉ s.toList)
    (h : d.walk p parts = .ok q) : ∀ n ∈ q, IsName n := by
  induction parts generalizing p with
  | nil =>
    cases h
    exact hp
  | cons s rest ih =>
    obtain ⟨hs, hrest⟩ := List.forall_mem_cons.1 hparts
    rw [walk] at h
    cases hat : d.at? p with
    | none => rw [hat] at h; cases h
    | some node =>
      cases node with
      | file content => rw [hat] at h; cases h
      | folder =>
        simp only [hat] at h
        by_cases hidle : Path.isIdle s = true
        · rw [if_pos hidle] at h
          exact ih hp hrest h
        · rw [if_neg hidle] at h
          by_cases hback : (s == "..") = true
          · rw [if_pos hback] at h
            exact ih (fun n hn => hp n (List.dropLast_subset p hn)) hrest h
          · rw [if_neg hback] at h
            -- A part that is neither idle nor a way back is a name.
            refine ih ?_ hrest h
            intro n hn
            rcases List.mem_append.1 hn with hn | hn
            · exact hp n hn
            · obtain rfl := List.mem_singleton.1 hn
              simp only [Path.isIdle, Bool.or_eq_true, String.isEmpty_iff, beq_iff_eq, not_or] at hidle
              exact ⟨hs, hidle.1, hidle.2, by simpa using hback⟩

theorem named_of_locate (hb : ∀ n ∈ base, IsName n) (h : d.locate base path = .ok place) :
    ∀ n ∈ place, IsName n := by
  have hstart : ∀ n ∈ (if path.isAbsolute then [] else base), IsName n := by
    split
    · exact List.forall_mem_nil _
    · exact hb
  unfold locate at h
  split at h
  · cases h
  · exact named_of_walk hstart (fun _ => noSlash_of_mem_parts) h

/-! ## Putting and dropping -/

theorem WellFormed.filter (hd : d.WellFormed) (f : Place × Node → Bool) :
    (⟨d.nodes.filter f⟩ : Disk).WellFormed where
  once := hd.once.sublist (List.filter_sublist.map _)
  below e he := hd.below e (List.mem_of_mem_filter he)
  named e he := hd.named e (List.mem_of_mem_filter he)

theorem WellFormed.drop (hd : d.WellFormed) (p : Place) : (d.drop p).WellFormed := hd.filter _

theorem WellFormed.put (hd : d.WellFormed) (hp : p ≠ []) (hn : ∀ n ∈ p, IsName n) (node : Node) :
    (d.put p node).WellFormed := by
  have hfilter := hd.filter fun e => e.1 != p
  refine ⟨?_, ?_, ?_⟩
  · -- The place is free when the new node comes.
    rw [Disk.put, List.map_append, List.nodup_append]
    refine ⟨hfilter.once, List.nodup_singleton _, ?_⟩
    rintro q hq r hr rfl
    obtain ⟨e, he, rfl⟩ := List.mem_map.1 hq
    obtain rfl : e.1 = p := by simpa using hr
    simp at he
  · intro e he
    rcases List.mem_append.1 he with he | he
    · exact hfilter.below e he
    · obtain rfl := List.mem_singleton.1 he
      exact hp
  · intro e he
    rcases List.mem_append.1 he with he | he
    · exact hfilter.named e he
    · obtain rfl := List.mem_singleton.1 he
      exact hn

/-! ## The operations -/

theorem WellFormed.write {content : ByteArray} (hd : d.WellFormed) (hb : ∀ n ∈ base, IsName n)
    (h : d.write base path content = .ok (d', changes)) : d'.WellFormed := by
  obtain ⟨place, hl, hat, rfl, -⟩ := exists_put_of_write h
  have hroot : place ≠ [] := by
    rintro rfl
    exact hat rfl
  exact hd.put hroot (named_of_locate hb hl) _

theorem WellFormed.makeFolder (hd : d.WellFormed) (hb : ∀ n ∈ base, IsName n)
    (hparts : ∀ s ∈ parts, '/' ∉ s.toList) (h : d.makeFolder base parts = .ok (d', changes)) :
    d'.WellFormed := by
  obtain ⟨place, hw, hat, rfl, -⟩ := exists_put_of_makeFolder h
  have hroot : place ≠ [] := by
    rintro rfl
    cases hat
  exact hd.put hroot (named_of_walk hb hparts hw) _

theorem WellFormed.makeBack (hd : d.WellFormed) (hb : ∀ n ∈ base, IsName n)
    (hparts : ∀ s ∈ parts, '/' ∉ s.toList) (h : d.makeBack base parts = .ok (d', changes)) :
    d'.WellFormed := by
  refine makeBack_induction (P := fun d' _ => d'.WellFormed) hd ?_ h
  intro d₁ d₂ made more names hnames hd₁ hmade
  exact hd₁.makeFolder hb (fun s hs => hparts s (hnames s hs)) hmade

theorem WellFormed.makeFolders (hd : d.WellFormed) (hb : ∀ n ∈ base, IsName n)
    (h : d.makeFolders base path = .ok (d', changes)) : d'.WellFormed := by
  refine hd.makeBack ?_ ?_ h
  · split
    · exact List.forall_mem_nil _
    · exact hb
  · intro s hs
    exact noSlash_of_mem_parts (List.mem_of_mem_filter (List.mem_reverse.1 hs))

theorem WellFormed.remove (hd : d.WellFormed) (h : d.remove base path = .ok (d', changes)) :
    d'.WellFormed := by
  unfold Disk.remove at h
  cases hf : d.find base path with
  | error cause => rw [hf] at h; cases h
  | ok found =>
    rw [hf] at h
    cases h
    exact hd.drop _

theorem rebase_inj {source target x y : Place} (hx : target.isPrefixOf x = false)
    (hy : target.isPrefixOf y = false) (h : rebase source target x = rebase source target y) : x = y := by
  have hprefix : ∀ r : Place, target.isPrefixOf (target ++ r) = true := fun r =>
    List.isPrefixOf_iff_prefix.2 (List.prefix_append _ _)
  unfold rebase at h
  split at h <;> split at h
  · rename_i hsx hsy
    obtain ⟨u, rfl⟩ := List.isPrefixOf_iff_prefix.1 hsx
    obtain ⟨v, rfl⟩ := List.isPrefixOf_iff_prefix.1 hsy
    rw [List.drop_left, List.drop_left] at h
    rw [List.append_cancel_left h]
  · rw [← h, hprefix] at hy
    cases hy
  · rw [h, hprefix] at hx
    cases hx
  · exact h

/-- The disk with a place and all below it moved, and what stood in the way gone. -/
def afterMove (d : Disk) (source target : Place) : Disk :=
  ⟨(d.drop target).nodes.map fun e => (Disk.rebase source target e.1, e.2)⟩

theorem WellFormed.afterMove {target : Place} (hd : d.WellFormed) (source : Place) (ht : target ≠ [])
    (hn : ∀ n ∈ target, IsName n) : (d.afterMove source target).WellFormed := by
  have hdrop := hd.drop target
  -- Nothing is left at or below the target, so no two places become one.
  have hout : ∀ e ∈ (d.drop target).nodes, target.isPrefixOf e.1 = false := by
    intro e he
    simpa using (List.mem_filter.1 he).2
  refine ⟨?_, ?_, ?_⟩
  · have hmap := hdrop.once.map_on (f := Disk.rebase source target) (by
      intro x hx y hy h
      obtain ⟨e, he, rfl⟩ := List.mem_map.1 hx
      obtain ⟨e', he', rfl⟩ := List.mem_map.1 hy
      exact rebase_inj (hout e he) (hout e' he') h)
    rw [List.map_map] at hmap
    rw [Disk.afterMove, List.map_map]
    exact hmap
  · intro e he
    obtain ⟨e', he', rfl⟩ := List.mem_map.1 he
    simp only [Disk.rebase]
    split
    · simp [ht]
    · exact hdrop.below e' he'
  · intro e he
    obtain ⟨e', he', rfl⟩ := List.mem_map.1 he
    simp only [Disk.rebase]
    split
    · intro n hmem
      rcases List.mem_append.1 hmem with hmem | hmem
      · exact hn n hmem
      · exact hdrop.named e' he' n (List.mem_of_mem_drop hmem)
    · exact hdrop.named e' he'

/-- A move leaves all as it is, or moves a place to one that is neither above nor below it. -/
theorem cases_of_move {path' : Path} (h : d.move base path path' = .ok (d', changes)) :
    d' = d ∧ changes = [] ∨ ∃ source target, d.locate base path = .ok source ∧
      d.locate base path' = .ok target ∧ ¬ source <+: target ∧ ¬ target <+: source ∧
      d' = d.afterMove source target ∧
      (changes = [.moved source target] ∨ changes = [.removed target, .moved source target]) := by
  unfold Disk.move at h
  cases hf : d.find base path with
  | error cause => rw [hf] at h; cases h
  | ok found =>
    obtain ⟨source, node⟩ := found
    cases hl : d.locate base path' with
    | error cause => rw [hf, hl] at h; cases h
    | ok target =>
      rw [hf, hl] at h
      simp only [bind, Except.bind] at h
      by_cases hsame : (source == target) = true
      · rw [if_pos hsame] at h
        cases h
        exact .inl ⟨rfl, rfl⟩
      · rw [if_neg hsame] at h
        by_cases hinto : source.isPrefixOf target = true
        · rw [if_pos hinto] at h
          cases h
        · by_cases hover : target.isPrefixOf source = true
          · rw [if_neg hinto, if_pos hover] at h
            cases h
          · rw [if_neg hinto, if_neg hover] at h
            refine .inr ⟨source, target, (find_eq_ok_iff.1 hf).1, rfl, mt List.isPrefixOf_iff_prefix.2 hinto,
              mt List.isPrefixOf_iff_prefix.2 hover, ?_⟩
            cases hat : d.at? target with
            | none =>
              rw [hat] at h
              cases h
              exact ⟨rfl, .inl rfl⟩
            | some there =>
              rw [hat] at h
              -- A folder gives way to a folder if it is empty, and a file to a file.
              cases node <;> cases there
              · simp only at h
                split at h <;> cases h
                exact ⟨rfl, .inr rfl⟩
              · cases h
              · cases h
              · cases h
                exact ⟨rfl, .inr rfl⟩

theorem WellFormed.move {path' : Path} (hd : d.WellFormed) (hb : ∀ n ∈ base, IsName n)
    (h : d.move base path path' = .ok (d', changes)) : d'.WellFormed := by
  rcases cases_of_move h with ⟨rfl, -⟩ | ⟨source, target, -, hl, -, hover, rfl, -⟩
  · exact hd
  · have hroot : target ≠ [] := by
      rintro rfl
      exact hover List.nil_prefix
    exact hd.afterMove source hroot (named_of_locate hb hl)

theorem exists_of_edit_write {content : ByteArray} (h : d.edit base (.write path content) = .ok (d', changes)) :
    ∃ d₁ made written, d.makeFolders base path.above = .ok (d₁, made) ∧
      d₁.write base path content = .ok (d', written) ∧ changes = made ++ written := by
  simp only [Disk.edit, bind, Except.bind] at h
  cases hmade : d.makeFolders base path.above with
  | error cause => rw [hmade] at h; cases h
  | ok made =>
    obtain ⟨d₁, made⟩ := made
    rw [hmade] at h
    simp only at h
    cases hwritten : d₁.write base path content with
    | error cause => rw [hwritten] at h; cases h
    | ok written =>
      rw [hwritten] at h
      cases h
      exact ⟨d₁, made, _, rfl, hwritten, rfl⟩

theorem WellFormed.edit {edit : Edit} (hd : d.WellFormed) (hb : ∀ n ∈ base, IsName n)
    (h : d.edit base edit = .ok (d', changes)) : d'.WellFormed := by
  cases edit with
  | makeFolders path => exact hd.makeFolders hb h
  | remove path => exact hd.remove h
  | move path path' => exact hd.move hb h
  | write path content =>
    obtain ⟨d₁, made, written, hmade, hwritten, -⟩ := exists_of_edit_write h
    exact (hd.makeFolders hb hmade).write hb hwritten

end File.Disk

end ItemHover
