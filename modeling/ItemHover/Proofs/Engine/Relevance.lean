import ItemHover.Engine.Watch
import ItemHover.Proofs.File.Report
import ItemHover.Proofs.Hover.Loading

/-!
# Changes that matter

A watch passes on the changes of a folder that are about a hover file in it or about the folder itself.
What is loaded from a folder hangs on nothing else, so no change is lost that loading would show.
-/

namespace ItemHover

/-! ## Paths of entries -/

namespace File.Path

variable {p : Path} {n : String}

def fileName? (p : Path) : Option String := p.steps.getLast?.filter fun s => s != "." && s != ".."

def stepsOf : List String → List String
  | "." :: rest => "." :: rest.filter fun s => !isIdle s
  | all => all.filter fun s => !isIdle s

theorem steps_eq (p : Path) : p.steps = stepsOf p.parts := rfl

theorem stepsOf_append (parts : List String) {s : String} (hs : s ≠ ".") :
    stepsOf (parts ++ [s]) = stepsOf parts ++ [s].filter fun s => !isIdle s := by
  unfold stepsOf
  split
  · rename_i rest hrest
    cases parts with
    | nil => exact absurd (List.cons.inj hrest).1 hs
    | cons first parts =>
      obtain ⟨rfl, rfl⟩ := List.cons.inj hrest
      simp
  · rename_i hfirst
    split
    · rename_i rest
      exact absurd rfl (hfirst (rest ++ [s]))
    · rw [List.filter_append]

theorem steps_join (p : Path) (hn : IsName n) : (p.join n).steps = p.steps ++ [n] := by
  have hstep : [n].filter (fun s => !isIdle s) = [n] := by simp [hn.not_idle]
  by_cases hp : p = ""
  · have hjoin : p.join n = n := by simp [join, hp]
    rw [hjoin, hp, steps_eq, steps_eq, parts_of_noSlash hn.noSlash, parts_of_noSlash (n := "") (by simp)]
    exact (stepsOf_append [] hn.ne_point).trans (congrArg _ hstep)
  · rw [steps_eq, steps_eq]
    rcases parts_join hp hn with hparts | ⟨q, hfolder, hparts⟩
    · rw [hparts, stepsOf_append _ hn.ne_point, hstep]
    · rw [hparts, hfolder, stepsOf_append _ hn.ne_point, stepsOf_append _ (by decide), hstep]
      simp [isIdle]

theorem fileName?_join (p : Path) (hn : IsName n) : (p.join n).fileName? = some n := by
  simp [fileName?, steps_join p hn, Option.filter, hn.ne_point, hn.ne_points]

theorem not_same_join (p : Path) (hn : IsName n) : (p.join n).same p = false := by
  simp [same, steps_join p hn]

theorem same_refl (p : Path) : p.same p = true := by simp [same]

end File.Path

open File File.Disk

open ItemHover.File.Path (IsName)

namespace Watch

/-! ## Events -/

inductive Kind where
  | any
  | access
  | create
  | modify
  | remove
  | other
  deriving DecidableEq, Repr

structure Event where
  kind : Kind
  paths : List Path
  deriving DecidableEq, Repr

def Kind.isChange : Kind → Bool
  | create | modify | remove => true
  | _ => false

def isHoverPath (p : Path) : Bool := p.fileName?.any Hover.isHoverFile

/-- A path is one of a hover file, or the one that the folder is watched by. -/
def isWatched (folder p : Path) : Bool := p.same folder || isHoverPath p

def Event.isRelevant (folder : Path) (e : Event) : Bool := e.kind.isChange && e.paths.any (isWatched folder)

theorem isHoverPath_join (p : Path) {n : String} (hn : IsName n) :
    isHoverPath (p.join n) = Hover.isHoverFile n := by
  simp [isHoverPath, Path.fileName?_join p hn]

theorem isWatched_self (p : Path) : isWatched p p = true := by simp [isWatched, Path.same_refl]

theorem isWatched_join (p : Path) {n : String} (hn : IsName n) :
    isWatched p (p.join n) = Hover.isHoverFile n := by
  rw [isWatched, Path.not_same_join p hn, isHoverPath_join p hn, Bool.false_or]

example :
    [⟨.remove, ["/h/"]⟩, ⟨.create, ["/h/a.json"]⟩, ⟨.access, ["/h/a.json"]⟩, ⟨.create, ["/h/a.txt"]⟩].map
      (Event.isRelevant "/h") = [true, true, false, false] := by
  decide +kernel

end Watch

/-! ## What loading shows -/

namespace Hover

variable {d d' : Disk} {base place place' : Place} {folder : Path} {n : String}

def nodeIn? (d : Disk) (base : Place) (folder : Path) (n : String) : Option Node :=
  (d.find base (folder.join n)).toOption.map (·.2)

theorem nodeIn?_of_find (h : d.find base folder = .ok (place, .folder)) (hn : IsName n) :
    nodeIn? d base folder n = d.at? (place ++ [n]) := by
  rw [nodeIn?, find_join h hn]
  cases d.at? (place ++ [n]) <;> rfl

namespace PreparedDocument

theorem isOk_loadFolder_iff (hd : d.WellFormed) :
    (loadFolder d base folder).isOk = true ↔ ∃ place, d.find base folder = .ok (place, .folder) := by
  constructor
  · intro h
    cases hload : Hover.loadFolder d base folder with
    | error e =>
      rw [loadFolder, hload] at h
      cases h
    | ok docs => exact exists_find_of_loadFolder hload
  · rintro ⟨place, h⟩
    rw [loadFolder_of_hoverNames hd h]
    rfl

/-- Where the documents are others, a hover file is, or the folder can be read on one side only. -/
theorem exists_of_loadFolder_ne (hd : d.WellFormed) (hd' : d'.WellFormed)
    (h : (loadFolder d base folder).toOption ≠ (loadFolder d' base folder).toOption) :
    (loadFolder d base folder).isOk ≠ (loadFolder d' base folder).isOk ∨
      ∃ place place', d.find base folder = .ok (place, .folder) ∧ d'.find base folder = .ok (place', .folder) ∧
        ∃ n, IsName n ∧ isHoverFile n = true ∧ d.at? (place ++ [n]) ≠ d'.at? (place' ++ [n]) := by
  by_cases hread : (loadFolder d base folder).isOk = (loadFolder d' base folder).isOk
  · right
    cases hok : (loadFolder d base folder).isOk with
    | false =>
      rw [hok] at hread
      cases hload : loadFolder d base folder with
      | ok docs => rw [hload] at hok; cases hok
      | error e =>
        cases hload' : loadFolder d' base folder with
        | ok docs => rw [hload'] at hread; cases hread
        | error e' => exact absurd (by rw [hload, hload']; rfl) h
    | true =>
      rw [hok] at hread
      obtain ⟨place, hfind⟩ := (isOk_loadFolder_iff hd).1 hok
      obtain ⟨place', hfind'⟩ := (isOk_loadFolder_iff hd').1 hread.symm
      refine ⟨place, place', hfind, hfind', ?_⟩
      -- With the same hover files on both sides the folders are the same to the loader.
      by_contra hsame
      refine h ?_
      rw [loadFolder, loadFolder, loadFolder_congr hd hfind hd' hfind' fun n hmap => ?_]
      by_contra hne
      have hname : IsName n ∧ IsHoverName n := hmap.elim (fun h => ⟨h.1, h.2.1⟩) fun h => ⟨h.1, h.2.1⟩
      exact hsame ⟨n, hname.1, isHoverFile_iff.2 hname.2, Ne.symm hne⟩
  · exact .inl hread

end PreparedDocument

end Hover

namespace Watch

open Hover (nodeIn?)

open Hover.PreparedDocument (loadFolder)

variable {d d' : Disk} {base w q : Place} {folder : Path} {n : String} {events : List Event}

def Carries (events : List Event) (p : Path) : Prop := ∃ e ∈ events, e.kind.isChange = true ∧ p ∈ e.paths

theorem Carries.exists_isRelevant {p : Path} (h : Carries events p) (hp : isWatched folder p = true) :
    ∃ e ∈ events, e.isRelevant folder = true := by
  obtain ⟨e, he, hkind, hpath⟩ := h
  refine ⟨e, he, ?_⟩
  rw [Event.isRelevant, hkind, Bool.true_and]
  exact List.any_eq_true.2 ⟨p, hpath, hp⟩

/-! ## Changes of a disk -/

def entryPath? (folder : Path) (w q : Place) : Option Path := (nameIn w q).map folder.join

/-- The path by which a watched folder or something in it is told of. -/
def pathOf? (folder : Path) (w q : Place) : Option Path :=
  if q = w then some folder else entryPath? folder w q

def eventOf (folder : Path) (w : Place) : Change → Event
  | .created p => ⟨.create, (pathOf? folder w p).toList⟩
  | .written p => ⟨.modify, (pathOf? folder w p).toList⟩
  | .removed p => ⟨.remove, (pathOf? folder w p).toList⟩
  | .moved p q => ⟨.modify, (pathOf? folder w p).toList ++ (entryPath? folder w q).toList⟩

theorem any_entryPath? (folder : Path) (h : ∀ n ∈ q, IsName n) :
    (entryPath? folder w q).toList.any (isWatched folder) = isHoverFileIn w q := by
  unfold entryPath? isHoverFileIn nameIn
  split
  · rename_i hlast
    rw [hlast, Bool.true_and]
    cases hq : q.getLast? with
    | none => rfl
    | some n =>
      have hn := h n (List.mem_of_getLast? hq)
      simp [isWatched_join folder hn]
  · rename_i hlast
    simp [hlast]

theorem any_pathOf? (folder : Path) (h : ∀ n ∈ q, IsName n) :
    (pathOf? folder w q).toList.any (isWatched folder) = concerns w q := by
  unfold pathOf? concerns
  by_cases hq : q = w
  · simp [hq, isWatched_self]
  · have hself : (q == w) = false := by simpa using hq
    rw [if_neg hq, any_entryPath? folder h, hself, Bool.false_or]

theorem isRelevant_eventOf (folder : Path) (w : Place) {c : Change} (h : ∀ p ∈ c.places, ∀ n ∈ p, IsName n) :
    (eventOf folder w c).isRelevant folder = matters w c := by
  cases c with
  | created p | written p | removed p => exact any_pathOf? folder (h p List.mem_cons_self)
  | moved p q =>
    have hp := any_pathOf? (w := w) folder (h p List.mem_cons_self)
    have hq := any_entryPath? (w := w) folder (h q (List.mem_cons_of_mem _ List.mem_cons_self))
    rw [eventOf, Event.isRelevant, List.any_append, hp, hq]
    rfl

theorem concerns_entry (w : Place) (hhover : Hover.isHoverFile n = true) : concerns w (w ++ [n]) = true := by
  simp [concerns, isHoverFileIn, hhover]

theorem eq_of_prefix_entry {source target : Place} (hsource : source <+: w ++ [n])
    (hentry : ∃ m, source = w ++ [m] ∨ target = w ++ [m]) (hapart : ¬ source <+: target) :
    source = w ++ [n] := by
  rcases List.prefix_concat_iff.1 hsource with heq | hfolder
  · exact heq
  · obtain ⟨m, rfl | rfl⟩ := hentry
    · have hlen := hfolder.length_le
      rw [List.length_append, List.length_singleton] at hlen
      omega
    · exact absurd (hfolder.trans (List.prefix_append w [m])) hapart

theorem matters_of_touches {c : Change} (hhover : Hover.isHoverFile n = true) (htouches : c.Touches (w ++ [n]))
    (hmoved : ∀ s t, c = .moved s t → (∃ m, s = w ++ [m] ∨ t = w ++ [m]) ∧ ¬ s <+: t ∧ ¬ t <+: s) :
    matters w c = true := by
  cases c with
  | created p | written p | removed p =>
    obtain rfl : w ++ [n] = p := htouches
    exact concerns_entry w hhover
  | moved s t =>
    obtain ⟨hentry, hinto, hover⟩ := hmoved s t rfl
    rcases htouches with hs | ht
    · obtain rfl := eq_of_prefix_entry hs hentry hinto
      simp [matters, concerns_entry w hhover]
    · have hentry' : ∃ m, t = w ++ [m] ∨ s = w ++ [m] := hentry.imp fun _ => Or.symm
      obtain rfl := eq_of_prefix_entry ht hentry' hover
      simp [matters, isHoverFileIn, hhover]

theorem exists_matters_of_edit {cs : List Change} (hd : d.WellFormed) (hd' : d'.WellFormed)
    (hreports : d.Reports d' cs) (hfind : d.find base folder = .ok (w, .folder))
    (hmoved : ∀ s t, .moved s t ∈ cs → ∃ m, s = w ++ [m] ∨ t = w ++ [m])
    (hstill : d'.find base folder = .ok (w, .folder) ∨ .removed w ∈ cs)
    (h : (loadFolder d base folder).toOption ≠ (loadFolder d' base folder).toOption) :
    ∃ c ∈ cs, matters w c = true := by
  rcases hstill with hfind' | hremoved
  · rcases Hover.PreparedDocument.exists_of_loadFolder_ne hd hd' h with hread | ⟨v, v', hv, hv', n, -, hhover, hne⟩
    · have hok := (Hover.PreparedDocument.isOk_loadFolder_iff hd).2 ⟨w, hfind⟩
      have hok' := (Hover.PreparedDocument.isOk_loadFolder_iff hd').2 ⟨w, hfind'⟩
      exact absurd (hok.trans hok'.symm) hread
    · obtain rfl : w = v := (Prod.mk.inj (Except.ok.inj (hfind.symm.trans hv))).1
      obtain rfl : w = v' := (Prod.mk.inj (Except.ok.inj (hfind'.symm.trans hv'))).1
      obtain ⟨c, hc, htouches⟩ := hreports.touched _ hne
      refine ⟨c, hc, matters_of_touches hhover htouches fun s t heq => ?_⟩
      exact ⟨hmoved s t (heq ▸ hc), hreports.apart s t (heq ▸ hc)⟩
  · exact ⟨_, hremoved, by simp [matters, concerns]⟩

/-- If other documents are loaded from a folder than before, or none where it cannot be read for whatever cause,
something in it with the name of a hover file is not what it was, or the folder can be read only before or only
after. So whatever events carry the paths of what has changed in the folder, or its own path where it can be read
no more or again, one of them is relevant. And an edit that changes things in the folder, or removes it, tells of
a change that matters. -/
theorem relevant_of_load (hd : d.WellFormed) (hd' : d'.WellFormed)
    (h : (loadFolder d base folder).toOption ≠ (loadFolder d' base folder).toOption) :
    ((loadFolder d base folder).isOk ≠ (loadFolder d' base folder).isOk ∨
      ∃ n, IsName n ∧ isHoverPath (folder.join n) = true ∧ nodeIn? d base folder n ≠ nodeIn? d' base folder n) ∧
    (∀ events : List Event,
      ((loadFolder d base folder).isOk ≠ (loadFolder d' base folder).isOk → Carries events folder) →
      ((loadFolder d base folder).isOk = (loadFolder d' base folder).isOk →
        ∀ n, IsName n → nodeIn? d base folder n ≠ nodeIn? d' base folder n → Carries events (folder.join n)) →
      ∃ e ∈ events, e.isRelevant folder = true) ∧
    ∀ base' edit cs w, (∀ n ∈ base', IsName n) → d.edit base' edit = .ok (d', cs) →
      d.find base folder = .ok (w, .folder) →
      (∀ s t, .moved s t ∈ cs → ∃ m, s = w ++ [m] ∨ t = w ++ [m]) →
      (d'.find base folder = .ok (w, .folder) ∨ .removed w ∈ cs) →
      ∃ c ∈ cs, matters w c = true ∧ (eventOf folder w c).isRelevant folder = true := by
  have hdiffer : (loadFolder d base folder).isOk ≠ (loadFolder d' base folder).isOk ∨
      ∃ n, IsName n ∧ Hover.isHoverFile n = true ∧ nodeIn? d base folder n ≠ nodeIn? d' base folder n := by
    refine (Hover.PreparedDocument.exists_of_loadFolder_ne hd hd' h).imp_right ?_
    rintro ⟨place, place', hfind, hfind', n, hn, hhover, hne⟩
    rw [← Hover.nodeIn?_of_find hfind hn, ← Hover.nodeIn?_of_find hfind' hn] at hne
    exact ⟨n, hn, hhover, hne⟩
  refine ⟨hdiffer.imp_right ?_, fun events hfolder hentries => ?_, ?_⟩
  · rintro ⟨n, hn, hhover, hne⟩
    exact ⟨n, hn, by rw [isHoverPath_join folder hn, hhover], hne⟩
  · by_cases hread : (loadFolder d base folder).isOk = (loadFolder d' base folder).isOk
    · obtain ⟨n, hn, hhover, hne⟩ := hdiffer.resolve_left (not_not.2 hread)
      exact (hentries hread n hn hne).exists_isRelevant (by rw [isWatched_join folder hn, hhover])
    · exact (hfolder hread).exists_isRelevant (isWatched_self folder)
  · intro base' edit cs w hb hedit hfind hmoved hstill
    have hreports := reports_edit hd hb hedit
    obtain ⟨c, hc, hmatters⟩ := exists_matters_of_edit hd hd' hreports hfind hmoved hstill h
    exact ⟨c, hc, hmatters, by rw [isRelevant_eventOf folder w (hreports.named c hc), hmatters]⟩

/-! ## A renamed file -/

open Hover.PreparedDocument (fileOf mapFor)

/-- A hover map under another name than a hover file has. -/
def draftDisk : Disk := ⟨[(["h"], .folder), (["h", "a.txt"], fileOf (mapFor 1))]⟩

def namedDisk : Disk := ⟨[(["h"], .folder), (["h", "a.json"], fileOf (mapFor 1))]⟩

theorem wellFormed_draftDisk : draftDisk.WellFormed := by decide

theorem wellFormed_namedDisk : namedDisk.WellFormed := by decide

theorem find_draftDisk : draftDisk.find [] "h" = .ok (["h"], .folder) := by decide +kernel

theorem find_namedDisk : namedDisk.find [] "h" = .ok (["h"], .folder) := by decide +kernel

theorem edit_draftDisk : draftDisk.edit [] (.move "h/a.txt" "h/a.json") =
    .ok (namedDisk, [.moved ["h", "a.txt"] ["h", "a.json"]]) := by
  decide +kernel

theorem loadFolder_draftDisk : loadFolder draftDisk [] "h" = .ok [] := by
  have hnames : Hover.hoverNames draftDisk ["h"] = [] := by decide +kernel
  rw [Hover.PreparedDocument.loadFolder_of_hoverNames wellFormed_draftDisk find_draftDisk, hnames]
  rfl

theorem loadFolder_namedDisk : ∃ p, loadFolder namedDisk [] "h" = .ok [p] := by
  have hnames : Hover.hoverNames namedDisk ["h"] = ["a.json"] := by decide +kernel
  have hat : namedDisk.at? (["h"] ++ ["a.json"]) = some (fileOf (mapFor 1)) := rfl
  have hmap : Hover.hoverMapAt? namedDisk (["h"] ++ ["a.json"]) = some (mapFor 1) := by
    rw [Hover.hoverMapAt?, hat]
    exact Hover.hoverMap?_write (mapFor 1)
  rw [Hover.PreparedDocument.loadFolder_of_hoverNames wellFormed_namedDisk find_namedDisk, hnames,
    List.filterMap_cons, Hover.PreparedDocument.toOption_load find_namedDisk (by decide), hmap]
  exact ⟨_, rfl⟩

/-- A hover map that gets the name of one is loaded from then on, and the watch hears of it. -/
theorem relevant_of_rename :
    draftDisk.WellFormed ∧ namedDisk.WellFormed ∧
      (loadFolder draftDisk [] "h").toOption ≠ (loadFolder namedDisk [] "h").toOption ∧
      (∃ n, IsName n ∧ isHoverPath (Path.join "h" n) = true ∧
        nodeIn? draftDisk [] "h" n ≠ nodeIn? namedDisk [] "h" n) ∧
      (∃ e ∈ [⟨.modify, ["h/a.txt"]⟩, ⟨.modify, ["h/a.json"]⟩], Event.isRelevant "h" e = true) ∧
      ∃ c ∈ [Change.moved ["h", "a.txt"] ["h", "a.json"]], matters ["h"] c = true ∧
        (eventOf "h" ["h"] c).isRelevant "h" = true := by
  obtain ⟨p, hnamed⟩ := loadFolder_namedDisk
  have hne : (loadFolder draftDisk [] "h").toOption ≠ (loadFolder namedDisk [] "h").toOption := by
    rw [loadFolder_draftDisk, hnamed]
    simp [Except.toOption]
  have hread : (loadFolder draftDisk [] "h").isOk = (loadFolder namedDisk [] "h").isOk := by
    rw [loadFolder_draftDisk, hnamed]
    rfl
  obtain ⟨hdiffer, hevents, hedits⟩ := relevant_of_load wellFormed_draftDisk wellFormed_namedDisk hne
  refine ⟨wellFormed_draftDisk, wellFormed_namedDisk, hne, hdiffer.resolve_left (not_not.2 hread),
    hevents _ (absurd hread) fun _ n hn hentry => ?_,
    hedits [] _ _ ["h"] (List.forall_mem_nil _) edit_draftDisk find_draftDisk ?_ (.inl find_namedDisk)⟩
  · rw [Hover.nodeIn?_of_find find_draftDisk hn, Hover.nodeIn?_of_find find_namedDisk hn] at hentry
    by_cases htext : n = "a.txt"
    · exact ⟨_, List.mem_cons_self, rfl, by rw [htext]; decide⟩
    · by_cases hjson : n = "a.json"
      · exact ⟨_, List.mem_cons_of_mem _ List.mem_cons_self, rfl, by rw [hjson]; decide⟩
      · refine absurd ?_ hentry
        simp [Disk.at?, draftDisk, namedDisk, Ne.symm htext, Ne.symm hjson]
  · intro s t hmem
    obtain ⟨rfl, rfl⟩ := Change.moved.inj (List.mem_singleton.1 hmem)
    exact ⟨"a.txt", .inl rfl⟩

end Watch

end ItemHover
