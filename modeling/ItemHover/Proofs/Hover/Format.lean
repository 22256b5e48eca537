import ItemHover.Hover.Folder
import ItemHover.Proofs.File.Write
import ItemHover.Proofs.Json.Record
import Mathlib.Data.Finset.Basic

/-!
# Written hover documents

A document survives being written and read, and so does one that has been loaded from a file, in whatever
form it stood there.
-/

namespace ItemHover.Hover

open File Json Json.Value

/-! ## Parts of a document -/

theorem isSound_idValue (id : ItemId) : IsSound 0 (.number (.ofInt id.toInt)) := by
  have hle : -2147483648 ≤ id.toInt := id.minValue_le_toInt
  have hlt := id.toInt_lt
  have hsize : UInt64.size = 18446744073709551616 := rfl
  exact isSound_ofInt (by omega)

theorem id?_ofInt (id : ItemId) : id? (.number (.ofInt id.toInt)) = some id := by
  have hbounds : (Int32.minValue.toInt ≤ id.toInt && id.toInt ≤ Int32.maxValue.toInt) = true := by
    rw [Bool.and_eq_true, decide_eq_true_eq, decide_eq_true_eq]
    exact ⟨id.minValue_le_toInt, id.toInt_le⟩
  simp only [id?, within?, int?, Number.int?_ofInt, Option.filter_some, hbounds, if_true, Option.map_some,
    Int32.ofInt_toInt]

theorem isSound_textsValue (ss : List String) : IsSound 1 (textsValue ss) :=
  isSound_array (f := textValue) (fun s => isSound_text s.toList) ss

theorem text?_textValue (s : String) : (textValue s).text? = some s := by
  simp [textValue, text?]

theorem texts?_textsValue (ss : List String) : list? text? (textsValue ss) = some ss :=
  list?_map text?_textValue ss

theorem sentinel?_textValue (s : String) : sentinel? (textValue s) = some (some s) := by
  simp [textValue, sentinel?, text?]

/-! ## Definitions -/

theorem isSound_toValue (d : Definition) : IsSound 3 d.toValue := by
  have hids := isSound_array isSound_idValue d.target.ids
  have hhovers := isSound_array isSound_textsValue d.hovers
  refine isSound_object ?_
  simp only [List.forall_mem_cons, List.not_mem_nil, false_implies, implies_true, and_true]
  exact ⟨⟨rfl, hids.mono (by decide)⟩, ⟨rfl, (isSound_textsValue _).mono (by decide)⟩,
    ⟨rfl, (isSound_textsValue _).mono (by decide)⟩, rfl, hhovers⟩

def Definition.fields (d : Definition) : List (Text × Value) := [
  fieldOf "ids" (.array (d.target.ids.map fun id => .number (.ofInt id.toInt))),
  fieldOf "items" (textsValue d.target.names),
  fieldOf "items_regex" (textsValue d.target.patterns),
  fieldOf "hovers" (.array (d.hovers.map textsValue))]

theorem ofFields?_fields (d : Definition) : Target.ofFields? d.fields = some d.target := by
  have hids : field? "ids" [] (list? id?) d.fields = some d.target.ids :=
    (field?_of_valuesOf rfl _ _).trans (list?_map id?_ofInt _)
  have hnames : field? "items" [] (list? text?) d.fields = some d.target.names :=
    (field?_of_valuesOf rfl _ _).trans (texts?_textsValue _)
  have hpatterns : field? "items_regex" [] (list? text?) d.fields = some d.target.patterns :=
    (field?_of_valuesOf rfl _ _).trans (texts?_textsValue _)
  rw [Target.ofFields?, hids, hnames, hpatterns]
  rfl

theorem ofValue?_toValue (d : Definition) : Definition.ofValue? d.toValue = some d := by
  have hsound := isSound_toValue d
  have hchecks : (d.toValue.isProper && d.toValue.depth ≤ definitionDepth) = true := by
    rw [hsound.proper, Bool.true_and, decide_eq_true_eq]
    exact Nat.le_trans hsound.depth_le (by decide)
  have hhovers : field? "hovers" [] (list? (list? text?)) d.fields = some d.hovers :=
    (field?_of_valuesOf rfl _ _).trans (list?_map texts?_textsValue _)
  have hvalue : d.toValue = .object d.fields := rfl
  rw [hvalue] at hchecks ⊢
  rw [Definition.ofValue?, if_pos hchecks, hhovers, ofFields?_fields]
  rfl

/-! ## Documents -/

theorem isSound_documentValue (d : Document) : IsSound 5 d.toValue := by
  have hdefinitions := isSound_array isSound_toValue d.definitions
  refine isSound_object ?_
  cases d.sentinel with
  | none => simpa [fieldOf] using hdefinitions
  | some s => simpa [fieldOf, textValue] using ⟨(isSound_text s.toList).mono (by decide), hdefinitions⟩

def Document.fields (d : Document) : List (Text × Value) :=
  (match d.sentinel with
    | none => []
    | some s => [fieldOf "is_hover_map" (textValue s)])
  ++ [fieldOf "hovers" (.array (d.definitions.map Definition.toValue))]

theorem sentinel?_fields (d : Document) : field? "is_hover_map" none sentinel? d.fields = some d.sentinel := by
  obtain ⟨sentinel, definitions⟩ := d
  cases sentinel with
  | none => exact field?_of_no_values rfl _ _
  | some s => exact (field?_of_valuesOf rfl _ _).trans (sentinel?_textValue s)

theorem definitions?_fields (d : Document) :
    field? "hovers" [] (list? Definition.ofValue?) d.fields = some d.definitions := by
  have hlist := list?_map ofValue?_toValue d.definitions
  obtain ⟨sentinel, definitions⟩ := d
  cases sentinel <;> exact (field?_of_valuesOf rfl _ _).trans hlist

theorem ofValue?_documentValue (d : Document) : Document.ofValue? d.toValue = some d := by
  have hkeys : (d.fields.all fun f => f.1.isSome) = true := by
    cases h : d.sentinel <;> simp [Document.fields, h, fieldOf]
  have hvalue : d.toValue = .object d.fields := rfl
  rw [hvalue, Document.ofValue?, if_pos hkeys, sentinel?_fields, definitions?_fields]
  rfl

theorem read?_write (d : Document) : Document.read? d.write = some d := by
  rw [Document.read?, Document.write, Value.read?_write (isSound_documentValue d).plain, Option.bind_some,
    ofValue?_documentValue]

/-! ## Loaded documents -/

/-- A definition with what is worked out from it: the templates of its hovers, and the ids that its target
stands for. -/
structure Prepared where
  definition : Definition
  templates : List String := []
  ids : Finset ItemId := ∅
  deriving DecidableEq

structure PreparedDocument where
  sentinel : Option String := none
  definitions : List Prepared := []
  deriving DecidableEq

namespace PreparedDocument

/-- A document from which nothing has been worked out. -/
def ofDocument (d : Document) : PreparedDocument :=
  ⟨d.sentinel, d.definitions.map fun d => { definition := d }⟩

def document (p : PreparedDocument) : Document := ⟨p.sentinel, p.definitions.map (·.definition)⟩

def write (p : PreparedDocument) : List Char := p.document.write

def read? (s : List Char) : Option PreparedDocument := (Document.read? s).map ofDocument

def prepare (p : PreparedDocument) : PreparedDocument :=
  { p with definitions := p.definitions.map fun d => { d with templates := d.definition.templates } }

def load (d : Disk) (base : Place) (path : Path) : Except Error PreparedDocument :=
  (loadFile d base path).map fun doc => (ofDocument doc).prepare

@[simp] theorem document_ofDocument (d : Document) : (ofDocument d).document = d := by
  simp [ofDocument, document, Function.comp_def]

@[simp] theorem document_prepare (p : PreparedDocument) : p.prepare.document = p.document := by
  simp [prepare, document, Function.comp_def]

theorem loadFile_of_readText {d : Disk} {base : Place} {path : Path} {doc : Document}
    (hmap : doc.isHoverMap = true) (h : d.readText base path = .ok (String.ofList doc.write)) :
    loadFile d base path = .ok doc := by
  simp only [loadFile, h, String.toList_ofList, read?_write, hmap, if_true]

theorem readText_of_loadFile {d : Disk} {base : Place} {path : Path} {doc : Document}
    (h : loadFile d base path = .ok doc) : doc.isHoverMap = true ∧ ∃ s, d.readText base path = .ok s := by
  unfold loadFile at h
  split at h
  · cases h
  · rename_i s hs
    split at h
    · cases h
    · split at h
      · rename_i hmap
        cases h
        exact ⟨hmap, s, hs⟩
      · cases h

/-- A document is read back as it was written, without templates and ids. What has been loaded from a
file, whatever the text there, is loaded again with its templates once it is written: from any file with
that text, and over the file it came from. -/
theorem survives_writing :
    (∀ p : PreparedDocument, read? p.write =
      some { p with definitions := p.definitions.map fun d => ⟨d.definition, [], ∅⟩ }) ∧
    ∀ d base path p, load d base path = .ok p →
      (∀ d' base' path', d'.readText base' path' = .ok (String.ofList p.write) →
        load d' base' path' = .ok p) ∧
      ∃ d' changes, d.write base path (String.ofList p.write).toUTF8 = .ok (d', changes) ∧
        load d' base path = .ok p := by
  refine ⟨?_, ?_⟩
  · intro p
    rw [read?, write, read?_write, Option.map_some, ofDocument, document, List.map_map]
    rfl
  · intro d base path p hload
    obtain ⟨doc, hdoc, rfl⟩ : ∃ doc, loadFile d base path = .ok doc ∧ (ofDocument doc).prepare = p := by
      cases hdoc : loadFile d base path with
      | error e => rw [load, hdoc] at hload; cases hload
      | ok doc =>
        rw [load, hdoc] at hload
        cases hload
        exact ⟨doc, rfl, rfl⟩
    obtain ⟨hmap, s, hs⟩ := readText_of_loadFile hdoc
    have hagain : ∀ d' base' path',
        d'.readText base' path' = .ok (String.ofList (ofDocument doc).prepare.write) →
        load d' base' path' = .ok (ofDocument doc).prepare := by
      intro d' base' path' h
      rw [write, document_prepare, document_ofDocument] at h
      rw [load, loadFile_of_readText hmap h]
      rfl
    obtain ⟨d', changes, hwrite⟩ := Disk.write_of_readText hs (String.ofList (ofDocument doc).prepare.write).toUTF8
    exact ⟨hagain, d', changes, hwrite, hagain _ _ _ (Disk.readText_of_write hwrite)⟩

/-- An array with a field that is not known and with escapes is written as an object without them. -/
theorem survives_writing_array :
    let text := "[\"absolutely\",[\x7b\"ids\":[-7],\"note\":1e2,\"hovers\":[[\"\\u00e9\\n\",\"b\"]]\x7d]]"
    let d : Disk := ⟨[(["h.json"], .file text.toUTF8)]⟩
    let p : PreparedDocument := ⟨some "absolutely", [⟨⟨⟨[-7], [], []⟩, [["é\n", "b"]]⟩, ["é\n</br>b"], ∅⟩]⟩
    load d [] "/h.json" = .ok p ∧
      ∃ d' changes, d.write [] "/h.json" (String.ofList p.write).toUTF8 = .ok (d', changes) ∧
        load d' [] "/h.json" = .ok p := by
  intro text d p
  have hload : load d [] "/h.json" = .ok p := by decide +kernel
  exact ⟨hload, (survives_writing.2 d [] "/h.json" p hload).2⟩

end PreparedDocument

end ItemHover.Hover
