import ItemHover.Settings.Format
import ItemHover.Proofs.Json.Record
import ItemHover.Proofs.Toml.Reader

/-!
# Written settings

Settings are written as seven lines and read back from them. What they are as JSON is read back too, from an
object and from an array.
-/

namespace ItemHover

section

open Toml

/-! ## Fields -/

theorem Color.part?_toNat (p : UInt8) : Color.part? (.scalar (.integer p.toNat)) = some p := by
  have hlt := p.toNat_lt
  have hbounds : (decide ((0 : Int) ≤ p.toNat) && decide ((p.toNat : Int).toNat < Nat.pow 2 8)) = true := by
    simp
    exact hlt
  simp only [Color.part?, Value.nat?, Value.int?, Option.bind_some, hbounds, if_true, Option.map_some]
  simp

theorem Color.ofToml?_parts (c : Color) :
    Color.ofToml? (.array ((c.parts.map UInt8.toNat).map fun n : Nat => .scalar (.integer n))) = some c := by
  change (do return (⟨← part? (.scalar (.integer c.red.toNat)), ← part? (.scalar (.integer c.green.toNat)),
    ← part? (.scalar (.integer c.blue.toNat)), ← part? (.scalar (.integer c.opacity.toNat))⟩ : Color)) = some c
  simp only [part?_toNat]
  rfl

theorem NameChoice.ofToml?_word (c : NameChoice) : NameChoice.ofToml? (.text c.word.toList) = some c := by
  cases c <;> decide

namespace Settings

theorem colorText_eq (c : Color) : colorText c = '[' :: '\n' :: (Reader.rows (c.parts.map UInt8.toNat) ++ [']']) := by
  simp [colorText, Reader.rows, List.flatMap_map]

def lines (s : Settings) : List Reader.Line := [
  ⟨"hot_reload".toList, boolText s.hotReload, .scalar (.bool s.hotReload)⟩,
  ⟨"hovers_dir".toList, Text.write s.hoverFolder.toList, .text s.hoverFolder.toList⟩,
  ⟨"default_color".toList, colorText s.defaultColor,
    .array ((s.defaultColor.parts.map UInt8.toNat).map fun n : Nat => .scalar (.integer n))⟩,
  ⟨"reload_command".toList, Text.write s.reloadCommand.toList, .text s.reloadCommand.toList⟩,
  ⟨"name_source".toList, Text.write s.nameChoice.word.toList, .text s.nameChoice.word.toList⟩,
  ⟨"catalog_path".toList, Text.write s.catalogPath.toList, .text s.catalogPath.toList⟩,
  ⟨"symbol_table_path".toList, Text.write s.symbolTablePath.toList, .text s.symbolTablePath.toList⟩]

theorem write_eq_lines (s : Settings) : s.write = s.lines.flatMap Reader.Line.write := by
  simp [write, lines, line, Reader.Line.write]

theorem keys_lines (s : Settings) : s.lines.map (·.key) = fieldNames.map String.toList := rfl

theorem isSound_lines (s : Settings) : ∀ l ∈ s.lines, l.IsSound := by
  have hkeys : ∀ key ∈ fieldNames.map String.toList, Reader.IsKey key := by decide
  have hcolor : Reader.Reads (colorText s.defaultColor) (.array
      ((s.defaultColor.parts.map UInt8.toNat).map fun n : Nat => .scalar (.integer n))) := by
    rw [colorText_eq]
    exact Reader.reads_rows _
  have hreads : ∀ l ∈ s.lines, Reader.Reads l.text l.value := by
    simp only [lines, List.forall_mem_cons, List.not_mem_nil, false_implies, implies_true, and_true]
    exact ⟨Reader.reads_bool _, Reader.reads_text _, hcolor, Reader.reads_text _, Reader.reads_text _,
      Reader.reads_text _, Reader.reads_text _⟩
  intro l hl
  exact ⟨hkeys l.key (keys_lines s ▸ List.mem_map_of_mem hl), hreads l hl⟩

theorem fields?_lines (s : Settings) :
    Table.fields? fieldNames (s.lines.map fun l => (l.key, l.value)) = some (s.lines.map fun l => some l.value) :=
  rfl

theorem ofToml?_lines (s : Settings) : ofToml? (s.lines.map fun l => (l.key, l.value)) = some s := by
  have htext : ∀ t : String, Value.text? (.text t.toList) = some t := by
    intro t
    rw [Value.text?, String.ofList_toList]
  have hcolor := Color.ofToml?_parts s.defaultColor
  have hchoice := NameChoice.ofToml?_word s.nameChoice
  rw [ofToml?, fields?_lines]
  simp only [lines, List.map_cons, List.map_nil, optional?, htext, hcolor, hchoice, Value.bool?]
  rfl

theorem read?_write (s : Settings) : read? s.write = some s := by
  have hkeys : (s.lines.map (·.key)).Nodup := by
    rw [keys_lines]
    decide
  rw [read?, write_eq_lines, Table.read?_lines (isSound_lines s) hkeys, Option.bind_some, ofToml?_lines]

end Settings

end

/-! ## JSON -/

namespace Settings

open Json

theorem jsonColor?_parts (c : Color) :
    jsonColor? (.array (c.parts.map fun p => .number (.ofInt p.toNat))) = some c := by
  have hpart : ∀ p : UInt8, within? 0 255 (.number (.ofInt p.toNat)) = some (p.toNat : Int) := by
    intro p
    have hlt := p.toNat_lt
    have hbounds : (decide ((0 : Int) ≤ p.toNat) && decide ((p.toNat : Int) ≤ 255)) = true := by
      simp
      omega
    simp only [within?, Value.int?, Number.int?_ofInt, Option.filter_some, hbounds, if_true]
  have hlist : list? (within? 0 255) (.array (c.parts.map fun p => .number (.ofInt p.toNat))) =
      some (c.parts.map fun p => (p.toNat : Int)) := by
    change (c.parts.map fun p => Value.number (.ofInt p.toNat)).mapM (within? 0 255) = _
    simp [Color.parts, hpart]
  rw [jsonColor?, hlist]
  simp [Color.parts]

theorem jsonChoice?_word (c : NameChoice) : jsonChoice? (.text (some c.word.toList)) = some c := by
  cases c <;> decide

theorem text?_toList (t : String) : Value.text? (.text (some t.toList)) = some t := by
  rw [Value.text?, String.ofList_toList]

def jsonValues (s : Settings) : List Value :=
  [.bool s.hotReload, .text (some s.hoverFolder.toList),
    .array (s.defaultColor.parts.map fun p => .number (.ofInt p.toNat)),
    .text (some s.reloadCommand.toList), .text (some s.nameChoice.word.toList),
    .text (some s.catalogPath.toList), .text (some s.symbolTablePath.toList)]

def jsonFields (s : Settings) : List (Json.Text × Value) :=
  (fieldNames.map fun n => some n.toList).zip s.jsonValues

theorem ofJson?_object (s : Settings) : ofJson? (.object s.jsonFields) = some s := by
  have hvalues : fieldNames.map (fun n => valuesOf n s.jsonFields) = s.jsonValues.map fun v => [v] := rfl
  simp only [fieldNames, jsonValues, List.map_cons, List.map_nil, List.cons.injEq, and_true] at hvalues
  obtain ⟨hhot, hfolder, hcolor, hcommand, hchoice, hcatalog, hsymbols⟩ := hvalues
  simp only [ofJson?, field?_of_valuesOf hhot, field?_of_valuesOf hfolder, field?_of_valuesOf hcolor,
    field?_of_valuesOf hcommand, field?_of_valuesOf hchoice, field?_of_valuesOf hcatalog,
    field?_of_valuesOf hsymbols, jsonBool?, text?_toList, jsonColor?_parts, jsonChoice?_word]
  rfl

theorem ofJson?_array (s : Settings) : ofJson? (.array s.jsonValues) = some s := by
  simp only [ofJson?, jsonValues, fieldNames, List.length_cons, List.length_nil, Nat.le_refl, if_true, place?,
    List.getElem?_cons_zero, List.getElem?_cons_succ, jsonBool?, text?_toList, jsonColor?_parts,
    jsonChoice?_word]
  rfl

theorem isPlain_toJson (s : Settings) : s.toJson.IsPlain := by
  have hvalues : ∀ v ∈ s.jsonValues, v.IsPlain := by
    have hcolor : (Value.array (s.defaultColor.parts.map fun p => .number (.ofInt p.toNat))).IsPlain :=
      Value.isPlain_array (by simpa using fun (p : UInt8) _ => Value.isPlain_ofInt p.toNat)
    simp only [jsonValues, List.forall_mem_cons, List.not_mem_nil, false_implies, implies_true, and_true]
    exact ⟨Value.isPlain_bool _, Value.isPlain_text _, hcolor, Value.isPlain_text _, Value.isPlain_text _,
      Value.isPlain_text _, Value.isPlain_text _⟩
  refine Value.isPlain_object fun f hf => ?_
  obtain ⟨hkey, hvalue⟩ := List.of_mem_zip hf
  obtain ⟨n, -, hn⟩ := List.mem_map.1 hkey
  exact ⟨by rw [← hn]; rfl, hvalues _ hvalue⟩

theorem ofJson?_write (s : Settings) : (Value.read? s.toJson.write).bind ofJson? = some s := by
  rw [Value.read?_write s.isPlain_toJson, Option.bind_some]
  exact s.ofJson?_object

end Settings

end ItemHover
