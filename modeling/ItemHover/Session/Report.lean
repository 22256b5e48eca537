import ItemHover.Engine
import ItemHover.Settings
import ItemHover.Text.Column

/-!
# Reports

What a session says.
-/

namespace ItemHover.Report

def lines (ls : List String) : String := String.join (ls.map (· ++ "\n"))

def number (n : Int) : String := String.ofList (Decimal.write n)

/-- A refusal ends its line, however its message ends. -/
def refusal (message : String) : String :=
  String.ofList (Text.trimEnd message.toList) ++ "\n"

/-! ## Hovers -/

def paint (c : Color) (s : String) : String :=
  let parts := ([c.red, c.green, c.blue].map fun p => number p.toNat)
  "\x1b[38;2;" ++ ";".intercalate parts ++ "m" ++ s ++ "\x1b[0m"

def painted (c : Color) (hover : String) : List String :=
  (Text.split Hover.lineBreak.toList hover.toList).map fun l => paint c (String.ofList l)

/-- The hovers of an item, with an empty line after each. -/
def hovers (c : Color) (id : ItemId) (hs : List String) : String :=
  if hs.isEmpty then lines ["No hovers for item " ++ number id.toInt]
  else lines (hs.flatMap fun h => painted c h ++ [""])

/-! ## Reloads -/

def loaded : Except Hover.Error Engine.Summary → String
  | .ok s => lines ["Loaded " ++ number s.definitions ++ " hovers from " ++ number s.documents ++ " files"]
  | .error e => lines ["No hovers loaded: " ++ e.message]

def reloaded : Except Hover.Error Engine.Summary → String
  | .ok s => lines ["Reloaded " ++ number s.definitions ++ " hovers for " ++ number s.items ++ " items from "
      ++ number s.documents ++ " files"]
  | .error e => lines ["Reload failed, keeping previous hovers: " ++ e.chain]

/-! ## Names -/

def nameReport (x : Name.Index) : String :=
  lines ((number x.size ++ " names indexed")
    :: x.report.invalid.map (fun e =>
      "  skipped invalid name " ++ Text.quote false e.2 ++ " (item " ++ number e.1.toInt ++ ")")
    ++ x.report.duplicates.map (fun d =>
      "  duplicate " ++ d.name ++ " kept item " ++ number d.kept.toInt ++ ", ignored item "
        ++ number d.rejected.toInt))

/-- The names that a pattern selects, by rising ids. -/
def namesOf (x : Name.Index) (pattern : String) : String :=
  let ids := (x.idsOf pattern).eraseDups.mergeSort (· ≤ ·)
  if ids.isEmpty then lines ["No names match " ++ pattern]
  else
    lines (ids.map (fun id => Text.atRight 8 (number id.toInt) ++ "  " ++ (x.nameOf? id).getD "?")
      ++ ["", "Total: " ++ number ids.length ++ " items"])

/-! ## The index -/

def row (id name count : String) : String := Text.atLeft 8 id ++ " " ++ Text.atLeft 40 name ++ " " ++ count

def list (h : Hover.Index) (x : Name.Index) : String :=
  if h.size = 0 then lines ["No hovers loaded"]
  else
    lines ([row "Id" "Name" "Hovers", String.ofList (List.replicate 60 '-')]
      ++ h.buckets.map (fun (id, b) => row (number id.toInt) ((x.nameOf? id).getD "-") (number b.length))
      ++ ["", "Total: " ++ number h.size ++ " items, " ++ number h.definitions ++ " definitions in "
        ++ number h.documents ++ " files"])

/-! ## Settings -/

def phase : Engine.Phase → String
  | .empty => "Empty"
  | .loaded => "Loaded"
  | .stale => "Stale"
  | .reloading => "Reloading"

def truth (b : Bool) : String := if b then "true" else "false"

def settings (s : Settings) (p : Engine.Phase) : String :=
  let entry (label value : String) : String := Text.atLeft 19 (label ++ ":") ++ value
  lines [
    entry "hovers_dir" s.hoverFolder,
    entry "hot_reload" (truth s.hotReload),
    entry "default_color"
      ("(" ++ ", ".intercalate (s.defaultColor.parts.map fun p => number p.toNat) ++ ")"),
    entry "reload_command" s.reloadCommand,
    entry "name_source" s.nameChoice.label,
    entry "catalog_path" s.catalogPath,
    entry "symbol_table_path" s.symbolTablePath,
    entry "state" (phase p)]

end ItemHover.Report
