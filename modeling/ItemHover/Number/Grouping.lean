import ItemHover.Number.Decimal

/-!
# Digit grouping

A number is written in groups of three digits with a separator between the groups. The separator
follows the language of a locale.
-/

namespace ItemHover

/-- How large numbers are grouped: the character between groups, if there is one. -/
structure Grouping where
  separator : Option Char
  deriving DecidableEq, Repr, Inhabited

namespace Grouping

def comma : Grouping := ⟨some ','⟩

def plain : Grouping := ⟨none⟩

/-- Digits with the separator wherever a multiple of three digits follows. -/
def separate (sep : Char) : List Char → List Char
  | [] => []
  | d :: ds => if !ds.isEmpty && ds.length % 3 == 0 then d :: sep :: separate sep ds else d :: separate sep ds

def write (g : Grouping) (n : Int64) : List Char :=
  match g.separator with
  | none => Decimal.write n.toInt
  | some sep =>
    let ds := separate sep (Decimal.digits n.toInt.natAbs)
    if n.toInt < 0 then '-' :: ds else ds

end Grouping

/-! ## Locales -/

namespace Locale

def pointLanguages : List String := ["de", "nl", "it", "es", "pt", "da", "id", "tr", "el"]

/-- Languages that write a no-break space between groups. -/
def spaceLanguages : List String :=
  ["fr", "ru", "pl", "sv", "fi", "nb", "no", "cs", "sk", "uk", "hu"]

/-- The language of a tag: what stands before the first `-`, `_` or `.`, in small letters. -/
def language (tag : String) : String :=
  String.ofList ((tag.toList.takeWhile fun c => !(c == '-' || c == '_' || c == '.')).map Char.toLower)

/-- The grouping that the language of a tag calls for; a comma where nothing else is known. -/
def grouping (tag : String) : Grouping :=
  let l := language tag
  if pointLanguages.contains l then ⟨some '.'⟩
  else if spaceLanguages.contains l then ⟨some '\u00a0'⟩
  else .comma

/-- The variables of an environment that name its locale; an unset one is `none`. -/
structure Environment where
  language : Option String := none
  lcAll : Option String := none
  lcMessages : Option String := none
  lang : Option String := none
  deriving DecidableEq, Repr, Inhabited

/-- A value as a tag: the part before a code set or a modifier, with `-` for `_`. -/
def tagOf (value : String) : String :=
  String.ofList ((value.toList.takeWhile fun c => !(c == '.' || c == '@')).map
    fun c => if c == '_' then '-' else c)

/-- The first entry of a list of languages that is parted by colons. -/
def firstOf (value : String) : String := String.ofList (value.toList.takeWhile (· != ':'))

def given (v : Option String) : Option String := v.filter fun s => !s.isEmpty

/-- The tag of an environment: the first of its languages, else the first variable that says one. -/
def Environment.tag? (env : Environment) : Option String :=
  (given (env.language.map firstOf)
    <|> given env.lcAll <|> given env.lcMessages <|> given env.lang).map tagOf

def Environment.grouping (env : Environment) : Grouping :=
  match env.tag? with
  | some tag => Locale.grouping tag
  | none => .comma

end Locale

end ItemHover
