/-!
# Columns

A text in a column is filled up with blanks to the width of the column. A longer text stays as it is.
-/

namespace ItemHover.Text

def atLeft (width : Nat) (s : String) : String := String.ofList (s.toList.rightpad width ' ')

def atRight (width : Nat) (s : String) : String := String.ofList (s.toList.leftpad width ' ')

/-- Rows of two columns with a gap before each. The first is as wide as its widest text. -/
def twoColumns (rows : List (String × String)) : String :=
  let width := (rows.map (·.1.length)).foldl max 0
  String.join (rows.map fun (left, right) => "  " ++ atLeft width left ++ "  " ++ right ++ "\n")

end ItemHover.Text
