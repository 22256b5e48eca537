import ItemHover.Unicode.Property

/-!
# Quoted texts

A text is quoted so that every character of it can be seen. What cannot be seen is written as an escape.
-/

namespace ItemHover.Text

def joiners : Charset := (Unicode.named? "graphemeextend".toList).getD .empty

/-- Characters that show nothing, but for the blank. -/
def hidden : Charset :=
  (Unicode.unionOf ["cc", "cf", "cn", "co", "cs", "zl", "zp", "zs"]).diff (.single ' ')

def codeEscape (c : Char) : List Char := "\\u\x7b".toList ++ Nat.toDigits 16 c.toNat ++ ['}']

/-- A character between quotes; `marks` says whether an apostrophe is escaped as well. -/
def quoteChar (marks : Bool) (c : Char) : List Char :=
  match c with
  | '\x00' => ['\\', '0']
  | '\t' => ['\\', 't']
  | '\r' => ['\\', 'r']
  | '\n' => ['\\', 'n']
  | '"' => ['\\', '"']
  | '\\' => ['\\', '\\']
  | '\'' => if marks then ['\\', '\''] else ['\'']
  | _ => if joiners.mem c || hidden.mem c then codeEscape c else [c]

def quote (marks : Bool) (s : String) : String :=
  String.ofList ('"' :: s.toList.flatMap (quoteChar marks) ++ ['"'])

end ItemHover.Text
