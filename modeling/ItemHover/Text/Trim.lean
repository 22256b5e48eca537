import ItemHover.Unicode.Property

/-!
# Blanks around a text
-/

namespace ItemHover.Text

def isBlank (c : Char) : Bool := Unicode.blanks.mem c

def trimStart (s : List Char) : List Char := s.dropWhile isBlank

def trimEnd (s : List Char) : List Char := (trimStart s.reverse).reverse

def trim (s : List Char) : List Char := trimEnd (trimStart s)

end ItemHover.Text
