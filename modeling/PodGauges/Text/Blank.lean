/-!
Sets of characters given as closed ranges of code points, the shape in which every character class
of this library is written down, and the first of them: white space, with trimming a text and
cutting it into words.
-/

namespace PodGauges.Text

abbrev Ranges := List (Nat × Nat)

def Ranges.contains (ranges : Ranges) (point : Nat) : Bool :=
  ranges.any fun range => range.1 ≤ point && point ≤ range.2

/-- White space, the information separators of the control block included. -/
def blankRanges : Ranges :=
  [(0x9, 0xD), (0x1C, 0x20), (0x85, 0x85), (0xA0, 0xA0), (0x1680, 0x1680), (0x2000, 0x200A),
   (0x2028, 0x2029), (0x202F, 0x202F), (0x205F, 0x205F), (0x3000, 0x3000)]

/-- White space of any script, the separators of information among it. -/
def isBlank (c : Char) : Bool := blankRanges.contains c.toNat

/-- The white space that bytes can spell: space, tab, line feed and the three beside it. -/
def isAsciiBlank (c : Char) : Bool := c == ' ' || ('\t' ≤ c && c ≤ '\r')

/-- The text without the characters of a class at its end. -/
def dropEnd (p : Char → Bool) (s : List Char) : List Char :=
  (s.reverse.dropWhile p).reverse

/-- The text without the characters of a class at either end. -/
def trimBy (p : Char → Bool) (s : List Char) : List Char := dropEnd p (s.dropWhile p)

/-- The text without white space at either end. -/
def trim (s : List Char) : List Char := trimBy isBlank s

/-- The maximal runs of characters outside a class, in order. -/
def runs (p : Char → Bool) : List Char → List (List Char)
  | [] => []
  | c :: s =>
    if p c then runs p s
    else match s with
      | [] => [[c]]
      | d :: t =>
        if p d then [c] :: runs p (d :: t)
        else match runs p (d :: t) with
          | [] => [[c]]
          | w :: ws => (c :: w) :: ws

/-- The words of a text: its maximal runs without white space. -/
def words (s : List Char) : List (List Char) := runs isBlank s

def trimString (s : String) : String := String.ofList (trim s.toList)

end PodGauges.Text
