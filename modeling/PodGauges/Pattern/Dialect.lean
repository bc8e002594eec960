/-!
What the reading of a pattern takes from elsewhere than its text: the characters that can be asked
for by name, and the texts whose brackets are nested deeper than there is room for.
-/

namespace PodGauges.Pattern

/-- The names that characters have, and the texts that take too much room to be read up to their end
or their first fault. How much room there is depends on all else that is going on, so that this is
left open here. -/
structure Dialect where
  named? : List Char → Option Char
  isTooDeep : List Char → Bool

/-! ## A small dialect -/

/-- The letters of one case, by name. -/
def letterNames (case : String) : List String :=
  (List.range 26).map fun i => s!"LATIN {case} LETTER {Char.ofNat (65 + i)}"

/-- The names of the printable ASCII characters, from the blank on. -/
def asciiNames : List String :=
  ["SPACE", "EXCLAMATION MARK", "QUOTATION MARK", "NUMBER SIGN", "DOLLAR SIGN", "PERCENT SIGN",
   "AMPERSAND", "APOSTROPHE", "LEFT PARENTHESIS", "RIGHT PARENTHESIS", "ASTERISK", "PLUS SIGN",
   "COMMA", "HYPHEN-MINUS", "FULL STOP", "SOLIDUS", "DIGIT ZERO", "DIGIT ONE", "DIGIT TWO",
   "DIGIT THREE", "DIGIT FOUR", "DIGIT FIVE", "DIGIT SIX", "DIGIT SEVEN", "DIGIT EIGHT",
   "DIGIT NINE", "COLON", "SEMICOLON", "LESS-THAN SIGN", "EQUALS SIGN", "GREATER-THAN SIGN",
   "QUESTION MARK", "COMMERCIAL AT"] ++ letterNames "CAPITAL" ++
  ["LEFT SQUARE BRACKET", "REVERSE SOLIDUS", "RIGHT SQUARE BRACKET", "CIRCUMFLEX ACCENT",
   "LOW LINE", "GRAVE ACCENT"] ++ letterNames "SMALL" ++
  ["LEFT CURLY BRACKET", "VERTICAL LINE", "RIGHT CURLY BRACKET", "TILDE"]

/-- The ASCII character of a name, which may be spelled in small letters. -/
def asciiNamed? (name : List Char) : Option Char :=
  (asciiNames.idxOf? (String.ofList (name.map Char.toUpper))).map fun i => Char.ofNat (i + 32)

mutual

/-- The most brackets that are open at once in a text, some being open in front of it. Brackets in
a set or behind a backslash do not count. -/
def nesting (n : Nat) : List Char → Nat
  | [] => n
  | '\\' :: _ :: rest => nesting n rest
  | '[' :: '^' :: ']' :: rest => nestingBehindSet n rest
  | '[' :: ']' :: rest => nestingBehindSet n rest
  | '[' :: rest => nestingBehindSet n rest
  | '(' :: rest => nesting (n + 1) rest
  | ')' :: rest => max n (nesting (n - 1) rest)
  | _ :: rest => nesting n rest

/-- The same for a text that begins inside of a set. -/
def nestingBehindSet (n : Nat) : List Char → Nat
  | [] => n
  | '\\' :: _ :: rest => nestingBehindSet n rest
  | ']' :: rest => nesting n rest
  | _ :: rest => nestingBehindSet n rest

end

/-- The deepest nesting that a stack of common size has room for. -/
def maxNesting : Nat := 494

/-- The dialect in which only ASCII characters have names. -/
def Dialect.ascii : Dialect where
  named? := asciiNamed?
  isTooDeep text := maxNesting < nesting 0 text

end PodGauges.Pattern
