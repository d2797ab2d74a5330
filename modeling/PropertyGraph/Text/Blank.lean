/-!
# Blank characters and trimming

A blank is any character that separates words: the ASCII controls from tab to carriage return, the
four information separators, and every space of the wider character set. The zero-width space and
the byte-order mark are not blanks. Texts are worked on as lists of characters; `strip` removes the
blanks at both ends and nothing else.
-/

namespace PropertyGraph.Text

/-- Whether a character is a blank. -/
def isBlank (c : Char) : Bool :=
  let n := c.toNat
  (9 ≤ n && n ≤ 13) || (28 ≤ n && n ≤ 32) || n == 0x85 || n == 0xA0 || n == 0x1680
    || (0x2000 ≤ n && n ≤ 0x200A) || n == 0x2028 || n == 0x2029 || n == 0x202F || n == 0x205F
    || n == 0x3000

/-- A text without its leading blanks. -/
def stripLeft (s : List Char) : List Char := s.dropWhile isBlank

/-- A text without its trailing blanks. -/
def stripRight (s : List Char) : List Char := (s.reverse.dropWhile isBlank).reverse

/-- A text without the blanks at its two ends. -/
def strip (s : List Char) : List Char := stripRight (stripLeft s)

/-- A string without the blanks at its two ends. -/
def trim (s : String) : String := String.ofList (strip s.toList)

/-- Whether a character is a space: a blank that is not an information separator. -/
def isSpace (c : Char) : Bool := isBlank c && !(28 ≤ c.toNat && c.toNat ≤ 31)

/-- A text without the spaces at its two ends. -/
def trimSpaces (s : List Char) : List Char :=
  ((s.dropWhile isSpace).reverse.dropWhile isSpace).reverse

/-- Whether a string holds nothing but blanks. -/
def isBlankText (s : String) : Bool := s.toList.all isBlank

theorem stripLeft_of_head {c : Char} {s : List Char} (h : isBlank c = false) :
    stripLeft (c :: s) = c :: s := by
  simp [stripLeft, h]

@[simp] theorem stripLeft_stripLeft (s : List Char) : stripLeft (stripLeft s) = stripLeft s := by
  induction s with
  | nil => rfl
  | cons c s ih =>
    by_cases h : isBlank c = true
    · simpa [stripLeft, h] using ih
    · simp [stripLeft, h]

@[simp] theorem toList_trim (s : String) : (trim s).toList = strip s.toList := by simp [trim]

end PropertyGraph.Text
