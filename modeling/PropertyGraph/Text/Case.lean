import PropertyGraph.Text.CaseTable
import PropertyGraph.Text.Word

/-!
# Letter case

A text is lowered letter by letter. Two capitals are special: the dotted I becomes an i and a
combining dot, and the capital sigma becomes the final small one at the end of a word.

Capitals are only asked for in comparisons with ASCII names, such as those of settings and levels.
So it is enough to know which characters have an ASCII capital: besides the ASCII letters these are
the dotless i and the long s.
-/

namespace PropertyGraph.Text

/-! ## Lower case -/

/-- Whether a code point is one of the capitals of a run. -/
def CaseRun.contains (r : CaseRun) (n : Nat) : Bool :=
  r.first ≤ n && n ≤ r.last && (n - r.first) % r.step == 0

/-- A character in lower case, if that is one character whatever stands around it. -/
def lowerChar (c : Char) : Char :=
  if c.toNat < 128 then c.toLower
  else
    match capitalRuns.find? (·.contains c.toNat) with
    | some r => Char.ofNat ((c.toNat : Int) + r.offset).toNat
    | none => c

/-- Whether a character is a letter with case, or of the kind of one. -/
def isCased (c : Char) : Bool := inRanges casedRanges c.toNat

/-- Whether a character is passed over by the look at the neighbours of a letter. -/
def isCaseIgnorable (c : Char) : Bool := inRanges caseIgnorableRanges c.toNat

/-- Whether a text starts with a cased character, passing over those that do not count. -/
def startsCased (s : List Char) : Bool := (s.dropWhile isCaseIgnorable).head?.any isCased

/-- The small sigma between the text before it, last character first, and the text after it. -/
def lowerSigma (before after : List Char) : Char :=
  if startsCased before && !startsCased after then 'ς' else 'σ'

/-- A text in lower case that stands after another, given last character first. -/
def lowerAfter (before : List Char) : List Char → List Char
  | [] => []
  | c :: s =>
    let rest := lowerAfter (c :: before) s
    if c = 'Σ' then lowerSigma before s :: rest
    else if c = 'İ' then 'i' :: '\u0307' :: rest
    else lowerChar c :: rest

def lower (s : String) : String := String.ofList (lowerAfter [] s.toList)

/-! ## Comparisons with ASCII names -/

/-- A character in upper case, as far as an ASCII letter results. -/
def upperChar (c : Char) : Char :=
  if c.toNat == 0x131 then 'I' else if c.toNat == 0x17F then 'S' else c.toUpper

/-- A text in upper case, for comparison with an ASCII name. -/
def upper (s : String) : String := String.ofList (s.toList.map upperChar)

/-- Whether a character is the given lower-case ASCII letter in either case. -/
def isLetter (letter c : Char) : Bool := c.toLower == letter

end PropertyGraph.Text
