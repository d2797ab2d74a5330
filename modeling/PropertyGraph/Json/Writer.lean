import PropertyGraph.Document

/-!
# Writing documents as JSON

The text is pure ASCII: every other character is written as one or two escapes of four hexadecimal
digits. The compact form puts a blank after each comma and colon; the indented form puts every item
on a line of its own. `sortKeys` orders the entries of every map by key, which makes the compact
text of a document independent of the order in which its maps were built. What is written has to be
`isWritable`: no integer in it may have too many digits.
-/

namespace PropertyGraph.Json

/-- The escape of a code unit below `2 ^ 16`. -/
def unitEscape (n : Nat) : List Char := '\\' :: 'u' :: Text.hexDigits 4 n

/-- A character inside a JSON string. -/
def escapeChar (c : Char) : List Char :=
  if c == '"' then ['\\', '"']
  else if c == '\\' then ['\\', '\\']
  else if c == '\n' then ['\\', 'n']
  else if c == '\r' then ['\\', 'r']
  else if c == '\t' then ['\\', 't']
  else if c.toNat == 12 then ['\\', 'f']
  else if c.toNat == 8 then ['\\', 'b']
  else if 32 ≤ c.toNat && c.toNat < 127 then [c]
  else if c.toNat < 0x10000 then unitEscape c.toNat
  else
    let n := c.toNat - 0x10000
    unitEscape (0xD800 + n / 0x400) ++ unitEscape (0xDC00 + n % 0x400)

def writeText (s : String) : String :=
  String.ofList ('"' :: s.toList.flatMap escapeChar ++ ['"'])

/-- A scalar as JSON. -/
def writeScalar : Scalar → String
  | .null => "null"
  | .bool true => "true"
  | .bool false => "false"
  | .int n => toString n
  | .float x => Decimal.render Decimal.documentNames x
  | .text s => writeText s

mutual

/-- A document as JSON on one line. -/
def write : Document → String
  | .scalar v => writeScalar v
  | .list items => "[" ++ ", ".intercalate (writeItems items) ++ "]"
  | .map entries => "\x7b" ++ ", ".intercalate (writeEntries entries) ++ "\x7d"

/-- The items of a list, each on one line. -/
def writeItems : List Document → List String
  | [] => []
  | d :: ds => write d :: writeItems ds

/-- The entries of a map, each on one line. -/
def writeEntries : List (String × Document) → List String
  | [] => []
  | (k, d) :: es => (writeText k ++ ": " ++ write d) :: writeEntries es

end

/-- A line break followed by two blanks for each level. -/
def lineBreak (level : Nat) : String := "\n" ++ String.ofList (List.replicate (2 * level) ' ')

/-- Parts between brackets, each on a line of its own one level deeper. -/
def block (level : Nat) (opening closing : String) (parts : List String) : String :=
  if parts.isEmpty then opening ++ closing
  else
    opening ++ lineBreak (level + 1) ++ ("," ++ lineBreak (level + 1)).intercalate parts
      ++ lineBreak level ++ closing

mutual

/-- A document as indented JSON, at a given level. -/
def writeIndented (level : Nat) : Document → String
  | .scalar v => writeScalar v
  | .list items => block level "[" "]" (writeIndentedItems (level + 1) items)
  | .map entries => block level "\x7b" "\x7d" (writeIndentedEntries (level + 1) entries)

/-- The items of a list at a given level. -/
def writeIndentedItems (level : Nat) : List Document → List String
  | [] => []
  | d :: ds => writeIndented level d :: writeIndentedItems level ds

/-- The entries of a map at a given level. -/
def writeIndentedEntries (level : Nat) : List (String × Document) → List String
  | [] => []
  | (k, d) :: es =>
    (writeText k ++ ": " ++ writeIndented level d) :: writeIndentedEntries level es

end

/-- Why a document is not written. -/
inductive WriteFault where
  | longInteger
deriving DecidableEq

def WriteFault.message : WriteFault → String
  | longInteger => Decimal.limitMessage

mutual

/-- Whether all integers of a document can be written. -/
def isWritable : Document → Bool
  | .scalar (.int n) => decide (Decimal.digitCount n.natAbs ≤ Decimal.digitLimit)
  | .scalar _ => true
  | .list items => areWritable items
  | .map entries => areEntriesWritable entries

def areWritable : List Document → Bool
  | [] => true
  | d :: ds => isWritable d && areWritable ds

def areEntriesWritable : List (String × Document) → Bool
  | [] => true
  | (_, d) :: es => isWritable d && areEntriesWritable es

end

/-- Whether the key of one entry comes before that of another. -/
def keyLe {α : Type} (a b : String × α) : Bool := decide (a.1 ≤ b.1)

mutual

/-- A document with the entries of every map in order of their keys. -/
def sortKeys : Document → Document
  | .scalar v => .scalar v
  | .list items => .list (sortItems items)
  | .map entries => .map ((sortEntries entries).mergeSort keyLe)

/-- The items of a list with sorted maps. -/
def sortItems : List Document → List Document
  | [] => []
  | d :: ds => sortKeys d :: sortItems ds

/-- The entries of a map with sorted maps, in their own order. -/
def sortEntries : List (String × Document) → List (String × Document)
  | [] => []
  | (k, d) :: es => (k, sortKeys d) :: sortEntries es

end

end PropertyGraph.Json
