import EntityForms.Toml.Text

/-!
# TOML documents

A document is read in two steps. The first takes it apart into key-value pairs and headers and knows
nothing of what they define; the second, `Document.root?`, makes the tables and refuses a document
that defines something twice. Brackets nest at most 79 deep, and a dotted key has at most 79 parts.
-/

namespace EntityForms.Toml

open Scanner

/-- The number of levels of brackets, and of parts of a key, that a document may have. -/
def maxDepth : Nat := 79

/-! ## Keys -/

/-- A character of a key without quotes. -/
def isKeyChar (c : Char) : Bool := c.isAlphanum || c == '_' || c == '-'

/-- Take one part of a key. -/
def keyPart : Scanner String := do
  match ← peek with
  | some '"' | some '\'' => lineText
  | _ =>
    let cs ← takeWhile isKeyChar
    if cs.isEmpty then fail else return String.ofList cs

/-- Take the parts of a key, with spaces around each. -/
def keyParts : Nat → Scanner (List String)
  | 0 => fail
  | rounds + 1 => do
    skipSpaces
    let part ← keyPart
    skipSpaces
    if ← skip ['.'] then return part :: (← keyParts rounds)
    return [part]

/-- Take a key: the parts before the last one, and the last one. -/
def key : Scanner (List String × String) := do
  let parts ← bounded keyParts
  match parts.getLast? with
  | some last => if parts.length ≤ maxDepth then return (parts.dropLast, last) else fail
  | none => fail

/-! ## Values -/

/-- A character of a word. -/
def isWordChar (c : Char) : Bool :=
  c.isAlphanum || c == '+' || c == '-' || c == '_' || c == '.' || c == ':'

/-- Take a word; a date and a time may be separated by a space. -/
def word : Scanner (List Char) := do
  let first ← takeWhile isWordChar
  if date? first == some [] && (← startsWith [' ']) then
    let rest ← fun cs ↦ some (cs.drop 1, cs)
    if rest.head?.any Char.isDigit then
      let _ ← next
      return first ++ ' ' :: (← takeWhile isWordChar)
  return first

/-- Take the items of an array up to its closing bracket. -/
def arrayRest (value : Scanner Toml) : Nat → Scanner (List Toml)
  | 0 => fail
  | rounds + 1 => do
    bounded (skipLines true)
    if ← skip [']'] then return []
    let item ← value
    bounded (skipLines true)
    if ← skip [','] then return item :: (← arrayRest value rounds)
    expect ']'
    return [item]

/-- Take a key, an equals sign and a value. -/
def pair (value : Scanner Toml) : Scanner Pair := do
  let (path, key) ← key
  expect '='
  skipSpaces
  let value ← value
  return { path, key, value }

/-- Take the pairs of an inline table, of which there is at least one, up to its closing brace. -/
def pairsRest (value : Scanner Toml) : Nat → Scanner (List Pair)
  | 0 => fail
  | rounds + 1 => do
    let first ← pair value
    skipSpaces
    if ← skip [','] then return first :: (← pairsRest value rounds)
    expect '\x7d'
    return [first]

/-- Take the rest of an inline table. -/
def tableRest (value : Scanner Toml) : Scanner Toml := do
  skipSpaces
  if ← skip ['\x7d'] then return .table .inline []
  let pairs ← bounded (pairsRest value)
  match assignAll pairs [] with
  | some entries => return .table .inline entries
  | none => fail

/-- Take a value whose brackets nest at most so deep. -/
def value : Nat → Scanner Toml
  | 0 => do
    match ← peek with
    | some '"' | some '\'' => return .text (← quotedText)
    | _ => match scalar? (← word) with
      | some v => return v
      | none => fail
  | depth + 1 => do
    match ← peek with
    | some '"' | some '\'' => return .text (← quotedText)
    | some '[' =>
      expect '['
      return .array (← bounded (arrayRest (value depth)))
    | some '\x7b' =>
      expect '\x7b'
      tableRest (value depth)
    | _ => match scalar? (← word) with
      | some v => return v
      | none => fail

/-! ## Lines -/

/-- Take the pairs that stand before the next header or the end. -/
def pairs : Nat → Scanner (List Pair)
  | 0 => fail
  | rounds + 1 => do
    bounded (skipLines true)
    match ← peek with
    | none | some '[' => return []
    | _ =>
      let first ← pair (value maxDepth)
      endLine
      return first :: (← pairs rounds)

/-- Take the sections up to the end. -/
def sections : Nat → Scanner (List Section)
  | 0 => fail
  | rounds + 1 => do
    if (← peek) == none then return []
    expect '['
    let isItem ← skip ['[']
    let (path, key) ← key
    expect ']'
    if isItem then expect ']'
    endLine
    let pairs ← bounded pairs
    return { isItem, path, key, pairs } :: (← sections rounds)

/-- Take a whole document; a byte order mark may stand before it. -/
def document : Scanner Document := do
  let _ ← skip ['\ufeff']
  let pairs ← bounded pairs
  let sections ← bounded sections
  return { pairs, sections }

/-- The table that a text stands for. -/
def parse? (s : String) : Option Entries := do
  let (d, rest) ← document s.toList
  if rest.isEmpty then d.root? else none

end EntityForms.Toml
