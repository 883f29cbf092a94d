/-!
# Scanning from the front

A scanner takes what it stands for from the front of a text and gives back the rest, or fails. It is
a state transformer over the characters that are left, so scanners are written in sequence; a
repetition is bounded by the number of characters that were left when it began.
-/

namespace EntityForms.Toml

/-- Takes something from the front of the characters that are left. -/
abbrev Scanner (α : Type) := StateT (List Char) Option α

namespace Scanner

variable {α : Type}

/-- Fail. -/
def fail : Scanner α := fun _ ↦ none

/-- Run a scanner with as many rounds as there are characters left, and one more. -/
def bounded (scanner : Nat → Scanner α) : Scanner α := fun cs ↦ scanner (cs.length + 1) cs

/-- Look at the next character, if there is one. -/
def peek : Scanner (Option Char) := fun cs ↦ some (cs.head?, cs)

/-- Whether the characters that are left begin with these. -/
def startsWith (start : List Char) : Scanner Bool := fun cs ↦ some (start.isPrefixOf cs, cs)

/-- Take the next character. -/
def next : Scanner Char
  | [] => none
  | c :: cs => some (c, cs)

/-- Take one given character. -/
def expect (c : Char) : Scanner Unit := do
  if (← next) != c then fail

/-- Take these characters if they come next, and tell whether they did. -/
def skip (start : List Char) : Scanner Bool := fun cs ↦
  if start.isPrefixOf cs then some (true, cs.drop start.length) else some (false, cs)

/-- Take all characters up to the first one that fails a test. -/
def takeWhile (p : Char → Bool) : Scanner (List Char) := fun cs ↦
  some (cs.takeWhile p, cs.dropWhile p)

end Scanner

/-! ## Lines, spaces and comments -/

open Scanner

/-- A space or a tab. -/
def isSpace (c : Char) : Bool := c == ' ' || c == '\t'

/-- A character that may stand in a comment: a tab, or any that is not a control character. -/
def isPlain (c : Char) : Bool := c == '\t' || (0x20 ≤ c.toNat && c.toNat != 0x7F)

/-- Take the spaces that come next. -/
def skipSpaces : Scanner Unit := discard (takeWhile isSpace)

/-- Take a comment if one comes next. -/
def skipComment : Scanner Unit := do
  if (← peek) == some '#' then discard (takeWhile isPlain)

/-- Take a line break if one comes next, and tell whether it did. -/
def skipBreak : Scanner Bool := do
  if ← skip ['\n'] then return true
  skip ['\r', '\n']

/-- Take the rest of a line that holds nothing more but a comment. -/
def endLine : Scanner Unit := do
  skipSpaces
  skipComment
  unless ← skipBreak do
    unless (← peek) == none do fail

/-- Take spaces, line breaks and, if they are allowed, comments. -/
def skipLines (comments : Bool) : Nat → Scanner Unit
  | 0 => fail
  | rounds + 1 => do
    skipSpaces
    if comments then skipComment
    if ← skipBreak then skipLines comments rounds

end EntityForms.Toml
