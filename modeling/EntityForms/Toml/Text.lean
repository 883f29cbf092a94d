import EntityForms.Toml.Scalar
import EntityForms.Toml.Scan

/-!
# Texts in TOML

A text stands between single or double quotes, one of them for a text of one line and three for a
text of several. Double quotes admit escapes; single quotes take every character as it is. A text
of several lines drops a line break right after its opening quotes and writes every line break as
one character; up to two quotes may stand directly before its closing quotes.
-/

namespace EntityForms.Toml

open Scanner

/-- Take a code point of so many hexadecimal digits, after the value `n` of those before. -/
def codePoint (n : Nat) : Nat → Scanner Char
  | 0 => if n.isValidChar then pure (Char.ofNat n) else fail
  | digits + 1 => do
    match hexValue? (← next) with
    | some d => codePoint (16 * n + d) digits
    | none => fail

/-- Take what follows a backslash. -/
def escape : Scanner Char := do
  match ← next with
  | 'b' => return '\x08'
  | 't' => return '\t'
  | 'n' => return '\n'
  | 'f' => return '\x0c'
  | 'r' => return '\r'
  | '"' => return '"'
  | '\\' => return '\\'
  | 'u' => codePoint 0 4
  | 'U' => codePoint 0 8
  | _ => fail

/-- Take the rest of a text in double quotes. -/
def basicRest : Nat → Scanner (List Char)
  | 0 => fail
  | rounds + 1 => do
    match ← next with
    | '"' => return []
    | '\\' =>
      let c ← escape
      return c :: (← basicRest rounds)
    | c => if isPlain c then return c :: (← basicRest rounds) else fail

/-- Take the rest of a text in single quotes. -/
def literalRest : Scanner (List Char) := do
  let cs ← takeWhile fun c ↦ isPlain c && c != '\''
  expect '\''
  return cs

/--
Take the quotes that come next within a text of several lines. Fewer than three belong to the text;
three close it, and up to two before them belong to it. The answer tells whether it is closed.
-/
def quoteRun (quote : Char) : Scanner (List Char × Bool) := do
  let run ← takeWhile (· == quote)
  if run.length < 3 then return (run, false)
  if run.length ≤ 5 then return (run.drop 3, true)
  fail

/-- Take the backslash at the end of a line with the white space after it, if that comes next. -/
def skipContinuation : Scanner Bool := fun cs ↦
  match (cs.drop 1).dropWhile isSpace with
  | '\n' :: rest => (bounded (skipLines false) rest).map fun r ↦ (true, r.2)
  | '\r' :: '\n' :: rest => (bounded (skipLines false) rest).map fun r ↦ (true, r.2)
  | _ => some (false, cs)

/-- Take the rest of a text of several lines. -/
def linesRest (quote : Char) (escapes : Bool) : Nat → Scanner (List Char)
  | 0 => fail
  | rounds + 1 => do
    if (← peek) == some quote then
      let (quotes, closed) ← quoteRun quote
      if closed then return quotes
      return quotes ++ (← linesRest quote escapes rounds)
    if ← skipBreak then return '\n' :: (← linesRest quote escapes rounds)
    if escapes && (← peek) == some '\\' then
      if ← skipContinuation then linesRest quote escapes rounds
      else
        expect '\\'
        let c ← escape
        return c :: (← linesRest quote escapes rounds)
    else
      let c ← next
      if isPlain c then return c :: (← linesRest quote escapes rounds) else fail

/-- Take a text of one line. -/
def lineText : Scanner String := do
  match ← next with
  | '"' => return String.ofList (← bounded basicRest)
  | '\'' => return String.ofList (← literalRest)
  | _ => fail

/-- Take a text of one line or of several. -/
def quotedText : Scanner String := do
  let some quote ← peek | fail
  if ← skip [quote, quote, quote] then
    let _ ← skipBreak
    return String.ofList (← bounded (linesRest quote (quote == '"')))
  lineText

end EntityForms.Toml
