import EntityForms.Binary64.Text
import EntityForms.Toml.Value

/-!
# Numbers, dates and words in TOML

A value that is neither quoted nor bracketed is one word. Decimal numbers may carry a sign and have
no leading zero, digits may be separated by single underscores, integers fit 64 bits and can be
written in base 16, 8 or 2. A decimal that is too large is refused, unless it is negative. Dates and
times are those of RFC 3339, either of which may stand alone.
-/

namespace EntityForms.Toml

/-- Digits, the first and the one after each underscore included, without the underscores. -/
def underscored (isDigit : Char → Bool) : List Char → Option (List Char)
  | [] => none
  | '_' :: _ => none
  | [c] => if isDigit c then some [c] else none
  | c :: '_' :: rest =>
    if isDigit c then (underscored isDigit rest).map (c :: ·) else none
  | c :: rest => if isDigit c then (underscored isDigit rest).map (c :: ·) else none

/-- The digits of a decimal without a leading zero. -/
def wholeDigits? (cs : List Char) : Option (List Char) := do
  let ds ← underscored Char.isDigit cs
  if ds.length > 1 ∧ ds.head? = some '0' then none else some ds

/-- A digit or an underscore. -/
def isDigitPart (c : Char) : Bool := c.isDigit || c == '_'

/-- The value of a hexadecimal digit. -/
def hexValue? (c : Char) : Option Nat :=
  if c.isDigit then some (c.toNat - '0'.toNat)
  else if 'a' ≤ c ∧ c ≤ 'f' then some (c.toNat - 'a'.toNat + 10)
  else if 'A' ≤ c ∧ c ≤ 'F' then some (c.toNat - 'A'.toNat + 10)
  else none

/-- The value of digits in a base up to sixteen. -/
def baseValue? (base : Nat) (cs : List Char) : Option Nat := do
  let ds ← underscored (fun c ↦ (hexValue? c).any (· < base)) cs
  some (ds.foldl (fun n c ↦ base * n + (hexValue? c).getD 0) 0)

/-- The integer that a word spells. -/
def integer? (word : List Char) : Option Int64 :=
  match word with
  | '0' :: 'x' :: cs => (baseValue? 16 cs).bind fun n ↦ Text.int64? n
  | '0' :: 'o' :: cs => (baseValue? 8 cs).bind fun n ↦ Text.int64? n
  | '0' :: 'b' :: cs => (baseValue? 2 cs).bind fun n ↦ Text.int64? n
  | _ => do
    let (negative, cs) := Text.takeSign word
    let n := Text.digitsValue (← wholeDigits? cs)
    Text.int64? (if negative then -(n : Int) else n)

/-- The digits of an exponent part, with its sign. -/
def exponentText? : List Char → Option (List Char)
  | [] => some []
  | c :: cs => do
    if c ≠ 'e' ∧ c ≠ 'E' then none
    else
      let (negative, cs) := Text.takeSign cs
      let ds ← underscored Char.isDigit cs
      some ('e' :: (if negative then '-' else '+') :: ds)

/-- The double that a word spells. -/
def float? (word : List Char) : Option Binary64 := do
  let (negative, cs) := Text.takeSign word
  if cs = ['i', 'n', 'f'] then some (.infinite negative)
  else if cs = ['n', 'a', 'n'] then some .nan
  else
    let whole ← wholeDigits? (cs.takeWhile isDigitPart)
    let rest := cs.dropWhile isDigitPart
    let (fraction, rest) ← match rest with
      | '.' :: rest => do
        let ds ← underscored Char.isDigit (rest.takeWhile isDigitPart)
        some ('.' :: ds, rest.dropWhile isDigitPart)
      | [] => none
      | rest => some ([], rest)
    let exponent ← exponentText? rest
    let x ← Binary64.readMagnitude? negative (whole ++ fraction ++ exponent)
    if x = .infinite false then none else some x

/-! ## Dates and times -/

/-- The value of two digits. -/
def twoDigits? (a b : Char) : Option Nat :=
  if a.isDigit && b.isDigit then some (Text.digitsValue [a, b]) else none

/-- The number of days of a month. -/
def daysIn (year month : Nat) : Nat :=
  if month = 2 then
    if (year % 4 = 0 ∧ year % 100 ≠ 0) ∨ year % 400 = 0 then 29 else 28
  else if month = 4 ∨ month = 6 ∨ month = 9 ∨ month = 11 then 30
  else 31

/-- The characters after a date. -/
def date? : List Char → Option (List Char)
  | y₁ :: y₂ :: y₃ :: y₄ :: '-' :: m₁ :: m₂ :: '-' :: d₁ :: d₂ :: rest => do
    let century ← twoDigits? y₁ y₂
    let year ← twoDigits? y₃ y₄
    let month ← twoDigits? m₁ m₂
    let day ← twoDigits? d₁ d₂
    if 1 ≤ month ∧ month ≤ 12 ∧ 1 ≤ day ∧ day ≤ daysIn (100 * century + year) month then some rest
    else none
  | _ => none

/-- The characters after a time of day. -/
def time? : List Char → Option (List Char)
  | h₁ :: h₂ :: ':' :: m₁ :: m₂ :: ':' :: s₁ :: s₂ :: rest => do
    let hour ← twoDigits? h₁ h₂
    let minute ← twoDigits? m₁ m₂
    let second ← twoDigits? s₁ s₂
    if 23 < hour ∨ 59 < minute ∨ 60 < second then none
    else match rest with
      | '.' :: d :: rest => if d.isDigit then some (rest.dropWhile Char.isDigit) else none
      | '.' :: [] => none
      | rest => some rest
  | _ => none

/-- Whether these characters are nothing, or the offset of a time zone. -/
def isOffset : List Char → Bool
  | [] | ['Z'] | ['z'] => true
  | [sign, h₁, h₂, ':', m₁, m₂] =>
    (sign == '+' || sign == '-') &&
      (twoDigits? h₁ h₂).any (· ≤ 23) && (twoDigits? m₁ m₂).any (· ≤ 59)
  | _ => false

/-- Whether a word is a date, a time or both. -/
def isMoment (word : List Char) : Bool :=
  match date? word with
  | some [] => true
  | some (c :: rest) => (c == 'T' || c == 't' || c == ' ') && (time? rest).any isOffset
  | none => time? word == some []

/-- The value that a word spells. -/
def scalar? (word : List Char) : Option Toml :=
  if word = ['t', 'r', 'u', 'e'] then some (.bool true)
  else if word = ['f', 'a', 'l', 's', 'e'] then some (.bool false)
  else if isMoment word then some .moment
  else match integer? word with
    | some n => some (.integer n)
    | none => (float? word).map .float

end EntityForms.Toml
