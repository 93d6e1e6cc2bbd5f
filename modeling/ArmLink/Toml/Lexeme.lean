import ArmLink.Decimal.Text
import ArmLink.Text.Hex

/-!
The words of TOML: keys, strings, numbers, truth values, dates and times.  Each reader takes the
characters ahead and answers what it read and the characters behind it, or nothing if the
characters are no such word.
-/

namespace ArmLink.Toml

def isBlank (c : Char) : Bool := c == ' ' || c == '\t'

def skipBlanks (text : List Char) : List Char := text.dropWhile isBlank

/-- Control characters other than the tab stand nowhere in a document. -/
def isControl (c : Char) : Bool := (c.toNat < 0x20 && c != '\t') || c.toNat == 0x7F

def lineBreak? : List Char → Option (List Char)
  | '\n' :: rest => some rest
  | '\r' :: '\n' :: rest => some rest
  | _ => none

/-- The characters behind a comment, if there is one, up to the line break. -/
def skipComment? : List Char → Option (List Char)
  | '#' :: rest =>
    let comment := rest.takeWhile (fun c => c != '\n' && c != '\r')
    if comment.any isControl then none
    else some (rest.dropWhile fun c => c != '\n' && c != '\r')
  | text => some text

/-- The characters behind the end of a line: blanks, a comment, and a line break or the end. -/
def lineEnd? (text : List Char) : Option (List Char) := do
  match ← skipComment? (skipBlanks text) with
  | [] => return []
  | rest => lineBreak? rest

/-! ### Strings -/

/-- The character with a number, unless it is a surrogate or too large. -/
def scalar? (n : Nat) : Option Char :=
  if n < 0xD800 ∨ (0xDFFF < n ∧ n < 0x110000) then some (Char.ofNat n) else none

/-- The character that hexadecimal digits name. -/
def hexScalar? (digits : List Char) : Option Char := do
  let values ← digits.mapM Text.Hex.value?
  scalar? (values.foldl (fun value digit => value * 16 + digit) 0)

/-- The character that a fixed number of hexadecimal digits in front names. -/
def codeEscape? (count : Nat) (text : List Char) : Option (Char × List Char) := do
  if text.length < count then none
  else return (← hexScalar? (text.take count), text.drop count)

/-- The character that an escape sequence, without its backslash, stands for. -/
def escape? : List Char → Option (Char × List Char)
  | 'b' :: rest => some ('\x08', rest)
  | 't' :: rest => some ('\t', rest)
  | 'n' :: rest => some ('\n', rest)
  | 'f' :: rest => some ('\x0c', rest)
  | 'r' :: rest => some ('\r', rest)
  | 'e' :: rest => some ('\x1b', rest)
  | '"' :: rest => some ('"', rest)
  | '\\' :: rest => some ('\\', rest)
  | 'x' :: rest => codeEscape? 2 rest
  | 'u' :: rest => codeEscape? 4 rest
  | 'U' :: rest => codeEscape? 8 rest
  | _ => none

/-- Reads a string with escape sequences up to its closing quote. -/
def basicString? : Nat → List Char → Option (List Char × List Char)
  | 0, _ => none
  | _ + 1, [] => none
  | _ + 1, '"' :: rest => some ([], rest)
  | fuel + 1, '\\' :: rest => do
    let (c, rest) ← escape? rest
    let (cs, rest) ← basicString? fuel rest
    return (c :: cs, rest)
  | fuel + 1, c :: rest => do
    if isControl c then none
    else
      let (cs, rest) ← basicString? fuel rest
      return (c :: cs, rest)

/-- Reads a string without escape sequences up to its closing quote. -/
def literalString? : List Char → Option (List Char × List Char)
  | [] => none
  | '\'' :: rest => some ([], rest)
  | c :: rest => do
    if isControl c then none
    else
      let (cs, rest) ← literalString? rest
      return (c :: cs, rest)

/-- Up to two quotes may stand directly in front of the three that close a string of several
lines; what is left of these two behind the first three. -/
def closingQuotes (quote : Char) : List Char → List Char × List Char
  | a :: b :: rest =>
    if a == quote && b == quote then ([quote, quote], rest)
    else if a == quote then ([quote], b :: rest)
    else ([], a :: b :: rest)
  | [a] => if a == quote then ([quote], []) else ([], [a])
  | [] => ([], [])

/-- The characters behind blanks and line breaks. -/
def skipBreaks : List Char → List Char
  | '\n' :: rest => skipBreaks rest
  | '\r' :: '\n' :: rest => skipBreaks rest
  | c :: rest => if isBlank c then skipBreaks rest else c :: rest
  | [] => []

/-- The characters behind a backslash at the end of a line: the line break and all blanks and line
breaks after it. -/
def continueLine? (text : List Char) : Option (List Char) := do
  let rest ← lineBreak? (skipBlanks text)
  return skipBreaks rest

/-- Reads a string of several lines with escape sequences up to its closing quotes.  Line breaks
stand for themselves. -/
def basicLines? : Nat → List Char → Option (List Char × List Char)
  | 0, _ => none
  | _ + 1, [] => none
  | _ + 1, '"' :: '"' :: '"' :: rest => some (closingQuotes '"' rest)
  | fuel + 1, '\\' :: rest => do
    match continueLine? rest with
    | some rest => basicLines? fuel rest
    | none =>
      let (c, rest) ← escape? rest
      let (cs, rest) ← basicLines? fuel rest
      return (c :: cs, rest)
  | fuel + 1, '\r' :: '\n' :: rest => do
    let (cs, rest) ← basicLines? fuel rest
    return ('\r' :: '\n' :: cs, rest)
  | fuel + 1, c :: rest => do
    if isControl c && c != '\n' then none
    else
      let (cs, rest) ← basicLines? fuel rest
      return (c :: cs, rest)

/-- Reads a string of several lines without escape sequences up to its closing quotes. -/
def literalLines? : List Char → Option (List Char × List Char)
  | [] => none
  | '\'' :: '\'' :: '\'' :: rest => some (closingQuotes '\'' rest)
  | '\r' :: '\n' :: rest => do
    let (cs, rest) ← literalLines? rest
    return ('\r' :: '\n' :: cs, rest)
  | c :: rest => do
    if isControl c && c != '\n' then none
    else
      let (cs, rest) ← literalLines? rest
      return (c :: cs, rest)

/-- A line break directly behind the opening quotes does not belong to the string. -/
def skipFirstBreak (text : List Char) : List Char := (lineBreak? text).getD text

/-- Reads any of the four kinds of strings. -/
def string? : List Char → Option (String × List Char)
  | '"' :: '"' :: '"' :: rest => do
    let (cs, rest) ← basicLines? (rest.length + 1) (skipFirstBreak rest)
    return (String.ofList cs, rest)
  | '\'' :: '\'' :: '\'' :: rest => do
    let (cs, rest) ← literalLines? (skipFirstBreak rest)
    return (String.ofList cs, rest)
  | '"' :: rest => do
    let (cs, rest) ← basicString? (rest.length + 1) rest
    return (String.ofList cs, rest)
  | '\'' :: rest => do
    let (cs, rest) ← literalString? rest
    return (String.ofList cs, rest)
  | _ => none

/-! ### Keys -/

/-- The characters of keys without quotes. -/
def isBareKey (c : Char) : Bool := c.isAlphanum || c == '_' || c == '-'

def simpleKey? : List Char → Option (String × List Char)
  | '"' :: rest => do
    let (cs, rest) ← basicString? (rest.length + 1) rest
    return (String.ofList cs, rest)
  | '\'' :: rest => do
    let (cs, rest) ← literalString? rest
    return (String.ofList cs, rest)
  | text =>
    let key := text.takeWhile isBareKey
    if key.isEmpty then none else some (String.ofList key, text.dropWhile isBareKey)

/-- How deep things may lie inside one another: the dots of a key, and the brackets and braces of a
value. -/
def depthLimit : Nat := 80

/-- Reads keys with dots between them. -/
def dottedKey? : Nat → List Char → Option (List String × List Char)
  | 0, _ => none
  | dots + 1, text => do
    let (key, rest) ← simpleKey? text
    match skipBlanks rest with
    | '.' :: rest =>
      let (keys, rest) ← dottedKey? dots (skipBlanks rest)
      return (key :: keys, rest)
    | rest => return ([key], rest)

/-- Reads a key: one name, or several with dots between them. -/
def key? (text : List Char) : Option (List String × List Char) := dottedKey? depthLimit text

/-! ### Numbers -/

/-- Digits with single underscores between them: the digits, if there are any. -/
def digitGroups? (isDigit : Char → Bool) : List Char → Option (List Char)
  | [] => none
  | [c] => if isDigit c then some [c] else none
  | c :: '_' :: rest => do
    if isDigit c then return c :: (← digitGroups? isDigit rest) else none
  | c :: rest => do
    if isDigit c then return c :: (← digitGroups? isDigit rest) else none

/-- The digits of a decimal whole number, which are not padded with zeros. -/
def wholeDigits? (text : List Char) : Option (List Char) := do
  match ← digitGroups? Char.isDigit text with
  | '0' :: _ :: _ => none
  | digits => return digits

def splitSign : List Char → Bool × List Char
  | '-' :: rest => (true, rest)
  | '+' :: rest => (false, rest)
  | text => (false, text)

def digitsToBase (base : Nat) (digits : List Char) : Nat :=
  digits.foldl (fun value digit => value * base + (Text.Hex.value? digit).getD 0) 0

/-- Whole numbers that a document may hold are those of 128 bits, signed or not. -/
def inRange (n : Int) : Bool := decide (-Int.pow 2 127 ≤ n) && decide (n < Int.pow 2 128)

/-- A whole number, decimal or to the base 16, 8 or 2. -/
def integer? (word : List Char) : Option Int := do
  let n ← match word with
    | '0' :: 'x' :: rest =>
      (digitGroups? (fun c => (Text.Hex.value? c).isSome) rest).map fun digits =>
        (digitsToBase 16 digits : Int)
    | '0' :: 'o' :: rest =>
      (digitGroups? (fun c => '0' ≤ c && c ≤ '7') rest).map fun digits =>
        (digitsToBase 8 digits : Int)
    | '0' :: 'b' :: rest =>
      (digitGroups? (fun c => c == '0' || c == '1') rest).map fun digits =>
        (digitsToBase 2 digits : Int)
    | _ =>
      let (negative, rest) := splitSign word
      (wholeDigits? rest).map fun digits =>
        let n : Int := digitsToBase 10 digits
        if negative then -n else n
  if inRange n then return n else none

def isExponentMark (c : Char) : Bool := c == 'e' || c == 'E'

/-- The power of ten that an exponent names; no exponent names the power zero. -/
def exponent? : List Char → Option Int
  | [] => some 0
  | _ :: rest => do
    let (negative, rest) := splitSign rest
    let digits ← digitGroups? Char.isDigit rest
    let n : Int := digitsToBase 10 digits
    return if negative then -n else n

def isFractional (word : List Char) : Bool := word.any fun c => c == '.' || isExponentMark c

/-- A number with decimals or an exponent, or a special value.  Numbers too large for a double are
refused. -/
def float? (word : List Char) : Option Float := do
  let (negative, rest) := splitSign word
  if rest = "inf".toList then
    let infinity := Float.ofBits 0x7FF0000000000000
    return if negative then -infinity else infinity
  else if rest = "nan".toList then
    return Float.ofBits 0x7FF8000000000000
  else if isFractional rest then
    let mantissa := rest.takeWhile (!isExponentMark ·)
    let power ← exponent? (rest.dropWhile (!isExponentMark ·))
    let whole ← wholeDigits? (mantissa.takeWhile (· != '.'))
    let decimals ← match mantissa.dropWhile (· != '.') with
      | [] => some []
      | _ :: decimals => digitGroups? Char.isDigit decimals
    let x := Decimal.toFloat negative (digitsToBase 10 (whole ++ decimals))
      (power - decimals.length)
    if x.isFinite then return x else none
  else
    none

/-! ### Dates and times -/

/-- The number of exactly `count` digits. -/
def fixedDigits? (count : Nat) (text : List Char) : Option (Nat × List Char) :=
  let digits := text.take count
  if digits.length = count ∧ digits.all Char.isDigit then
    some (digitsToBase 10 digits, text.drop count)
  else
    none

def behind? (c : Char) : List Char → Option (List Char)
  | first :: rest => if first = c then some rest else none
  | [] => none

def daysIn (year month : Nat) : Nat :=
  if month = 2 then
    if year % 4 = 0 ∧ (year % 100 ≠ 0 ∨ year % 400 = 0) then 29 else 28
  else if month = 4 ∨ month = 6 ∨ month = 9 ∨ month = 11 then 30
  else 31

def date? (text : List Char) : Option (List Char) := do
  let (year, rest) ← fixedDigits? 4 text
  let (month, rest) ← fixedDigits? 2 (← behind? '-' rest)
  let (day, rest) ← fixedDigits? 2 (← behind? '-' rest)
  if 1 ≤ month ∧ month ≤ 12 ∧ 1 ≤ day ∧ day ≤ daysIn year month then return rest else none

/-- The characters behind the seconds of a time of day, which may be left out. -/
def seconds? : List Char → Option (List Char)
  | ':' :: rest => do
    let (second, rest) ← fixedDigits? 2 rest
    if 60 < second then none
    else
      match rest with
      | '.' :: rest =>
        if (rest.takeWhile Char.isDigit).isEmpty then none else return rest.dropWhile Char.isDigit
      | rest => return rest
  | rest => some rest

/-- The characters behind a time of day. -/
def time? (text : List Char) : Option (List Char) := do
  let (hour, rest) ← fixedDigits? 2 text
  let (minute, rest) ← fixedDigits? 2 (← behind? ':' rest)
  if hour ≤ 23 ∧ minute ≤ 59 then seconds? rest else none

/-- Whether a text is an offset from universal time, or nothing. -/
def isOffset (text : List Char) : Bool :=
  match text with
  | [] => true
  | ['Z'] => true
  | ['z'] => true
  | sign :: rest =>
    (sign == '+' || sign == '-') &&
      (do let (hour, rest) ← fixedDigits? 2 rest
          let (minute, rest) ← fixedDigits? 2 (← behind? ':' rest)
          return decide (hour ≤ 23) && decide (minute ≤ 59) && rest.isEmpty : Option Bool).getD false

/-- Whether a word is a date, a time of day, or a date with a time and possibly an offset. -/
def isMoment (word : List Char) : Bool :=
  match date? word with
  | some [] => true
  | some (mark :: rest) =>
    (mark == 'T' || mark == 't' || mark == ' ') &&
      (match time? rest with
       | some offset => isOffset offset
       | none => false)
  | none =>
    match time? word with
    | some rest => rest.isEmpty
    | none => false

/-- The characters of numbers, truth values, dates and times. -/
def isWord (c : Char) : Bool :=
  c.isAlphanum || c == '+' || c == '-' || c == '_' || c == '.' || c == ':'

/-- Reads a word.  A blank and a digit behind a date belong to it: a time of day follows. -/
def word (text : List Char) : List Char × List Char :=
  let first := text.takeWhile isWord
  let rest := text.dropWhile isWord
  match rest with
  | ' ' :: c :: _ =>
    if c.isDigit && (date? first == some []) then
      (first ++ ' ' :: (rest.drop 1).takeWhile isWord, (rest.drop 1).dropWhile isWord)
    else
      (first, rest)
  | _ => (first, rest)

end ArmLink.Toml
