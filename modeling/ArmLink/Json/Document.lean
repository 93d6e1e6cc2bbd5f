import ArmLink.Json.Number
import ArmLink.Json.Value
import ArmLink.Text.Hex

/-!
Reading JSON texts.  Each reader takes the characters ahead and answers what it read and the
characters behind it, or nothing if the characters break a rule of the format.
-/

namespace ArmLink.Json

/-- The characters that may stand between values. -/
def isSpace (c : Char) : Bool := c == ' ' || c == '\n' || c == '\t' || c == '\r'

def skipSpace (text : List Char) : List Char := text.dropWhile isSpace

/-! ### Texts -/

/-- A part of a text: a character, or a number in an escape, of sixteen bits. -/
inductive Piece where
  | char (c : Char)
  | unit (n : Nat)

/-- Whether a number is the first half of a character. -/
def isHighHalf (n : Nat) : Bool := decide (0xD800 ≤ n) && decide (n < 0xDC00)

/-- Whether a number is the second half of a character. -/
def isLowHalf (n : Nat) : Bool := decide (0xDC00 ≤ n) && decide (n < 0xE000)

/-- The characters of a text; each first half has to stand directly before a second half. -/
def joinPieces : List Piece → Option (List Char)
  | [] => some []
  | .char c :: rest => return c :: (← joinPieces rest)
  | [.unit n] => if isHighHalf n || isLowHalf n then none else some [Char.ofNat n]
  | .unit n :: .unit m :: rest =>
    if isHighHalf n then
      if isLowHalf m then
        return Char.ofNat (0x10000 + (n - 0xD800) * 0x400 + (m - 0xDC00)) :: (← joinPieces rest)
      else none
    else if isLowHalf n then none
    else return Char.ofNat n :: (← joinPieces (.unit m :: rest))
  | .unit n :: .char c :: rest =>
    if isHighHalf n || isLowHalf n then none
    else return Char.ofNat n :: (← joinPieces (.char c :: rest))

/-- The character that an escape of one letter stands for. -/
def escaped? : Char → Option Char
  | '"' => some '"'
  | '\\' => some '\\'
  | '/' => some '/'
  | 'b' => some '\x08'
  | 'f' => some '\x0c'
  | 'n' => some '\n'
  | 'r' => some '\r'
  | 't' => some '\t'
  | _ => none

/-- Reads the parts of a text up to its closing quote.  Control characters have to be escaped. -/
def pieces? : List Char → Option (List Piece × List Char)
  | [] => none
  | '"' :: rest => some ([], rest)
  | '\\' :: 'u' :: a :: b :: c :: d :: rest => do
    let digits ← [a, b, c, d].mapM Text.Hex.value?
    let (pieces, rest) ← pieces? rest
    return (.unit (digits.foldl (fun n digit => n * 16 + digit) 0) :: pieces, rest)
  | '\\' :: letter :: rest => do
    let c ← escaped? letter
    let (pieces, rest) ← pieces? rest
    return (.char c :: pieces, rest)
  | c :: rest => do
    if c.toNat < 0x20 || c == '\\' then none
    else
      let (pieces, rest) ← pieces? rest
      return (.char c :: pieces, rest)

/-- Reads a text behind its opening quote. -/
def text? (ahead : List Char) : Option (Option String × List Char) := do
  let (pieces, rest) ← pieces? ahead
  return ((joinPieces pieces).map String.ofList, rest)

/-! ### Values -/

def behindWord? (word : String) (text : List Char) : Option (List Char) :=
  if word.toList.isPrefixOf text then some (text.drop word.length) else none

mutual

def value? : Nat → List Char → Option (Value × List Char)
  | 0, _ => none
  | fuel + 1, text =>
    match text with
    | '"' :: rest => do
      let (content, rest) ← text? rest
      return (.text content, rest)
    | '[' :: rest =>
      match skipSpace rest with
      | ']' :: rest => some (.list [], rest)
      | rest => do
        let (items, rest) ← items? fuel rest
        return (.list items, rest)
    | '{' :: rest =>
      match skipSpace rest with
      | '}' :: rest => some (.record [], rest)
      | rest => do
        let (fields, rest) ← fields? fuel rest
        return (.record fields, rest)
    | 'n' :: _ => (behindWord? "null" text).map (.null, ·)
    | 't' :: _ => (behindWord? "true" text).map (.boolean true, ·)
    | 'f' :: _ => (behindWord? "false" text).map (.boolean false, ·)
    | _ => do
      let x ← number? (text.takeWhile isNumberChar)
      return (.number x, text.dropWhile isNumberChar)

/-- Reads the items of a list, at least one, up to its closing bracket. -/
def items? : Nat → List Char → Option (List Value × List Char)
  | 0, _ => none
  | fuel + 1, text => do
    let (first, rest) ← value? fuel (skipSpace text)
    match skipSpace rest with
    | ',' :: rest =>
      let (others, rest) ← items? fuel rest
      return (first :: others, rest)
    | ']' :: rest => return ([first], rest)
    | _ => none

/-- Reads the fields of a record, at least one, up to its closing brace. -/
def fields? : Nat → List Char → Option (List (Option String × Value) × List Char)
  | 0, _ => none
  | fuel + 1, text => do
    match skipSpace text with
    | '"' :: rest =>
      let (name, rest) ← text? rest
      match skipSpace rest with
      | ':' :: rest =>
        let (value, rest) ← value? fuel (skipSpace rest)
        match skipSpace rest with
        | ',' :: rest =>
          let (others, rest) ← fields? fuel rest
          return ((name, value) :: others, rest)
        | '}' :: rest => return ([(name, value)], rest)
        | _ => none
      | _ => none
    | _ => none

end

def parse? (text : String) : Option Value := do
  let ahead := skipSpace text.toList
  let (value, rest) ← value? (ahead.length + 1) ahead
  if (skipSpace rest).isEmpty then return value else none

end ArmLink.Json
