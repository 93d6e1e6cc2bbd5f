import ArmLink.Decimal.Text

/-!
Writing TOML.  Every value has one written form: floats always show a point, strings take the
plainest of the four kinds that holds them, and lists of several strings have one item on each line.
-/

namespace ArmLink.Toml

/-- How doubles stand in documents: whole numbers with a point and a zero. -/
def floatStyle : Decimal.Style := ⟨".0", "nan", "inf"⟩

def writeFloat (x : Float) : String := floatStyle.render x

/-- The text of a truth value. -/
def writeBoolean (b : Bool) : String := if b then "true" else "false"

def longestRun (c : Char) (text : List Char) : Nat :=
  (text.foldl
    (fun (state : Nat × Nat) d =>
      let run := if d = c then state.1 + 1 else 0
      (run, max state.2 run))
    (0, 0)).2

/-- Whether a text has control characters that only an escape sequence can write. -/
def hasControls (text : List Char) : Bool :=
  text.any fun c => (c.toNat < 0x20 && c != '\t' && c != '\n') || c.toNat == 0x7F

/-- The kinds of strings. -/
inductive Quoting where
  /-- On one line, with escape sequences. -/
  | basic
  | literal
  /-- On several lines, with escape sequences. -/
  | basicLines
  | literalLines
deriving DecidableEq, Repr

/-- The plainest kind that holds a text. -/
def Quoting.of (text : List Char) : Quoting :=
  let controls := hasControls text
  let backslash := text.contains '\\'
  let breaks := text.contains '\n'
  let doubles := longestRun '"' text
  let singles := longestRun '\'' text
  if !controls && !backslash && doubles == 0 && !breaks then .basic
  else if !controls && singles == 0 && !breaks then .literal
  else if !controls && !backslash && decide (doubles ≤ 2) then .basicLines
  else if !controls && decide (singles ≤ 2) then .literalLines
  else if breaks then .basicLines
  else .basic

/-- Four hexadecimal digits in upper case. -/
def hexDigits (n : Nat) : List Char :=
  let digits := (Nat.toDigits 16 n).map Char.toUpper
  List.replicate (4 - digits.length) '0' ++ digits

/-- A text with escape sequences; on several lines, line breaks and up to two quotes in a row stand
for themselves.  `quotes` counts the quotes written just before. -/
def escapeChars (lines : Bool) : Nat → List Char → List Char
  | _, [] => []
  | quotes, c :: rest =>
    if c = '"' then
      if quotes < (if lines then 2 else 0) then c :: escapeChars lines (quotes + 1) rest
      else '\\' :: '"' :: escapeChars lines 0 rest
    else
      let written :=
        if c = '\x08' then ['\\', 'b']
        else if c = '\t' then ['\\', 't']
        else if c = '\n' then if lines then ['\n'] else ['\\', 'n']
        else if c = '\x0c' then ['\\', 'f']
        else if c = '\r' then ['\\', 'r']
        else if c = '\\' then ['\\', '\\']
        else if c.toNat < 0x20 ∨ c.toNat = 0x7F then '\\' :: 'u' :: hexDigits c.toNat
        else [c]
      written ++ escapeChars lines 0 rest

def writeText (text : String) : String :=
  let chars := text.toList
  let opening := if chars.contains '\n' then ['\n'] else []
  String.ofList <| match Quoting.of chars with
    | .basic => '"' :: escapeChars false 0 chars ++ ['"']
    | .literal => '\'' :: chars ++ ['\'']
    | .basicLines =>
      ['"', '"', '"'] ++ opening ++ escapeChars true 0 chars ++ ['"', '"', '"']
    | .literalLines => ['\'', '\'', '\''] ++ opening ++ chars ++ ['\'', '\'', '\'']

def writeTexts : List String → String
  | [] => "[]"
  | [item] => "[" ++ writeText item ++ "]"
  | items => "[\n" ++ String.join (items.map fun item => "    " ++ writeText item ++ ",\n") ++ "]"

def writePair (key value : String) : String := key ++ " = " ++ value ++ "\n"

end ArmLink.Toml
