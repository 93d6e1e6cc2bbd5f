import ArmLink.Toml.Lexeme
import ArmLink.Toml.Value

/-!
Reading TOML documents.  `Document.parse?` answers the entries of the outermost table, or nothing if
the text breaks a rule of the format; which rule it breaks is not told.
-/

namespace ArmLink.Toml

def wordValue? (text : List Char) : Option Value :=
  if text = "true".toList then some (.boolean true)
  else if text = "false".toList then some (.boolean false)
  else if isMoment text then some (.moment (String.ofList text))
  else match integer? text with
    | some n => some (.integer n)
    | none => (float? text).map .float

/-- The characters behind blanks, comments and line breaks, which may stand between the items of an
array. -/
def skipLines? : Nat → List Char → Option (List Char)
  | 0, text => some text
  | fuel + 1, text => do
    let rest ← skipComment? (skipBlanks text)
    match lineBreak? rest with
    | some rest => skipLines? fuel rest
    | none => return rest

mutual

/-- Reads a value, in which brackets and braces may lie `depth` deep inside one another. -/
def value? : Nat → Nat → List Char → Option (Value × List Char)
  | 0, _, _ => none
  | fuel + 1, depth, text =>
    match text, depth with
    | '"' :: _, _ | '\'' :: _, _ => do
      let (content, rest) ← string? text
      return (.text content, rest)
    | '[' :: _, 0 | '{' :: _, 0 => none
    | '[' :: rest, depth + 1 => do
      let (items, rest) ← items? fuel depth rest
      return (.array items, rest)
    | '{' :: rest, depth + 1 => do
      let (entries, rest) ← inline? fuel depth rest []
      return (.table (entryValues entries), rest)
    | _, _ => do
      let (content, rest) := word text
      return (← wordValue? content, rest)

/-- Reads the items of an array up to its closing bracket; a comma may stand behind the last one. -/
def items? : Nat → Nat → List Char → Option (List Value × List Char)
  | 0, _, _ => none
  | fuel + 1, depth, text => do
    match ← skipLines? (text.length + 1) text with
    | ']' :: rest => return ([], rest)
    | text =>
      let (first, rest) ← value? fuel depth text
      match ← skipLines? (rest.length + 1) rest with
      | ',' :: rest =>
        let (others, rest) ← items? fuel depth rest
        return (first :: others, rest)
      | ']' :: rest => return ([first], rest)
      | _ => none

def pair? : Nat → Nat → List Char → Option (List String × Value × List Char)
  | 0, _, _ => none
  | fuel + 1, depth, text => do
    let (keys, rest) ← key? text
    match skipBlanks rest with
    | '=' :: rest =>
      let (value, rest) ← value? fuel depth (skipBlanks rest)
      return (keys, value, rest)
    | _ => none

/-- Reads the entries of a table in a value up to its closing brace; a comma may stand behind the
last one. -/
def inline? : Nat → Nat → List Char → Entries → Option (Entries × List Char)
  | 0, _, _, _ => none
  | fuel + 1, depth, text, entries => do
    match ← skipLines? (text.length + 1) text with
    | '}' :: rest => return (entries, rest)
    | text =>
      let (keys, value, rest) ← pair? fuel depth text
      let entries ← entries.addPair keys value .header
      match ← skipLines? (rest.length + 1) rest with
      | ',' :: rest => inline? fuel depth rest entries
      | '}' :: rest => return (entries, rest)
      | _ => none

end

/-- Reads a header: the keys between single or double brackets, and whether they are double. -/
def header? : List Char → Option (Bool × List String × List Char)
  | '[' :: '[' :: rest => do
    let (keys, rest) ← key? (skipBlanks rest)
    match skipBlanks rest with
    | ']' :: ']' :: rest => return (true, keys, rest)
    | _ => none
  | '[' :: rest => do
    let (keys, rest) ← key? (skipBlanks rest)
    match skipBlanks rest with
    | ']' :: rest => return (false, keys, rest)
    | _ => none
  | _ => none

/-- A document as far as it has been read. -/
structure Document where
  /-- The outermost table. -/
  entries : Entries := []
  /-- The path of the table that pairs are added to. -/
  current : List String := []

namespace Document

/-- Begins the table that a header names. -/
def addHeader (document : Document) (double : Bool) (keys : List String) : Option Document := do
  let last := keys.getLast?.getD ""
  let start (_ : Origin) : Entries → Option Entries :=
    if double then Entries.beginNext last else Entries.beginTable last
  let entries ← document.entries.within .implied start .header keys.dropLast
  return { entries, current := keys }

def addPair (document : Document) (keys : List String) (value : Value) : Option Document := do
  let add (here : Origin) (entries : Entries) : Option Entries := entries.addPair keys value here
  let entries ← document.entries.within .implied add .header document.current
  return { document with entries }

def addLines? : Nat → List Char → Document → Option Document
  | 0, _, _ => none
  | _ + 1, [], document => some document
  | fuel + 1, text, document =>
    match skipBlanks text with
    | '[' :: rest => do
      let (double, keys, rest) ← header? ('[' :: rest)
      addLines? fuel (← lineEnd? rest) (← document.addHeader double keys)
    | rest =>
      match lineEnd? rest with
      | some rest => addLines? fuel rest document
      | none => do
        let (keys, value, rest) ← pair? (rest.length + 2) depthLimit rest
        addLines? fuel (← lineEnd? rest) (← document.addPair keys value)

/-- A mark of the byte order in front of a document is no part of it. -/
def withoutMark : List Char → List Char
  | '\uFEFF' :: rest => rest
  | text => text

def parse? (text : String) : Option (List (String × Value)) := do
  let content := withoutMark text.toList
  let document ← addLines? (content.length + 1) content {}
  return entryValues document.entries

end Document

end ArmLink.Toml
