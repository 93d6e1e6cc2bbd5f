/-!
Values of JSON texts, and how values of a certain form are read from them.

A number is kept as a double, which is infinite if the number is too large; a text is kept as its
characters, unless an escape in it stands for half of a character.  Both are well formed all the
same, and are refused only where a number or a text is wanted.
-/

namespace ArmLink.Json

/-- A value of a JSON text. -/
inductive Value where
  | null
  | boolean (b : Bool)
  | number (x : Float)
  /-- A text; no characters if an escape stands for half of one. -/
  | text (content : Option String)
  | list (items : List Value)
  | record (fields : List (Option String × Value))

namespace Value

def float? : Value → Option Float
  | .number x => if x.isFinite then some x else none
  | _ => none

def text? : Value → Option String
  | .text content => content
  | _ => none

def list? {α : Type} (read : Value → Option α) : Value → Option (List α)
  | .list items => items.mapM read
  | _ => none

/-- A value that may be left out or be null. -/
def optional? {α : Type} (read : Value → Option α) : Option Value → Option (Option α)
  | none | some .null => some none
  | some value => some <$> read value

/-- The values of fields.  A record may leave some of them out and may have others, but none of them
twice; a list has to have exactly the values of all of them, in order. -/
def fields? (names : List String) : Value → Option (List (Option Value))
  | .list items => if items.length = names.length then some (items.map some) else none
  | .record fields => do
    let fields ← fields.mapM fun (name, value) => name.map (·, value)
    if names.any fun name => 1 < fields.countP (·.1 == name) then none
    else return names.map fun name => (fields.find? (·.1 == name)).map (·.2)
  | _ => none

end Value

end ArmLink.Json
