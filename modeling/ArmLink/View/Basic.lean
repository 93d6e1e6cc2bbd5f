import ArmLink.Duration
import ArmLink.Text.Hex
import ArmLink.Wire.BigEndian

/-!
Values laid out for a reader outside the library.  A `View` is a tree of flags, whole numbers,
texts, lists and records with named fields; `view` lays out a value.

Numbers that are not whole are shown by their bits, so that nothing is lost: sixteen hexadecimal
digits for a double and eight for a single.  All values that are no numbers look the same.
-/

namespace ArmLink

open Wire

/-- A value laid out as a tree. -/
inductive View where
  | absent
  | flag (value : Bool)
  | number (value : Int)
  | text (value : String)
  | list (items : List View)
  /-- Named fields, whose order means nothing. -/
  | record (fields : List (String × View))

/-- Types whose values can be laid out. -/
class Viewable (α : Type) where
  /-- A value laid out as a tree. -/
  view : α → View

export Viewable (view)

namespace View

/-- A record with further fields. -/
def extend (shown : View) (more : List (String × View)) : View :=
  match shown with
  | .record fields => .record (fields ++ more)
  | other => other

def bytes (run : List UInt8) : View := .text (Text.Hex.encode run)

def fault (kind message : String) : View :=
  .record [("error", .text kind), ("message", .text message)]

end View

instance : Viewable View := ⟨id⟩

instance : Viewable Bool := ⟨.flag⟩

instance : Viewable Nat := ⟨fun n => .number n⟩

instance : Viewable Int := ⟨.number⟩

instance : Viewable UInt8 := ⟨fun n => view n.toNat⟩

instance : Viewable UInt16 := ⟨fun n => view n.toNat⟩

instance : Viewable UInt32 := ⟨fun n => view n.toNat⟩

instance : Viewable UInt64 := ⟨fun n => view n.toNat⟩

instance : Viewable Int8 := ⟨fun n => view n.toInt⟩

instance : Viewable Int16 := ⟨fun n => view n.toInt⟩

instance : Viewable Int32 := ⟨fun n => view n.toInt⟩

instance : Viewable Int64 := ⟨fun n => view n.toInt⟩

instance : Viewable String := ⟨.text⟩

instance : Viewable Unit := ⟨fun _ => .absent⟩

instance : Viewable Float :=
  ⟨fun x => if x.isNaN then .text "nan" else .bytes (bytesOfNat 8 x.toBits.toNat)⟩

instance : Viewable Float32 :=
  ⟨fun x => if x.isNaN then .text "nan" else .bytes (bytesOfNat 4 x.toBits.toNat)⟩

instance {α : Type} [Viewable α] : Viewable (List α) := ⟨fun items => .list (items.map view)⟩

instance {α : Type} [Viewable α] {n : Nat} : Viewable (Vector α n) :=
  ⟨fun items => view items.toList⟩

instance {α : Type} [Viewable α] : Viewable (Option α) :=
  ⟨fun value => match value with
    | some value => view value
    | none => .absent⟩

instance {α β : Type} [Viewable α] [Viewable β] : Viewable (α × β) :=
  ⟨fun pair => .list [view pair.1, view pair.2]⟩

instance {ε α : Type} [Viewable ε] [Viewable α] : Viewable (Except ε α) :=
  ⟨fun outcome => match outcome with
    | .ok value => view value
    | .error fault => view fault⟩

instance : Viewable Duration := ⟨fun span => view (span.seconds, span.subsecond)⟩

instance viewDurationFault : Viewable Duration.Fault := ⟨fun fault => .fault "panic" fault.message⟩

end ArmLink
