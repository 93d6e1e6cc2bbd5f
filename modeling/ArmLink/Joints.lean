/-!
The arm has six joints.  `Joints α` holds one value for each, in the order in which the controller
counts them from the base to the tool.
-/

namespace ArmLink

/-- The number of joints. -/
abbrev jointCount : Nat := 6

/-- One value for each joint. -/
abbrev Joints (α : Type) := Vector α jointCount

def Joints.same {α : Type} (value : α) : Joints α := Vector.replicate jointCount value

@[simp] theorem Joints.get_same {α : Type} (value : α) (joint : Fin jointCount) :
    (Joints.same value).get joint = value :=
  Vector.getElem_replicate joint.isLt

def Joints.ofList? {α : Type} (values : List α) : Option (Joints α) :=
  if size : values.toArray.size = jointCount then some ⟨values.toArray, size⟩ else none

end ArmLink
