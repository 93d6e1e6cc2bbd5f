import ArmLink.Proofs.Telemetry.Framing
import ArmLink.Proofs.Telemetry.Reports

/-!
State snapshots as runs of packages.

A package is written as its size, its kind and its body; a snapshot is any number of packages one
behind the other.  The decoder works in turns (`StateSnapshot.turn`): a turn passes one package and
adds it to what was read so far, or it ends the loop.  So a body is accepted exactly when it is such
a run and every report in it fills its layout, and what is read from it can be told without the loop:
the last mode report, the last joint report, and the number of the other packages.  The main
statement is `reading_of_decode`.
-/

namespace ArmLink.Telemetry

open Firmware Wire
open Wire.Decoder (Reads)

/-- A package of a state snapshot. -/
structure Package where
  code : UInt8
  body : List UInt8
  /-- The size, a signed number of 32 bits, counts the five bytes in front of the body as well. -/
  size_lt : 5 + body.length < 2147483648

namespace Package

def size (package : Package) : Nat := 5 + package.body.length

/-- A package as it is written. -/
def bytes (package : Package) : List UInt8 :=
  bytesOfNat 4 package.size ++ package.code :: package.body

/-- Packages one behind the other. -/
def run (packages : List Package) : List UInt8 := packages.flatMap bytes

/-- The fewest bytes that the body of a package must have. -/
def least (layout : StateLayout) (code : UInt8) : Nat :=
  if code = 0 then ModeReport.size layout else if code = 1 then JointReports.size else 0

/-- A body that fills the layout of its report.  Packages that are not read may have any. -/
def Fills (layout : StateLayout) (package : Package) : Prop :=
  least layout package.code ≤ package.body.length

/-- The body of the last package of a kind. -/
def lastBody (code : UInt8) (packages : List Package) : Option (List UInt8) :=
  (packages.filter (·.code == code)).getLast?.map body

end Package

namespace StateSnapshot

/-- What a run of packages says. -/
def ofPackages (layout : StateLayout) (packages : List Package) : StateSnapshot where
  layout
  mode := (Package.lastBody 0 packages).map (ModeReport.ofBytes layout)
  joints := (Package.lastBody 1 packages).map JointReports.ofBytes
  skipped := packages.countP fun package => package.code != 0 && package.code != 1

/-- What is read from a body. -/
def read (layout : StateLayout) (bytes : List UInt8) : Except Fault StateSnapshot :=
  ((decode layout).run (Cursor.ofBytes bytes)).1

/-- One turn of the loop over packages: the loop ends with an answer, or goes on. -/
def turn (snapshot : StateSnapshot) (cursor : Cursor) :
    (Except Fault StateSnapshot × Cursor) ⊕ (StateSnapshot × Cursor) :=
  if cursor.atEnd then .inl (.ok snapshot, cursor)
  else
    match packageSize cursor with
    | .error fault => .inl (.error fault, cursor)
    | .ok size =>
      if fits : size ≤ cursor.remaining then
        match (snapshot.readPackage.run (Cursor.ofBytes (cursor.ahead.take size))).1 with
        | .error fault => .inl (.error fault, cursor.advance size fits)
        | .ok extended => .inr (extended, cursor.advance size fits)
      else .inl (.error (.insufficientData size cursor.remaining), cursor)

/-- So many turns of the loop, if it ends within them. -/
def turns (snapshot : StateSnapshot) (cursor : Cursor) :
    Nat → Option (Except Fault StateSnapshot × Cursor)
  | 0 => none
  | count + 1 =>
    match turn snapshot cursor with
    | .inl answer => some answer
    | .inr (extended, behind) => turns extended behind count

end StateSnapshot

/-- How a state snapshot is read. -/
structure SnapshotReading (layout : StateLayout) : Prop where
  accepted : ∀ bytes, (∃ snapshot, StateSnapshot.read layout bytes = .ok snapshot) ↔
    ∃ packages, bytes = Package.run packages ∧ ∀ package ∈ packages, package.Fills layout
  /-- Of the mode and joint reports the last ones count. -/
  meaning : ∀ packages, (∀ package ∈ packages, package.Fills layout) →
    StateSnapshot.read layout (Package.run packages) = .ok (.ofPackages layout packages)
  /-- Bytes behind the last field of a report are ignored. -/
  longer : ∀ front package behind longer snapshot,
    StateSnapshot.read layout (Package.run (front ++ package :: behind)) = .ok snapshot →
      longer.code = package.code → package.body <+: longer.body →
        StateSnapshot.read layout (Package.run (front ++ longer :: behind)) = .ok snapshot
  inserted : ∀ front package behind snapshot,
    StateSnapshot.read layout (Package.run (front ++ behind)) = .ok snapshot →
      package.code ≠ 0 → package.code ≠ 1 →
        StateSnapshot.read layout (Package.run (front ++ package :: behind)) =
          .ok { snapshot with skipped := snapshot.skipped + 1 }
  /-- Only the order among packages of the same kind matters. -/
  reordered : ∀ packages others snapshot,
    StateSnapshot.read layout (Package.run packages) = .ok snapshot →
      (∀ code, packages.filter (·.code == code) = others.filter (·.code == code)) →
        StateSnapshot.read layout (Package.run others) = .ok snapshot
  /-- A report that ends too early is a fault, whatever stands behind it. -/
  tooShort : ∀ front (package : Package) rest, ¬ package.Fills layout →
    ∃ fault, StateSnapshot.read layout (Package.run front ++ package.bytes ++ rest) = .error fault
  /-- So are bytes at which no package begins: too few of them, or a size that does not cover the
  header or leads behind the end. -/
  noPackage : ∀ front rest, rest ≠ [] →
    (∀ (package : Package) behind, rest ≠ package.bytes ++ behind) →
      ∃ fault, StateSnapshot.read layout (Package.run front ++ rest) = .error fault
  /-- Every turn but the last passes at least five bytes. -/
  ends : ∀ bytes count, bytes.length < 5 * count →
    StateSnapshot.turns { layout } (Cursor.ofBytes bytes) count =
      some ((StateSnapshot.decode layout).run (Cursor.ofBytes bytes))

variable {layout : StateLayout} {snapshot : StateSnapshot} {cursor : Cursor} {package : Package}
  {packages others : List Package} {rest : List UInt8}

/-! ### One package -/

namespace Package

theorem length_bytes (package : Package) : package.bytes.length = package.size := by
  rw [bytes, List.length_append, length_bytesOfNat, List.length_cons, size]
  omega

theorem drop_bytes (package : Package) : package.bytes.drop 5 = package.body := by
  have four : (bytesOfNat 4 package.size ++ [package.code]).length = 5 := by
    rw [List.length_append, length_bytesOfNat]
    rfl
  rw [bytes, ← List.singleton_append, ← List.append_assoc]
  exact List.drop_left' four

theorem run_cons (package : Package) (packages : List Package) :
    run (package :: packages) = package.bytes ++ run packages :=
  List.flatMap_cons

theorem run_append (packages others : List Package) :
    run (packages ++ others) = run packages ++ run others :=
  List.flatMap_append

theorem declaredAt_of_ahead (same : cursor.ahead = package.bytes ++ rest) :
    declaredAt cursor = package.size := by
  rw [bytes, List.append_assoc] at same
  exact declaredAt_of_ahead_eq package.size_lt same

end Package

theorem code_of_robotMode {code : UInt8} (kind : PackageKind.ofCode code = .robotMode) :
    code = 0 := by
  unfold PackageKind.ofCode at kind
  split at kind <;> cases kind
  exact UInt8.toNat_inj.mp ‹_›

theorem code_of_joints {code : UInt8} (kind : PackageKind.ofCode code = .joints) : code = 1 := by
  unfold PackageKind.ofCode at kind
  split at kind <;> cases kind
  exact UInt8.toNat_inj.mp ‹_›

namespace StateSnapshot

/-- A snapshot to which one more package was added. -/
def add (snapshot : StateSnapshot) (package : Package) : StateSnapshot :=
  if package.code = 0 then
    { snapshot with mode := some (.ofBytes snapshot.layout package.body) }
  else if package.code = 1 then { snapshot with joints := some (.ofBytes package.body) }
  else { snapshot with skipped := snapshot.skipped + 1 }

@[simp] theorem add_layout (snapshot : StateSnapshot) (package : Package) :
    (snapshot.add package).layout = snapshot.layout := by
  unfold add
  split
  · rfl
  · split <;> rfl

/-- Packages of all other kinds are passed over. -/
theorem addPackage_of_other {code : UInt8} (notMode : code ≠ 0) (notJoints : code ≠ 1) :
    snapshot.addPackage (PackageKind.ofCode code) =
      return { snapshot with skipped := snapshot.skipped + 1 } := by
  cases kind : PackageKind.ofCode code with
  | robotMode => exact absurd (code_of_robotMode kind) notMode
  | joints => exact absurd (code_of_joints kind) notJoints
  | _ => rfl

/-- A package is read if it fills its layout, and only then. -/
theorem reads_addPackage (snapshot : StateSnapshot) (code : UInt8) :
    Reads (snapshot.addPackage (PackageKind.ofCode code)) (Package.least snapshot.layout code)
      fun body =>
        if code = 0 then { snapshot with mode := some (.ofBytes snapshot.layout body) }
        else if code = 1 then { snapshot with joints := some (.ofBytes body) }
        else { snapshot with skipped := snapshot.skipped + 1 } := by
  by_cases mode : code = 0
  · subst mode
    exact (ModeReport.reads snapshot.layout).bind fun _ => .pure _
  by_cases joints : code = 1
  · subst joints
    exact JointReports.reads.bind fun _ => .pure _
  rw [addPackage_of_other mode joints]
  simp only [Package.least, if_neg mode, if_neg joints]
  exact .pure _

/-- The header of a package is five bytes long and tells the kind. -/
theorem readPackage_eq (snapshot : StateSnapshot) :
    ∃ header : Decoder PackageKind, snapshot.readPackage = header >>= snapshot.addPackage ∧
      Reads header 5 fun ahead => PackageKind.ofCode (fieldAt UInt8 4 ahead) := by
  refine ⟨Decoder.skip 4 >>= fun _ => PackageKind.ofCode <$> Decoder.value UInt8, ?_, ?_⟩
  · rw [bind_assoc]
    rfl
  · apply Reads.congr
    · apply Reads.bind (Reads.skip 4)
      intro _
      exact (Reads.value UInt8).map _
    · rfl
    · intro bytes
      rw [fieldAt_drop]

theorem fieldAt_bytes (package : Package) : fieldAt UInt8 4 package.bytes = package.code := by
  rw [fieldAt, Package.bytes, List.drop_left' (length_bytesOfNat _ _)]
  simp [BigEndian.width, BigEndian.ofBytes, BigEndian.ofNat, natOfBytes]

/-- Inside its bounds a package is read after its header. -/
theorem run_readPackage (snapshot : StateSnapshot) (package : Package) :
    ∃ inside : Cursor, inside.ahead = package.body ∧
      snapshot.readPackage.run (Cursor.ofBytes package.bytes) =
        (snapshot.addPackage (PackageKind.ofCode package.code)).run inside := by
  obtain ⟨header, split, reads⟩ := readPackage_eq snapshot
  have fits : 5 ≤ (Cursor.ofBytes package.bytes).remaining := by
    rw [Cursor.ofBytes_remaining, package.length_bytes, Package.size]
    omega
  refine ⟨(Cursor.ofBytes package.bytes).advance 5 fits, ?_, ?_⟩
  · rw [Cursor.ahead_advance, Cursor.ofBytes_ahead, package.drop_bytes]
  · rw [split, Decoder.run_bind, reads.whole _ fits, Cursor.ofBytes_ahead, fieldAt_bytes]

theorem readPackage_of_fills (fills : package.Fills snapshot.layout) :
    (snapshot.readPackage.run (Cursor.ofBytes package.bytes)).1 = .ok (snapshot.add package) := by
  obtain ⟨inside, ahead, run⟩ := run_readPackage snapshot package
  have fits : Package.least snapshot.layout package.code ≤ inside.remaining := by
    rw [← Cursor.length_ahead, ahead]
    exact fills
  rw [run, (reads_addPackage snapshot package.code).whole inside fits, ahead]
  rfl

theorem readPackage_of_not_fills (short : ¬ package.Fills snapshot.layout) :
    ∃ fault, (snapshot.readPackage.run (Cursor.ofBytes package.bytes)).1 = .error fault := by
  obtain ⟨inside, ahead, run⟩ := run_readPackage snapshot package
  have missing : inside.remaining < Package.least snapshot.layout package.code := by
    rw [← Cursor.length_ahead, ahead]
    exact Nat.not_le.mp short
  obtain ⟨fault, behind, failed⟩ := (reads_addPackage snapshot package.code).short inside missing
  exact ⟨fault, by rw [run, failed]⟩

/-! ### One turn -/

theorem addPackages_eq_turn (snapshot : StateSnapshot) (cursor : Cursor) :
    addPackages snapshot cursor =
      match turn snapshot cursor with
      | .inl answer => answer
      | .inr (extended, behind) => addPackages extended behind := by
  rw [addPackages, turn]
  by_cases atEnd : cursor.atEnd = true
  · rw [if_pos atEnd, if_pos atEnd]
  rw [if_neg atEnd, if_neg atEnd]
  split <;> rename_i declared <;> simp only [declared]
  rename_i size
  by_cases fits : size ≤ cursor.remaining
  · simp only [dif_pos fits]
    cases (snapshot.readPackage.run (Cursor.ofBytes (cursor.ahead.take size))).1 <;> rfl
  · simp only [dif_neg fits]

theorem packageSize_of_le (fits : 4 ≤ cursor.remaining) :
    packageSize cursor =
      if 5 ≤ declaredAt cursor then .ok (declaredAt cursor).toNat
      else .error (.invalidDeclaredLength (declaredAt cursor)) := by
  rw [packageSize, peek_length fits]
  rfl

theorem not_atEnd_of_package (same : cursor.ahead = package.bytes ++ rest) :
    cursor.atEnd = false := by
  have longer := congrArg List.length same
  rw [Cursor.length_ahead, List.length_append, package.length_bytes, Package.size] at longer
  rw [Cursor.atEnd, beq_eq_false_iff_ne]
  omega

theorem fits_of_package (same : cursor.ahead = package.bytes ++ rest) :
    package.size ≤ cursor.remaining := by
  rw [← Cursor.length_ahead, same, List.length_append, package.length_bytes]
  exact Nat.le_add_right _ _

theorem turn_of_package (same : cursor.ahead = package.bytes ++ rest) :
    turn snapshot cursor =
      match (snapshot.readPackage.run (Cursor.ofBytes package.bytes)).1 with
      | .error fault => .inl (.error fault, cursor.advance package.size (fits_of_package same))
      | .ok extended => .inr (extended, cursor.advance package.size (fits_of_package same)) := by
  have fits := fits_of_package same
  have least : 5 ≤ package.size := Nat.le_add_right _ _
  have declared : packageSize cursor = .ok package.size := by
    rw [packageSize_of_le (by omega), package.declaredAt_of_ahead same, if_pos (by omega)]
    rfl
  have front : cursor.ahead.take package.size = package.bytes := by
    rw [same, ← package.length_bytes]
    exact List.take_left
  rw [turn, not_atEnd_of_package same, declared]
  simp only [Bool.false_eq_true, if_false, dif_pos fits, front]

/-- A size that covers the header and does not lead behind the end is that of a package. -/
theorem exists_package (least : 5 ≤ declaredAt cursor)
    (enough : (declaredAt cursor).toNat ≤ cursor.remaining) :
    ∃ (package : Package) (rest : List UInt8), cursor.ahead = package.bytes ++ rest := by
  obtain ⟨size, declared⟩ := Int.eq_ofNat_of_zero_le (show 0 ≤ declaredAt cursor by omega)
  have small : (size : Int) < 2147483648 := by
    rw [← declared]
    exact Int32.toInt_lt _
  rw [declared, Int.toNat_natCast, ← Cursor.length_ahead] at enough
  have four : (cursor.ahead.take 4).length = 4 := by
    rw [List.length_take]
    omega
  have front : cursor.ahead.take 4 = bytesOfNat 4 size :=
    (toInt_ofBytes_eq_iff four (by omega)).mp declared
  have inside : 4 < cursor.ahead.length := by omega
  have body : ((cursor.ahead.drop 5).take (size - 5)).length = size - 5 := by
    rw [List.length_take, List.length_drop]
    omega
  refine ⟨⟨cursor.ahead[4], (cursor.ahead.drop 5).take (size - 5), by omega⟩,
    cursor.ahead.drop size, ?_⟩
  have sizes : 5 + (size - 5) = size := by omega
  simp only [Package.bytes, Package.size, body, sizes, ← front, List.append_assoc,
    List.cons_append]
  calc cursor.ahead
      = cursor.ahead.take 4 ++ cursor.ahead.drop 4 := (List.take_append_drop _ _).symm
    _ = cursor.ahead.take 4 ++ cursor.ahead[4] :: cursor.ahead.drop 5 := by
        rw [List.drop_eq_getElem_cons inside]
    _ = cursor.ahead.take 4 ++ cursor.ahead[4] ::
          ((cursor.ahead.drop 5).take (size - 5) ++ (cursor.ahead.drop 5).drop (size - 5)) := by
        rw [List.take_append_drop]
    _ = _ := by rw [List.drop_drop, sizes]

/-- A turn ends the loop at the end of the bytes or with a fault, or it passes a package. -/
theorem turn_cases (snapshot : StateSnapshot) (cursor : Cursor) :
    (cursor.ahead = [] ∧ turn snapshot cursor = .inl (.ok snapshot, cursor)) ∨
      (∃ fault behind, turn snapshot cursor = .inl (.error fault, behind)) ∨
      ∃ (package : Package) (rest : List UInt8) (fits : package.size ≤ cursor.remaining),
        cursor.ahead = package.bytes ++ rest ∧ package.Fills snapshot.layout ∧
          turn snapshot cursor = .inr (snapshot.add package, cursor.advance package.size fits) := by
  by_cases atEnd : cursor.atEnd = true
  · left
    exact ⟨Cursor.atEnd_iff.mp atEnd, by rw [turn, if_pos atEnd]⟩
  right
  rcases Nat.lt_or_ge cursor.remaining 4 with short | fourFit
  · left
    have unread : packageSize cursor = .error (.insufficientData 4 cursor.remaining) := by
      rw [packageSize, Cursor.peek]
      change ((cursor.next 4).map _ >>= _) = _
      rw [Cursor.next_of_lt short]
      rfl
    exact ⟨_, _, by rw [turn, if_neg atEnd, unread]⟩
  have size := packageSize_of_le fourFit
  by_cases least : 5 ≤ declaredAt cursor
  · by_cases enough : (declaredAt cursor).toNat ≤ cursor.remaining
    · obtain ⟨package, rest, same⟩ := exists_package least enough
      have passed : turn snapshot cursor = _ := turn_of_package same
      by_cases fills : package.Fills snapshot.layout
      · right
        rw [readPackage_of_fills fills] at passed
        exact ⟨package, rest, fits_of_package same, same, fills, passed⟩
      · left
        obtain ⟨fault, failed⟩ := readPackage_of_not_fills fills
        rw [failed] at passed
        exact ⟨fault, _, passed⟩
    · left
      rw [if_pos least] at size
      exact ⟨_, _, by rw [turn, if_neg atEnd, size]; exact dif_neg enough⟩
  · left
    rw [if_neg least] at size
    exact ⟨_, _, by rw [turn, if_neg atEnd, size]⟩

/-! ### The loop -/

theorem addPackages_of_package (same : cursor.ahead = package.bytes ++ rest)
    (fills : package.Fills snapshot.layout) :
    ∃ behind : Cursor, behind.ahead = rest ∧
      addPackages snapshot cursor = addPackages (snapshot.add package) behind := by
  refine ⟨cursor.advance package.size (fits_of_package same), ?_, ?_⟩
  · rw [Cursor.ahead_advance, same, ← package.length_bytes]
    exact List.drop_left
  · rw [addPackages_eq_turn, turn_of_package same, readPackage_of_fills fills]

theorem addPackages_of_short (same : cursor.ahead = package.bytes ++ rest)
    (short : ¬ package.Fills snapshot.layout) :
    ∃ fault behind, addPackages snapshot cursor = (.error fault, behind) := by
  obtain ⟨fault, failed⟩ := readPackage_of_not_fills short
  rw [addPackages_eq_turn, turn_of_package same, failed]
  exact ⟨fault, _, rfl⟩

theorem addPackages_of_end (atEnd : cursor.ahead = []) :
    addPackages snapshot cursor = (.ok snapshot, cursor) := by
  rw [addPackages, if_pos (Cursor.atEnd_iff.mpr atEnd)]

/-- Packages that fill their layouts are added one after the other. -/
theorem addPackages_run (same : cursor.ahead = Package.run packages ++ rest)
    (fill : ∀ package ∈ packages, package.Fills snapshot.layout) :
    ∃ behind : Cursor, behind.ahead = rest ∧
      addPackages snapshot cursor = addPackages (packages.foldl add snapshot) behind := by
  induction packages generalizing snapshot cursor with
  | nil => exact ⟨cursor, same, rfl⟩
  | cons package later ih =>
    obtain ⟨fills, laterFill⟩ := List.forall_mem_cons.mp fill
    rw [Package.run_cons, List.append_assoc] at same
    obtain ⟨behind, ahead, first⟩ := addPackages_of_package same fills
    have stillFill : ∀ other ∈ later, other.Fills (snapshot.add package).layout := by
      simpa only [add_layout] using laterFill
    obtain ⟨last, aheadLast, others⟩ := ih ahead stillFill
    exact ⟨last, aheadLast, first.trans others⟩

/-- One report that ends too early spoils the whole. -/
theorem addPackages_of_not_fills (same : cursor.ahead = Package.run packages ++ rest)
    (short : ∃ package ∈ packages, ¬ package.Fills snapshot.layout) :
    ∃ fault behind, addPackages snapshot cursor = (.error fault, behind) := by
  induction packages generalizing snapshot cursor with
  | nil => simp at short
  | cons package later ih =>
    rw [Package.run_cons, List.append_assoc] at same
    by_cases fills : package.Fills snapshot.layout
    · obtain ⟨behind, ahead, first⟩ := addPackages_of_package same fills
      rw [first]
      apply ih ahead
      simpa [fills] using short
    · exact addPackages_of_short same fills

/-- What is accepted is a run of packages that fill their layouts. -/
theorem exists_run_of_addPackages {read : StateSnapshot} {behind : Cursor}
    (accepted : addPackages snapshot cursor = (.ok read, behind)) :
    ∃ packages, cursor.ahead = Package.run packages ∧
      ∀ package ∈ packages, package.Fills snapshot.layout := by
  induction size : cursor.remaining using Nat.strongRecOn generalizing snapshot cursor with
  | ind size ih =>
    rw [addPackages_eq_turn] at accepted
    obtain ⟨atEnd, -⟩ | ⟨fault, _, failed⟩ | ⟨package, rest, fits, same, fills, passed⟩ :=
      turn_cases snapshot cursor
    · exact ⟨[], atEnd, by simp⟩
    · rw [failed] at accepted
      cases accepted
    · rw [passed] at accepted
      have least : 5 ≤ package.size := Nat.le_add_right _ _
      have shorter := Cursor.remaining_advance cursor package.size fits
      obtain ⟨packages, ahead, fill⟩ := ih _ (by omega) accepted rfl
      have behindPackage : (cursor.advance package.size fits).ahead = rest := by
        rw [Cursor.ahead_advance, same, ← package.length_bytes]
        exact List.drop_left
      refine ⟨package :: packages, ?_, ?_⟩
      · rw [Package.run_cons, same, ← ahead, behindPackage]
      · rw [add_layout] at fill
        exact List.forall_mem_cons.mpr ⟨fills, fill⟩

/-- Added one after the other, packages say what they say as a run. -/
theorem foldl_add (layout : StateLayout) (packages : List Package) :
    packages.foldl add { layout } = ofPackages layout packages := by
  induction packages using List.reverseRecOn with
  | nil => rfl
  | append_singleton packages package ih =>
    rw [List.foldl_append, ih, List.foldl_cons, List.foldl_nil, add]
    by_cases mode : package.code = 0
    · simp [ofPackages, Package.lastBody, mode]
    by_cases joints : package.code = 1
    · simp [ofPackages, Package.lastBody, joints]
    · simp [ofPackages, Package.lastBody, mode, joints]

/-- The loop ends: every turn but the last passes a package. -/
theorem turns_eq (snapshot : StateSnapshot) {cursor : Cursor} {count : Nat}
    (enough : cursor.remaining < 5 * count) :
    turns snapshot cursor count = some (addPackages snapshot cursor) := by
  induction count generalizing snapshot cursor with
  | zero => omega
  | succ count ih =>
    rw [turns, addPackages_eq_turn]
    obtain ⟨-, ended⟩ | ⟨_, _, failed⟩ | ⟨package, rest, fits, -, -, passed⟩ :=
      turn_cases snapshot cursor
    · rw [ended]
    · rw [failed]
    · rw [passed]
      apply ih
      have least : 5 ≤ package.size := Nat.le_add_right _ _
      rw [Cursor.remaining_advance]
      omega

/-! ### Bodies -/

theorem read_eq (layout : StateLayout) (bytes : List UInt8) :
    read layout bytes = (addPackages { layout } (Cursor.ofBytes bytes)).1 :=
  rfl

theorem read_run (fill : ∀ package ∈ packages, package.Fills layout) :
    read layout (Package.run packages) = .ok (ofPackages layout packages) := by
  have same : (Cursor.ofBytes (Package.run packages)).ahead = Package.run packages ++ [] := by simp
  have fillEmpty : ∀ package ∈ packages, package.Fills ({ layout } : StateSnapshot).layout := fill
  obtain ⟨behind, atEnd, added⟩ := addPackages_run same fillEmpty
  rw [read_eq, added, addPackages_of_end atEnd, foldl_add]

theorem read_of_not_fills (short : ∃ package ∈ packages, ¬ package.Fills layout)
    (rest : List UInt8) :
    ∃ fault, read layout (Package.run packages ++ rest) = .error fault := by
  have same : (Cursor.ofBytes (Package.run packages ++ rest)).ahead = _ := Cursor.ofBytes_ahead _
  have shortEmpty : ∃ package ∈ packages, ¬ package.Fills ({ layout } : StateSnapshot).layout :=
    short
  obtain ⟨fault, behind, failed⟩ := addPackages_of_not_fills same shortEmpty
  exact ⟨fault, by rw [read_eq, failed]⟩

theorem read_of_no_package (some : rest ≠ [])
    (none : ∀ (package : Package) behind, rest ≠ package.bytes ++ behind) :
    ∃ fault, read layout (Package.run packages ++ rest) = .error fault := by
  by_cases fill : ∀ package ∈ packages, package.Fills layout
  · have same : (Cursor.ofBytes (Package.run packages ++ rest)).ahead = _ := Cursor.ofBytes_ahead _
    have fillEmpty : ∀ package ∈ packages, package.Fills ({ layout } : StateSnapshot).layout := fill
    obtain ⟨behind, ahead, added⟩ := addPackages_run same fillEmpty
    rw [read_eq, added, addPackages_eq_turn]
    obtain ⟨atEnd, -⟩ | ⟨fault, _, failed⟩ | ⟨package, others, -, begun, -⟩ :=
      turn_cases (packages.foldl add { layout }) behind
    · exact absurd (ahead.symm.trans atEnd) some
    · exact ⟨fault, by rw [failed]⟩
    · exact absurd (ahead.symm.trans begun) (none package others)
  · push Not at fill
    exact read_of_not_fills fill rest

/-- Packages that are accepted fill their layouts, and say what they say as a run. -/
theorem fill_of_read (accepted : read layout (Package.run packages) = .ok snapshot) :
    (∀ package ∈ packages, package.Fills layout) ∧ snapshot = ofPackages layout packages := by
  have fill : ∀ package ∈ packages, package.Fills layout := by
    intro package member
    by_contra short
    obtain ⟨fault, failed⟩ := read_of_not_fills ⟨package, member, short⟩ []
    rw [List.append_nil, accepted] at failed
    cases failed
  rw [read_run fill] at accepted
  exact ⟨fill, (Except.ok.inj accepted).symm⟩

theorem exists_run_of_read {bytes : List UInt8} (accepted : read layout bytes = .ok snapshot) :
    ∃ packages, bytes = Package.run packages ∧ ∀ package ∈ packages, package.Fills layout := by
  rw [read_eq] at accepted
  exact exists_run_of_addPackages (Prod.ext accepted rfl)

/-! ### What makes no difference -/

theorem add_of_prefix {longer : Package} (fills : package.Fills snapshot.layout)
    (code : longer.code = package.code) (begins : package.body <+: longer.body) :
    snapshot.add longer = snapshot.add package := by
  obtain ⟨extra, same⟩ := begins
  rw [Package.Fills, Package.least] at fills
  rw [add, add, code, ← same]
  by_cases mode : package.code = 0
  · rw [if_pos mode] at fills
    rw [if_pos mode, if_pos mode, (ModeReport.reads _).value_append _ _ fills]
  by_cases joints : package.code = 1
  · rw [if_neg mode, if_pos joints] at fills
    simp only [if_neg mode, if_pos joints]
    rw [JointReports.reads.value_append _ _ fills]
  · simp only [if_neg mode, if_neg joints]

theorem ofPackages_of_prefix {front behind : List Package} {longer : Package}
    (fills : package.Fills layout) (code : longer.code = package.code)
    (begins : package.body <+: longer.body) :
    ofPackages layout (front ++ longer :: behind) =
      ofPackages layout (front ++ package :: behind) := by
  have added : (front.foldl add { layout }).add longer = (front.foldl add { layout }).add package := by
    apply add_of_prefix _ code begins
    rw [foldl_add]
    exact fills
  rw [← foldl_add, ← foldl_add, List.foldl_append, List.foldl_append, List.foldl_cons,
    List.foldl_cons, added]

theorem ofPackages_insert {front behind : List Package} (notMode : package.code ≠ 0)
    (notJoints : package.code ≠ 1) :
    ofPackages layout (front ++ package :: behind) =
      { ofPackages layout (front ++ behind) with
        skipped := (ofPackages layout (front ++ behind)).skipped + 1 } := by
  simp [ofPackages, Package.lastBody, notMode, notJoints, Nat.add_assoc]

/-- Lists with the same packages of every kind have the same number of packages that are neither
mode nor joint reports. -/
theorem ofPackages_reorder
    (same : ∀ code, packages.filter (·.code == code) = others.filter (·.code == code)) :
    ofPackages layout packages = ofPackages layout others := by
  have codes : (packages.map Package.code).Perm (others.map Package.code) := by
    apply List.perm_iff_count.mpr
    intro code
    have numbers := congrArg List.length (same code)
    rw [← List.countP_eq_length_filter, ← List.countP_eq_length_filter] at numbers
    rw [List.count_eq_countP, List.count_eq_countP, List.countP_map, List.countP_map]
    exact numbers
  have skipped := codes.countP_eq fun code => code != 0 && code != 1
  rw [List.countP_map, List.countP_map] at skipped
  simp only [ofPackages, Package.lastBody, same]
  congr 1

end StateSnapshot

open StateSnapshot

/-- State snapshots are read as runs of packages. -/
theorem reading_of_decode (layout : StateLayout) : SnapshotReading layout := by
  constructor
  · intro bytes
    constructor
    · rintro ⟨snapshot, accepted⟩
      exact exists_run_of_read accepted
    · rintro ⟨packages, rfl, fill⟩
      exact ⟨_, read_run fill⟩
  · intro packages fill
    exact read_run fill
  · intro front package behind longer snapshot accepted code begins
    obtain ⟨fill, rfl⟩ := fill_of_read accepted
    obtain ⟨inFront, fillBehind⟩ := List.forall_mem_append.mp fill
    obtain ⟨fills, inBehind⟩ := List.forall_mem_cons.mp fillBehind
    have longerFills : longer.Fills layout := by
      rw [Package.Fills, code]
      exact Nat.le_trans fills begins.length_le
    rw [read_run, ofPackages_of_prefix fills code begins]
    exact List.forall_mem_append.mpr ⟨inFront, List.forall_mem_cons.mpr ⟨longerFills, inBehind⟩⟩
  · intro front package behind snapshot accepted notMode notJoints
    obtain ⟨fill, rfl⟩ := fill_of_read accepted
    obtain ⟨inFront, inBehind⟩ := List.forall_mem_append.mp fill
    have fills : package.Fills layout := by
      simp [Package.Fills, Package.least, notMode, notJoints]
    rw [read_run, ofPackages_insert notMode notJoints]
    exact List.forall_mem_append.mpr ⟨inFront, List.forall_mem_cons.mpr ⟨fills, inBehind⟩⟩
  · intro packages others snapshot accepted same
    obtain ⟨fill, rfl⟩ := fill_of_read accepted
    rw [read_run, ofPackages_reorder same]
    intro other member
    have kept : other ∈ packages.filter (·.code == other.code) := by
      rw [same]
      simpa using member
    exact fill other (List.mem_filter.mp kept).1
  · intro front package rest short
    have spoilt : ∃ other ∈ front ++ [package], ¬ other.Fills layout := ⟨package, by simp, short⟩
    obtain ⟨fault, failed⟩ := read_of_not_fills spoilt rest
    refine ⟨fault, ?_⟩
    have alone : Package.run [package] = package.bytes := List.append_nil _
    rwa [Package.run_append, alone] at failed
  · intro front rest some none
    exact read_of_no_package some none
  · intro bytes count enough
    exact turns_eq { layout } enough

end ArmLink.Telemetry
