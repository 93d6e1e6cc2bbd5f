import ArmLink.Firmware.Layout
import Mathlib.Data.Prod.Lex

/-!
The layouts of a firmware.

A layout of the realtime feed came with some firmware and is sent until the next one comes:
`Version.since_le_iff`.  The table of the state snapshots leaves out some of the cuts of the table of
the realtime feed and has no others: `Version.stateLayout_eq`.  So both feeds know the same firmware,
newer firmware never gets an older layout, and nothing but the first two numbers of a version counts.
-/

namespace ArmLink.Firmware

/-- The firmware whose layouts are known. -/
def Version.IsSupported (firmware : Version) : Prop :=
  firmware.major = 1 ∨ firmware.major = 3 ∨ firmware.major = 5

/-- The numbers of a version that its layouts depend on, compared by the first one first. -/
def Version.series (firmware : Version) : Nat ×ₗ Nat := toLex (firmware.major, firmware.minor)

namespace RealtimeLayout

/-- The number of older layouts. -/
def generation : RealtimeLayout → Nat
  | .v1_6 => 0
  | .v1_8 => 1
  | .v3_0 => 2
  | .v3_2 => 3
  | .v3_5 => 4

/-- The first version that may send a layout. -/
def since : RealtimeLayout → Nat ×ₗ Nat
  | .v1_6 => toLex (1, 0)
  | .v1_8 => toLex (1, 8)
  | .v3_0 => toLex (3, 0)
  | .v3_2 => toLex (3, 2)
  | .v3_5 => toLex (3, 5)

/-- The layout of the state snapshots that comes with a realtime layout. -/
def stateLayout : RealtimeLayout → StateLayout
  | .v1_6 | .v1_8 => .v1
  | .v3_0 => .v3_0
  | .v3_2 | .v3_5 => .v3_2

end RealtimeLayout

/-- The number of older layouts. -/
def StateLayout.generation : StateLayout → Nat
  | .v1 => 0
  | .v3_0 => 1
  | .v3_2 => 2

/-- What the choice of layouts promises for a firmware. -/
structure Selection (firmware : Version) : Prop where
  /-- Both feeds know the firmware, and together they are the layouts of a connection. -/
  supported : firmware.IsSupported → ∃ realtime,
    firmware.realtimeLayout = .ok realtime ∧ firmware.stateLayout = .ok realtime.stateLayout ∧
      Layouts.ofFirmware firmware = .ok { firmware, realtime, state := realtime.stateLayout }
  /-- Neither feed knows the firmware, and the reason names it. -/
  unsupported : ¬ firmware.IsSupported →
    firmware.realtimeLayout = .error (.unsupportedFirmware firmware.text) ∧
      firmware.stateLayout = .error (.unsupportedFirmware firmware.text) ∧
        Layouts.ofFirmware firmware = .error (.unsupportedFirmware firmware.text)
  /-- Newer firmware never gets older layouts or smaller packets. -/
  ordered : ∀ newer : Version, firmware.series < newer.series → ∀ older newest,
    Layouts.ofFirmware firmware = .ok older → Layouts.ofFirmware newer = .ok newest →
      older.realtime.generation ≤ newest.realtime.generation ∧
        older.state.generation ≤ newest.state.generation ∧
          older.realtime.packetSize ≤ newest.realtime.packetSize
  /-- Patch, pre-release and build do not matter. -/
  alike : ∀ other : Version, other.major = firmware.major → other.minor = firmware.minor →
    other.realtimeLayout.toOption = firmware.realtimeLayout.toOption ∧
      other.stateLayout.toOption = firmware.stateLayout.toOption

/-! ### Layouts and their ages -/

section Ages

variable {older newer : RealtimeLayout}

theorem RealtimeLayout.packetSize_le (before : older.generation ≤ newer.generation) :
    older.packetSize ≤ newer.packetSize := by
  cases older <;> cases newer <;> revert before <;> decide

theorem RealtimeLayout.generation_stateLayout_le (before : older.generation ≤ newer.generation) :
    older.stateLayout.generation ≤ newer.stateLayout.generation := by
  cases older <;> cases newer <;> revert before <;> decide

end Ages

/-! ### Choosing -/

namespace Version

variable {firmware newer : Version} {layout : RealtimeLayout}

/-- The firmware that sends a layout. -/
theorem realtimeLayout_eq_ok : firmware.realtimeLayout = .ok layout ↔
    match layout with
    | .v1_6 => firmware.major = 1 ∧ firmware.minor < 8
    | .v1_8 => firmware.major = 1 ∧ 8 ≤ firmware.minor
    | .v3_0 => firmware.major = 3 ∧ firmware.minor < 2
    | .v3_2 => firmware.major = 3 ∧ 2 ≤ firmware.minor ∧ firmware.minor < 5
    | .v3_5 => firmware.major = 3 ∧ 5 ≤ firmware.minor ∨ firmware.major = 5 := by
  unfold realtimeLayout
  split
  case h_1 major => cases layout <;> split_ifs <;> simp [major] <;> omega
  case h_2 major => cases layout <;> split_ifs <;> simp [major] <;> omega
  case h_3 major => cases layout <;> simp [major]
  case h_4 => cases layout <;> simp_all

/-- The state snapshots have no table of their own. -/
theorem stateLayout_eq (firmware : Version) :
    firmware.stateLayout = firmware.realtimeLayout.map RealtimeLayout.stateLayout := by
  unfold stateLayout realtimeLayout
  split
  · split_ifs <;> rfl
  · split_ifs <;> rfl
  · rfl
  · rfl

theorem toOption_stateLayout (firmware : Version) : firmware.stateLayout.toOption =
    firmware.realtimeLayout.toOption.map RealtimeLayout.stateLayout := by
  rw [stateLayout_eq]
  cases firmware.realtimeLayout <;> rfl

/-- A firmware sends the newest layout that came no later than itself. -/
theorem since_le_iff (chosen : firmware.realtimeLayout = .ok layout) (other : RealtimeLayout) :
    other.since ≤ firmware.series ↔ other.generation ≤ layout.generation := by
  have numbers := realtimeLayout_eq_ok.mp chosen
  cases layout <;> cases other <;>
    simp only [RealtimeLayout.since, RealtimeLayout.generation, series,
      Prod.Lex.toLex_le_toLex] at numbers ⊢ <;> omega

theorem generation_le {newest : RealtimeLayout} (chosen : firmware.realtimeLayout = .ok layout)
    (later : newer.realtimeLayout = .ok newest) (before : firmware.series ≤ newer.series) :
    layout.generation ≤ newest.generation := by
  have come : layout.since ≤ firmware.series := (since_le_iff chosen layout).mpr (Nat.le_refl _)
  exact (since_le_iff later layout).mp (come.trans before)

theorem exists_realtimeLayout_iff :
    (∃ layout, firmware.realtimeLayout = .ok layout) ↔ firmware.IsSupported := by
  unfold realtimeLayout IsSupported
  split <;> simp_all

theorem realtimeLayout_eq_error (unsupported : ¬ firmware.IsSupported) :
    firmware.realtimeLayout = .error (.unsupportedFirmware firmware.text) := by
  unfold realtimeLayout
  split <;> simp_all [IsSupported]

end Version

namespace Layouts

variable {firmware : Version}

theorem ofFirmware_eq (firmware : Version) : ofFirmware firmware =
    firmware.realtimeLayout.map fun realtime =>
      { firmware, realtime, state := realtime.stateLayout } := by
  unfold ofFirmware
  rw [Version.stateLayout_eq]
  cases firmware.realtimeLayout <;> rfl

theorem ofFirmware_eq_ok {layouts : Layouts} (known : ofFirmware firmware = .ok layouts) :
    firmware.realtimeLayout = .ok layouts.realtime ∧
      layouts.state = layouts.realtime.stateLayout := by
  rw [ofFirmware_eq] at known
  cases chosen : firmware.realtimeLayout <;> rw [chosen] at known <;> cases known
  exact ⟨rfl, rfl⟩

theorem exists_ofFirmware (supported : firmware.IsSupported) :
    ∃ realtime, firmware.realtimeLayout = .ok realtime ∧
      ofFirmware firmware = .ok { firmware, realtime, state := realtime.stateLayout } := by
  obtain ⟨realtime, chosen⟩ := Version.exists_realtimeLayout_iff.mpr supported
  refine ⟨realtime, chosen, ?_⟩
  rw [ofFirmware_eq, chosen]
  rfl

theorem ofFirmware_eq_error (unsupported : ¬ firmware.IsSupported) :
    ofFirmware firmware = .error (.unsupportedFirmware firmware.text) := by
  rw [ofFirmware_eq, Version.realtimeLayout_eq_error unsupported]
  rfl

end Layouts

/-- The layouts of a firmware fit together, and they grow with the firmware. -/
theorem selection_of_firmware (firmware : Version) : Selection firmware := by
  constructor
  · intro supported
    obtain ⟨realtime, chosen, known⟩ := Layouts.exists_ofFirmware supported
    refine ⟨realtime, chosen, ?_, known⟩
    rw [Version.stateLayout_eq, chosen]
    rfl
  · intro unsupported
    have refused := Version.realtimeLayout_eq_error unsupported
    refine ⟨refused, ?_, Layouts.ofFirmware_eq_error unsupported⟩
    rw [Version.stateLayout_eq, refused]
    rfl
  · intro newer before older newest known later
    obtain ⟨chosen, olderState⟩ := Layouts.ofFirmware_eq_ok known
    obtain ⟨chosenLater, newestState⟩ := Layouts.ofFirmware_eq_ok later
    have aged := Version.generation_le chosen chosenLater before.le
    rw [olderState, newestState]
    exact ⟨aged, RealtimeLayout.generation_stateLayout_le aged, RealtimeLayout.packetSize_le aged⟩
  · intro other major minor
    have same : other.realtimeLayout.toOption = firmware.realtimeLayout.toOption := by
      unfold Version.realtimeLayout
      rw [major, minor]
      split <;> rfl
    refine ⟨same, ?_⟩
    rw [Version.toOption_stateLayout, Version.toOption_stateLayout, same]

end ArmLink.Firmware
