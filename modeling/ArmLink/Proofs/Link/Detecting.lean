import ArmLink.Link.Detection
import ArmLink.Proofs.Firmware.Selection
import ArmLink.Proofs.Telemetry.Messages

/-!
The first reception that decides tells the firmware.

Every reception either says nothing about the firmware (`Reception.IsSkippable`) or decides what
comes of the detection (`Reception.Decides`), never both; `verdict_eq_none_iff` and
`verdict_eq_some_iff` say that the program sorts them in this way.  While there is time left the clock
does not matter: detecting is a search for the first reception with a verdict
(`detectLayouts_eq_search`).  A search is not changed by what stands in front of its end
(`search_append`), and that is all that `detection_of_script` puts together.
-/

namespace ArmLink.Link

open Firmware Telemetry

namespace Reception

/-- Receptions that say nothing about the firmware. -/
inductive IsSkippable : Reception → Prop where
  | timeout : IsSkippable (.error .timeout)
  /-- A packet with another tag than that of messages, whatever its length field says. -/
  | foreign {bytes : List UInt8} (tagged : 5 ≤ bytes.length)
      (other : bytes.getD 4 0 ≠ robotMessageTag) : IsSkippable (.ok bytes)
  /-- A message that is no version report. -/
  | otherSubject {bytes : List UInt8} {packet : Packet} {message : RobotMessage}
      (read : Strategy.message.parseBytes bytes = .ok packet)
      (carried : packet.payload = .message message) (silent : message.version = none) :
      IsSkippable (.ok bytes)

/-- What a reception makes of the detection, if it ends it. -/
inductive Decides : Reception → Except Fault Layouts → Prop where
  /-- A version report decides with the layouts of its firmware; a negative bugfix number is read as
  zero. -/
  | version {bytes : List UInt8} {packet : Packet} {message : RobotMessage} {report : VersionReport}
      (read : Strategy.message.parseBytes bytes = .ok packet)
      (carried : packet.payload = .message message) (told : message.version = some report) :
      Decides (.ok bytes) (resolveLayouts
        { major := report.major.toNat, minor := report.minor.toNat,
          patch := (max report.bugfix.toInt 0).toNat })
  | fault {fault : Fault} (other : fault ≠ .timeout) : Decides (.error fault) (.error fault)
  | unreadable {bytes : List UInt8} {fault : PacketFault}
      (read : Strategy.message.parseBytes bytes = .error fault)
      (broken : fault.isIncomplete = true ∨ fault.isMalformed = true) :
      Decides (.ok bytes) (.error (.packet fault))

end Reception

/-- Whether every item of a script is asked for before the deadline. -/
def InTime (timeout elapsed : Duration) : List TimedReception → Prop
  | [] => True
  | arrival :: later => elapsed < timeout ∧ InTime timeout (elapsed.plus arrival.took) later

/-- What detecting makes of a script that is used up before the deadline. -/
structure Detection (start timeout : Duration) (script : List TimedReception) : Prop where
  /-- A reception is skipped, or it ends the detection in one way. -/
  sorted : ∀ reception : Reception,
    (reception.IsSkippable ∧ ∀ verdict, ¬ reception.Decides verdict) ∨
      ¬ reception.IsSkippable ∧ ∃! verdict, reception.Decides verdict
  /-- The first reception that is not skipped decides, and nothing behind it is read. -/
  decided : ∀ front item later verdict, script = front ++ item :: later →
    (∀ skipped ∈ front, skipped.reception.IsSkippable) → item.reception.Decides verdict →
      detectFrom start timeout script = .ok (verdict, later)
  undecided : (∀ skipped ∈ script, skipped.reception.IsSkippable) →
    detectFrom start timeout script = .ok (.error .timeout, [])
  /-- More or fewer skippable items in front make no difference. -/
  unaffected : ∀ front rest others, script = front ++ rest →
    (∀ skipped ∈ front, skipped.reception.IsSkippable) →
      (∀ skipped ∈ others, skipped.reception.IsSkippable) →
        InTime timeout .zero (others ++ rest) →
          detectFrom start timeout (others ++ rest) = detectFrom start timeout script
  /-- Firmware without layouts is refused by its name. -/
  resolved : ∀ firmware : Version,
    (firmware.IsSupported → ∃ layouts, Layouts.ofFirmware firmware = .ok layouts ∧
      resolveLayouts firmware = .ok layouts) ∧
    (¬ firmware.IsSupported →
      resolveLayouts firmware = .error (.unsupportedFirmware firmware.text))

/-! ### Sorting receptions -/

section Sorting

open Wire

variable {bytes : List UInt8} {packet : Packet} {reception : Reception}

theorem parseBytes_of_foreign (tagged : 5 ≤ bytes.length)
    (other : bytes.getD 4 0 ≠ robotMessageTag) :
    Strategy.message.parseBytes bytes =
      .error (.unexpectedTag .robotMessage (bytes.getD 4 0)) := by
  have refused : Strategy.message.body? (tagAt (Cursor.ofBytes bytes)) = none := if_neg other
  rw [← Cursor.ofBytes_remaining] at tagged
  exact congrArg Prod.fst (Strategy.parse_of_wrongTag rfl tagged refused)

/-- The tag of messages is never taken for another one. -/
theorem parseBytes_ne_unexpectedTag
    (own : 5 ≤ bytes.length → bytes.getD 4 0 = robotMessageTag) (expected : MessageTag)
    (found : UInt8) :
    Strategy.message.parseBytes bytes ≠ .error (.unexpectedTag expected found) := by
  rw [← Cursor.ofBytes_remaining] at own
  unfold Strategy.parseBytes
  intro mistaken
  rcases Nat.lt_or_ge (Cursor.ofBytes bytes).remaining 4 with short | four
  · rw [Strategy.parse_of_short short] at mistaken
    cases mistaken
  rcases Nat.lt_or_ge (Cursor.ofBytes bytes).remaining 5 with noTag | five
  · rw [Strategy.parse_of_noTag rfl (by omega)] at mistaken
    cases mistaken
  have accepted : Strategy.message.body? (tagAt (Cursor.ofBytes bytes)) = some .message :=
    if_pos (own five)
  have covered : Strategy.message.header ≤ (Cursor.ofBytes bytes).remaining := five
  rw [Strategy.parse_of_body covered accepted] at mistaken
  split at mistaken
  · cases mistaken
  · split at mistaken
    · rw [Body.read] at mistaken
      split at mistaken <;> cases mistaken
    · cases mistaken

/-- What the strategy of messages reads is a message. -/
theorem exists_message_of_parseBytes (read : Strategy.message.parseBytes bytes = .ok packet) :
    ∃ message, packet.payload = .message message := by
  obtain ⟨-, -, body, accepted, found⟩ := Strategy.parse_eq_ok read
  obtain ⟨-, same⟩ := Option.ite_none_right_eq_some.mp accepted
  obtain rfl := Option.some.inj same
  obtain ⟨-, rfl⟩ := Body.read_message.mp found
  exact ⟨_, rfl⟩

theorem versionReport_of_carried {message : RobotMessage}
    (carried : packet.payload = .message message) : packet.versionReport = message.version := by
  rw [Packet.versionReport, carried]

theorem verdict_of_skippable (skippable : reception.IsSkippable) : reception.verdict = none := by
  cases skippable with
  | timeout => rfl
  | foreign tagged other =>
    simp only [Reception.verdict, parseBytes_of_foreign tagged other]
  | otherSubject read carried silent =>
    simp only [Reception.verdict, read, versionReport_of_carried carried, silent, Option.map_none]

theorem verdict_of_decides {verdict : Except Fault Layouts} (decides : reception.Decides verdict) :
    reception.verdict = some verdict := by
  cases decides with
  | version read carried told =>
    simp only [Reception.verdict, read, versionReport_of_carried carried, told, Option.map_some,
      VersionReport.firmware]
    congr 3
    omega
  | fault other =>
    unfold Reception.verdict
    split <;> simp_all
  | @unreadable bytes fault read broken =>
    cases fault with
    | unexpectedTag expected found => rcases broken with broken | broken <;> cases broken
    | incomplete needed available => simp only [Reception.verdict, read]
    | malformed body fault => simp only [Reception.verdict, read]

/-- Every reception is of one of the two kinds. -/
theorem skippable_or_decides (reception : Reception) :
    reception.IsSkippable ∨ ∃ verdict, reception.Decides verdict := by
  cases reception with
  | error fault =>
    by_cases timeout : fault = .timeout
    · exact .inl (timeout ▸ .timeout)
    · exact .inr ⟨_, .fault timeout⟩
  | ok bytes =>
    by_cases foreign : 5 ≤ bytes.length ∧ bytes.getD 4 0 ≠ robotMessageTag
    · exact .inl (.foreign foreign.1 foreign.2)
    have own (tagged : 5 ≤ bytes.length) : bytes.getD 4 0 = robotMessageTag :=
      Decidable.of_not_not fun other => foreign ⟨tagged, other⟩
    cases read : Strategy.message.parseBytes bytes with
    | error fault =>
      refine .inr ⟨_, .unreadable read ?_⟩
      cases fault with
      | unexpectedTag expected found =>
        exact (parseBytes_ne_unexpectedTag own expected found read).elim
      | incomplete needed available => exact .inl rfl
      | malformed body fault => exact .inr rfl
    | ok packet =>
      obtain ⟨message, carried⟩ := exists_message_of_parseBytes read
      cases told : message.version with
      | none => exact .inl (.otherSubject read carried told)
      | some report => exact .inr ⟨_, .version read carried told⟩

theorem verdict_eq_none_iff : reception.verdict = none ↔ reception.IsSkippable := by
  refine ⟨fun silent => ?_, verdict_of_skippable⟩
  rcases skippable_or_decides reception with skippable | ⟨verdict, decides⟩
  · exact skippable
  · cases silent.symm.trans (verdict_of_decides decides)

theorem verdict_eq_some_iff {verdict : Except Fault Layouts} :
    reception.verdict = some verdict ↔ reception.Decides verdict := by
  refine ⟨fun spoken => ?_, verdict_of_decides⟩
  rcases skippable_or_decides reception with skippable | ⟨other, decides⟩
  · cases spoken.symm.trans (verdict_of_skippable skippable)
  · obtain rfl := Option.some.inj (spoken.symm.trans (verdict_of_decides decides))
    exact decides

end Sorting

/-! ### Searching -/

section Searching

variable {timeout elapsed : Duration} {front rest script : List TimedReception}

/-- The verdict of the first reception that has one, and what stands behind it. -/
def search : List TimedReception → Except Fault Layouts × List TimedReception
  | [] => (.error .timeout, [])
  | arrival :: later =>
    match arrival.reception.verdict with
    | some verdict => (verdict, later)
    | none => search later

/-- While there is time left, the time does not matter. -/
theorem detectLayouts_eq_search (inTime : InTime timeout elapsed script) :
    detectLayouts timeout elapsed script = search script := by
  induction script generalizing elapsed with
  | nil => rfl
  | cons arrival later ih =>
    obtain ⟨early, inTime⟩ := inTime
    rw [detectLayouts, if_pos early, search]
    cases arrival.reception.verdict with
    | some verdict => rfl
    | none => exact ih inTime

theorem search_append (skippable : ∀ skipped ∈ front, skipped.reception.IsSkippable) :
    search (front ++ rest) = search rest := by
  induction front with
  | nil => rfl
  | cons arrival front ih =>
    have silent := verdict_of_skippable (skippable arrival List.mem_cons_self)
    rw [List.cons_append, search, silent]
    exact ih fun skipped among => skippable skipped (List.mem_cons_of_mem _ among)

end Searching

/-! ### Firmware -/

theorem resolveLayouts_of_ok {firmware : Version} {layouts : Layouts}
    (known : Layouts.ofFirmware firmware = .ok layouts) :
    resolveLayouts firmware = .ok layouts := by
  rw [resolveLayouts, known]

theorem resolveLayouts_of_unsupported {firmware : Version} (unsupported : ¬ firmware.IsSupported) :
    resolveLayouts firmware = .error (.unsupportedFirmware firmware.text) := by
  rw [resolveLayouts, Layouts.ofFirmware_eq_error unsupported]

/-- A script that is used up before the deadline is decided by its first decisive reception. -/
theorem detection_of_script {start timeout deadline : Duration} {script : List TimedReception}
    (shown : start.later timeout = .ok deadline) (inTime : InTime timeout .zero script) :
    Detection start timeout script := by
  have found {script : List TimedReception} (inTime : InTime timeout .zero script) :
      detectFrom start timeout script = .ok (search script) := by
    rw [detectFrom, shown, ← detectLayouts_eq_search inTime]
    rfl
  constructor
  · intro reception
    simp only [← verdict_eq_none_iff, ← verdict_eq_some_iff]
    cases reception.verdict with
    | none => exact .inl ⟨rfl, nofun⟩
    | some verdict =>
      exact .inr ⟨nofun, verdict, rfl, fun other same => (Option.some.inj same).symm⟩
  · rintro front item later verdict rfl skippable decides
    rw [found inTime, search_append skippable, search, verdict_of_decides decides]
  · intro skippable
    have all : search (script ++ []) = search [] := search_append skippable
    rw [List.append_nil] at all
    rw [found inTime, all]
    rfl
  · rintro front rest others rfl skippable skippableToo inTimeToo
    rw [found inTime, found inTimeToo, search_append skippable, search_append skippableToo]
  · intro firmware
    refine ⟨fun supported => ?_, resolveLayouts_of_unsupported⟩
    obtain ⟨realtime, -, known⟩ := Layouts.exists_ofFirmware supported
    exact ⟨_, known, resolveLayouts_of_ok known⟩

/-- A controller with firmware 3.3 that says so late: nothing comes in time, then a snapshot, then
the version report, and then the connection is lost. -/
def lateReport : List TimedReception :=
  [{ took := .ofMillis 100, reception := .error .timeout }, Reception.atOnce (.ok [0, 0, 0, 5, 16]),
    Reception.atOnce (.ok ([0, 0, 0, 26, 20] ++ List.replicate 8 0 ++ [254, 3] ++ [0, 3, 3] ++
      [0, 0, 0, 1] ++ [0, 0, 0, 42])),
    Reception.atOnce (.error .closed)]

theorem detection_of_lateReport :
    Duration.zero.later (.ofMillis 1000) = .ok (.ofMillis 1000) ∧
      InTime (.ofMillis 1000) .zero lateReport ∧
        Detection .zero (.ofMillis 1000) lateReport := by
  have inTime : InTime (.ofMillis 1000) .zero lateReport := by
    refine ⟨?_, ?_, ?_, ?_, trivial⟩ <;> decide
  exact ⟨rfl, inTime, detection_of_script rfl inTime⟩

example : detectFrom .zero (.ofMillis 1000) lateReport =
    .ok (.ok ⟨{ major := 3, minor := 3, patch := 1 }, .v3_2, .v3_2⟩,
      [Reception.atOnce (.error .closed)]) := by
  cbv

end ArmLink.Link
