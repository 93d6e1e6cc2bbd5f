import ArmLink.Proofs.Decimal.Rounding
import ArmLink.Settings.Basic

/-!
What can be done with settings that were accepted.

Settings are checked as doubles and used as spans of time.  Between the two lies a conversion that
the check does not know of: a time that counts as positive may be too short for a nanosecond, and a
finite one too long for a span.  `usable_iff_of_validate` says that nothing else goes wrong.
-/

namespace ArmLink.Settings

open Decimal.Reading (exact)
open Duration (ofSecondsOrZero nanosPerSecond secondsLimit)

/-- What the parts of the driver ask of their settings. -/
structure Usable (settings : Settings) : Prop where
  follower : ∃ config, settings.follower = .ok config ∧ Duration.zero < config.period ∧
    Duration.zero < config.writeTimeout ∧ Duration.zero < config.acceptTimeout ∧
    ∀ span, config.acknowledgementTimeout = some span → Duration.zero < span
  coordinator : ∃ config, settings.coordinator = .ok config ∧
    Duration.zero < config.monitorInterval ∧ config.validate = .ok ()
  telemetry : ∃ span, settings.telemetrySpan = .ok span ∧ Duration.zero < span
  hangExit : ∃ span, settings.hangExitSpan = .ok span

/-- The times that something waits for. -/
def waits (settings : Settings) : List Float :=
  [settings.servoPeriod, settings.acceptTimeout, settings.monitorInterval,
    settings.telemetryTimeout] ++ settings.acknowledgementTimeout.toList

/-- The times that may be zero. -/
def pauses (settings : Settings) : List Float := [settings.settleDelay, settings.hangExitDelay]

/-- Times that a span can hold, without losing those that something waits for. -/
structure InRange (settings : Settings) : Prop where
  long : ∀ time ∈ settings.waits, 1 / 2 < exact time * nanosPerSecond
  short : ∀ time ∈ settings.waits ++ settings.pauses, exact time < secondsLimit

variable {settings : Settings}

/-! ### What is checked -/

/-- Settings that no check refuses. -/
structure Checked (settings : Settings) : Prop where
  positive : ∀ entry ∈ settings.positiveValues, Scalar.isPositive entry.2 = true
  nonNegative : ∀ entry ∈ settings.nonNegativeValues, Scalar.isNonNegative entry.2 = true
  acknowledgement : ∀ time, settings.acknowledgementTimeout = some time →
    Scalar.isPositive time = true
  count : settings.jointNames.length = jointCount
  names : settings.jointNames.Nodup

theorem nodup_of_validateNames {seen names : List String}
    (valid : validateNames seen names = .ok ()) : names.Nodup ∧ ∀ name ∈ names, name ∉ seen := by
  induction names generalizing seen with
  | nil => simp
  | cons name rest ih =>
    unfold validateNames at valid
    split_ifs at valid with empty known
    obtain ⟨nodup, apart⟩ := ih valid
    have notBehind : name ∉ rest := fun behind => apart name behind List.mem_cons_self
    refine ⟨List.nodup_cons.mpr ⟨notBehind, nodup⟩, ?_⟩
    intro other member
    rcases List.mem_cons.mp member with rfl | behind
    · exact known
    · intro before
      exact apart other behind (List.mem_cons_of_mem _ before)

theorem checked_of_validate (valid : settings.validate = .ok ()) : settings.Checked := by
  unfold validate at valid
  cases notPositive : settings.positiveValues.find? (fun entry => !Scalar.isPositive entry.2) with
  | some entry => simp [notPositive] at valid
  | none =>
    cases negative : settings.nonNegativeValues.find?
        (fun entry => !Scalar.isNonNegative entry.2) with
    | some entry => simp [notPositive, negative] at valid
    | none =>
      cases waits : settings.acknowledgementTimeout.filter (!Scalar.isPositive ·) with
      | some time => simp [notPositive, negative, waits] at valid
      | none =>
        simp only [notPositive, negative, waits] at valid
        split_ifs at valid with count
        constructor
        · simpa [List.find?_eq_none] using notPositive
        · simpa [List.find?_eq_none] using negative
        · simpa [Option.filter_eq_none_iff] using waits
        · exact not_not.mp count
        · exact (nodup_of_validateNames valid).1

/-- A prefix keeps names apart. -/
theorem Checked.resolved (checked : settings.Checked) :
    settings.resolvedJointNames.length = jointCount ∧ settings.resolvedJointNames.Nodup := by
  constructor
  · rw [resolvedJointNames, List.length_map, checked.count]
  · apply List.Nodup.map _ checked.names
    intro name other same
    exact (String.append_right_inj _).mp same

/-! ### What is used -/

theorem bind_eq_ok {α β : Type} {first : Except Duration.Fault α}
    {next : α → Except Duration.Fault β} {value : β} :
    first >>= next = .ok value ↔ ∃ found, first = .ok found ∧ next found = .ok value := by
  cases first <;> simp [bind, Except.bind]

/-- The follower waits for its period, for the control program, and for acknowledgements. -/
theorem follower_iff :
    (∃ config, settings.follower = .ok config ∧ Duration.zero < config.period ∧
      Duration.zero < config.writeTimeout ∧ Duration.zero < config.acceptTimeout ∧
      ∀ span, config.acknowledgementTimeout = some span → Duration.zero < span) ↔
    ∀ time ∈ [settings.servoPeriod, settings.acceptTimeout] ++
        settings.acknowledgementTimeout.toList,
      ∃ span, ofSecondsOrZero time = .ok span ∧ Duration.zero < span := by
  cases expected : settings.acknowledgementTimeout with
  | none =>
    simp only [follower, expected, Option.mapM_none, pure, Except.pure, bind_eq_ok,
      Except.ok.injEq, exists_eq_left', exists_exists_and_exists_and_eq_and, reduceCtorEq,
      IsEmpty.forall_iff, implies_true, and_true, and_self_left, Option.toList_none,
      List.append_nil, List.mem_cons, List.not_mem_nil, or_false, forall_eq_or_imp, forall_eq]
    constructor
    · rintro ⟨period, made, accept, madeToo, long, longToo⟩
      exact ⟨⟨period, made, long⟩, accept, madeToo, longToo⟩
    · rintro ⟨⟨period, made, long⟩, accept, madeToo, longToo⟩
      exact ⟨period, made, accept, madeToo, long, longToo⟩
  | some time =>
    simp only [follower, expected, Option.mapM_some, pure, Except.pure, bind_map_left, bind_eq_ok,
      Except.ok.injEq, ↓existsAndEq, and_true, Option.some.injEq, forall_eq', and_self_left,
      Option.toList_some, List.cons_append, List.nil_append, List.mem_cons, List.not_mem_nil,
      or_false, forall_eq_or_imp, forall_eq]
    constructor
    · rintro ⟨period, accept, waited, ⟨made, madeToo, madeLast⟩, long, longToo, longLast⟩
      exact ⟨⟨period, made, long⟩, ⟨accept, madeToo, longToo⟩, waited, madeLast, longLast⟩
    · rintro ⟨⟨period, made, long⟩, ⟨accept, madeToo, longToo⟩, waited, madeLast, longLast⟩
      exact ⟨period, accept, waited, ⟨made, madeToo, madeLast⟩, long, longToo, longLast⟩

theorem coordinator_iff (checked : settings.Checked) :
    (∃ config, settings.coordinator = .ok config ∧ Duration.zero < config.monitorInterval ∧
      config.validate = .ok ()) ↔
    (∃ span, ofSecondsOrZero settings.monitorInterval = .ok span ∧ Duration.zero < span) ∧
      ∃ span, ofSecondsOrZero settings.settleDelay = .ok span := by
  have velocity : Scalar.isPositive settings.maxVelocity = true :=
    checked.positive ("max_velocity", settings.maxVelocity) (by simp [positiveValues])
  have nonzero {span : Duration} (long : Duration.zero < span) : span ≠ Duration.zero := by
    rintro rfl
    exact Nat.lt_irrefl _ long
  simp only [coordinator, bind_eq_ok]
  constructor
  · rintro ⟨config, ⟨interval, made, delay, madeToo, built⟩, long, -⟩
    cases built
    exact ⟨⟨interval, made, long⟩, delay, madeToo⟩
  · rintro ⟨⟨interval, made, long⟩, delay, madeToo⟩
    refine ⟨_, ⟨interval, made, delay, madeToo, rfl⟩, long, ?_⟩
    simp [Coordinator.Config.validate, checked.resolved, velocity, nonzero long]

/-- Every span is used by exactly one part. -/
theorem usable_iff (checked : settings.Checked) :
    settings.Usable ↔
      (∀ time ∈ settings.waits, ∃ span, ofSecondsOrZero time = .ok span ∧ Duration.zero < span) ∧
        ∀ time ∈ settings.pauses, ∃ span, ofSecondsOrZero time = .ok span := by
  constructor
  · rintro ⟨streams, watches, telemetry, hangExit⟩
    have streams := follower_iff.mp streams
    obtain ⟨interval, delay⟩ := (coordinator_iff checked).mp watches
    constructor
    · intro time member
      simp only [waits, List.mem_append, List.mem_cons, List.not_mem_nil, or_false]
        at member streams
      obtain (rfl | rfl | rfl | rfl) | waited := member
      · exact streams _ (.inl (.inl rfl))
      · exact streams _ (.inl (.inr rfl))
      · exact interval
      · exact telemetry
      · exact streams _ (.inr waited)
    · intro time member
      simp only [pauses, List.mem_cons, List.not_mem_nil, or_false] at member
      obtain rfl | rfl := member
      · exact delay
      · exact hangExit
  · rintro ⟨long, short⟩
    constructor
    · apply follower_iff.mpr
      intro time member
      apply long
      simp only [waits, List.mem_append, List.mem_cons, List.not_mem_nil, or_false] at member ⊢
      tauto
    · apply (coordinator_iff checked).mpr
      exact ⟨long _ (by simp [waits]), short _ (by simp [pauses])⟩
    · exact long _ (by simp [waits])
    · exact short _ (by simp [pauses])

theorem Checked.waits (checked : settings.Checked) {time : Float} (member : time ∈ settings.waits) :
    Scalar.isPositive time = true := by
  simp only [Settings.waits, List.mem_append, List.mem_cons, List.not_mem_nil, or_false,
    Option.mem_toList] at member
  obtain (rfl | rfl | rfl | rfl) | waited := member
  · exact checked.positive ("servoj_time", _) (by simp [positiveValues])
  · exact checked.positive ("accept_timeout", _) (by simp [positiveValues])
  · exact checked.positive ("monitor_interval", _) (by simp [positiveValues])
  · exact checked.positive ("telemetry_timeout", _) (by simp [positiveValues])
  · exact checked.acknowledgement time waited

theorem Checked.pauses (checked : settings.Checked) {time : Float}
    (member : time ∈ settings.pauses) : Scalar.isNonNegative time = true := by
  simp only [Settings.pauses, List.mem_cons, List.not_mem_nil, or_false] at member
  obtain rfl | rfl := member
  · exact checked.nonNegative ("settle_delay", _) (by simp [nonNegativeValues])
  · exact checked.nonNegative ("hang_exit_delay", _) (by simp [nonNegativeValues])

/-- Settings that are accepted can be used exactly if their times are in range. -/
theorem usable_iff_of_validate (valid : settings.validate = .ok ()) :
    (settings.Usable ↔ settings.InRange) ∧
      settings.resolvedJointNames.length = jointCount ∧ settings.resolvedJointNames.Nodup := by
  have checked := checked_of_validate valid
  refine ⟨?_, checked.resolved⟩
  rw [usable_iff checked]
  constructor
  · rintro ⟨long, short⟩
    constructor
    · intro time member
      exact ((Duration.exists_wait_iff (checked.waits member)).mp (long time member)).1
    · intro time member
      rcases List.mem_append.mp member with waited | paused
      · exact ((Duration.exists_wait_iff (checked.waits waited)).mp (long time waited)).2
      · exact (Duration.exists_pause_iff (checked.pauses paused)).mp (short time paused)
  · rintro ⟨long, short⟩
    constructor
    · intro time member
      apply (Duration.exists_wait_iff (checked.waits member)).mpr
      exact ⟨long time member, short time (List.mem_append_left _ member)⟩
    · intro time member
      apply (Duration.exists_pause_iff (checked.pauses member)).mpr
      exact short time (List.mem_append_right _ member)

/-- The settings that the driver comes with are accepted, and so is what follows for them. -/
theorem usable_iff_default :
    ({} : Settings).validate = .ok () ∧ (({} : Settings).Usable ↔ ({} : Settings).InRange) ∧
      ({} : Settings).resolvedJointNames.length = jointCount ∧
      ({} : Settings).resolvedJointNames.Nodup :=
  ⟨rfl, usable_iff_of_validate rfl⟩

/-- Times that are accepted and cannot be used: too short for a nanosecond, or too long for a
span. -/
theorem accepted_out_of_range :
    (({ servoPeriod := 1e-10 } : Settings).validate = .ok () ∧
      ({ servoPeriod := 1e-10 } : Settings).follower.toOption.map
          (fun config => (config.period, config.writeTimeout)) =
        some (Duration.zero, Duration.zero)) ∧
    (({ monitorInterval := 1e-10 } : Settings).validate = .ok () ∧
      ({ monitorInterval := 1e-10 } : Settings).coordinator.toOption.map (·.validate.isOk) =
        some false) ∧
    ({ telemetryTimeout := 1e20 } : Settings).validate = .ok () ∧
      ({ telemetryTimeout := 1e20 } : Settings).telemetrySpan = .error .unrepresentable := by
  refine ⟨⟨rfl, ?_⟩, ⟨rfl, ?_⟩, rfl, rfl⟩
  · decide +kernel
  · decide +kernel

end ArmLink.Settings
