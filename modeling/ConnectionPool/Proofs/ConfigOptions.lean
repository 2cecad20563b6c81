import ConnectionPool.Config
import ConnectionPool.Proofs.OptionFields
import Mathlib.Data.List.Basic

/-!
# Configurations and their options

Options are applied to a configuration and read off one. What applying does is said field by
field (`apply_eq`): an option that is set decides its field alone, an unset one leaves it. A
size is cut down to 32 bits. A limit is written in whole milliseconds, where zero is no limit;
`asWritten` is the limit that is read back then. Settings that can be written survive both ways
(`options_round_trip`), and a limit is lost just if it is shorter than a millisecond
(`limits_reported`).
-/

namespace ConnectionPool

variable {config : Config} {limit : Option Duration} {d : Duration}

/-! ## Sizes -/

/-- A number of 32 bits is left as it is. -/
theorem saturate32_toNat (n : UInt32) : saturate32 n.toNat = n := by
  have hlt : n.toNat < UInt32.size := n.toNat_lt_size
  rw [saturate32, Nat.min_eq_left (by omega), UInt32.ofNat_toNat]

/-- A greater number counts as the greatest of 32 bits. -/
theorem toNat_saturate32 (n : Nat) : (saturate32 n).toNat = min n 0xffffffff := by
  have hsize : UInt32.size = 0x100000000 := rfl
  rw [saturate32, UInt32.toNat_ofNat_of_lt' (by omega), hsize]

namespace Options

/-- The maximum size that the option stands for. -/
def maxSize (size : Int64) : UInt32 :=
  saturate32 size.toInt.toNat

/-- The least size that the option stands for. -/
def minSize (size : UInt64) : UInt32 :=
  saturate32 size.toNat

/-- A maximum size is read back from its option. -/
theorem maxSize_ofNat (size : UInt32) : maxSize (Int64.ofNat size.toNat) = size := by
  have hlt : size.toNat < 2 ^ 63 := Nat.lt_trans size.toNat_lt (by decide)
  rw [maxSize, Int64.toInt_ofNat_of_lt hlt, Int.toNat_natCast, saturate32_toNat]

/-- A least size is read back from its option. -/
theorem minSize_ofNat (size : UInt32) : minSize (UInt64.ofNat size.toNat) = size := by
  have hlt : size.toNat < UInt64.size := Nat.lt_trans size.toNat_lt (by decide)
  rw [minSize, UInt64.toNat_ofNat_of_lt' hlt, saturate32_toNat]

/-- The sizes cut down to those that a pool can have: 32 bits, and none below zero. -/
def clamped (options : Options) : Options :=
  { options with
    maxPoolSize := options.maxPoolSize.map fun size =>
      Int64.ofInt (max 0 (min size.toInt 0xffffffff))
    minPoolSize := options.minPoolSize.map fun size => UInt64.ofNat (min size.toNat 0xffffffff) }

/-- The option of a maximum size that was read is the option cut down. -/
theorem ofNat_maxSize (size : Int64) :
    Int64.ofNat (maxSize size).toNat = Int64.ofInt (max 0 (min size.toInt 0xffffffff)) := by
  rw [maxSize, toNat_saturate32, ← Int64.ofInt_eq_ofNat]
  congr 1
  omega

/-- The option of a least size that was read is the option cut down. -/
theorem ofNat_minSize (size : UInt64) :
    UInt64.ofNat (minSize size).toNat = UInt64.ofNat (min size.toNat 0xffffffff) := by
  rw [minSize, toNat_saturate32]

end Options

/-! ## Limits -/

/-- The whole milliseconds of so many milliseconds. -/
theorem milliseconds_ofMilliseconds (n : Nat) : (Duration.ofMilliseconds n).milliseconds = n :=
  Nat.mul_div_cancel_left n (by decide)

/-- Only no milliseconds are no time. -/
theorem ofMilliseconds_eq_zero {n : Nat} : Duration.ofMilliseconds n = 0 ↔ n = 0 := by
  show (1000000 * n : Nat) = 0 ↔ n = 0
  omega

/-- The limit of so many milliseconds. -/
def limitOfMilliseconds (ms : UInt64) : Option Duration :=
  limitOf (Duration.ofMilliseconds ms.toNat)

/-- No milliseconds are no limit. -/
theorem limitOfMilliseconds_zero : limitOfMilliseconds 0 = none := rfl

/-- Some milliseconds are a limit. -/
theorem limitOfMilliseconds_pos {ms : UInt64} (h : ms ≠ 0) :
    limitOfMilliseconds ms = some (Duration.ofMilliseconds ms.toNat) := by
  rw [limitOfMilliseconds, limitOf, if_neg]
  exact fun hzero => h (UInt64.toNat_inj.1 (ofMilliseconds_eq_zero.1 hzero))

/-- The milliseconds of a limit: the whole ones, as far as 64 bits go. -/
theorem toNat_limitMilliseconds (d : Duration) :
    (limitMilliseconds (some d)).toNat = min d.milliseconds 0xffffffffffffffff := by
  have hsize : UInt64.size = 0x10000000000000000 := rfl
  rw [limitMilliseconds, UInt64.toNat_ofNat_of_lt' (by omega), hsize]

/-- Milliseconds are read back from the limit that they stand for. -/
theorem limit_milliseconds_back (ms : UInt64) : limitMilliseconds
    (limitOfMilliseconds ms) = ms := by
  by_cases hms : ms = 0
  · subst hms
    rfl
  · have hlt : ms.toNat < 0x10000000000000000 := ms.toNat_lt
    rw [limitOfMilliseconds_pos hms, ← UInt64.toNat_inj, toNat_limitMilliseconds,
      milliseconds_ofMilliseconds, Nat.min_eq_left (by omega)]

/-- The limit that is read back from its milliseconds. -/
def asWritten (limit : Option Duration) : Option Duration :=
  limitOfMilliseconds (limitMilliseconds limit)

/-- The limit can be written: it is a number of whole milliseconds, but not zero, that 64 bits
have room for. -/
def Writable (limit : Option Duration) : Prop :=
  ∀ d, limit = some d → ∃ ms, 0 < ms ∧ ms < UInt64.size ∧ d = Duration.ofMilliseconds ms

/-- A limit that can be written is read back. -/
theorem Writable.read_back (h : Writable limit) : asWritten limit = limit := by
  cases limit with
  | none => rfl
  | some d =>
      obtain ⟨ms, hpos, hlt, rfl⟩ := h d rfl
      have hms : (UInt64.ofNat ms).toNat = ms := UInt64.toNat_ofNat_of_lt' hlt
      have hne : UInt64.ofNat ms ≠ 0 := fun hzero => by
        rw [hzero] at hms
        exact Nat.ne_of_lt hpos hms
      have hlimit : limitOfMilliseconds (UInt64.ofNat ms) =
          some (Duration.ofMilliseconds ms) := by
        rw [limitOfMilliseconds_pos hne, hms]
      rw [asWritten, ← hlimit, limit_milliseconds_back]

/-- The limit is there, but shorter than a millisecond. -/
def Submillisecond (limit : Option Duration) : Prop :=
  ∃ d, limit = some d ∧ 0 < d ∧ d < Duration.ofMilliseconds 1

/-- Less than a millisecond has no whole ones. -/
theorem milliseconds_eq_zero : d.milliseconds = 0 ↔ d < Duration.ofMilliseconds 1 :=
  Nat.div_eq_zero_iff_lt (by decide)

/-- A limit of no milliseconds is none at all, or one of less than a millisecond. -/
theorem limitMilliseconds_eq_zero (hpos : limit ≠ some 0) :
    limitMilliseconds limit = 0 ↔ limit = none ∨ Submillisecond limit := by
  cases limit with
  | none => exact ⟨fun _ => .inl rfl, fun _ => rfl⟩
  | some d =>
      have hd : 0 < d := Nat.pos_of_ne_zero fun hzero => hpos (hzero ▸ rfl)
      have hmin : min d.milliseconds 0xffffffffffffffff = 0 ↔ d.milliseconds = 0 := by omega
      rw [← UInt64.toNat_inj, toNat_limitMilliseconds, UInt64.toNat_zero, hmin,
        milliseconds_eq_zero]
      simp [Submillisecond, hd]

/-- A limit is read back as none just if no milliseconds are written for it. -/
theorem asWritten_eq_none : asWritten limit = none ↔ limitMilliseconds limit = 0 := by
  rw [asWritten]
  by_cases hms : limitMilliseconds limit = 0
  · rw [hms, limitOfMilliseconds_zero]
    simp
  · rw [limitOfMilliseconds_pos hms]
    simp [hms]

/-- Zero is no limit. -/
theorem limitOf_ne_zero (d : Duration) : limitOf d ≠ some 0 := by
  rw [limitOf]
  split
  case isTrue => nofun
  case isFalse hne => exact fun hzero => hne (Option.some.inj hzero)

/-- An option sets no limit to zero either. -/
theorem limit_option_ne_zero (h : limit ≠ some 0) (option : Option UInt64) :
    (option.map limitOfMilliseconds).getD limit ≠ some 0 := by
  cases option with
  | none => exact h
  | some ms => exact limitOf_ne_zero _

/-! ## Applying options -/

namespace Options

/-- An option that is set decides its field, and one that is not leaves it. -/
theorem apply_eq (options : Options) (config : Config) :
    options.apply config = { config with
      maxPoolSize := (options.maxPoolSize.map maxSize).getD config.maxPoolSize
      minPoolSize := (options.minPoolSize.map minSize).getD config.minPoolSize
      maxIdleTime := (options.maxIdleTimeMS.map limitOfMilliseconds).getD config.maxIdleTime
      waitQueueSize := options.waitQueueSize.getD config.waitQueueSize
      waitQueueTimeout := (options.waitQueueTimeoutMS.map limitOfMilliseconds).getD
        config.waitQueueTimeout } := by
  obtain ⟨max, min, idle, size, timeout⟩ := options
  cases max <;> cases min <;> cases idle <;> cases size <;> cases timeout <;> rfl

/-- Options applied after others count like the options of both, where the later ones win. -/
theorem apply_apply (base change : Options) (config : Config) :
    change.apply (base.apply config) = (base.override change).apply config := by
  simp only [apply_eq, override, Option.orElse_eq_orElse, Option.orElse_eq_or, Option.map_or,
    Option.getD_or]

/-- The empty options change nothing. -/
theorem empty_apply (config : Config) : ({} : Options).apply config = config := rfl

/-- What is written for a field after an option was read into it: what the option comes to if it
is set, and what was written before if not. -/
theorem written_getD {α β γ : Type} {read : α → β} {cut : α → γ} (write : β → γ)
    (h : ∀ a, write (read a) = cut a) (option : Option α) (old : β) :
    some (write ((option.map read).getD old)) = (option.map cut <|> some (write old)) := by
  cases option with
  | none => rfl
  | some a => exact congrArg some (h a)

/-- The options of a configuration to which options were applied: these options, cut down to
what a pool can have, over the ones that it had. -/
theorem apply_options (options : Options) (config : Config) :
    (options.apply config).options = config.options.override options.clamped := by
  rw [apply_eq, Config.options, Config.options, override, clamped, mk.injEq]
  refine ⟨?_, ?_, ?_, ?_, ?_⟩
  · exact written_getD (fun size : UInt32 => Int64.ofNat size.toNat) ofNat_maxSize _ _
  · exact written_getD (fun size : UInt32 => UInt64.ofNat size.toNat) ofNat_minSize _ _
  · simpa using written_getD limitMilliseconds limit_milliseconds_back options.maxIdleTimeMS
      config.maxIdleTime
  · cases options.waitQueueSize <;> rfl
  · simpa using written_getD limitMilliseconds limit_milliseconds_back options.waitQueueTimeoutMS
      config.waitQueueTimeout

end Options

namespace Config

/-- The options of a configuration give another one its settings, with its limits as they are
written. -/
theorem options_apply (config base : Config) :
    config.options.apply base = { base with
      maxPoolSize := config.maxPoolSize
      minPoolSize := config.minPoolSize
      maxIdleTime := asWritten config.maxIdleTime
      waitQueueSize := config.waitQueueSize
      waitQueueTimeout := asWritten config.waitQueueTimeout } := by
  rw [Options.apply_eq]
  simp only [options, Option.map_some, Option.getD_some, Options.maxSize_ofNat,
    Options.minSize_ofNat, asWritten]

/-- Configurations and options go back and forth. The options of a configuration whose limits
can be written give another one its five settings and leave the rest; the options of a
configuration made from options are these, cut down to what a pool can have, over those of the
default; and applying options after others is applying both at once, where the later ones win,
with the empty options as the unit. -/
theorem options_round_trip :
    (∀ config base : Config, Writable config.maxIdleTime → Writable config.waitQueueTimeout →
      config.options.apply base = { base with
        maxPoolSize := config.maxPoolSize
        minPoolSize := config.minPoolSize
        maxIdleTime := config.maxIdleTime
        waitQueueSize := config.waitQueueSize
        waitQueueTimeout := config.waitQueueTimeout }) ∧
    (∀ options : Options,
      (ofOptions options).options = ({} : Config).options.override options.clamped) ∧
    (∀ (first second : Options) (config : Config),
      second.apply (first.apply config) = (first.override second).apply config) ∧
    ∀ config : Config, ({} : Options).apply config = config := by
  refine ⟨fun config base hidle htimeout => ?_, fun options => options.apply_options {},
    Options.apply_apply, Options.empty_apply⟩
  rw [options_apply, hidle.read_back, htimeout.read_back]

/-- The greatest size, a limit of one millisecond and the longest one are read back. -/
theorem extremes_round_trip :
    let config : Config := {
      maxPoolSize := 0xffffffff
      maxIdleTime := some 1000000
      waitQueueTimeout := some (Duration.ofMilliseconds 0xffffffffffffffff)
      eventCapacity := 1 }
    Writable config.maxIdleTime ∧ Writable config.waitQueueTimeout ∧
      config.options.apply {} = { config with eventCapacity := 1024 } := by
  have hidle : Writable (some 1000000) := by
    rintro d ⟨⟩
    exact ⟨1, by decide, by decide, rfl⟩
  have htimeout : Writable (some (Duration.ofMilliseconds 0xffffffffffffffff)) := by
    rintro d ⟨⟩
    exact ⟨0xffffffffffffffff, by decide, by decide, rfl⟩
  exact ⟨hidle, htimeout, options_round_trip.1 _ _ hidle htimeout⟩

/-! ## Limits of configurations that callers make -/

/-- No limit of the configuration is zero. -/
def NoZeroLimit (config : Config) : Prop :=
  config.maxIdleTime ≠ some 0 ∧ config.waitQueueTimeout ≠ some 0

/-- A setting sets no limit to zero. -/
theorem set_no_zero_limit (h : config.NoZeroLimit) (setting : Setting) :
    (config.set setting).NoZeroLimit := by
  cases setting with
  | maxIdleTime d => exact ⟨limitOf_ne_zero d, h.2⟩
  | waitQueueTimeout d => exact ⟨h.1, limitOf_ne_zero d⟩
  | options options =>
      rw [set, Options.apply_eq]
      exact ⟨limit_option_ne_zero h.1 _, limit_option_ne_zero h.2 _⟩
  | id | address | maxPoolSize | minPoolSize | waitQueueSize | waitQueuePeriod
      | maintenanceInterval
  | eventCapacity => exact h

/-- Whatever settings are made, no limit is zero. -/
theorem settings_no_zero_limit (settings : List Setting) : (ofSettings settings).NoZeroLimit := by
  refine List.foldlRecOn settings set ⟨nofun, nofun⟩ ?_
  exact fun config h setting _ => set_no_zero_limit h setting

/-- Whatever settings are made, a limit is reported as none just if there is none or it is
shorter than a millisecond, and these are the limits that a configuration made from the reported
options does not have. -/
theorem limits_reported (settings : List Setting) :
    let config := ofSettings settings
    (config.options.maxIdleTimeMS = some 0 ↔
      config.maxIdleTime = none ∨ Submillisecond config.maxIdleTime) ∧
    (config.options.waitQueueTimeoutMS = some 0 ↔
      config.waitQueueTimeout = none ∨ Submillisecond config.waitQueueTimeout) ∧
    ((ofOptions config.options).maxIdleTime = none ↔
      config.maxIdleTime = none ∨ Submillisecond config.maxIdleTime) ∧
    ((ofOptions config.options).waitQueueTimeout = none ↔
      config.waitQueueTimeout = none ∨ Submillisecond config.waitQueueTimeout) := by
  intro config
  obtain ⟨hidle, htimeout⟩ : config.NoZeroLimit := settings_no_zero_limit settings
  have hback : ofOptions config.options = _ := options_apply config {}
  rw [hback]
  refine ⟨?_, ?_, ?_, ?_⟩
  · exact Option.some_inj.trans (limitMilliseconds_eq_zero hidle)
  · exact Option.some_inj.trans (limitMilliseconds_eq_zero htimeout)
  · exact asWritten_eq_none.trans (limitMilliseconds_eq_zero hidle)
  · exact asWritten_eq_none.trans (limitMilliseconds_eq_zero htimeout)

/-- A limit of one nanosecond: it is reported as none, and lost by a configuration made from the
report. -/
theorem short_limit_unreported :
    let short := ofSettings [.maxIdleTime 1]
    short.maxIdleTime = some 1 ∧ short.options.maxIdleTimeMS = some 0 ∧
      (ofOptions short.options).maxIdleTime = none ∧
      ¬∀ settings, let config := ofSettings settings
        (config.options.maxIdleTimeMS = some 0 ↔ config.maxIdleTime = none) ∧
        (config.options.waitQueueTimeoutMS = some 0 ↔ config.waitQueueTimeout = none) ∧
        ((ofOptions config.options).maxIdleTime = none ↔ config.maxIdleTime = none) ∧
        ((ofOptions config.options).waitQueueTimeout = none ↔
          config.waitQueueTimeout = none) := by
  refine ⟨by decide, by decide, by decide, fun hall => ?_⟩
  exact absurd (hall [.maxIdleTime 1]).1 (by decide)

end Config

end ConnectionPool
