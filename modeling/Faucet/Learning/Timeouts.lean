import Faucet.Config.Beacons
import Faucet.Learning.Hosts

/-!
# The timeouts of hosts

The rules of a host time out after the configured time, less a jitter that depends on its address;
the destination rule lasts longer by the guard time, so that the source rule goes first. All of
these are numbers that are checked one by one, or not at all. The timeouts are in order exactly
when the settings leave room for the sums (`TimeoutConf.inOrder_iff`).
-/

set_option autoImplicit false

namespace Faucet.Learning

open Config.Interfaces (ConfigError testConfigCondition testConfigCondition_eq_ok)

/-! ## The settings -/

/-- The settings of a datapath that the timeouts of its hosts depend on. -/
structure TimeoutConf where
  timeout : ℤ
  arpNeighborTimeout : ℤ
  ndNeighborTimeout : ℤ
  learnJitter : ℤ
  learnBanTimeout : ℤ
  cacheUpdateGuardTime : ℤ
  idleDst : Bool
  useIdleTimeout : Bool
  /-- The datapath is in a stack. -/
  stacked : Bool

namespace TimeoutConf

variable (conf : TimeoutConf)

/-- `int(max(math.sqrt(timeout) * 3, 1))` -/
def defaultJitter : ℤ := max (Nat.sqrt (9 * conf.timeout.toNat)) 1

/-- `learn_jitter` after the defaults. -/
def jitter : ℤ := if conf.learnJitter = 0 then conf.defaultJitter else conf.learnJitter

/-- `cache_update_guard_time` after the defaults. -/
def guardTime : ℤ :=
  if conf.cacheUpdateGuardTime = 0 then conf.timeout / 2 else conf.cacheUpdateGuardTime

/-- The settings that are zero are derived from the others. -/
def withDefaults : TimeoutConf :=
  { conf with
    cacheUpdateGuardTime := conf.guardTime
    learnJitter := conf.jitter
    learnBanTimeout := if conf.learnBanTimeout = 0 then conf.jitter else conf.learnBanTimeout }

/-- What `check_config` of a datapath does with its timeouts. -/
def checkConfig : Except ConfigError TimeoutConf := do
  testConfigCondition (conf.timeout < 15) "timeout must be > 15"
  testConfigCondition (65535 < conf.timeout) "timeout cannot be > than 65335"
  testConfigCondition (!(2 * conf.arpNeighborTimeout < conf.timeout))
    "L2 timeout must be > ARP timeout * 2"
  testConfigCondition (65535 < conf.arpNeighborTimeout) "arp_neighbor_timeout cannot be > 65535"
  testConfigCondition (!(2 * conf.ndNeighborTimeout < conf.timeout))
    "L2 timeout must be > ND timeout * 2"
  testConfigCondition (65535 < conf.ndNeighborTimeout) "nd_neighbor_timeout cannot be > 65535"
  .ok conf.withDefaults

/-! ## The learner -/

/-- `ValveSwitchFlowRemovedManager`, which does not manage a stack. -/
def flowRemoved : Bool := conf.useIdleTimeout && !conf.stacked

/-- `_jitter_learn_timeout` -/
def jitterLearnTimeout (hash : Mac → ℤ) (baseLearnTimeout : ℤ) (permanentLearn : Bool)
    (ethDst : Mac) : ℤ :=
  if permanentLearn then 0
  else if baseLearnTimeout = 0 then 0
  else
    let jitter := (hash ethDst).fmod conf.learnJitter
    let minLearnTimeout := baseLearnTimeout - conf.learnJitter
    max ((minLearnTimeout + jitter).natAbs : ℤ) conf.cacheUpdateGuardTime

end TimeoutConf

/-- The timeouts of the rules of a host, of which 0 is never. -/
structure HostTimeouts where
  srcRuleIdleTimeout : ℤ
  srcRuleHardTimeout : ℤ
  dstRuleIdleTimeout : ℤ
deriving DecidableEq

/-- `_learn_host_timeouts` of the two switch managers. -/
def TimeoutConf.learnHostTimeouts (conf : TimeoutConf) (hash : Mac → ℤ) (permanentLearn : Bool)
    (ethSrc : Mac) : HostTimeouts :=
  let learnTimeout := conf.jitterLearnTimeout hash conf.timeout permanentLearn ethSrc
  if conf.flowRemoved then
    { srcRuleIdleTimeout := learnTimeout
      srcRuleHardTimeout := 0
      dstRuleIdleTimeout := learnTimeout + conf.cacheUpdateGuardTime }
  else
    { srcRuleIdleTimeout := 0
      srcRuleHardTimeout := learnTimeout
      dstRuleIdleTimeout :=
        if conf.idleDst then learnTimeout + conf.cacheUpdateGuardTime else 0 }

/-! ## Timeouts in order -/

/-- How long a rule lasts at least, as far as one of its timeouts goes. -/
def lifetime (timeout : ℤ) : WithTop ℤ := if timeout = 0 then ⊤ else timeout

/-- The timeouts fit their fields, a host is forgotten unless its port learns permanently, and the
source rule goes first. -/
structure HostTimeouts.InOrder (permanentLearn : Bool) (timeouts : HostTimeouts) : Prop where
  fits : ∀ timeout ∈ [timeouts.srcRuleIdleTimeout, timeouts.srcRuleHardTimeout,
    timeouts.dstRuleIdleTimeout], 0 ≤ timeout ∧ timeout ≤ 65535
  expires : permanentLearn = false →
    timeouts.srcRuleIdleTimeout ≠ 0 ∨ timeouts.srcRuleHardTimeout ≠ 0
  outlived : min (lifetime timeouts.srcRuleIdleTimeout) (lifetime timeouts.srcRuleHardTimeout) ≤
    lifetime timeouts.dstRuleIdleTimeout

namespace TimeoutConf

variable (conf : TimeoutConf)

/-- The destination rules have a timeout. -/
def dstExpires : Bool := conf.flowRemoved || conf.idleDst

/-- The settings leave room for the sums. With a jitter of one second the timeout is always the
same, and a guard time that is its negative makes the destination rule last. -/
def LeavesRoom (permanentLearn : Bool) : Prop :=
  if permanentLearn then conf.dstExpires = false
  else
    ((conf.timeout - conf.jitter).natAbs : ℤ) ≤ 65535 ∧ conf.guardTime ≤ 65535 ∧
      (0 < conf.guardTime ∨ conf.jitter < conf.timeout) ∧
      (conf.dstExpires = true →
        (0 < conf.guardTime ∧ 2 * conf.guardTime ≤ 65535 ∧
            conf.timeout - 1 + conf.guardTime ≤ 65535 ∧
            ((conf.timeout - conf.jitter).natAbs : ℤ) + conf.guardTime ≤ 65535) ∨
          (conf.jitter.natAbs = 1 ∧ conf.guardTime = conf.jitter - conf.timeout))

instance (permanentLearn : Bool) : Decidable (conf.LeavesRoom permanentLearn) := by
  unfold LeavesRoom
  infer_instance

end TimeoutConf

/-! ## One host -/

theorem lifetime_le_iff {first second : ℤ} :
    lifetime first ≤ lifetime second ↔ second = 0 ∨ (first ≠ 0 ∧ first ≤ second) := by
  rw [lifetime, lifetime]
  by_cases never : second = 0
  · simp [never]
  · by_cases never' : first = 0
    · simp [never, never']
    · simp [never, never']

theorem min_never (timeout : ℤ) : min (lifetime 0) (lifetime timeout) = lifetime timeout := by
  simp [lifetime]

theorem min_never' (timeout : ℤ) : min (lifetime timeout) (lifetime 0) = lifetime timeout := by
  simp [lifetime]

namespace TimeoutConf

variable {conf dp : TimeoutConf} {hash : Mac → ℤ} {permanentLearn : Bool} {mac : Mac}

theorem bounds_of_accepted (accepted : conf.checkConfig = .ok dp) :
    15 ≤ conf.timeout ∧ conf.timeout ≤ 65535 ∧ dp = conf.withDefaults := by
  rw [checkConfig] at accepted
  obtain ⟨_, notShort, accepted⟩ := Fallible.bind_eq_ok.mp accepted
  obtain ⟨_, notLong, accepted⟩ := Fallible.bind_eq_ok.mp accepted
  obtain ⟨_, _, accepted⟩ := Fallible.bind_eq_ok.mp accepted
  obtain ⟨_, _, accepted⟩ := Fallible.bind_eq_ok.mp accepted
  obtain ⟨_, _, accepted⟩ := Fallible.bind_eq_ok.mp accepted
  obtain ⟨_, _, accepted⟩ := Fallible.bind_eq_ok.mp accepted
  have notShort := testConfigCondition_eq_ok.mp notShort
  have notLong := testConfigCondition_eq_ok.mp notLong
  rw [decide_eq_false_iff_not] at notShort notLong
  exact ⟨by omega, by omega, (Except.ok.inj accepted).symm⟩

@[simp] theorem withDefaults_timeout : conf.withDefaults.timeout = conf.timeout := rfl

@[simp] theorem withDefaults_guardTime :
    conf.withDefaults.cacheUpdateGuardTime = conf.guardTime := rfl

@[simp] theorem withDefaults_jitter : conf.withDefaults.learnJitter = conf.jitter := rfl

@[simp] theorem withDefaults_dstExpires : conf.withDefaults.dstExpires = conf.dstExpires := rfl

/-- What it means for the timeouts of a host to be in order. -/
theorem inOrder_learnHostTimeouts {learnTimeout : ℤ}
    (same : dp.jitterLearnTimeout hash dp.timeout permanentLearn mac = learnTimeout) :
    (dp.learnHostTimeouts hash permanentLearn mac).InOrder permanentLearn ↔
      (0 ≤ learnTimeout ∧ learnTimeout ≤ 65535) ∧ (permanentLearn = false → learnTimeout ≠ 0) ∧
      (dp.dstExpires = true →
        (0 ≤ learnTimeout + dp.cacheUpdateGuardTime ∧
          learnTimeout + dp.cacheUpdateGuardTime ≤ 65535) ∧
        (learnTimeout + dp.cacheUpdateGuardTime = 0 ∨
          (learnTimeout ≠ 0 ∧ learnTimeout ≤ learnTimeout + dp.cacheUpdateGuardTime))) := by
  rw [learnHostTimeouts, same, dstExpires]
  have never : (0 : ℤ) ≤ 0 ∧ (0 : ℤ) ≤ 65535 := by decide
  cases removed : dp.flowRemoved with
  | true =>
      rw [if_pos rfl, Bool.true_or]
      constructor
      · rintro ⟨fits, expires, outlived⟩
        simp only [List.forall_mem_cons] at fits
        rw [min_never', lifetime_le_iff] at outlived
        exact ⟨fits.1, fun forgets => by simpa using expires forgets, fun _ => ⟨fits.2.2.1, outlived⟩⟩
      · rintro ⟨fits, expires, outlived⟩
        obtain ⟨fitsDst, outlived⟩ := outlived rfl
        refine ⟨by simpa [never] using ⟨fits, fitsDst⟩, fun forgets => .inl (expires forgets), ?_⟩
        rw [min_never', lifetime_le_iff]
        exact outlived
  | false =>
      rw [if_neg Bool.false_ne_true, Bool.false_or]
      cases idle : dp.idleDst with
      | true =>
          rw [if_pos rfl]
          constructor
          · rintro ⟨fits, expires, outlived⟩
            simp only [List.forall_mem_cons] at fits
            rw [min_never, lifetime_le_iff] at outlived
            exact ⟨fits.2.1, fun forgets => by simpa using expires forgets,
              fun _ => ⟨fits.2.2.1, outlived⟩⟩
          · rintro ⟨fits, expires, outlived⟩
            obtain ⟨fitsDst, outlived⟩ := outlived rfl
            refine ⟨by simpa [never] using ⟨fits, fitsDst⟩, fun forgets => .inr (expires forgets), ?_⟩
            rw [min_never, lifetime_le_iff]
            exact outlived
      | false =>
          rw [if_neg Bool.false_ne_true]
          constructor
          · rintro ⟨fits, expires, _⟩
            simp only [List.forall_mem_cons] at fits
            exact ⟨fits.2.1, fun forgets => by simpa using expires forgets, by simp⟩
          · rintro ⟨fits, expires, _⟩
            refine ⟨by simpa [never] using fits, fun forgets => .inr (expires forgets), ?_⟩
            rw [min_never, lifetime_le_iff]
            exact .inl rfl

/-! ## All hosts -/

/-- The remainder has the sign of the jitter. -/
theorem fmod_bounds (jitter hashed : ℤ) :
    (0 < jitter → 0 ≤ hashed.fmod jitter ∧ hashed.fmod jitter < jitter) ∧
      (jitter < 0 → jitter < hashed.fmod jitter ∧ hashed.fmod jitter ≤ 0) := by
  refine ⟨fun positive => ⟨Int.fmod_nonneg_of_pos hashed positive,
    Int.fmod_lt_of_pos hashed positive⟩, fun negative => ?_⟩
  have same := Int.neg_fmod_neg hashed jitter
  have nonneg := Int.fmod_nonneg_of_pos (-hashed) (show 0 < -jitter by omega)
  have below := Int.fmod_lt_of_pos (-hashed) (show 0 < -jitter by omega)
  omega

/-- Each of the remainders is that of an address. -/
theorem fmod_of_bounds {jitter remainder : ℤ}
    (positive : 0 < jitter → 0 ≤ remainder ∧ remainder < jitter)
    (negative : jitter < 0 → jitter < remainder ∧ remainder ≤ 0) (nonzero : jitter ≠ 0) :
    remainder.fmod jitter = remainder := by
  by_cases sign : 0 < jitter
  · obtain ⟨nonneg, below⟩ := positive sign
    rw [Int.fmod_eq_emod_of_nonneg _ sign.le, Int.emod_eq_of_lt nonneg below]
  · obtain ⟨above, nonpos⟩ := negative (by omega)
    have same := Int.neg_fmod_neg remainder jitter
    rw [Int.fmod_eq_emod_of_nonneg _ (show 0 ≤ -jitter by omega),
      Int.emod_eq_of_lt (show 0 ≤ -remainder by omega) (show -remainder < -jitter by omega)] at same
    omega

theorem jitter_ne_zero : conf.jitter ≠ 0 := by
  rw [jitter]
  split
  · have positive : 1 ≤ conf.defaultJitter := le_max_right _ _
    omega
  next configured => exact configured

theorem guardTime_ne_zero (notShort : 15 ≤ conf.timeout) : conf.guardTime ≠ 0 := by
  rw [guardTime]
  split
  · omega
  next configured => exact configured

theorem jitterLearnTimeout_of_permanent :
    dp.jitterLearnTimeout hash dp.timeout true mac = 0 := rfl

theorem jitterLearnTimeout_eq (notShort : 15 ≤ conf.timeout) :
    conf.withDefaults.jitterLearnTimeout hash conf.withDefaults.timeout false mac =
      max ((conf.timeout - conf.jitter + (hash mac).fmod conf.jitter).natAbs : ℤ)
        conf.guardTime := by
  have nonzero : conf.timeout ≠ 0 := by omega
  rw [jitterLearnTimeout, if_neg Bool.false_ne_true, withDefaults_timeout, if_neg nonzero]
  rfl

/-- **The timeouts of every host are in order if and only if** the settings leave room. -/
theorem inOrder_iff (accepted : conf.checkConfig = .ok dp) (permanentLearn : Bool) :
    (∀ hash mac, (dp.learnHostTimeouts hash permanentLearn mac).InOrder permanentLearn) ↔
      conf.LeavesRoom permanentLearn := by
  obtain ⟨notShort, notLong, rfl⟩ := bounds_of_accepted accepted
  have guardNonzero := guardTime_ne_zero notShort
  have jitterNonzero := @jitter_ne_zero conf
  cases permanentLearn with
  | true =>
      rw [LeavesRoom, if_pos rfl]
      constructor
      · intro inOrder
        have inOrder := (inOrder_learnHostTimeouts jitterLearnTimeout_of_permanent).mp
          (inOrder (fun _ => 0) 0)
        rw [withDefaults_guardTime, withDefaults_dstExpires] at inOrder
        by_contra expires
        rw [Bool.not_eq_false] at expires
        obtain ⟨_, outlived⟩ := inOrder.2.2 expires
        omega
      · intro never hash mac
        rw [inOrder_learnHostTimeouts jitterLearnTimeout_of_permanent, withDefaults_dstExpires, never]
        exact ⟨by omega, by simp, by simp⟩
  | false =>
      rw [LeavesRoom, if_neg Bool.false_ne_true]
      constructor
      · intro inOrder
        -- What the timeouts of an address say whose remainder is given.
        have inOrderAt : ∀ remainder, (0 < conf.jitter → 0 ≤ remainder ∧ remainder < conf.jitter) →
            (conf.jitter < 0 → conf.jitter < remainder ∧ remainder ≤ 0) →
            ∃ learnTimeout : ℤ,
              learnTimeout = max ((conf.timeout - conf.jitter + remainder).natAbs : ℤ)
                conf.guardTime ∧
              learnTimeout ≤ 65535 ∧ learnTimeout ≠ 0 ∧ (conf.dstExpires = true →
                (0 ≤ learnTimeout + conf.guardTime ∧ learnTimeout + conf.guardTime ≤ 65535) ∧
                (learnTimeout + conf.guardTime = 0 ∨ 0 ≤ conf.guardTime)) := by
          intro remainder positive negative
          have same := @jitterLearnTimeout_eq conf (fun _ => remainder) 0 notShort
          rw [fmod_of_bounds positive negative jitterNonzero] at same
          have inOrder := (inOrder_learnHostTimeouts same).mp (inOrder (fun _ => remainder) 0)
          rw [withDefaults_guardTime, withDefaults_dstExpires] at inOrder
          obtain ⟨fits, expires, outlived⟩ := inOrder
          refine ⟨_, rfl, fits.2, expires rfl, fun dstExpires => ?_⟩
          obtain ⟨fitsDst, never | ⟨_, later⟩⟩ := outlived dstExpires
          · exact ⟨fitsDst, .inl never⟩
          · exact ⟨fitsDst, .inr (by omega)⟩
        obtain ⟨longest, isLongest, longFits, longExpires, longOutlived⟩ :=
          inOrderAt 0 (by omega) (by omega)
        obtain ⟨other, isOther, otherFits, otherExpires, otherOutlived⟩ :=
          inOrderAt (if 0 < conf.jitter then conf.jitter - 1 else conf.jitter + 1)
            (by split <;> omega) (by split <;> omega)
        have expires : 0 < conf.guardTime ∨ conf.jitter < conf.timeout := by
          by_contra neither
          obtain ⟨shortest, isShortest, _, shortExpires, _⟩ :=
            inOrderAt (conf.jitter - conf.timeout) (by omega) (by omega)
          omega
        refine ⟨by omega, by omega, expires, fun dstExpires => ?_⟩
        have longOutlived := longOutlived dstExpires
        have otherOutlived := otherOutlived dstExpires
        by_cases positive : 0 < conf.guardTime
        · exact .inl (by split at isOther <;> omega)
        · exact .inr (by split at isOther <;> omega)
      · rintro ⟨longest, guardFits, expires, outlived⟩ hash mac
        rw [inOrder_learnHostTimeouts (jitterLearnTimeout_eq notShort), withDefaults_guardTime,
          withDefaults_dstExpires]
        obtain ⟨positive, negative⟩ := fmod_bounds conf.jitter (hash mac)
        refine ⟨by omega, fun _ => by omega, fun dstExpires => ?_⟩
        obtain room | ⟨single, never⟩ := outlived dstExpires
        · exact ⟨by omega, by omega⟩
        · exact ⟨by omega, by omega⟩

/-- The default settings, but for the timeout. -/
def ofTimeout (timeout : ℤ) : TimeoutConf where
  timeout := timeout
  arpNeighborTimeout := 30
  ndNeighborTimeout := 30
  learnJitter := 0
  learnBanTimeout := 0
  cacheUpdateGuardTime := 0
  idleDst := true
  useIdleTimeout := false
  stacked := false

/-- The default settings leave room for hosts that are forgotten. -/
theorem inOrder_default :
    ((ofTimeout 300).withDefaults.learnHostTimeouts (fun _ => 0) false 0).InOrder false :=
  (inOrder_iff (show (ofTimeout 300).checkConfig = .ok _ from rfl) false).mpr (by decide +kernel) _ _

/-- With a long timeout that of the destination rule does not fit, and the source rule of a port
that learns permanently is still there when the destination rule is gone. -/
theorem not_inOrder_accepted :
    (∃ dp, (ofTimeout 50000).checkConfig = .ok dp ∧
      dp.learnHostTimeouts (fun _ => 0) false 0 = ⟨0, 49330, 74330⟩ ∧
      ¬ (dp.learnHostTimeouts (fun _ => 0) false 0).InOrder false) ∧
    ∃ dp, (ofTimeout 300).checkConfig = .ok dp ∧
      dp.learnHostTimeouts (fun _ => 0) true 0 = ⟨0, 0, 150⟩ ∧
      ¬ (dp.learnHostTimeouts (fun _ => 0) true 0).InOrder true := by
  constructor
  · have timeouts : (ofTimeout 50000).withDefaults.learnHostTimeouts (fun _ => 0) false 0 =
        ⟨0, 49330, 74330⟩ := by decide +kernel
    refine ⟨_, rfl, timeouts, fun inOrder => ?_⟩
    rw [timeouts] at inOrder
    have fits := inOrder.fits 74330 (by simp)
    omega
  · have timeouts : (ofTimeout 300).withDefaults.learnHostTimeouts (fun _ => 0) true 0 =
        ⟨0, 0, 150⟩ := by decide +kernel
    refine ⟨_, rfl, timeouts, fun inOrder => ?_⟩
    rw [timeouts] at inOrder
    have outlived := inOrder.outlived
    rw [min_never, lifetime_le_iff] at outlived
    rcases outlived with never | ⟨notNever, _⟩
    · exact absurd never (by decide)
    · exact notNever rfl

end TimeoutConf

/-! ## The rules -/

/-- The datapath of the learner has the settings. -/
structure Dp.HasSettings (dp : Dp) (conf : TimeoutConf) : Prop where
  timeout : conf.timeout = dp.learnTimeout
  learnJitter : conf.learnJitter = dp.learnJitter
  cacheUpdateGuardTime : conf.cacheUpdateGuardTime = dp.cacheUpdateGuardTime
  idleDst : conf.idleDst = dp.idleDst
  flowRemoved : conf.flowRemoved = dp.useIdleTimeout

/-- The timeouts are those of the rules of the host. -/
theorem Dp.HasSettings.timeouts {dp : Dp} {conf : TimeoutConf} (settings : dp.HasSettings conf)
    (port : Port) (vid : Flooding.Vid) (mac : Mac) (pcp : Option ℕ) :
    conf.learnHostTimeouts dp.hash port.permanentLearn mac =
      ⟨(dp.srcFlowmod port vid mac).idleTimeout, (dp.srcFlowmod port vid mac).hardTimeout,
        (dp.dstFlowmod port vid mac pcp).idleTimeout⟩ := by
  obtain ⟨timeout, learnJitter, cacheUpdateGuardTime, idleDst, flowRemoved⟩ := settings
  have sameTimeout : conf.jitterLearnTimeout dp.hash conf.timeout port.permanentLearn mac =
      dp.jitterLearnTimeout port mac := by
    rw [TimeoutConf.jitterLearnTimeout, Dp.jitterLearnTimeout, timeout, learnJitter,
      cacheUpdateGuardTime]
    cases permanent : port.permanentLearn with
    | true => simp
    | false =>
        by_cases zero : dp.learnTimeout = 0
        · simp [zero]
        · have nonzero : (dp.learnTimeout : ℤ) ≠ 0 := by omega
          simp only [Bool.false_eq_true, if_false, false_or, if_neg zero, if_neg nonzero]
          have sameJitter : (dp.hash mac).fmod dp.learnJitter = (dp.hash mac).emod dp.learnJitter :=
            Int.fmod_eq_emod_of_nonneg _ (Int.natCast_nonneg _)
          rw [sameJitter]
          omega
  rw [TimeoutConf.learnHostTimeouts, sameTimeout, flowRemoved, idleDst, cacheUpdateGuardTime]
  simp only [Dp.srcFlowmod, Dp.dstFlowmod, Dp.flowmod, Dp.learnHostTimeouts]
  cases dp.useIdleTimeout with
  | true => simp
  | false =>
      cases dp.idleDst with
      | true => simp
      | false => simp

end Faucet.Learning
