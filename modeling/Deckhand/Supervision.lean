import Deckhand.Lib.Binary64
import Deckhand.Lib.Checks
import Mathlib.Tactic.Linarith

namespace Deckhand
open Lib

structure OverflowError where
  deriving DecidableEq

def baseDelaySeconds : Rat := 1 / 2

def maxDelaySeconds : Rat := 30

/-- `random.uniform`, which is documented to stay between its bounds. -/
structure Random where
  uniform : Rat → Rat → Rat
  between : ∀ {a b}, a ≤ b → a ≤ uniform a b ∧ uniform a b ≤ b

/-- The products are of powers of two, and exact. -/
def backoffDelay (consecutiveFailures : Nat) (jitter : Bool) (random : Random) :
    Except OverflowError Rat := do
  let exponent := consecutiveFailures - 1
  let power ← demand (floatOfNat (2 ^ exponent)) {}
  let ceiling := min (baseDelaySeconds * power) maxDelaySeconds
  return if jitter = false ∨ ceiling ≤ baseDelaySeconds then ceiling
    else random.uniform baseDelaySeconds ceiling

/-- A loop whose turns either ask for a time to sleep or raise; `random` is drawn anew each time. -/
def supervise {σ ι : Type} (turn : σ → ι → Option Rat × σ) :
    Nat → σ → List (ι × Random) → Except OverflowError (List Rat)
  | _, _, [] => .ok []
  | consecutiveFailures, s, (i, random) :: rest =>
    match turn s i with
    | (some seconds, s) => do
      let slept ← supervise turn 0 s rest
      return seconds :: slept
    | (none, s) => do
      let seconds ← backoffDelay (consecutiveFailures + 1) true random
      let slept ← supervise turn (consecutiveFailures + 1) s rest
      return seconds :: slept

/-- What `worker.run_once` returned, if it did not raise. -/
def workerTurn {ε α : Type} (_ : Unit) : Except ε (Option α) → Option Rat × Unit
  | .error _ => (none, ())
  | .ok completed => (some (if completed.isSome then 1 / 4 else 1), ())

def workerLoop {ε α : Type} :
    List (Except ε (Option α) × Random) → Except OverflowError (List Rat) :=
  supervise workerTurn 0 ()

def auditVerifyEveryTicks : Nat := 60

/-- How the three calls of an iteration end when they are reached. -/
structure SchedulerTurn (ε : Type) where
  expireStaleQueued : Except ε Unit
  runOnce : Except ε Unit
  verifyAuditChain : Except ε Bool

def schedulerTurn {ε : Type} (tick : Nat) (calls : SchedulerTurn ε) : Option Rat × Nat :=
  match calls.expireStaleQueued, calls.runOnce with
  | .error _, _ => (none, tick)
  | .ok _, .error _ => (none, tick)
  | .ok _, .ok _ =>
    if (tick + 1) % auditVerifyEveryTicks = 0 then
      match calls.verifyAuditChain with
      | .error _ => (none, tick + 1)
      | .ok _ => (some 5, tick + 1)
    else (some 5, tick + 1)

def schedulerLoop {ε : Type} :
    List (SchedulerTurn ε × Random) → Except OverflowError (List Rat) :=
  supervise schedulerTurn 0 0

section Delay
variable {consecutiveFailures : Nat} {jitter : Bool} {random : Random}

def ceilingDelay (consecutiveFailures : Nat) : Rat :=
  min (baseDelaySeconds * 2 ^ (consecutiveFailures - 1)) maxDelaySeconds

theorem ceilingDelay_base (n : Nat) : baseDelaySeconds ≤ ceilingDelay n := by
  have one : (1 : Rat) ≤ 2 ^ (n - 1) := one_le_pow₀ (by norm_num)
  apply le_min
  · simp only [baseDelaySeconds]
    linarith
  · simp only [baseDelaySeconds, maxDelaySeconds]
    norm_num

theorem ceilingDelay_max (n : Nat) : ceilingDelay n ≤ maxDelaySeconds := min_le_right _ _

theorem ceilingDelay_mono {m n : Nat} (le : m ≤ n) : ceilingDelay m ≤ ceilingDelay n := by
  have power : (2 : Rat) ^ (m - 1) ≤ 2 ^ (n - 1) :=
    pow_le_pow_right₀ (by norm_num) (Nat.sub_le_sub_right le 1)
  apply min_le_min_right
  simp only [baseDelaySeconds]
  linarith

theorem backoffDelay_eq : backoffDelay consecutiveFailures jitter random =
    if consecutiveFailures ≤ maxExponent then
      .ok (if jitter = false ∨ ceilingDelay consecutiveFailures ≤ baseDelaySeconds then
        ceilingDelay consecutiveFailures
        else random.uniform baseDelaySeconds (ceilingDelay consecutiveFailures))
    else .error {} := by
  have within : consecutiveFailures - 1 < maxExponent ↔ consecutiveFailures ≤ maxExponent := by
    have : 0 < maxExponent := by decide
    omega
  simp only [backoffDelay, floatOfNat_two_pow, within]
  split <;> rfl

theorem backoffDelay_raises : backoffDelay consecutiveFailures jitter random = .error {} ↔
    maxExponent < consecutiveFailures := by
  rw [backoffDelay_eq, ← not_le]
  split
  · simp_all
  · simp_all

/-- A delay is between the base and the cap. -/
def DelayBounded (seconds : Rat) : Prop := baseDelaySeconds ≤ seconds ∧ seconds ≤ maxDelaySeconds

theorem backoffDelay_bounded {seconds : Rat}
    (returned : backoffDelay consecutiveFailures jitter random = .ok seconds) :
    DelayBounded seconds := by
  have base := ceilingDelay_base consecutiveFailures
  have cap := ceilingDelay_max consecutiveFailures
  rw [backoffDelay_eq] at returned
  split at returned
  case isFalse => cases returned
  case isTrue =>
    cases returned
    split
    · exact ⟨base, cap⟩
    · obtain ⟨low, high⟩ := random.between base
      exact ⟨low, high.trans cap⟩

end Delay

section Loop
variable {σ ι : Type} (turn : σ → ι → Option Rat × σ)

def failedTurns : σ → List (ι × Random) → List Bool
  | _, [] => []
  | s, (i, _) :: rest => (turn s i).1.isNone :: failedTurns (turn s i).2 rest

/-- This many turns in a row raised. -/
def Outage (n : Nat) (failed : List Bool) : Prop := List.replicate n true <:+: failed

theorem outage_replicate {n m : Nat} : Outage n (List.replicate m true) ↔ n ≤ m := by
  unfold Outage
  constructor
  · intro within
    simpa using within.length_le
  · intro le
    exact ⟨[], List.replicate (m - n) true, by simp [List.replicate_append_replicate, le]⟩

theorem outage_reset {n m : Nat} {later : List Bool} (short : m < n) :
    Outage n (List.replicate m true ++ false :: later) ↔ Outage n later := by
  constructor
  · rintro ⟨before, after, same⟩
    rw [List.append_assoc] at same
    rcases List.append_eq_append_iff.mp same with ⟨c, whole, rest⟩ | ⟨c, whole, rest⟩
    · -- the turn that went through would be one of those that raised
      have few : c.length < n := by
        have := congrArg List.length whole
        simp only [List.length_replicate, List.length_append] at this
        omega
      have turned := congrArg (·[c.length]?) rest
      simp only [List.getElem?_append_left, List.length_replicate, few, List.getElem?_replicate,
        if_pos, List.getElem?_append_right (Nat.le_refl _), Nat.sub_self,
        List.getElem?_cons_zero] at turned
      cases turned
    · cases c with
      | nil =>
        obtain ⟨k, rfl⟩ : ∃ k, n = k + 1 := ⟨n - 1, by omega⟩
        cases rest
      | cons _ c =>
        obtain ⟨-, rfl⟩ := List.cons.inj rest
        exact ⟨c, after, List.append_assoc _ _ _⟩
  · rintro ⟨before, after, rfl⟩
    exact ⟨List.replicate m true ++ false :: before, after, by simp⟩

theorem supervise_raises (inputs : List (ι × Random)) (consecutiveFailures : Nat) (s : σ)
    (alive : consecutiveFailures ≤ maxExponent) :
    supervise turn consecutiveFailures s inputs = .error {} ↔ Outage (maxExponent + 1)
      (List.replicate consecutiveFailures true ++ failedTurns turn s inputs) := by
  induction inputs generalizing consecutiveFailures s with
  | nil =>
    rw [failedTurns, List.append_nil, outage_replicate, supervise]
    constructor
    · intro raised
      cases raised
    · omega
  | cons input rest ih =>
    obtain ⟨i, random⟩ := input
    rw [failedTurns, supervise]
    cases turned : turn s i with
    | mk slept s' =>
      cases slept with
      | some seconds =>
        have recovered := ih 0 s' (Nat.zero_le _)
        simp only [Option.isNone_some, outage_reset (Nat.lt_succ_of_le alive)]
        rw [List.replicate_zero, List.nil_append] at recovered
        rw [← recovered, bind_error]
        simp [pure, Except.pure]
      | none =>
        have longer : List.replicate consecutiveFailures true ++ true :: failedTurns turn s' rest =
            List.replicate (consecutiveFailures + 1) true ++ failedTurns turn s' rest := by
          rw [List.replicate_succ', List.append_assoc, List.singleton_append]
        simp only [Option.isNone_none, longer, bind_error, backoffDelay_raises]
        by_cases still : consecutiveFailures + 1 ≤ maxExponent
        · rw [← ih (consecutiveFailures + 1) s' still]
          rw [backoffDelay_eq, if_pos still]
          simp [pure, Except.pure, Nat.not_lt.mpr still]
        · have longest : consecutiveFailures + 1 = maxExponent + 1 := by omega
          rw [longest]
          exact iff_of_true (.inl (Nat.lt_succ_self _)) ⟨[], failedTurns turn s' rest, rfl⟩

end Loop

theorem supervise_survives {σ ι : Type} (turn : σ → ι → Option Rat × σ) (s : σ)
    (inputs : List (ι × Random)) : (∃ slept, supervise turn 0 s inputs = .ok slept) ↔
      ¬ Outage (maxExponent + 1) (failedTurns turn s inputs) := by
  have raises := supervise_raises turn inputs 0 s (Nat.zero_le _)
  rw [List.replicate_zero, List.nil_append] at raises
  rw [← raises]
  cases supervise turn 0 s inputs <;> simp

def lowest : Random where
  uniform a _ := a
  between le := ⟨le_refl _, le⟩

/-- The delay is there, and within its bounds, exactly for the first 1024 failures of an outage; the
loops go on exactly as long as no outage is longer. -/
theorem supervision_iff {ε α : Type} (consecutiveFailures : Nat)
    (completed : List (Except ε (Option α) × Random)) (calls : List (SchedulerTurn ε × Random)) :
    ((∀ jitter random, ∃ seconds, backoffDelay consecutiveFailures jitter random = .ok seconds ∧
      DelayBounded seconds) ↔ consecutiveFailures ≤ 1024) ∧
    (∀ later random seconds seconds', consecutiveFailures ≤ later →
      backoffDelay consecutiveFailures false random = .ok seconds →
      backoffDelay later false random = .ok seconds' → seconds ≤ seconds') ∧
    ((∃ slept, workerLoop completed = .ok slept) ↔
      ¬ Outage 1025 (failedTurns workerTurn () completed)) ∧
    ((∃ slept, schedulerLoop calls = .ok slept) ↔
      ¬ Outage 1025 (failedTurns schedulerTurn 0 calls)) := by
  refine ⟨⟨fun total => ?_, fun within jitter random => ?_⟩, ?_, supervise_survives _ _ _,
    supervise_survives _ _ _⟩
  · obtain ⟨seconds, returned, -⟩ := total false lowest
    by_contra beyond
    rw [backoffDelay_raises.mpr (not_le.mp beyond)] at returned
    cases returned
  · cases result : backoffDelay consecutiveFailures jitter random with
    | error x => exact absurd (backoffDelay_raises.mp result) (not_lt.mpr within)
    | ok seconds => exact ⟨seconds, rfl, backoffDelay_bounded result⟩
  · intro later random seconds seconds' le first second
    rw [backoffDelay_eq] at first second
    split at first
    case isFalse => cases first
    case isTrue =>
      split at second
      case isFalse => cases second
      case isTrue =>
        cases first
        cases second
        simpa using ceilingDelay_mono le

/-- After 1025 failures in a row the delay itself raises, and with it the loop. -/
theorem backoff_overflow : backoffDelay 1025 false lowest = .error {} ∧
    workerLoop (List.replicate 1025 ((.error () : Except Unit (Option Unit)), lowest)) =
      .error {} := by
  have failed : ∀ n, failedTurns workerTurn ()
      (List.replicate n ((.error () : Except Unit (Option Unit)), lowest)) =
        List.replicate n true := by
    intro n
    induction n with
    | zero => rfl
    | succ n ih => exact congrArg (true :: ·) ih
  refine ⟨backoffDelay_raises.mpr (Nat.lt_succ_self _), ?_⟩
  apply (supervise_raises workerTurn _ 0 () (Nat.zero_le _)).mpr
  rw [failed, List.replicate_zero, List.nil_append]
  exact outage_replicate.mpr (le_refl _)

end Deckhand
