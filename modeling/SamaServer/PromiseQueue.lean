/-
The queue of tries behind a reconnect manager.  Before each try it waits for
a delay, and it looks at the cancel flag before the delay and after it; in
between anything may happen.
-/
import Mathlib.Algebra.Group.Nat.Defs
import Mathlib.Data.List.Basic

namespace SamaServer

universe u v

/-- An error that the queue or the executed promise throws. -/
inductive QueueError (E : Type v)
  | cancelQueueError
  | invalidArrayLength
  | thrown (error : E)
deriving DecidableEq

/-- What a promise came to. -/
inductive Settled (V : Type u) (E : Type v)
  | resolved (value : V)
  | rejected (error : QueueError E)
deriving DecidableEq

namespace Settled

variable {V : Type u} {E : Type v}

/-- A failure with an error that is not one of the queue. -/
def IsFailure (outcome : Settled V E) : Prop :=
  ∃ error, outcome = .rejected (.thrown error)

end Settled

/-- Where `start` is paused.  A queue without tries resolves with no
value. -/
inductive QueuePhase (V : Type u) (E : Type v)
  | created
  | delaying (tryDelay : Nat)
  | executing
  | ended (result : Settled (Option V) E)
deriving DecidableEq

/-- The variables of the closure and of the loop, and what the executed
promises came to so far. -/
structure PromiseQueue (V : Type u) (E : Type v) where
  tryCount : Nat
  delay : Nat
  isCanceled : Bool
  tryDelays : List Nat
  lastError : Option (QueueError E)
  phase : QueuePhase V E
  executed : List (Settled V E)
deriving DecidableEq

inductive QueueEvent (V : Type u) (E : Type v)
  | start
  | cancel
  | elapsed
  | settled (outcome : Settled V E)
deriving DecidableEq

/-- The executed promise fails with errors of its own only. -/
def QueueEvent.IsPlain {V : Type u} {E : Type v} (event : QueueEvent V E) :
    Prop :=
  ∀ error, event = .settled (.rejected error) → ∃ own, error = .thrown own

namespace PromiseQueue

variable {V : Type u} {E : Type v}

def promiseQueueWithJittering (tryCount delay : Nat) : PromiseQueue V E :=
  ⟨tryCount, delay, false, [], none, .created, []⟩

def cancel (q : PromiseQueue V E) : PromiseQueue V E :=
  { q with isCanceled := true }

def reject (q : PromiseQueue V E) (error : QueueError E) :
    PromiseQueue V E :=
  { q with phase := .ended (.rejected error) }

/-- What follows the loop; every error is a truthy value. -/
def afterLoop (q : PromiseQueue V E) : PromiseQueue V E :=
  match q.lastError with
  | some lastError => q.reject lastError
  | none =>
      if q.isCanceled then q.reject .cancelQueueError
      else { q with phase := .ended (.resolved none) }

/-- A `CancelQueueError` thrown in the loop. -/
def breakLoop (q : PromiseQueue V E) : PromiseQueue V E :=
  { q with lastError := some .cancelQueueError }.afterLoop

/-- The head of the loop, up to the delay. -/
def nextTry (q : PromiseQueue V E) : PromiseQueue V E :=
  match q.tryDelays with
  | [] => q.afterLoop
  | tryDelay :: tryDelays =>
      if q.isCanceled then q.breakLoop
      else
        { q with
          tryDelays := tryDelays
          phase := .delaying tryDelay }

/-- The `catch` of the loop. -/
def catchError (q : PromiseQueue V E) : QueueError E → PromiseQueue V E
  | .cancelQueueError => q.breakLoop
  | error => { q with lastError := some error }.nextTry

/-- `start`, which is called once.  An array has fewer than `2 ^ 32`
places. -/
def start (q : PromiseQueue V E) : PromiseQueue V E :=
  match q.phase with
  | .created =>
      if q.isCanceled then q.reject .cancelQueueError
      else if 2 ^ 32 ≤ q.tryCount then q.reject .invalidArrayLength
      else
        { q with
          tryDelays := (List.range q.tryCount).map (fun index =>
            (index + 1) ^ 2 * q.delay) }.nextTry
  | _ => q

/-- The end of the delay. -/
def elapsed (q : PromiseQueue V E) : PromiseQueue V E :=
  match q.phase with
  | .delaying _ =>
      if q.isCanceled then q.breakLoop else { q with phase := .executing }
  | _ => q

/-- The end of a try. -/
def settle (q : PromiseQueue V E) (outcome : Settled V E) :
    PromiseQueue V E :=
  match q.phase with
  | .executing =>
      let q := { q with executed := q.executed ++ [outcome] }
      match outcome with
      | .resolved value => { q with phase := .ended (.resolved (some value)) }
      | .rejected error => q.catchError error
  | _ => q

def step (q : PromiseQueue V E) : QueueEvent V E → PromiseQueue V E
  | .start => q.start
  | .cancel => q.cancel
  | .elapsed => q.elapsed
  | .settled outcome => q.settle outcome

def run (tryCount delay : Nat) (events : List (QueueEvent V E)) :
    PromiseQueue V E :=
  events.foldl step (promiseQueueWithJittering tryCount delay)

@[simp] theorem run_concat (tryCount delay : Nat)
    (events : List (QueueEvent V E)) (event : QueueEvent V E) :
    run tryCount delay (events ++ [event]) =
      (run tryCount delay events).step event :=
  List.foldl_concat ..

/-- How often the executable was called. -/
def executions (q : PromiseQueue V E) : Nat :=
  match q.phase with
  | .executing => q.executed.length + 1
  | _ => q.executed.length

/-- The event brings the queue to a point before a try. -/
def IsBeforeTry (q : PromiseQueue V E) : QueueEvent V E → Prop
  | .start => q.phase = .created
  | .elapsed => ∃ tryDelay, q.phase = .delaying tryDelay
  | .settled (.rejected _) =>
      q.phase = .executing ∧ q.executed.length + 1 < q.tryCount
  | _ => False

/-- The end of the running delay or of the running try. -/
def waitsFor (q : PromiseQueue V E) : QueueEvent V E → Bool
  | .elapsed =>
      match q.phase with
      | .delaying _ => true
      | _ => false
  | .settled _ =>
      match q.phase with
      | .executing => true
      | _ => false
  | _ => false

/-- How many of the events the queue waits for. -/
def answers (q : PromiseQueue V E) : List (QueueEvent V E) → Nat
  | [] => 0
  | event :: events =>
      (q.waitsFor event).toNat + (q.step event).answers events

/-! ### One step -/

theorem tryCount_nextTry (q : PromiseQueue V E) :
    q.nextTry.tryCount = q.tryCount ∧
      q.nextTry.isCanceled = q.isCanceled := by
  rw [nextTry]
  split
  · rw [afterLoop]
    split
    · exact ⟨rfl, rfl⟩
    · split <;> exact ⟨rfl, rfl⟩
  · split <;> exact ⟨rfl, rfl⟩

theorem tryCount_catchError (q : PromiseQueue V E) (error : QueueError E) :
    (q.catchError error).tryCount = q.tryCount ∧
      (q.catchError error).isCanceled = q.isCanceled := by
  cases error with
  | cancelQueueError => exact ⟨rfl, rfl⟩
  | invalidArrayLength => exact tryCount_nextTry _
  | thrown error => exact tryCount_nextTry _

/-- Only a cancellation writes the flag, and nothing writes the count. -/
theorem tryCount_step_of_ne (q : PromiseQueue V E) {event : QueueEvent V E}
    (hevent : event ≠ .cancel) :
    (q.step event).tryCount = q.tryCount ∧
      (q.step event).isCanceled = q.isCanceled := by
  cases event with
  | cancel => exact absurd rfl hevent
  | start =>
      rw [step, start]
      split
      · split
        · exact ⟨rfl, rfl⟩
        · split
          · exact ⟨rfl, rfl⟩
          · exact tryCount_nextTry _
      · exact ⟨rfl, rfl⟩
  | elapsed =>
      rw [step, elapsed]
      split
      · split <;> exact ⟨rfl, rfl⟩
      · exact ⟨rfl, rfl⟩
  | settled outcome =>
      rw [step, settle]
      split
      · cases outcome with
        | resolved value => exact ⟨rfl, rfl⟩
        | rejected error => exact tryCount_catchError _ error
      · exact ⟨rfl, rfl⟩

theorem tryCount_step (q : PromiseQueue V E) (event : QueueEvent V E) :
    (q.step event).tryCount = q.tryCount := by
  cases event with
  | cancel => rfl
  | _ => exact (q.tryCount_step_of_ne (by simp)).1

theorem isCanceled_step (q : PromiseQueue V E) (event : QueueEvent V E) :
    (q.step event).isCanceled = true ↔
      q.isCanceled = true ∨ event = .cancel := by
  cases event with
  | cancel => simp [step, cancel]
  | _ => rw [(q.tryCount_step_of_ne (by simp)).2]; simp

/-- What the executed promises came to, by where `start` is. -/
def Tracks (q : PromiseQueue V E) : Prop :=
  match q.phase with
  | .created => q.executed = []
  | .delaying _ | .executing =>
      (∀ outcome ∈ q.executed, outcome.IsFailure) ∧
        q.executed.length + q.tryDelays.length + 1 = q.tryCount
  | .ended (.resolved (some value)) =>
      ∃ failures, q.executed = failures ++ [.resolved value] ∧
        (∀ outcome ∈ failures, outcome.IsFailure) ∧
          failures.length < q.tryCount
  | .ended (.rejected .cancelQueueError) =>
      (∀ outcome ∈ q.executed, outcome.IsFailure) ∧
        q.executed.length < q.tryCount
  | .ended (.rejected (.thrown error)) =>
      ∃ failures, q.executed = failures ++ [.rejected (.thrown error)] ∧
        (∀ outcome ∈ failures, outcome.IsFailure) ∧
          failures.length + 1 = q.tryCount
  | .ended _ => False

/-- The head of the loop with a try left. -/
theorem nextTry_cons {q : PromiseQueue V E} {tryDelay : Nat}
    {tryDelays : List Nat} (hdelays : q.tryDelays = tryDelay :: tryDelays) :
    q.nextTry =
      if q.isCanceled then q.breakLoop
      else
        { q with
          tryDelays := tryDelays
          phase := .delaying tryDelay } := by
  rw [nextTry, hdelays]

/-- The delays of a queue that has at least one try. -/
theorem start_created {q : PromiseQueue V E} (hphase : q.phase = .created)
    (hcount : 0 < q.tryCount) (hlength : q.tryCount < 2 ^ 32) :
    ∃ tryDelay tryDelays, tryDelays.length + 1 = q.tryCount ∧
      q.start =
        if q.isCanceled then q.reject .cancelQueueError
        else
          { q with
            tryDelays := tryDelays
            phase := .delaying tryDelay } := by
  obtain ⟨count, hcount⟩ := Nat.exists_eq_add_of_lt hcount
  rw [Nat.zero_add] at hcount
  refine ⟨(0 + 1) ^ 2 * q.delay, (List.range count).map (fun index =>
    (index + 1 + 1) ^ 2 * q.delay), ?_, ?_⟩
  · rw [List.length_map, List.length_range, hcount]
  · rw [start, hphase]
    dsimp only
    split
    · rfl
    · next hcanceled =>
        rw [if_neg (Nat.not_le_of_lt hlength), hcount,
          List.range_succ_eq_map, List.map_cons, List.map_map,
          nextTry_cons rfl]
        exact if_neg hcanceled

theorem tracks_nextTry {q : PromiseQueue V E} {error : E}
    {failures : List (Settled V E)}
    (herror : q.lastError = some (.thrown error))
    (hexecuted : q.executed = failures ++ [.rejected (.thrown error)])
    (hfailures : ∀ outcome ∈ failures, outcome.IsFailure)
    (hcount : failures.length + q.tryDelays.length + 1 = q.tryCount) :
    q.nextTry.Tracks := by
  have hall : ∀ outcome ∈ q.executed, outcome.IsFailure := by
    intro outcome hmem
    rw [hexecuted, List.mem_append, List.mem_singleton] at hmem
    rcases hmem with hmem | rfl
    · exact hfailures outcome hmem
    · exact ⟨error, rfl⟩
  have hlength : q.executed.length = failures.length + 1 := by
    rw [hexecuted, List.length_append, List.length_singleton]
  cases hdelays : q.tryDelays with
  | nil =>
      rw [hdelays, List.length_nil] at hcount
      rw [nextTry, hdelays]
      dsimp only
      rw [afterLoop, herror]
      exact ⟨failures, hexecuted, hfailures, hcount⟩
  | cons tryDelay tryDelays =>
      rw [hdelays, List.length_cons] at hcount
      rw [nextTry_cons hdelays]
      split
      · exact ⟨hall, by change q.executed.length < q.tryCount; omega⟩
      · refine ⟨hall, ?_⟩
        change q.executed.length + tryDelays.length + 1 = q.tryCount
        omega

theorem tracks_step {q : PromiseQueue V E} (hcount : 0 < q.tryCount)
    (hlength : q.tryCount < 2 ^ 32) {event : QueueEvent V E}
    (hplain : event.IsPlain) (htracks : q.Tracks) :
    (q.step event).Tracks := by
  cases event with
  | cancel => exact htracks
  | start =>
      rw [step]
      cases hphase : q.phase with
      | created =>
          have hnone : q.executed = [] := by
            rw [Tracks, hphase] at htracks
            exact htracks
          obtain ⟨tryDelay, tryDelays, hdelays, hstart⟩ :=
            start_created hphase hcount hlength
          have hfailures : ∀ outcome ∈ q.executed, outcome.IsFailure := by
            rw [hnone]
            exact fun outcome hmem => by cases hmem
          rw [hstart]
          split
          · exact ⟨hfailures, by
              change q.executed.length < q.tryCount
              rw [hnone]
              exact hcount⟩
          · refine ⟨hfailures, ?_⟩
            change q.executed.length + tryDelays.length + 1 = q.tryCount
            rw [hnone, List.length_nil, Nat.zero_add, hdelays]
      | _ =>
          rw [start, hphase]
          exact htracks
  | elapsed =>
      rw [step, elapsed]
      split
      · next tryDelay hphase =>
          rw [Tracks, hphase] at htracks
          obtain ⟨hfailures, hleft⟩ := htracks
          split
          · exact ⟨hfailures, by
              change q.executed.length < q.tryCount
              omega⟩
          · exact ⟨hfailures, hleft⟩
      · exact htracks
  | settled outcome =>
      rw [step, settle]
      split
      · next hphase =>
          rw [Tracks, hphase] at htracks
          obtain ⟨hfailures, hleft⟩ := htracks
          cases outcome with
          | resolved value =>
              refine ⟨q.executed, rfl, hfailures, ?_⟩
              change q.executed.length < q.tryCount
              omega
          | rejected error =>
              obtain ⟨own, rfl⟩ := hplain error rfl
              exact tracks_nextTry rfl rfl hfailures hleft
      · exact htracks

/-- A canceled queue starts no try. -/
theorem executions_step_of_isCanceled {q : PromiseQueue V E}
    (hcanceled : q.isCanceled = true) (event : QueueEvent V E) :
    (q.step event).executions = q.executions := by
  have hnext : ∀ p : PromiseQueue V E, p.isCanceled = true →
      p.nextTry.executions = p.executed.length := by
    intro p hp
    rw [nextTry]
    split
    · rw [afterLoop]
      split
      · rfl
      · split <;> rfl
    · rw [if_pos hp]
      rfl
  cases event with
  | cancel => rfl
  | start =>
      rw [step, start]
      split
      · next hphase =>
          rw [if_pos hcanceled, executions.eq_def q, hphase]
          rfl
      · rfl
  | elapsed =>
      rw [step, elapsed]
      split
      · next tryDelay hphase =>
          rw [if_pos hcanceled, executions.eq_def q, hphase]
          rfl
      · rfl
  | settled outcome =>
      rw [step, settle]
      split
      · next hphase =>
          have hbefore : q.executions = q.executed.length + 1 := by
            rw [executions, hphase]
          have hafter : (q.executed ++ [outcome]).length =
              q.executed.length + 1 := by
            rw [List.length_append, List.length_singleton]
          rw [hbefore, ← hafter]
          cases outcome with
          | resolved value => rfl
          | rejected error =>
              cases error with
              | cancelQueueError => rfl
              | invalidArrayLength => exact hnext _ hcanceled
              | thrown error => exact hnext _ hcanceled
      · rfl

/-- Where a queue ends that notices a cancellation. -/
abbrev canceledPhase : QueuePhase V E :=
  .ended (.rejected .cancelQueueError)

theorem phase_step_eq_canceled_iff {q : PromiseQueue V E}
    (hcount : 0 < q.tryCount) (hlength : q.tryCount < 2 ^ 32)
    {event : QueueEvent V E} (hplain : event.IsPlain) (htracks : q.Tracks) :
    (q.step event).phase = canceledPhase ↔
      q.phase = canceledPhase ∨
        q.isCanceled = true ∧ q.IsBeforeTry event := by
  cases event with
  | cancel => simp [step, cancel, IsBeforeTry]
  | start =>
      rw [step, IsBeforeTry]
      cases hphase : q.phase with
      | created =>
          obtain ⟨tryDelay, tryDelays, -, hstart⟩ :=
            start_created hphase hcount hlength
          rw [hstart]
          split
          · next hcanceled => simp [reject, hcanceled]
          · next hcanceled => simp [hcanceled]
      | _ => simp [start, hphase]
  | elapsed =>
      rw [step, elapsed, IsBeforeTry]
      split
      · next tryDelay hphase =>
          split
          · next hcanceled =>
              simp [breakLoop, afterLoop, reject, hcanceled, hphase]
          · next hcanceled => simp [hcanceled, hphase]
      · next hphase =>
          have hnone : ¬ ∃ tryDelay, q.phase = .delaying tryDelay := by
            rintro ⟨tryDelay, hdelaying⟩
            exact hphase tryDelay hdelaying
          simp only [hnone, and_false, or_false]
  | settled outcome =>
      rw [step, settle]
      split
      · next hphase =>
          rw [Tracks, hphase] at htracks
          obtain ⟨-, hleft⟩ := htracks
          cases outcome with
          | resolved value => simp [IsBeforeTry, hphase]
          | rejected error =>
              obtain ⟨own, rfl⟩ := hplain error rfl
              rw [IsBeforeTry]
              cases hdelays : q.tryDelays with
              | nil =>
                  rw [hdelays, List.length_nil] at hleft
                  have hlast : ¬ q.executed.length + 1 < q.tryCount := by
                    omega
                  simp [catchError, nextTry, afterLoop, reject, hphase,
                    hlast]
              | cons tryDelay tryDelays =>
                  rw [hdelays, List.length_cons] at hleft
                  have hmore : q.executed.length + 1 < q.tryCount := by
                    omega
                  cases hcanceled : q.isCanceled with
                  | false =>
                      simp [catchError, nextTry, hphase]
                  | true =>
                      simp [catchError, nextTry, breakLoop, afterLoop,
                        reject, hphase, hmore]
      · next hphase =>
          cases outcome with
          | resolved value => simp [IsBeforeTry]
          | rejected error =>
              have hnone : ¬ q.phase = .executing := hphase
              simp only [IsBeforeTry, hnone, false_and, and_false, or_false]

/-- How many more events the queue can wait for. -/
def left (q : PromiseQueue V E) : Nat :=
  match q.phase with
  | .created => 2 * q.tryCount
  | .delaying _ => 2 * q.tryDelays.length + 2
  | .executing => 2 * q.tryDelays.length + 1
  | .ended _ => 0

theorem left_nextTry_le (q : PromiseQueue V E) :
    q.nextTry.left ≤ 2 * q.tryDelays.length := by
  cases hdelays : q.tryDelays with
  | nil =>
      rw [nextTry, hdelays]
      dsimp only
      rw [afterLoop]
      split
      · exact Nat.zero_le _
      · split <;> exact Nat.zero_le _
  | cons tryDelay tryDelays =>
      rw [nextTry_cons hdelays]
      split
      · exact Nat.zero_le _
      · change 2 * tryDelays.length + 2 ≤ _
        rw [List.length_cons]
        omega

theorem left_catchError_le (q : PromiseQueue V E) (error : QueueError E) :
    (q.catchError error).left ≤ 2 * q.tryDelays.length := by
  cases error with
  | cancelQueueError => exact Nat.zero_le _
  | invalidArrayLength => exact left_nextTry_le _
  | thrown error => exact left_nextTry_le _

theorem left_step_le (q : PromiseQueue V E) (event : QueueEvent V E) :
    (q.waitsFor event).toNat + (q.step event).left ≤ q.left := by
  cases event with
  | cancel => exact Nat.le_of_eq (Nat.zero_add _)
  | start =>
      refine Nat.le_trans (Nat.le_of_eq (Nat.zero_add _)) ?_
      rw [step, start]
      split
      · next hphase =>
          rw [left.eq_def q, hphase]
          split
          · exact Nat.zero_le _
          · split
            · exact Nat.zero_le _
            · refine Nat.le_trans (left_nextTry_le _) ?_
              exact Nat.le_of_eq (by
                rw [List.length_map, List.length_range])
      · exact Nat.le_refl _
  | elapsed =>
      rw [waitsFor, step, elapsed]
      cases hphase : q.phase with
      | delaying tryDelay =>
          rw [left.eq_def q, hphase]
          dsimp only
          split
          · change 1 + 0 ≤ _
            omega
          · change 1 + (2 * q.tryDelays.length + 1) ≤ _
            omega
      | _ => exact Nat.le_of_eq (Nat.zero_add _)
  | settled outcome =>
      rw [waitsFor, step, settle]
      cases hphase : q.phase with
      | executing =>
          rw [left.eq_def q, hphase, Bool.toNat_true]
          dsimp only
          cases outcome with
          | resolved value =>
              change 1 + 0 ≤ _
              omega
          | rejected error =>
              refine Nat.le_trans
                (Nat.add_le_add_left (left_catchError_le _ error) 1) ?_
              exact Nat.le_of_eq (Nat.add_comm _ _)
      | _ => exact Nat.le_of_eq (Nat.zero_add _)

end PromiseQueue

end SamaServer
