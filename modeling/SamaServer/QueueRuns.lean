/-
Runs of a queue of tries, with cancellations at any moment.  A run ends with
the first success, with a cancellation that is noticed before a try, or with
the error of the last try.
-/
import SamaServer.ClusterManager
import SamaServer.PromiseQueue
import SamaServer.Runs

namespace SamaServer

universe u v

namespace PromiseQueue

variable {V : Type u} {E : Type v}

/-! ### A run -/

theorem tryCount_run (tryCount delay : Nat)
    (events : List (QueueEvent V E)) :
    (run tryCount delay events).tryCount = tryCount := by
  induction events using List.reverseRecOn with
  | nil => rfl
  | append_singleton events event ih => rw [run_concat, tryCount_step, ih]

theorem isCanceled_run_iff (tryCount delay : Nat)
    (events : List (QueueEvent V E)) :
    (run tryCount delay events).isCanceled = true ↔ .cancel ∈ events := by
  induction events using List.reverseRecOn with
  | nil => simp [run, promiseQueueWithJittering]
  | append_singleton events event ih =>
      rw [run_concat, isCanceled_step, ih, List.mem_append,
        List.mem_singleton, eq_comm (a := event)]

theorem answers_add_left_le (q : PromiseQueue V E)
    (events : List (QueueEvent V E)) :
    q.answers events + (events.foldl step q).left ≤ q.left := by
  induction events generalizing q with
  | nil => exact Nat.le_of_eq (Nat.zero_add _)
  | cons event events ih =>
      have hstep := left_step_le q event
      have hrest := ih (q.step event)
      rw [answers, List.foldl_cons]
      omega

/-- Some event brings a queue that was canceled before to a point before a
try. -/
def Noticed (tryCount delay : Nat) (events : List (QueueEvent V E)) : Prop :=
  ∃ before event, before ++ [event] <+: events ∧ .cancel ∈ before ∧
    (run tryCount delay before).IsBeforeTry event

theorem noticed_concat_iff (tryCount delay : Nat)
    (events : List (QueueEvent V E)) (last : QueueEvent V E) :
    Noticed tryCount delay (events ++ [last]) ↔
      Noticed tryCount delay events ∨ .cancel ∈ events ∧
        (run tryCount delay events).IsBeforeTry last := by
  constructor
  · rintro ⟨before, event, hprefix, hnotice⟩
    rcases List.prefix_concat_iff.1 hprefix with heq | hearlier
    · obtain ⟨rfl, hevent⟩ := List.append_inj' heq rfl
      cases hevent
      exact .inr hnotice
    · exact .inl ⟨before, event, hearlier, hnotice⟩
  · rintro (⟨before, event, hprefix, hnotice⟩ | hnotice)
    · exact ⟨before, event,
        hprefix.trans (List.prefix_append events [last]), hnotice⟩
    · exact ⟨events, last, List.prefix_refl _, hnotice⟩

/-- What a queue with some tries does over a run. -/
structure Meets (tryCount delay : Nat) (events : List (QueueEvent V E)) :
    Prop where
  atMost : (run tryCount delay events).executions ≤ tryCount
  afterCancel : ∀ before event, before ++ [event] <+: events →
    .cancel ∈ before →
      (run tryCount delay (before ++ [event])).executions =
        (run tryCount delay before).executions
  firstSuccess : ∀ value,
    .resolved value ∈ (run tryCount delay events).executed →
      (run tryCount delay events).phase =
          .ended (.resolved (some value)) ∧
        ∃ failures, (run tryCount delay events).executed =
            failures ++ [.resolved value] ∧
          ∀ outcome ∈ failures, outcome.IsFailure
  canceled : (run tryCount delay events).phase = canceledPhase ↔
    Noticed tryCount delay events
  lastFailure : ∀ failures error,
    (run tryCount delay events).executed =
        failures ++ [.rejected (.thrown error)] →
      failures.length + 1 = tryCount →
        (run tryCount delay events).phase =
          .ended (.rejected (.thrown error))
  otherwise : ∀ result,
    (run tryCount delay events).phase = .ended result →
      (∃ value, .resolved value ∈ (run tryCount delay events).executed) ∨
        Noticed tryCount delay events ∨
          (run tryCount delay events).executed.length = tryCount
  ends : 2 * tryCount ≤
      (promiseQueueWithJittering tryCount delay).answers events →
    ∃ result, (run tryCount delay events).phase = .ended result

/-! ### What the position says -/

section Tracks

variable {q : PromiseQueue V E} (htracks : q.Tracks)

include htracks

/-- The positions, with what the executed promises came to. -/
theorem Tracks.cases :
    (q.phase = .created ∧ q.executed = []) ∨
      ((q.phase = .executing ∨ ∃ tryDelay, q.phase = .delaying tryDelay) ∧
        (∀ outcome ∈ q.executed, outcome.IsFailure) ∧
          q.executed.length < q.tryCount) ∨
      (q.phase = canceledPhase ∧
        (∀ outcome ∈ q.executed, outcome.IsFailure) ∧
          q.executed.length < q.tryCount) ∨
      (∃ value failures, q.phase = .ended (.resolved (some value)) ∧
        q.executed = failures ++ [.resolved value] ∧
        (∀ outcome ∈ failures, outcome.IsFailure) ∧
          failures.length < q.tryCount) ∨
      ∃ error failures, q.phase = .ended (.rejected (.thrown error)) ∧
        q.executed = failures ++ [.rejected (.thrown error)] ∧
        (∀ outcome ∈ failures, outcome.IsFailure) ∧
          failures.length + 1 = q.tryCount := by
  rw [Tracks] at htracks
  cases hphase : q.phase with
  | created =>
      rw [hphase] at htracks
      exact .inl ⟨rfl, htracks⟩
  | delaying tryDelay =>
      rw [hphase] at htracks
      exact .inr (.inl ⟨.inr ⟨tryDelay, rfl⟩, htracks.1,
        by have := htracks.2; omega⟩)
  | executing =>
      rw [hphase] at htracks
      exact .inr (.inl ⟨.inl rfl, htracks.1,
        by have := htracks.2; omega⟩)
  | ended result =>
      rw [hphase] at htracks
      rcases result with (_ | value) | (_ | _ | error)
      · exact htracks.elim
      · obtain ⟨failures, hrest⟩ := htracks
        exact .inr (.inr (.inr (.inl ⟨value, failures, rfl, hrest⟩)))
      · exact .inr (.inr (.inl ⟨rfl, htracks⟩))
      · exact htracks.elim
      · obtain ⟨failures, hrest⟩ := htracks
        exact .inr (.inr (.inr (.inr ⟨error, failures, rfl, hrest⟩)))

theorem Tracks.executions_le : q.executions ≤ q.tryCount := by
  have hbound : q.executions ≤ q.executed.length + 1 := by
    rw [executions]
    split
    · exact Nat.le_refl _
    · exact Nat.le_succ _
  rcases htracks.cases with ⟨hphase, hnone⟩ | ⟨-, -, hlength⟩ |
    ⟨-, -, hlength⟩ | ⟨value, failures, hphase, hexecuted, -, hlength⟩ |
    ⟨error, failures, hphase, hexecuted, -, hlength⟩
  · rw [executions, hphase]
    dsimp only
    rw [hnone]
    exact Nat.zero_le _
  · exact Nat.le_trans hbound hlength
  · exact Nat.le_trans hbound hlength
  · rw [executions, hphase]
    dsimp only
    rw [hexecuted, List.length_append, List.length_singleton]
    exact hlength
  · rw [executions, hphase]
    dsimp only
    rw [hexecuted, List.length_append, List.length_singleton]
    exact Nat.le_of_eq hlength

theorem Tracks.resolved {value : V}
    (hmem : .resolved value ∈ q.executed) :
    q.phase = .ended (.resolved (some value)) ∧
      ∃ failures, q.executed = failures ++ [.resolved value] ∧
        ∀ outcome ∈ failures, outcome.IsFailure := by
  have hnot : ¬ (Settled.resolved value : Settled V E).IsFailure := by
    rintro ⟨error, herror⟩
    cases herror
  rcases htracks.cases with ⟨-, hnone⟩ | ⟨-, hfailures, -⟩ |
    ⟨-, hfailures, -⟩ | ⟨other, failures, hphase, hexecuted, hfailures, -⟩ |
    ⟨error, failures, -, hexecuted, hfailures, -⟩
  · rw [hnone] at hmem
    cases hmem
  · exact absurd (hfailures _ hmem) hnot
  · exact absurd (hfailures _ hmem) hnot
  · rw [hexecuted, List.mem_append, List.mem_singleton] at hmem
    rcases hmem with hmem | hlast
    · exact absurd (hfailures _ hmem) hnot
    · cases hlast
      exact ⟨hphase, failures, hexecuted, hfailures⟩
  · rw [hexecuted, List.mem_append, List.mem_singleton] at hmem
    rcases hmem with hmem | hlast
    · exact absurd (hfailures _ hmem) hnot
    · cases hlast

theorem Tracks.lastFailure {failures : List (Settled V E)} {error : E}
    (hexecuted : q.executed = failures ++ [.rejected (.thrown error)])
    (hall : failures.length + 1 = q.tryCount) :
    q.phase = .ended (.rejected (.thrown error)) := by
  have hcount : q.executed.length = q.tryCount := by
    rw [hexecuted, List.length_append, List.length_singleton, hall]
  rcases htracks.cases with ⟨-, hnone⟩ | ⟨-, -, hlength⟩ |
    ⟨-, -, hlength⟩ | ⟨value, others, -, hother, -, -⟩ |
    ⟨other, others, hphase, hother, -, -⟩
  · rw [hnone] at hexecuted
    exact absurd hexecuted.symm (List.concat_ne_nil _ failures)
  · exact absurd hcount (Nat.ne_of_lt hlength)
  · exact absurd hcount (Nat.ne_of_lt hlength)
  · rw [hexecuted] at hother
    cases (List.append_inj' hother rfl).2
  · rw [hexecuted] at hother
    cases (List.append_inj' hother rfl).2
    exact hphase

end Tracks

section Run

variable {tryCount delay : Nat} (hcount : 0 < tryCount)
  (hlength : tryCount < 2 ^ 32) {events : List (QueueEvent V E)}
  (hplain : ∀ event ∈ events, event.IsPlain)

include hcount hlength hplain

theorem tracks_run : (run tryCount delay events).Tracks := by
  induction events using List.reverseRecOn with
  | nil => rfl
  | append_singleton events event ih =>
      rw [List.forall_mem_append] at hplain
      rw [run_concat]
      refine tracks_step ?_ ?_ (hplain.2 event List.mem_cons_self)
        (ih hplain.1)
      · rw [tryCount_run]
        exact hcount
      · rw [tryCount_run]
        exact hlength

theorem phase_run_eq_canceled_iff :
    (run tryCount delay events).phase = canceledPhase ↔
      Noticed tryCount delay events := by
  induction events using List.reverseRecOn with
  | nil =>
      constructor
      · intro hphase
        cases hphase
      · rintro ⟨before, event, hprefix, -⟩
        simp at hprefix
  | append_singleton events event ih =>
      rw [List.forall_mem_append] at hplain
      have htracks : (run tryCount delay events).Tracks :=
        tracks_run hcount hlength hplain.1
      rw [noticed_concat_iff, run_concat, ← ih hplain.1,
        ← isCanceled_run_iff tryCount delay events]
      refine phase_step_eq_canceled_iff ?_ ?_
        (hplain.2 event List.mem_cons_self) htracks
      · rw [tryCount_run]
        exact hcount
      · rw [tryCount_run]
        exact hlength

end Run

/-- A queue with as many tries as an array has places. -/
theorem meets_of_lt (tryCount delay : Nat) (hcount : 1 ≤ tryCount)
    (hlength : tryCount < 2 ^ 32) (events : List (QueueEvent V E))
    (hplain : ∀ event ∈ events, event.IsPlain) :
    Meets tryCount delay events := by
  have htracks : (run tryCount delay events).Tracks :=
    tracks_run hcount hlength hplain
  have hsame := tryCount_run tryCount delay events
  have hcanceled : (run tryCount delay events).phase = canceledPhase ↔
      Noticed tryCount delay events :=
    phase_run_eq_canceled_iff hcount hlength hplain
  refine ⟨?_, ?_, ?_, hcanceled, ?_, ?_, ?_⟩
  · exact Nat.le_trans htracks.executions_le (Nat.le_of_eq hsame)
  · intro before event _ hmem
    rw [run_concat]
    exact executions_step_of_isCanceled
      ((isCanceled_run_iff tryCount delay before).2 hmem) event
  · intro value hmem
    exact htracks.resolved hmem
  · intro failures error hexecuted hall
    exact htracks.lastFailure hexecuted (hall.trans hsame.symm)
  · intro result hresult
    rcases htracks.cases with ⟨hphase, -⟩ |
      ⟨hphase | ⟨tryDelay, hphase⟩, -, -⟩ | ⟨hphase, -, -⟩ |
      ⟨value, failures, -, hexecuted, -, -⟩ |
      ⟨error, failures, -, hexecuted, -, hall⟩
    · rw [hphase] at hresult
      cases hresult
    · rw [hphase] at hresult
      cases hresult
    · rw [hphase] at hresult
      cases hresult
    · exact .inr (.inl (hcanceled.1 hphase))
    · left
      refine ⟨value, ?_⟩
      rw [hexecuted]
      exact List.mem_concat_self
    · right
      right
      rw [hexecuted, List.length_append, List.length_singleton, hall, hsame]
  · intro hanswers
    have hleft := answers_add_left_le
      (promiseQueueWithJittering tryCount delay) events
    change _ + (run tryCount delay events).left ≤ 2 * tryCount at hleft
    have hzero : (run tryCount delay events).left = 0 := by omega
    rw [left] at hzero
    cases hphase : (run tryCount delay events).phase with
    | ended result => exact ⟨result, rfl⟩
    | _ =>
        rw [hphase] at hzero
        dsimp only at hzero
        omega

/-- A failure, a delay, and a success. -/
theorem meets_secondTry :
    Meets 2 1000 ([.start, .elapsed, .settled (.rejected (.thrown 7)),
      .elapsed, .settled (.resolved 5)] : List (QueueEvent Nat Nat)) :=
  meets_of_lt 2 1000 (by decide) (by decide) _ (by
    intro event hmem error hevent
    rw [hevent] at hmem
    simp only [List.mem_cons, reduceCtorEq, QueueEvent.settled.injEq,
      Settled.rejected.injEq, List.not_mem_nil, or_false, or_self,
      false_or] at hmem
    exact ⟨7, hmem⟩)

/-- An array with too many places cannot be made, and no try is started. -/
theorem not_meets :
    ¬ ∀ (tryCount delay : Nat) (events : List (QueueEvent Nat Nat)),
      1 ≤ tryCount → (∀ event ∈ events, event.IsPlain) →
        Meets tryCount delay events := by
  intro hall
  have hmeets := hall 4294967296 1000 [.start] (by decide) (by
    intro event hmem error hevent
    rw [List.mem_singleton.1 hmem] at hevent
    cases hevent)
  have hended : (run 4294967296 1000 [.start] :
      PromiseQueue Nat Nat).phase = .ended (.rejected .invalidArrayLength) :=
    rfl
  rcases hmeets.otherwise _ hended with ⟨value, hvalue⟩ | hnoticed | hcount
  · cases hvalue
  · rw [← hmeets.canceled, hended] at hnoticed
    cases hnoticed
  · cases hcount

/-! ### The queue of a reconnect manager -/

/-- What the cluster manager sees of a queue. -/
def toReconnectManager (q : PromiseQueue V E) (nodeEndpoint : NodeEndpoint)
    (socket : Nat) : ReconnectManager where
  nodeEndpoint := nodeEndpoint
  isFinished := q.isCanceled
  triesLeft := q.tryDelays.length
  retry :=
    match q.phase with
    | .created => .waiting
    | .delaying _ => .waiting
    | .executing => .trying socket
    | .ended _ => .ended

/-- The caller of `start` cancels the manager of a queue that has ended. -/
def cancelEnded (q : PromiseQueue V E) : PromiseQueue V E :=
  match q.phase with
  | .ended _ => q.cancel
  | _ => q

theorem toReconnectManager_start (nodeEndpoint : NodeEndpoint)
    (socket : Nat) :
    (run ReconnectManager.tryCount 1000 [.start] :
      PromiseQueue V E).toReconnectManager nodeEndpoint socket =
        .start nodeEndpoint :=
  rfl

theorem toReconnectManager_cancel (q : PromiseQueue V E)
    (nodeEndpoint : NodeEndpoint) (socket : Nat) :
    q.cancel.toReconnectManager nodeEndpoint socket =
      (q.toReconnectManager nodeEndpoint socket).cancel :=
  rfl

/-- A failing try of the queue is one of the manager. -/
theorem toReconnectManager_settle {q : PromiseQueue V E}
    (hphase : q.phase = .executing) (error : E)
    (nodeEndpoint : NodeEndpoint) (socket : Nat) :
    (q.settle (.rejected (.thrown error))).cancelEnded.toReconnectManager
        nodeEndpoint socket =
      (q.toReconnectManager nodeEndpoint socket).tryFailed := by
  rw [settle, hphase]
  dsimp only
  rw [catchError.eq_def]
  dsimp only
  cases hdelays : q.tryDelays with
  | nil =>
      rw [nextTry, ReconnectManager.tryFailed, if_pos (.inr (by
        rw [toReconnectManager, hdelays]
        rfl))]
      simp [afterLoop, reject, cancelEnded, cancel, toReconnectManager,
        ReconnectManager.cancel, hdelays]
  | cons tryDelay tryDelays =>
      rw [nextTry_cons rfl, ReconnectManager.tryFailed]
      cases hcanceled : q.isCanceled with
      | true =>
          simp [breakLoop, afterLoop, reject, cancelEnded, cancel,
            toReconnectManager, ReconnectManager.cancel, hdelays, hcanceled]
      | false =>
          simp [cancelEnded, toReconnectManager, hdelays, hcanceled]

end PromiseQueue

end SamaServer
