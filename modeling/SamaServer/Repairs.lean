/-
Facts that programs break for a while.  A program that breaks a fact goes on
to bring it about again, provided its steps come at a time the schedule
allows; so all facts hold whenever no program is in flight.
-/
import SamaServer.RelyGuarantee

namespace SamaServer

universe u v w x

namespace Async

variable {L : Type u} {S : Type v} {A B : Type w} {D : Type x}
  {C : L → S → Prop} {I : S → Prop}

/-- As long as `I` holds and `C` allows each step, some step of the program
brings `Q` about. -/
def Repairs (C : L → S → Prop) (I Q : S → Prop) : Async L S A → Prop
  | done _ => False
  | step label effect next =>
      ∀ state, I state → C label state →
        Q (effect state) ∨ (next state).Repairs C I Q

/-- Every step that `C` allows keeps `I`, and the rest of the program repairs
what the step breaks of the facts `Q`. -/
def Answers (C : L → S → Prop) (I : S → Prop) (Q : D → S → Prop) :
    Async L S A → Prop
  | done _ => True
  | step label effect next =>
      ∀ state, I state → C label state →
        I (effect state) ∧
        (∀ d, Q d state →
          Q d (effect state) ∨ (next state).Repairs C I (Q d)) ∧
        (next state).Answers C I Q

theorem Repairs.bind {Q : S → Prop} {program : Async L S A}
    (hprogram : program.Repairs C I Q) (rest : A → Async L S B) :
    (program >>= rest).Repairs C I Q := by
  induction program with
  | done result => exact hprogram.elim
  | step label effect next ih =>
      intro state hstate hallowed
      rcases hprogram state hstate hallowed with hnow | hlater
      · exact .inl hnow
      · exact .inr (ih state hlater)

theorem answers_bind {Q : D → S → Prop} {program : Async L S A}
    {rest : A → Async L S B} (hprogram : program.Answers C I Q)
    (hrest : ∀ result, (rest result).Answers C I Q) :
    (program >>= rest).Answers C I Q := by
  induction program with
  | done result => exact hrest result
  | step label effect next ih =>
      intro state hstate hallowed
      obtain ⟨hkeeps, hbreaks, hnext⟩ := hprogram state hstate hallowed
      refine ⟨hkeeps, fun d hd => ?_, ih state hnext⟩
      rcases hbreaks d hd with hstill | hrepairs
      · exact .inl hstill
      · exact .inr (hrepairs.bind rest)

/-- A step that only reads. -/
theorem answers_read {Q : D → S → Prop} {label : L} {answer : S → A}
    {rest : A → Async L S B}
    (hrest : ∀ state, I state → (rest (answer state)).Answers C I Q) :
    (atomic label (fun state => (answer state, state)) >>=
      rest).Answers C I Q :=
  fun state hstate _ =>
    ⟨hstate, fun _ hd => .inl hd, hrest state hstate⟩

theorem repairs_read {Q : S → Prop} {label : L} {answer : S → A}
    {rest : A → Async L S B}
    (hrest : ∀ state, I state → (rest (answer state)).Repairs C I Q) :
    (atomic label (fun state => (answer state, state)) >>=
      rest).Repairs C I Q :=
  fun state hstate _ => .inr (hrest state hstate)

/-- A step that breaks nothing. -/
theorem answers_write {Q : D → S → Prop} {label : L} {effect : S → S}
    {result : A}
    (hkeeps : ∀ state, I state → C label state → I (effect state))
    (hholds : ∀ state, I state → C label state →
      ∀ d, Q d state → Q d (effect state)) :
    (atomic label (fun state => (result, effect state))).Answers C I Q :=
  fun state hstate hallowed =>
    ⟨hkeeps state hstate hallowed,
      fun d hd => .inl (hholds state hstate hallowed d hd), trivial⟩

end Async

namespace System

variable {T : Type w} {L : Type u} {S : Type v} {D : Type x}
  {C : L → S → Prop} {I : S → Prop} {Q : D → S → Prop}
  {system : System T L S}

/-- The next step of the task comes at a time `C` allows. -/
def Allowed (C : L → S → Prop) (system : System T L S) :
    Event T L S → Prop
  | .spawn _ => True
  | .tick index => ∀ label ∈ system.nextLabel? index, C label system.state

instance [∀ label state, Decidable (C label state)]
    (system : System T L S) (event : Event T L S) :
    Decidable (Allowed C system event) :=
  match event with
  | .spawn _ => inferInstanceAs (Decidable True)
  | .tick _ => inferInstanceAs (Decidable (∀ label ∈ _, _))

theorem Along.of_append {P : System T L S → Event T L S → Prop}
    {done rest : List (Event T L S)} (hruns : Along P system (done ++ rest)) :
    Along P system done := by
  induction done generalizing system with
  | nil => trivial
  | cons event done ih => exact ⟨hruns.1, ih hruns.2⟩

/-- The event starts no program but those that repair what they break. -/
def StartsAnswering (C : L → S → Prop) (I : S → Prop) (Q : D → S → Prop) :
    Event T L S → Prop
  | .spawn task => task.body.Answers C I Q
  | .tick _ => True

/-- Each fact holds or is about to be repaired. -/
structure Answered (C : L → S → Prop) (I : S → Prop) (Q : D → S → Prop)
    (system : System T L S) : Prop where
  invariant : I system.state
  answers : ∀ task ∈ system.tasks, task.body.Answers C I Q
  pending : ∀ d, Q d system.state ∨
    ∃ task ∈ system.tasks, task.body.Repairs C I (Q d)

theorem Answered.spawn (hanswered : Answered C I Q system)
    {task : Task T L S} (htask : task.body.Answers C I Q) :
    Answered C I Q (system.spawn task) := by
  refine ⟨hanswered.invariant, ?_, fun d => ?_⟩
  · intro other hother
    rcases List.mem_append.1 hother with hold | hnew
    · exact hanswered.answers other hold
    · rw [List.mem_singleton.1 hnew]
      exact htask
  · rcases hanswered.pending d with hholds | ⟨other, hother, hrepairs⟩
    · exact .inl hholds
    · exact .inr ⟨other, List.mem_append_left _ hother, hrepairs⟩

theorem Answered.tick (hanswered : Answered C I Q system) {index : Nat}
    (hallowed : Allowed C system (.tick index)) :
    Answered C I Q (system.tick index) := by
  rcases system.tick_cases index with hsame | ⟨tag, label, effect, next,
    hfound, -⟩
  · rw [hsame]
    exact hanswered
  have hlabel := hallowed label (nextLabel?_of_found hfound)
  have hmoved := List.mem_of_getElem? (getElem?_tick_self hfound)
  obtain ⟨hinvariant, hbreaks, hnext⟩ :=
    hanswered.answers _ (List.mem_of_getElem? hfound) system.state
      hanswered.invariant hlabel
  refine ⟨?_, ?_, fun d => ?_⟩
  · rw [state_tick hfound]
    exact hinvariant
  · rw [tasks_tick hfound]
    exact forall_mem_set hanswered.answers hnext
  rw [state_tick hfound]
  rcases hanswered.pending d with hholds | ⟨task, htask, hrepairs⟩
  · rcases hbreaks d hholds with hstill | hrest
    · exact .inl hstill
    · exact .inr ⟨_, hmoved, hrest⟩
  obtain ⟨other, hother⟩ := List.getElem?_of_mem htask
  by_cases hindex : other = index
  · -- the program that is about to repair the fact has moved
    subst hindex
    rw [hfound, Option.some.injEq] at hother
    subst hother
    rcases hrepairs system.state hanswered.invariant hlabel with hnow | hrest
    · exact .inl hnow
    · exact .inr ⟨_, hmoved, hrest⟩
  · rw [← getElem?_tick_of_ne hfound hindex] at hother
    exact .inr ⟨task, List.mem_of_getElem? hother, hrepairs⟩

/-- Whenever no program is in flight, all facts hold. -/
theorem Answered.settled (hanswered : Answered C I Q system)
    (hquiescent : system.Quiescent) (d : D) : Q d system.state := by
  rcases hanswered.pending d with hholds | ⟨task, htask, hrepairs⟩
  · exact hholds
  · have hfinished := hquiescent task htask
    cases hbody : task.body with
    | done result =>
        rw [hbody] at hrepairs
        exact hrepairs.elim
    | step label effect next =>
        rw [hbody] at hfinished
        cases hfinished

/-- Runs of programs that repair what they break, all of whose steps come at
a time `C` allows. -/
theorem answered_run {events : List (Event T L S)}
    (hanswered : Answered C I Q system)
    (hstarts : ∀ event ∈ events, StartsAnswering C I Q event)
    (hallowed : Along (Allowed C) system events) :
    Answered C I Q (system.run events) := by
  induction events generalizing system with
  | nil => exact hanswered
  | cons event events ih =>
      have hlater := fun other hother =>
        hstarts other (List.mem_cons_of_mem event hother)
      have hstart := hstarts event List.mem_cons_self
      refine ih ?_ hlater hallowed.2
      cases event with
      | spawn task => exact hanswered.spawn hstart
      | tick index => exact hanswered.tick hallowed.1

theorem answered_start {state : S} (hstate : I state)
    (hfacts : ∀ d, Q d state) :
    Answered C I Q (start state : System T L S) :=
  ⟨hstate, by simp [start], fun d => .inl (hfacts d)⟩

end System

end SamaServer
