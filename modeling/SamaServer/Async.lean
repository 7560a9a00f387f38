/-
Asynchronous programs over a shared state.  A program is a finite tree of
atomic steps; between two steps every other program may run.  The same tree is
read in two ways: `Async.run` executes it without interruption, and a `System`
interleaves the trees of its tasks one step at a time.
-/
import Mathlib.Data.List.Basic

namespace SamaServer

universe u v w

/-- A program that suspends before each of its atomic steps.  A step carries
a label that says what it does, changes the shared state, and continues with
what it saw of the state just before the change. -/
inductive Async (L : Type u) (S : Type v) (A : Type w) : Type (max u v w)
  | done (result : A)
  | step (label : L) (effect : S → S) (next : S → Async L S A)

namespace Async

variable {L : Type u} {S : Type v} {A B : Type w}

def bind : Async L S A → (A → Async L S B) → Async L S B
  | done result, rest => rest result
  | step label effect next, rest =>
      step label effect (fun state => (next state).bind rest)

instance : Monad (Async L S) where
  pure := done
  bind := bind

@[simp] theorem pure_eq_done (result : A) :
    (pure result : Async L S A) = done result := rfl

@[simp] theorem done_bind (result : A) (rest : A → Async L S B) :
    (done result >>= rest) = rest result := rfl

@[simp] theorem step_bind (label : L) (effect : S → S)
    (next : S → Async L S A) (rest : A → Async L S B) :
    (step label effect next >>= rest) =
      step label effect (fun state => next state >>= rest) := rfl

theorem bind_assoc {C : Type w} (program : Async L S A)
    (middle : A → Async L S B) (last : B → Async L S C) :
    (program >>= middle >>= last) =
      (program >>= fun result => middle result >>= last) := by
  induction program with
  | done result => rfl
  | step label effect next ih =>
      simp only [step_bind]
      congr 1
      funext state
      exact ih state

/-- One atomic step that answers with a value. -/
def atomic (label : L) (action : S → A × S) : Async L S A :=
  step label (fun state => (action state).2)
    (fun state => done (action state).1)

/-- The label of the step the program is about to take. -/
def head? : Async L S A → Option L
  | done _ => none
  | step label _ _ => some label

def finished (program : Async L S A) : Bool := program.head?.isNone

/-- Execute the whole program with no other program in between. -/
def run : Async L S A → S → A × S
  | done result, state => (result, state)
  | step _ effect next, state => (next state).run (effect state)

@[simp] theorem run_done (result : A) (state : S) :
    (done result : Async L S A).run state = (result, state) := rfl

@[simp] theorem run_bind (program : Async L S A) (rest : A → Async L S B)
    (state : S) :
    (program >>= rest).run state =
      (rest (program.run state).1).run (program.run state).2 := by
  induction program generalizing state with
  | done result => rfl
  | step label effect next ih => exact ih state (effect state)

/-- Every atomic step changes the state only as `G` allows for its label,
whatever the other programs do in between. -/
def Guarantees (G : L → S → S → Prop) : Async L S A → Prop
  | done _ => True
  | step label effect next =>
      ∀ state, G label state (effect state) ∧ (next state).Guarantees G

theorem guarantees_atomic {G : L → S → S → Prop} {label : L}
    {action : S → A × S}
    (haction : ∀ state, G label state (action state).2) :
    (atomic label action).Guarantees G :=
  fun state => ⟨haction state, trivial⟩

theorem guarantees_bind {G : L → S → S → Prop} {program : Async L S A}
    {rest : A → Async L S B} (hprogram : program.Guarantees G)
    (hrest : ∀ result, (rest result).Guarantees G) :
    (program >>= rest).Guarantees G := by
  induction program with
  | done result => exact hrest result
  | step label effect next ih =>
      intro state
      exact ⟨(hprogram state).1, ih state (hprogram state).2⟩

theorem Guarantees.mono {G H : L → S → S → Prop} {program : Async L S A}
    (hprogram : program.Guarantees G)
    (hmono : ∀ label before after, G label before after →
      H label before after) :
    program.Guarantees H := by
  induction program with
  | done result => trivial
  | step label effect next ih =>
      intro state
      exact ⟨hmono _ _ _ (hprogram state).1, ih state (hprogram state).2⟩

/-- What every step guarantees, the whole execution guarantees. -/
theorem Guarantees.run {G : L → S → S → Prop} {H : S → S → Prop}
    (hstep : ∀ label before after, G label before after → H before after)
    (hrefl : ∀ state, H state state)
    (htrans : ∀ first second third, H first second → H second third →
      H first third)
    {program : Async L S A} (hprogram : program.Guarantees G) (state : S) :
    H state (program.run state).2 := by
  induction program generalizing state with
  | done result => exact hrefl state
  | step label effect next ih =>
      exact htrans _ _ _ (hstep _ _ _ (hprogram state).1)
        (ih state (hprogram state).2 (effect state))

/-- As long as `I` holds before each step it holds after it, and the result
satisfies `Q`.  Other programs may run in between if they too keep `I`. -/
def Ensures (I : S → Prop) (Q : A → Prop) : Async L S A → Prop
  | done result => Q result
  | step _ effect next =>
      ∀ state, I state → I (effect state) ∧ (next state).Ensures I Q

/-- The program keeps `I`, whatever it returns. -/
def Keeps (I : S → Prop) (program : Async L S A) : Prop :=
  program.Ensures I (fun _ => True)

theorem ensures_atomic {I : S → Prop} {Q : A → Prop} {label : L}
    {action : S → A × S}
    (haction : ∀ state, I state → I (action state).2 ∧ Q (action state).1) :
    (atomic label action).Ensures I Q :=
  haction

theorem ensures_bind {I : S → Prop} {R : A → Prop} {Q : B → Prop}
    {program : Async L S A} {rest : A → Async L S B}
    (hprogram : program.Ensures I R)
    (hrest : ∀ result, R result → (rest result).Ensures I Q) :
    (program >>= rest).Ensures I Q := by
  induction program with
  | done result => exact hrest result hprogram
  | step label effect next ih =>
      intro state hstate
      exact ⟨(hprogram state hstate).1, ih state (hprogram state hstate).2⟩

theorem keeps_bind {I : S → Prop} {program : Async L S A}
    {rest : A → Async L S B} (hprogram : program.Keeps I)
    (hrest : ∀ result, (rest result).Keeps I) :
    (program >>= rest).Keeps I :=
  ensures_bind hprogram (fun result _ => hrest result)

theorem Guarantees.keeps {G : L → S → S → Prop} {I : S → Prop}
    {program : Async L S A} (hprogram : program.Guarantees G)
    (hstable : ∀ label before after, G label before after → I before →
      I after) :
    program.Keeps I := by
  induction program with
  | done result => trivial
  | step label effect next ih =>
      intro state hstate
      exact ⟨hstable _ _ _ (hprogram state).1 hstate,
        ih state (hprogram state).2⟩

/-- From every point of the program whose next label is outside `D`, the rest
of the program keeps `I`.  No invariant is assumed on the way to that point:
what was read before it may be stale. -/
def KeepsOutside (D : L → Prop) (I : S → Prop) : Async L S A → Prop
  | done _ => True
  | step label effect next =>
      (¬ D label → (step label effect next).Keeps I) ∧
        ∀ state, (next state).KeepsOutside D I

theorem KeepsOutside.keeps {D : L → Prop} {I : S → Prop}
    {program : Async L S A} (hprogram : program.KeepsOutside D I)
    (hhead : ∀ label, program.head? = some label → ¬ D label) :
    program.Keeps I := by
  cases program with
  | done result => trivial
  | step label effect next => exact hprogram.1 (hhead label rfl)

theorem keepsOutside_atomic {D : L → Prop} {I : S → Prop} {label : L}
    {action : S → A × S}
    (haction : ¬ D label → ∀ state, I state → I (action state).2) :
    (atomic label action).KeepsOutside D I :=
  ⟨fun hlabel state hstate => ⟨haction hlabel state hstate, trivial⟩,
    fun _ => trivial⟩

theorem keepsOutside_bind {D : L → Prop} {I : S → Prop}
    {program : Async L S A} {rest : A → Async L S B}
    (hprogram : program.KeepsOutside D I)
    (hkeeps : ∀ result, (rest result).Keeps I)
    (hrest : ∀ result, (rest result).KeepsOutside D I) :
    (program >>= rest).KeepsOutside D I := by
  induction program with
  | done result => exact hrest result
  | step label effect next ih =>
      exact ⟨fun hlabel => keeps_bind (hprogram.1 hlabel) hkeeps,
        fun state => ih state (hprogram.2 state)⟩

theorem Guarantees.keepsOutside {G : L → S → S → Prop} {D : L → Prop}
    {I : S → Prop} {program : Async L S A} (hprogram : program.Guarantees G)
    (hstable : ∀ label before after, G label before after → I before →
      I after) :
    program.KeepsOutside D I := by
  induction program with
  | done result => trivial
  | step label effect next ih =>
      exact ⟨fun _ => Guarantees.keeps hprogram hstable,
        fun state => ih state (hprogram state).2⟩

/-- A program all of whose steps are in `D` has no point outside it. -/
theorem Guarantees.keepsOutside_of_inside {D : L → Prop} {I : S → Prop}
    {program : Async L S A}
    (hprogram : program.Guarantees (fun label _ _ => D label)) :
    program.KeepsOutside D I := by
  induction program with
  | done result => trivial
  | step label effect next ih =>
      refine ⟨fun hlabel state => absurd (hprogram state).1 hlabel,
        fun state => ih state (hprogram state).2⟩

/-- Whatever it reads, the program ends with a step described by `P`. -/
def EndsWith (P : L → (S → S) → Prop) : Async L S A → Prop
  | done _ => False
  | step label effect next =>
      (P label effect ∧ ∀ state, ∃ result, next state = done result) ∨
        ∀ state, (next state).EndsWith P

theorem endsWith_bind {P : L → (S → S) → Prop} {program : Async L S A}
    {rest : A → Async L S B} (hrest : ∀ result, (rest result).EndsWith P) :
    (program >>= rest).EndsWith P := by
  induction program with
  | done result => exact hrest result
  | step label effect next ih => exact .inr ih

theorem EndsWith.map {P : L → (S → S) → Prop} {program : Async L S A}
    (hprogram : program.EndsWith P) (f : A → B) :
    (program >>= fun result => done (f result)).EndsWith P := by
  induction program with
  | done result => exact hprogram
  | step label effect next ih =>
      rcases hprogram with ⟨hstep, hdone⟩ | hlater
      · refine .inl ⟨hstep, fun state => ?_⟩
        obtain ⟨result, hresult⟩ := hdone state
        refine ⟨f result, ?_⟩
        change (next state).bind _ = _
        rw [hresult]
        rfl
      · exact .inr (fun state => ih state (hlater state))

end Async

/-- A program in flight, with a tag that says what it was started for. -/
structure Task (T : Type w) (L : Type u) (S : Type v) where
  tag : T
  body : Async L S Unit

/-- The shared state, the programs in flight, and the labels of the steps
taken so far, each with the position of the task that took it. -/
structure System (T : Type w) (L : Type u) (S : Type v) where
  state : S
  tasks : List (Task T L S)
  trace : List (Nat × L)

/-- A scheduler either starts a program or lets one take its next step. -/
inductive Event (T : Type w) (L : Type u) (S : Type v)
  | spawn (task : Task T L S)
  | tick (index : Nat)

namespace System

variable {T : Type w} {L : Type u} {S : Type v}

def start (state : S) : System T L S := ⟨state, [], []⟩

def spawn (system : System T L S) (task : Task T L S) : System T L S :=
  { system with tasks := system.tasks ++ [task] }

/-- Let the task at a position take one step.  Nothing happens when there is
no such task or it has finished. -/
def tick (system : System T L S) (index : Nat) : System T L S :=
  match system.tasks[index]? with
  | some ⟨tag, .step label effect next⟩ =>
      { state := effect system.state
        tasks := system.tasks.set index ⟨tag, next system.state⟩
        trace := system.trace ++ [(index, label)] }
  | _ => system

def exec (system : System T L S) : Event T L S → System T L S
  | .spawn task => system.spawn task
  | .tick index => system.tick index

def run (system : System T L S) (events : List (Event T L S)) :
    System T L S :=
  events.foldl exec system

/-- The label of the step that a tick of the task would take. -/
def nextLabel? (system : System T L S) (index : Nat) : Option L :=
  system.tasks[index]?.bind (fun task => task.body.head?)

/-- Every program that was started has run to its end. -/
def Quiescent (system : System T L S) : Prop :=
  ∀ task ∈ system.tasks, task.body.finished = true

instance (system : System T L S) : Decidable system.Quiescent :=
  inferInstanceAs (Decidable (∀ task ∈ system.tasks,
    task.body.finished = true))

/-- `P` holds of the system and the event at every point of a run. -/
def Along (P : System T L S → Event T L S → Prop) :
    System T L S → List (Event T L S) → Prop
  | _, [] => True
  | system, event :: events =>
      P system event ∧ Along P (system.exec event) events

instance decidableAlong {P : System T L S → Event T L S → Prop}
    [∀ system event, Decidable (P system event)] :
    (system : System T L S) → (events : List (Event T L S)) →
      Decidable (Along P system events)
  | _, [] => inferInstanceAs (Decidable True)
  | system, event :: events =>
      have := decidableAlong (P := P) (system.exec event) events
      inferInstanceAs (Decidable (P system event ∧
        Along P (system.exec event) events))

/-- Invariant rule for the runs all of whose events are admitted by `P`. -/
theorem Along.invariant {P : System T L S → Event T L S → Prop}
    {I : System T L S → Prop}
    (hstep : ∀ system event, I system → P system event →
      I (system.exec event))
    {system : System T L S} {events : List (Event T L S)}
    (hinit : I system) (hruns : Along P system events) :
    I (system.run events) := by
  induction events generalizing system with
  | nil => exact hinit
  | cons event events ih =>
      exact ih (hstep system event hinit hruns.1) hruns.2

theorem along_of_forall {P : System T L S → Event T L S → Prop}
    {events : List (Event T L S)}
    (hevents : ∀ event ∈ events, ∀ system, P system event)
    (system : System T L S) : Along P system events := by
  induction events generalizing system with
  | nil => trivial
  | cons event events ih =>
      exact ⟨hevents event List.mem_cons_self system,
        ih (fun later hlater => hevents later
          (List.mem_cons_of_mem event hlater)) (system.exec event)⟩

theorem Along.and {P Q : System T L S → Event T L S → Prop}
    {system : System T L S} {events : List (Event T L S)}
    (hfirst : Along P system events) (hsecond : Along Q system events) :
    Along (fun system event => P system event ∧ Q system event) system
      events := by
  induction events generalizing system with
  | nil => trivial
  | cons event events ih =>
      exact ⟨⟨hfirst.1, hsecond.1⟩, ih hfirst.2 hsecond.2⟩

/-- Two conditions that agree on every state satisfying an invariant agree
along every run that keeps it. -/
theorem along_congr {P Q R : System T L S → Event T L S → Prop}
    {I : System T L S → Prop}
    (hstep : ∀ system event, I system → R system event →
      I (system.exec event))
    (hiff : ∀ system event, I system → R system event →
      (P system event ↔ Q system event))
    {system : System T L S} {events : List (Event T L S)}
    (hinit : I system) (hruns : Along R system events) :
    Along P system events ↔ Along Q system events := by
  induction events generalizing system with
  | nil => exact Iff.rfl
  | cons event events ih =>
      exact and_congr (hiff system event hinit hruns.1)
        (ih (hstep system event hinit hruns.1) hruns.2)

/-- A tick does nothing or takes the next step of one task. -/
theorem tick_cases (system : System T L S) (index : Nat) :
    system.tick index = system ∨
      ∃ tag label effect next,
        system.tasks[index]? = some ⟨tag, .step label effect next⟩ ∧
        system.tick index =
          { state := effect system.state
            tasks := system.tasks.set index ⟨tag, next system.state⟩
            trace := system.trace ++ [(index, label)] } := by
  rcases htask : system.tasks[index]? with _ | ⟨tag, body⟩
  · left
    simp [tick, htask]
  · cases body with
    | done result =>
        left
        simp [tick, htask]
    | step label effect next =>
        right
        exact ⟨tag, label, effect, next, rfl, by simp [tick, htask]⟩

/-- A tick without a next step does nothing. -/
theorem tick_of_nextLabel?_none {system : System T L S} {index : Nat}
    (hnone : system.nextLabel? index = none) : system.tick index = system := by
  rcases system.tick_cases index with hsame | ⟨tag, label, effect, next,
    htask, -⟩
  · exact hsame
  · rw [nextLabel?, htask] at hnone
    cases hnone

/-- A tick with a next step takes that step. -/
theorem tick_of_nextLabel? {system : System T L S} {index : Nat} {label : L}
    (hlabel : system.nextLabel? index = some label) :
    ∃ tag effect next,
      system.tasks[index]? = some ⟨tag, .step label effect next⟩ ∧
      system.tick index =
        { state := effect system.state
          tasks := system.tasks.set index ⟨tag, next system.state⟩
          trace := system.trace ++ [(index, label)] } := by
  rcases hfound : system.tasks[index]? with _ | ⟨tag, body⟩
  · rw [nextLabel?, hfound] at hlabel
    cases hlabel
  · cases body with
    | done result =>
        rw [nextLabel?, hfound] at hlabel
        cases hlabel
    | step own effect next =>
        rw [nextLabel?, hfound] at hlabel
        cases hlabel
        exact ⟨tag, effect, next, rfl, by simp [tick, hfound]⟩

/-- A property of single tasks survives a step when the task that moved has
it again. -/
theorem forall_mem_set {P : Task T L S → Prop} {tasks : List (Task T L S)}
    {index : Nat} {moved : Task T L S} (htasks : ∀ task ∈ tasks, P task)
    (hmoved : P moved) : ∀ task ∈ tasks.set index moved, P task := by
  intro task htask
  rcases List.mem_or_eq_of_mem_set htask with hold | rfl
  · exact htasks task hold
  · exact hmoved

theorem getElem?_set_cases {tasks : List (Task T L S)} {index other : Nat}
    {moved task : Task T L S}
    (htask : (tasks.set index moved)[other]? = some task) :
    (other = index ∧ task = moved) ∨
      (other ≠ index ∧ tasks[other]? = some task) := by
  by_cases hother : other = index
  · subst hother
    have hmem := List.mem_of_getElem? htask
    by_cases hlength : other < tasks.length
    · rw [List.getElem?_set_self hlength, Option.some.injEq] at htask
      exact .inl ⟨rfl, htask.symm⟩
    · rw [List.getElem?_eq_none (by simpa using hlength)] at htask
      cases htask
  · rw [List.getElem?_set_ne (Ne.symm hother)] at htask
    exact .inr ⟨hother, htask⟩

theorem getElem?_spawn_cases {system : System T L S} {index : Nat}
    {started task : Task T L S}
    (htask : (system.spawn started).tasks[index]? = some task) :
    system.tasks[index]? = some task ∨
      (index = system.tasks.length ∧ task = started) := by
  simp only [spawn, List.getElem?_append] at htask
  split at htask
  · exact .inl htask
  · next hlength =>
      obtain ⟨hindex, heq⟩ := List.getElem?_eq_some_iff.1 htask
      simp only [List.length_singleton] at hindex
      refine .inr ⟨by omega, ?_⟩
      simp at heq
      exact heq.symm

/-- A step that is taken is one that the task's guarantee allows. -/
theorem tick_guarantees {G : L → S → S → Prop} {system : System T L S}
    {index : Nat} {label : L} (hlabel : system.nextLabel? index = some label)
    (htasks : ∀ task ∈ system.tasks, task.body.Guarantees G) :
    G label system.state (system.tick index).state ∧
      ∀ task ∈ (system.tick index).tasks, task.body.Guarantees G := by
  obtain ⟨tag, effect, next, hfound, htick⟩ := tick_of_nextLabel? hlabel
  have hbody := htasks _ (List.mem_of_getElem? hfound) system.state
  rw [htick]
  exact ⟨hbody.1, forall_mem_set htasks hbody.2⟩

end System

end SamaServer
