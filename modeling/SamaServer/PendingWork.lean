/-
What holds once all programs in flight have finished.  A fact that no program
destroys, and that some program in flight is bound to establish, holds at the
end of every schedule; a run that passes through phases is followed phase by
phase.
-/
import SamaServer.Async

namespace SamaServer

universe u v w

namespace Async

variable {L : Type u} {S : Type v} {A B : Type w} {I Q : S → Prop}

/-- As long as `I` holds before each step, some step of the program brings
`Q` about. -/
def Establishes (I Q : S → Prop) : Async L S A → Prop
  | done _ => False
  | step _ effect next =>
      ∀ state, I state → Q (effect state) ∨ (next state).Establishes I Q

theorem establishes_atomic {label : L} {action : S → A × S}
    (haction : ∀ state, I state → Q (action state).2) :
    (atomic label action).Establishes I Q :=
  fun state hstate => .inl (haction state hstate)

theorem Establishes.bind {program : Async L S A}
    (hprogram : program.Establishes I Q) (rest : A → Async L S B) :
    (program >>= rest).Establishes I Q := by
  induction program with
  | done result => exact hprogram.elim
  | step label effect next ih =>
      intro state hstate
      rcases hprogram state hstate with hnow | hlater
      · exact .inl hnow
      · exact .inr (ih state hlater)

theorem establishes_bind {program : Async L S A} {R : A → Prop}
    {rest : A → Async L S B} (hprogram : program.Ensures I R)
    (hrest : ∀ result, R result → (rest result).Establishes I Q) :
    (program >>= rest).Establishes I Q := by
  induction program with
  | done result => exact hrest result hprogram
  | step label effect next ih =>
      intro state hstate
      exact .inr (ih state (hprogram state hstate).2)

/-- The last part of a program brings about what it brings about alone. -/
theorem establishes_bind_rest {program : Async L S A}
    {rest : A → Async L S B}
    (hrest : ∀ result, (rest result).Establishes I Q) :
    (program >>= rest).Establishes I Q := by
  induction program with
  | done result => exact hrest result
  | step label effect next ih =>
      intro state _
      exact .inr (ih state)

end Async

namespace System

variable {T : Type w} {L : Type u} {S : Type v}

/-- A list of positions read as ticks. -/
def ticks (schedule : List Nat) : List (Event T L S) :=
  schedule.map Event.tick

/-- Whatever schedule admitted by `P` runs all programs in flight to their
ends, the final state satisfies `C`. -/
def Promises (P : System T L S → Event T L S → Prop) (C : S → Prop)
    (system : System T L S) : Prop :=
  ∀ schedule, Along P system (ticks schedule) →
    (system.run (ticks schedule)).Quiescent →
    C (system.run (ticks schedule)).state

variable {P : System T L S → Event T L S → Prop} {C D : S → Prop}
  {system : System T L S}

theorem Promises.and (hfirst : Promises P C system)
    (hsecond : Promises P D system) :
    Promises P (fun state => C state ∧ D state) system :=
  fun schedule hadmitted hquiescent =>
    ⟨hfirst schedule hadmitted hquiescent,
      hsecond schedule hadmitted hquiescent⟩

theorem Promises.mono (hpromise : Promises P C system)
    (hmono : ∀ state, C state → D state) : Promises P D system :=
  fun schedule hadmitted hquiescent =>
    hmono _ (hpromise schedule hadmitted hquiescent)

/-- The rule for one phase of a run: the phase is never the last one, and each
admitted tick stays in it or leads to a system that keeps the promise. -/
theorem promises_of_phase {F : System T L S → Prop}
    (hopen : ∀ system, F system → ¬ system.Quiescent)
    (hstep : ∀ system index, F system → P system (.tick index) →
      F (system.tick index) ∨ Promises P C (system.tick index))
    (hphase : F system) : Promises P C system := by
  intro schedule
  induction schedule generalizing system with
  | nil =>
      intro _ hquiescent
      exact absurd hquiescent (hopen system hphase)
  | cons index schedule ih =>
      rintro ⟨hadmitted, hlater⟩ hquiescent
      rcases hstep system index hphase hadmitted with hsame | hpromise
      · exact ih hsame hlater hquiescent
      · exact hpromise schedule hlater hquiescent

/-- `Q` holds or some program in flight is bound to bring it about, and no
step destroys it. -/
structure Settling (I Q : S → Prop) (system : System T L S) : Prop where
  invariant : I system.state
  keeps : ∀ task ∈ system.tasks, task.body.Guarantees
    (fun _ before after => I before → I after ∧ (Q before → Q after))
  pending : Q system.state ∨
    ∃ task ∈ system.tasks, task.body.Establishes I Q

variable {I Q : S → Prop}

theorem Settling.tick (hsettling : Settling I Q system) (index : Nat) :
    Settling I Q (system.tick index) := by
  rcases system.tick_cases index with hsame | ⟨tag, label, effect, next,
    hfound, htick⟩
  · rw [hsame]
    exact hsettling
  have hmem := List.mem_of_getElem? hfound
  obtain ⟨hstep, hnext⟩ := hsettling.keeps _ hmem system.state
  obtain ⟨hinvariant, hstable⟩ := hstep hsettling.invariant
  rw [htick]
  refine ⟨hinvariant, forall_mem_set hsettling.keeps hnext, ?_⟩
  rcases hsettling.pending with hholds | ⟨task, htask, hestablishes⟩
  · exact .inl (hstable hholds)
  obtain ⟨other, hother⟩ := List.getElem?_of_mem htask
  by_cases hindex : other = index
  · -- the program that is bound to bring `Q` about has moved
    subst hindex
    rw [hfound, Option.some.injEq] at hother
    subst hother
    rcases hestablishes system.state hsettling.invariant with hnow | hlater
    · exact .inl hnow
    · exact .inr ⟨_, List.mem_set (List.getElem?_eq_some_iff.1 hfound).1 _,
        hlater⟩
  · have hkept : (system.tasks.set index ⟨tag, next system.state⟩)[other]? =
        some task := by
      rw [List.getElem?_set_ne (Ne.symm hindex)]
      exact hother
    exact .inr ⟨task, List.mem_of_getElem? hkept, hestablishes⟩

theorem Settling.promises (hsettling : Settling I Q system) :
    Promises P Q system := by
  intro schedule
  induction schedule generalizing system with
  | nil =>
      intro _ hquiescent
      rcases hsettling.pending with hholds | ⟨task, htask, hestablishes⟩
      · exact hholds
      · have hfinished := hquiescent task htask
        cases hbody : task.body with
        | done result =>
            rw [hbody] at hestablishes
            exact hestablishes.elim
        | step label effect next =>
            rw [hbody] at hfinished
            cases hfinished
  | cons index schedule ih =>
      rintro ⟨-, hlater⟩ hquiescent
      exact ih (hsettling.tick index) hlater hquiescent

end System

end SamaServer
