/-
Pre- and postconditions of programs that can throw.  A program that starts
where the precondition holds ends with a result of which the postcondition
holds, or with an error in a state of which another condition holds.
-/
import SamaServer.Fallible

namespace SamaServer

universe u v w

namespace Fallible

variable {L : Type u} {S : Type v} {E A B : Type w}
  {P : S → Prop} {Q : A → S → Prop} {F : S → Prop}

/-- `P` before the program, `Q` after a result and `F` after an error. -/
def Triple (P : S → Prop) (program : Fallible L S E A) (Q : A → S → Prop)
    (F : S → Prop) : Prop :=
  ∀ state, P state →
    match (program.exec state).1 with
    | .ok result => Q result (program.exec state).2
    | .error _ => F (program.exec state).2

theorem triple_pure {result : A} (hresult : ∀ state, P state →
    Q result state) : Triple P (pure result : Fallible L S E A) Q F :=
  hresult

theorem triple_throw {error : E} (herror : ∀ state, P state → F state) :
    Triple P (throw error : Fallible L S E A) Q F :=
  herror

theorem triple_command {label : L} {action : S → Except E A × S}
    (haction : ∀ state, P state →
      match (action state).1 with
      | .ok result => Q result (action state).2
      | .error _ => F (action state).2) :
    Triple P (command label action) Q F :=
  haction

/-- A step that leaves the state as it is. -/
theorem triple_query {label : L} {answer : S → Except E A}
    (hresult : ∀ state result, P state → answer state = .ok result →
      Q result state)
    (herror : ∀ state, P state → F state) :
    Triple P (command label (fun state => (answer state, state))) Q F := by
  intro state hstate
  rw [exec_command]
  dsimp only
  cases hanswer : answer state with
  | ok result => exact hresult state result hstate hanswer
  | error error => exact herror state hstate

theorem triple_ofExcept {outcome : Except E A}
    (hresult : ∀ state result, P state → outcome = .ok result →
      Q result state)
    (herror : ∀ state, P state → F state) :
    Triple P (ofExcept outcome : Fallible L S E A) Q F := by
  intro state hstate
  rw [exec_ofExcept]
  cases outcome with
  | ok result => exact hresult state result hstate rfl
  | error error => exact herror state hstate

/-- A program that only reads. -/
theorem triple_readOnly {program : Fallible L S E A}
    (hprogram : program.ReadOnly)
    (hresult : ∀ state result, P state →
      program.exec state = (.ok result, state) → Q result state)
    (herror : ∀ state, P state → F state) : Triple P program Q F := by
  intro state hstate
  have hsame := hprogram state
  cases hexec : (program.exec state).1 with
  | ok result =>
      rw [hsame]
      exact hresult state result hstate (Prod.ext hexec hsame)
  | error error =>
      rw [hsame]
      exact herror state hstate

theorem triple_bind {R : B → S → Prop} {program : Fallible L S E A}
    {rest : A → Fallible L S E B} (hprogram : Triple P program Q F)
    (hrest : ∀ result, Triple (Q result) (rest result) R F) :
    Triple P (program >>= rest) R F := by
  intro state hstate
  have hfirst := hprogram state hstate
  rw [exec_bind]
  cases hexec : (program.exec state).1 with
  | ok result =>
      rw [hexec] at hfirst
      exact hrest result _ hfirst
  | error error =>
      rw [hexec] at hfirst
      exact hfirst

theorem Triple.weaken {P' : S → Prop} {Q' : A → S → Prop}
    {program : Fallible L S E A} (hprogram : Triple P program Q F)
    (hbefore : ∀ state, P' state → P state)
    (hafter : ∀ result state, Q result state → Q' result state) :
    Triple P' program Q' F := by
  intro state hstate
  have hold := hprogram state (hbefore state hstate)
  cases hexec : (program.exec state).1 with
  | ok result =>
      rw [hexec] at hold
      exact hafter result _ hold
  | error error =>
      rw [hexec] at hold
      exact hold

/-- A fact that does not depend on the state may be assumed. -/
theorem triple_and_pure {h : Prop} {program : Fallible L S E A}
    (hprogram : h → Triple P program Q F) :
    Triple (fun state => h ∧ P state) program Q F := by
  intro state hstate
  exact hprogram hstate.1 state hstate.2

/-- What holds after a result and after an error holds after the program. -/
theorem Triple.exec {program : Fallible L S E A} {state : S}
    (hprogram : Triple P program (fun _ => F) F) (hstate : P state) :
    F (program.exec state).2 := by
  have hafter := hprogram state hstate
  cases hexec : (program.exec state).1 with
  | ok result =>
      rw [hexec] at hafter
      exact hafter
  | error error =>
      rw [hexec] at hafter
      exact hafter

end Fallible

end SamaServer
