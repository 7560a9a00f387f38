/-
Programs that do more than others.  A program on a large state refines one on
a part of it when that part changes in the same way and the results agree.
-/
import SamaServer.Fallible

namespace SamaServer

universe u v w

namespace Fallible

variable {L M : Type u} {S T : Type v} {E A B C D : Type w}

/-! ### Sequences -/

theorem exec_bind_assoc (program : Fallible L S E A)
    (rest : A → Fallible L S E B) (last : B → Fallible L S E C) (state : S) :
    (program >>= rest >>= last).exec state =
      (program >>= fun result => rest result >>= last).exec state := by
  rcases hexec : program.exec state with ⟨outcome, after⟩
  cases outcome with
  | ok result =>
      rw [exec_bind (program >>= rest), exec_bind_ok hexec rest,
        exec_bind_ok hexec, exec_bind (rest result)]
  | error error =>
      rw [exec_bind_error hexec,
        exec_bind_error (exec_bind_error hexec rest)]

theorem exec_bind_congr {program : Fallible L S E A}
    {rest others : A → Fallible L S E B}
    (hrest : ∀ result state,
      (rest result).exec state = (others result).exec state) (state : S) :
    (program >>= rest).exec state = (program >>= others).exec state := by
  rcases hexec : program.exec state with ⟨outcome, after⟩
  cases outcome with
  | ok result => rw [exec_bind_ok hexec, exec_bind_ok hexec, hrest]
  | error error => rw [exec_bind_error hexec, exec_bind_error hexec]

/-! ### Refinement -/

/-- What can be seen of the program is what the other program does; `f` says
what can be seen of a result. -/
def Refines (view : S → T) (f : A → B) (program : Fallible L S E A)
    (other : Fallible M T E B) : Prop :=
  ∀ state, ((program.exec state).1.map f, view (program.exec state).2) =
    other.exec (view state)

variable {view : S → T} {f : A → B} {g : C → D}

theorem refines_pure (result : A) :
    Refines view f (pure result : Fallible L S E A)
      (pure (f result) : Fallible M T E B) := fun _ => rfl

theorem refines_throw (error : E) :
    Refines view f (throw error : Fallible L S E A)
      (throw error : Fallible M T E B) := fun _ => rfl

/-- The parts of a sequence can be refined one by one. -/
theorem refines_bind {program : Fallible L S E A}
    {other : Fallible M T E B} {rest : A → Fallible L S E C}
    {others : B → Fallible M T E D} (hprogram : Refines view f program other)
    (hrest : ∀ result, Refines view g (rest result) (others (f result))) :
    Refines view g (program >>= rest) (other >>= others) := by
  intro state
  have hfirst := hprogram state
  rcases hexec : program.exec state with ⟨outcome, after⟩
  rw [hexec] at hfirst
  cases outcome with
  | ok result =>
      rw [exec_bind_ok hexec, exec_bind_ok hfirst.symm]
      exact hrest result after
  | error error =>
      rw [exec_bind_error hexec, exec_bind_error hfirst.symm]
      rfl

/-- A result that is rewritten into another with the same look. -/
theorem Refines.bind_pure {program : Fallible L S E A}
    {other : Fallible M T E B} (hprogram : Refines view f program other)
    {k : A → C} {h : C → B} (hlook : ∀ result, h (k result) = f result) :
    Refines view h (program >>= fun result => pure (k result)) other := by
  intro state
  rw [← hprogram state, exec_bind]
  cases (program.exec state).1 with
  | ok result => exact Prod.ext (congrArg Except.ok (hlook result)) rfl
  | error error => rfl

/-- Programs that do the same are refined by the same programs. -/
theorem Refines.congr {program : Fallible L S E A}
    {other another : Fallible M T E B} (hprogram : Refines view f program other)
    (hsame : ∀ state, other.exec state = another.exec state) :
    Refines view f program another :=
  fun state => (hprogram state).trans (hsame _)

/-- What can be seen of the state after a program. -/
theorem Refines.view_exec {program : Fallible L S E A}
    {other : Fallible M T E B} (hprogram : Refines view f program other)
    (state : S) :
    view (program.exec state).2 = (other.exec (view state)).2 :=
  congrArg Prod.snd (hprogram state)

/-- The program succeeds if and only if the other one does. -/
theorem Refines.isOk_exec {program : Fallible L S E A}
    {other : Fallible M T E B} (hprogram : Refines view f program other)
    (state : S) :
    (program.exec state).1.isOk = (other.exec (view state)).1.isOk := by
  rw [← hprogram state]
  cases (program.exec state).1 <;> rfl

end Fallible

end SamaServer
