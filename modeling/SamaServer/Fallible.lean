/-
Asynchronous programs that can throw.  A program ends with a result or with an
error; an error skips what follows, and what was written before it stays.
-/
import SamaServer.Async

namespace SamaServer

universe u v w

/-- A program whose result may be an error. -/
def Fallible (L : Type u) (S : Type v) (E : Type w) (A : Type w) :
    Type (max u v w) :=
  Async L S (Except E A)

namespace Fallible

variable {L : Type u} {S : Type v} {E A B : Type w}

/-- What follows a result, or the error itself. -/
def continueWith (rest : A → Fallible L S E B) :
    Except E A → Async L S (Except E B)
  | .ok result => rest result
  | .error error => .done (.error error)

instance : Monad (Fallible L S E) where
  pure result := Async.done (.ok result)
  bind program rest := Async.bind program (continueWith rest)

def throw (error : E) : Fallible L S E A := Async.done (.error error)

/-- An atomic step that may throw. -/
def command (label : L) (action : S → Except E A × S) : Fallible L S E A :=
  Async.atomic label action

/-- A value that was computed without a pause. -/
def ofExcept (result : Except E A) : Fallible L S E A := Async.done result

/-- Execute the whole program with no other program in between. -/
def exec (program : Fallible L S E A) (state : S) : Except E A × S :=
  Async.run program state

@[simp] theorem exec_pure (result : A) (state : S) :
    (pure result : Fallible L S E A).exec state = (.ok result, state) := rfl

@[simp] theorem exec_throw (error : E) (state : S) :
    (throw error : Fallible L S E A).exec state = (.error error, state) := rfl

@[simp] theorem exec_ofExcept (result : Except E A) (state : S) :
    (ofExcept result : Fallible L S E A).exec state = (result, state) := rfl

@[simp] theorem exec_command (label : L) (action : S → Except E A × S)
    (state : S) : (command label action).exec state = action state := rfl

/-- What follows a program is executed in the state it leaves. -/
theorem exec_bind (program : Fallible L S E A) (rest : A → Fallible L S E B)
    (state : S) :
    (program >>= rest).exec state =
      match (program.exec state).1 with
      | .ok result => (rest result).exec (program.exec state).2
      | .error error => (.error error, (program.exec state).2) := by
  have hsequence : (program >>= rest).exec state =
      Async.run (continueWith rest (program.exec state).1)
        (program.exec state).2 :=
    Async.run_bind (L := L) (A := Except E A) program (continueWith rest)
      state
  rw [hsequence]
  cases (program.exec state).1 with
  | ok result => rfl
  | error error => rfl

theorem exec_bind_ok {program : Fallible L S E A} {state after : S}
    {result : A} (hprogram : program.exec state = (.ok result, after))
    (rest : A → Fallible L S E B) :
    (program >>= rest).exec state = (rest result).exec after := by
  rw [exec_bind, hprogram]

theorem exec_bind_error {program : Fallible L S E A} {state after : S}
    {error : E} (hprogram : program.exec state = (.error error, after))
    (rest : A → Fallible L S E B) :
    (program >>= rest).exec state = (.error error, after) := by
  rw [exec_bind, hprogram]

@[simp] theorem exec_command_bind (label : L)
    (action : S → Except E A × S) (rest : A → Fallible L S E B) (state : S) :
    (command label action >>= rest).exec state =
      match (action state).1 with
      | .ok result => (rest result).exec (action state).2
      | .error error => (.error error, (action state).2) :=
  exec_bind (command label action) rest state

/-- A result that is only rewritten. -/
theorem exec_bind_pure_snd (program : Fallible L S E A) (f : A → B)
    (state : S) :
    ((program >>= fun result => pure (f result)).exec state).2 =
      (program.exec state).2 := by
  rw [exec_bind]
  cases (program.exec state).1 <;> rfl

/-- A sequence that ended with a result went through both parts. -/
theorem of_exec_bind_ok {program : Fallible L S E A}
    {rest : A → Fallible L S E B} {state after : S} {result : B}
    (hexec : (program >>= rest).exec state = (.ok result, after)) :
    ∃ middle between, program.exec state = (.ok middle, between) ∧
      (rest middle).exec between = (.ok result, after) := by
  rw [exec_bind] at hexec
  rcases hprogram : program.exec state with ⟨outcome, between⟩
  rw [hprogram] at hexec
  cases outcome with
  | ok middle => exact ⟨middle, between, rfl, hexec⟩
  | error error => cases hexec

/-- A sequence is related to its start when its parts are, the second part
only where the first ends with a result. -/
theorem exec_bind_related {R : S → S → Prop}
    (htrans : ∀ {first second third}, R first second → R second third →
      R first third) {program : Fallible L S E A}
    {rest : A → Fallible L S E B} {state : S}
    (hprogram : R state (program.exec state).2)
    (hrest : ∀ result after, program.exec state = (.ok result, after) →
      R after ((rest result).exec after).2) :
    R state ((program >>= rest).exec state).2 := by
  rw [exec_bind]
  rcases hexec : program.exec state with ⟨outcome, after⟩
  rw [hexec] at hprogram
  cases outcome with
  | ok result => exact htrans hprogram (hrest result after hexec)
  | error error => exact hprogram

/-! ### Programs that only read -/

/-- The program leaves the state as it finds it. -/
def ReadOnly (program : Fallible L S E A) : Prop :=
  ∀ state, (program.exec state).2 = state

theorem readOnly_pure (result : A) :
    (pure result : Fallible L S E A).ReadOnly := fun _ => rfl

theorem readOnly_throw (error : E) :
    (throw error : Fallible L S E A).ReadOnly := fun _ => rfl

theorem readOnly_ofExcept (result : Except E A) :
    (ofExcept result : Fallible L S E A).ReadOnly := fun _ => rfl

theorem readOnly_bind {program : Fallible L S E A}
    {rest : A → Fallible L S E B} (hprogram : program.ReadOnly)
    (hrest : ∀ result, (rest result).ReadOnly) :
    (program >>= rest).ReadOnly := by
  intro state
  have hsame := hprogram state
  rw [exec_bind]
  cases (program.exec state).1 with
  | ok result =>
      dsimp only
      rw [hsame]
      exact hrest result state
  | error error => exact hsame

/-- What follows a program and only reads leaves what that one left. -/
theorem exec_bind_snd_of_readOnly {program : Fallible L S E A}
    {rest : A → Fallible L S E B} (hrest : ∀ result, (rest result).ReadOnly)
    (state : S) :
    ((program >>= rest).exec state).2 = (program.exec state).2 := by
  rw [exec_bind]
  cases (program.exec state).1 with
  | ok result => exact hrest result _
  | error error => rfl

/-- What follows a program that only reads starts where that one did. -/
theorem ReadOnly.exec_bind_snd {P : S → Prop} {program : Fallible L S E A}
    {rest : A → Fallible L S E B} {state : S} (hprogram : program.ReadOnly)
    (hstate : P state)
    (hrest : ∀ result, program.exec state = (.ok result, state) →
      P ((rest result).exec state).2) :
    P ((program >>= rest).exec state).2 := by
  have hsame := hprogram state
  rw [exec_bind]
  rcases hexec : program.exec state with ⟨outcome, after⟩
  rw [hexec] at hsame
  cases hsame
  cases outcome with
  | ok result => exact hrest result hexec
  | error error => exact hstate

theorem ReadOnly.eq_of_exec {program : Fallible L S E A} {state after : S}
    {result : Except E A} (hprogram : program.ReadOnly)
    (hexec : program.exec state = (result, after)) : after = state := by
  have hsame := hprogram state
  rw [hexec] at hsame
  exact hsame

/-! ### Properties that a program keeps -/

/-- What holds of the state before the program holds after it. -/
def Preserves (P : S → Prop) (program : Fallible L S E A) : Prop :=
  ∀ state, P state → P (program.exec state).2

theorem ReadOnly.preserves {program : Fallible L S E A}
    (hprogram : program.ReadOnly) (P : S → Prop) : program.Preserves P := by
  intro state hstate
  rw [hprogram state]
  exact hstate

theorem preserves_bind {P : S → Prop} {program : Fallible L S E A}
    {rest : A → Fallible L S E B} (hprogram : program.Preserves P)
    (hrest : ∀ result, (rest result).Preserves P) :
    (program >>= rest).Preserves P := by
  intro state hstate
  have hbetween := hprogram state hstate
  rw [exec_bind]
  cases (program.exec state).1 with
  | ok result => exact hrest result _ hbetween
  | error error => exact hbetween

/-! ### The errors of a program -/

/-- Whatever state the program is executed in, an error satisfies `R`. -/
def Throws (R : E → Prop) (program : Fallible L S E A) : Prop :=
  ∀ state error after, program.exec state = (.error error, after) → R error

theorem throws_pure {R : E → Prop} (result : A) :
    (pure result : Fallible L S E A).Throws R := by
  rintro state error after ⟨⟩

theorem throws_throw {R : E → Prop} {error : E} (herror : R error) :
    (throw error : Fallible L S E A).Throws R := by
  rintro state _ after ⟨⟩
  exact herror

theorem throws_ofExcept {R : E → Prop} {result : Except E A}
    (hresult : ∀ error, result = .error error → R error) :
    (ofExcept result : Fallible L S E A).Throws R := by
  intro state error after hexec
  exact hresult error (congrArg Prod.fst hexec)

theorem throws_command {R : E → Prop} {label : L}
    {action : S → Except E A × S}
    (haction : ∀ state error, (action state).1 = .error error → R error) :
    (command label action).Throws R := by
  intro state error after hexec
  exact haction state error (congrArg Prod.fst hexec)

theorem throws_bind {R : E → Prop} {program : Fallible L S E A}
    {rest : A → Fallible L S E B} (hprogram : program.Throws R)
    (hrest : ∀ result, (rest result).Throws R) :
    (program >>= rest).Throws R := by
  intro state error after hexec
  rw [exec_bind] at hexec
  rcases hfirst : program.exec state with ⟨outcome, between⟩
  rw [hfirst] at hexec
  cases outcome with
  | ok result => exact hrest result between error after hexec
  | error thrown =>
      cases hexec
      exact hprogram state _ _ hfirst

/-! ### Programs that ask for a permission -/

/-- Without the permission the program fails and writes nothing. -/
def Demands (P : Prop) (program : Fallible L S E A) (state : S) : Prop :=
  P ∨ ∃ error, program.exec state = (.error error, state)

/-- What follows a check is not reached without the permission. -/
theorem Demands.bind {P : Prop} {program : Fallible L S E A} {state : S}
    (hdemands : program.Demands P state) (rest : A → Fallible L S E B) :
    (program >>= rest).Demands P state := by
  rcases hdemands with hpermitted | ⟨error, hexec⟩
  · exact Or.inl hpermitted
  · exact Or.inr ⟨error, exec_bind_error hexec rest⟩

/-- A check may come after a program that only reads. -/
theorem ReadOnly.demands_bind {P : Prop} {program : Fallible L S E A}
    {rest : A → Fallible L S E B} {state : S} (hprogram : program.ReadOnly)
    (hrest : ∀ result, (rest result).Demands P state) :
    (program >>= rest).Demands P state := by
  have hsame := hprogram state
  rcases hexec : program.exec state with ⟨outcome, after⟩
  rw [hexec] at hsame
  cases hsame
  cases outcome with
  | ok result =>
      rcases hrest result with hpermitted | ⟨error, herror⟩
      · exact Or.inl hpermitted
      · refine Or.inr ⟨error, ?_⟩
        rw [exec_bind_ok hexec, herror]
  | error error => exact Or.inr ⟨error, exec_bind_error hexec rest⟩

/-! ### Steps in any interleaving -/

/-- What all steps of a program guarantee, whatever other programs do in
between. -/
def Guarantees (G : S → S → Prop) (program : Fallible L S E A) : Prop :=
  Async.Guarantees (fun _ => G) program

theorem guarantees_pure {G : S → S → Prop} (result : A) :
    (pure result : Fallible L S E A).Guarantees G := trivial

theorem guarantees_throw {G : S → S → Prop} (error : E) :
    (throw error : Fallible L S E A).Guarantees G := trivial

theorem guarantees_ofExcept {G : S → S → Prop} (result : Except E A) :
    (ofExcept result : Fallible L S E A).Guarantees G := trivial

theorem guarantees_command {G : S → S → Prop} {label : L}
    {action : S → Except E A × S}
    (haction : ∀ state, G state (action state).2) :
    (command label action).Guarantees G :=
  Async.guarantees_atomic haction

theorem guarantees_bind {G : S → S → Prop} {program : Fallible L S E A}
    {rest : A → Fallible L S E B} (hprogram : program.Guarantees G)
    (hrest : ∀ result, (rest result).Guarantees G) :
    (program >>= rest).Guarantees G := by
  refine Async.guarantees_bind hprogram ?_
  intro result
  cases result with
  | ok result => exact hrest result
  | error error => trivial

theorem Guarantees.mono {G H : S → S → Prop} {program : Fallible L S E A}
    (hprogram : program.Guarantees G)
    (hmono : ∀ before after, G before after → H before after) :
    program.Guarantees H :=
  Async.Guarantees.mono hprogram (fun _ => hmono)

/-- What a program guarantees in the end, it guarantees as a whole. -/
theorem Guarantees.exec {G : S → S → Prop} (hrefl : ∀ state, G state state)
    (htrans : ∀ first second third, G first second → G second third →
      G first third) {program : Fallible L S E A}
    (hprogram : program.Guarantees G) (state : S) :
    G state (program.exec state).2 :=
  Async.Guarantees.run (G := fun _ => G) (H := G) (fun _ _ _ hstep => hstep)
    hrefl htrans hprogram state

/-- Whatever other programs do in between, a result satisfies `R`. -/
def Returns (R : A → Prop) (program : Fallible L S E A) : Prop :=
  Async.Ensures (fun _ => True)
    (fun outcome => ∀ result, outcome = .ok result → R result) program

theorem returns_pure {R : A → Prop} {result : A} (hresult : R result) :
    (pure result : Fallible L S E A).Returns R := by
  rintro _ ⟨⟩
  exact hresult

theorem returns_throw {R : A → Prop} (error : E) :
    (throw error : Fallible L S E A).Returns R := by
  rintro _ ⟨⟩

theorem returns_bind {R : B → Prop} (program : Fallible L S E A)
    {rest : A → Fallible L S E B} (hrest : ∀ result,
      (rest result).Returns R) : (program >>= rest).Returns R := by
  refine Async.ensures_bind (R := fun _ => True) ?_ ?_
  · induction program with
    | done result => trivial
    | step label effect next ih => exact fun state _ => ⟨trivial, ih state⟩
  · intro outcome _
    cases outcome with
    | ok result => exact hrest result
    | error error =>
        rintro _ ⟨⟩

theorem returns_command {R : A → Prop} {label : L}
    {action : S → Except E A × S}
    (haction : ∀ state result, (action state).1 = .ok result → R result) :
    (command label action).Returns R :=
  fun state _ => ⟨trivial, haction state⟩

theorem returns_bind_returns {P : A → Prop} {R : B → Prop}
    {program : Fallible L S E A} {rest : A → Fallible L S E B}
    (hprogram : program.Returns P)
    (hrest : ∀ result, P result → (rest result).Returns R) :
    (program >>= rest).Returns R := by
  refine Async.ensures_bind hprogram ?_
  intro outcome houtcome
  cases outcome with
  | ok result => exact hrest result (houtcome result rfl)
  | error error =>
      rintro _ ⟨⟩

/-- The result of an execution is one that the program returns. -/
theorem Returns.exec {R : A → Prop} {program : Fallible L S E A}
    (hreturns : program.Returns R) {state : S} {result : A}
    (hexec : (program.exec state).1 = .ok result) : R result := by
  induction program generalizing state with
  | done outcome => exact hreturns result hexec
  | step label effect next ih =>
      exact ih state (hreturns state trivial).2 hexec

theorem guarantees_bind_returns {G : S → S → Prop} {R : A → Prop}
    {program : Fallible L S E A} {rest : A → Fallible L S E B}
    (hprogram : program.Guarantees G) (hreturns : program.Returns R)
    (hrest : ∀ result, R result → (rest result).Guarantees G) :
    (program >>= rest).Guarantees G := by
  induction program with
  | done outcome =>
      cases outcome with
      | ok result => exact hrest result (hreturns result rfl)
      | error error => trivial
  | step label effect next ih =>
      intro state
      exact ⟨(hprogram state).1, ih state (hprogram state).2
        (hreturns state trivial).2⟩

end Fallible

end SamaServer
