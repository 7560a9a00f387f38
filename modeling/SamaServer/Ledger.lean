/-
Programs that keep a shared balance.  A program looks at a balance, changes
it step by step and has it right again before it leaves its section; if no
step changes the balance while another program is inside its own section, the
balance is right whenever no program is in flight.
-/
import SamaServer.Fallible

namespace SamaServer

universe u v w x

/-- A part of the state that programs keep in balance, the labels of the steps
inside a section, and what is known of the state at all times. -/
structure Ledger (L : Type u) (S : Type v) (V : Type x) where
  inside : L → Prop
  view : S → V
  sound : S → Prop
  balanced : V → Prop

namespace Ledger

variable {L : Type u} {S : Type v} {V : Type x} {A B E : Type w}
  (ledger : Ledger L S V)

/-- The program puts the balance right.  It is followed with the view that it
has seen last, which is the present one as long as it is inside its section,
and with `owes`, which says that it has left the balance unsettled.  What it
ends with satisfies `Q`. -/
def Settles (Q : Prop → V → A → Prop) : Async L S A → Prop → V → Prop
  | .done result, owes, seen => Q owes seen result
  | .step label effect next, owes, seen =>
      (owes → ledger.inside label) ∧
        ∀ state, ledger.sound state →
          (ledger.inside label → ledger.view state = seen) →
          ledger.sound (effect state) ∧
          (ledger.view (effect state) = ledger.view state →
            Settles Q (next state) owes (ledger.view state)) ∧
          (ledger.view (effect state) ≠ ledger.view state →
            ledger.inside label ∧
              (owes ∨ ledger.balanced seen → ∃ owesNow,
                (¬ ledger.balanced (ledger.view (effect state)) → owesNow) ∧
                Settles Q (next state) owesNow
                  (ledger.view (effect state))))

variable {ledger}

theorem Settles.mono {Q R : Prop → V → A → Prop} {program : Async L S A}
    {owes : Prop} {seen : V} (hprogram : ledger.Settles Q program owes seen)
    (hmono : ∀ owes seen result, Q owes seen result → R owes seen result) :
    ledger.Settles R program owes seen := by
  induction program generalizing owes seen with
  | done result => exact hmono owes seen result hprogram
  | step label effect next ih =>
      refine ⟨hprogram.1, fun state hsound hseen => ?_⟩
      obtain ⟨hafter, hsame, hchanged⟩ := hprogram.2 state hsound hseen
      refine ⟨hafter, fun heq => ih state (hsame heq), fun hne => ?_⟩
      obtain ⟨hinside, hsettles⟩ := hchanged hne
      refine ⟨hinside, fun hmay => ?_⟩
      obtain ⟨owesNow, howes, hnext⟩ := hsettles hmay
      exact ⟨owesNow, howes, ih state hnext⟩

theorem settles_bind {Q : Prop → V → A → Prop} {R : Prop → V → B → Prop}
    {program : Async L S A} {rest : A → Async L S B} {owes : Prop} {seen : V}
    (hprogram : ledger.Settles Q program owes seen)
    (hrest : ∀ owes seen result, Q owes seen result →
      ledger.Settles R (rest result) owes seen) :
    ledger.Settles R (program >>= rest) owes seen := by
  induction program generalizing owes seen with
  | done result => exact hrest owes seen result hprogram
  | step label effect next ih =>
      refine ⟨hprogram.1, fun state hsound hseen => ?_⟩
      obtain ⟨hafter, hsame, hchanged⟩ := hprogram.2 state hsound hseen
      refine ⟨hafter, fun heq => ih state (hsame heq), fun hne => ?_⟩
      obtain ⟨hinside, hsettles⟩ := hchanged hne
      refine ⟨hinside, fun hmay => ?_⟩
      obtain ⟨owesNow, howes, hnext⟩ := hsettles hmay
      exact ⟨owesNow, howes, ih state hnext⟩

/-- A program outside its section does not rely on what it has seen. -/
theorem Settles.of_outside {Q : Prop → V → A → Prop}
    (hdone : ∀ owes seen other result, Q owes seen result →
      Q owes other result) {program : Async L S A} {owes : Prop} {seen : V}
    (hprogram : ledger.Settles Q program owes seen)
    (houtside : ∀ label, program.head? = some label → ¬ ledger.inside label)
    (other : V) : ledger.Settles Q program owes other := by
  cases program with
  | done result => exact hdone owes seen other result hprogram
  | step label effect next =>
      have hlabel := houtside label rfl
      refine ⟨hprogram.1, fun state hsound _ => ?_⟩
      obtain ⟨hafter, hsame, hchanged⟩ := hprogram.2 state hsound
        (fun hinside => absurd hinside hlabel)
      exact ⟨hafter, hsame, fun hne => absurd (hchanged hne).1 hlabel⟩

/-- A program that leaves the balance alone. -/
theorem settles_of_guarantees {program : Async L S A}
    (hprogram : program.Guarantees (fun _ before after =>
      ledger.sound before →
        ledger.sound after ∧ ledger.view after = ledger.view before))
    (seen : V) :
    ledger.Settles (fun owes _ _ => ¬ owes) program False seen := by
  induction program generalizing seen with
  | done result => exact not_false
  | step label effect next ih =>
      refine ⟨False.elim, fun state hsound _ => ?_⟩
      obtain ⟨hkeeps, hnext⟩ := hprogram state
      obtain ⟨hafter, hsame⟩ := hkeeps hsound
      exact ⟨hafter, fun _ => ih state hnext _,
        fun hne => absurd hsame hne⟩

/-! ### Programs that can throw -/

/-- Nothing is owed when an error is thrown. -/
def OrSettled (Q : Prop → V → A → Prop) (owes : Prop) (seen : V) :
    Except E A → Prop
  | .ok result => Q owes seen result
  | .error _ => ¬ owes

variable (ledger) in
/-- `Settles` for a program whose result may be an error. -/
def SettlesOr (Q : Prop → V → A → Prop) (program : Fallible L S E A)
    (owes : Prop) (seen : V) : Prop :=
  ledger.Settles (OrSettled Q) program owes seen

theorem settlesOr_pure {Q : Prop → V → A → Prop} {owes : Prop} {seen : V}
    {result : A} (hresult : Q owes seen result) :
    ledger.SettlesOr Q (pure result : Fallible L S E A) owes seen := hresult

theorem settlesOr_throw {Q : Prop → V → A → Prop} {seen : V} (error : E) :
    ledger.SettlesOr Q (Fallible.throw error : Fallible L S E A) False
      seen := not_false

theorem settlesOr_bind {Q : Prop → V → A → Prop} {R : Prop → V → B → Prop}
    {program : Fallible L S E A} {rest : A → Fallible L S E B}
    {owes : Prop} {seen : V} (hprogram : ledger.SettlesOr Q program owes seen)
    (hrest : ∀ owes seen result, Q owes seen result →
      ledger.SettlesOr R (rest result) owes seen) :
    ledger.SettlesOr R (program >>= rest) owes seen := by
  refine settles_bind hprogram ?_
  intro owes seen result hresult
  cases result with
  | ok result => exact hrest owes seen result hresult
  | error error => exact hresult

/-- A value that is there without a step. -/
theorem settlesOr_ok_bind {R : Prop → V → B → Prop} {result : A}
    {rest : A → Fallible L S E B} {owes : Prop} {seen : V}
    (hrest : ledger.SettlesOr R (rest result) owes seen) :
    ledger.SettlesOr R (Fallible.ofExcept (.ok result) >>= rest) owes seen :=
  hrest

theorem SettlesOr.mono {Q R : Prop → V → A → Prop}
    {program : Fallible L S E A} {owes : Prop} {seen : V}
    (hprogram : ledger.SettlesOr Q program owes seen)
    (hmono : ∀ owes seen result, Q owes seen result → R owes seen result) :
    ledger.SettlesOr R program owes seen := by
  refine Settles.mono hprogram ?_
  intro owes seen result hresult
  cases result with
  | ok result => exact hmono owes seen result hresult
  | error error => exact hresult

/-- What a program returns in any case may be used as well. -/
theorem SettlesOr.returns {Q R : Prop → V → A → Prop} {P : A → Prop}
    {program : Fallible L S E A} {owes : Prop} {seen : V}
    (hprogram : ledger.SettlesOr Q program owes seen)
    (hreturns : program.Returns P)
    (hboth : ∀ owes seen result, Q owes seen result → P result →
      R owes seen result) : ledger.SettlesOr R program owes seen := by
  induction program generalizing owes seen with
  | done outcome =>
      cases outcome with
      | ok result => exact hboth owes seen result hprogram (hreturns _ rfl)
      | error error => exact hprogram
  | step label effect next ih =>
      refine ⟨hprogram.1, fun state hsound hseen => ?_⟩
      have hnext := (hreturns state trivial).2
      obtain ⟨hafter, hsame, hchanged⟩ := hprogram.2 state hsound hseen
      refine ⟨hafter, fun heq => ih state (hsame heq) hnext, fun hne => ?_⟩
      obtain ⟨hinside, hsettles⟩ := hchanged hne
      refine ⟨hinside, fun hmay => ?_⟩
      obtain ⟨owesNow, howes, hlater⟩ := hsettles hmay
      exact ⟨owesNow, howes, ih state hlater hnext⟩

/-- One step of a program that owes nothing, which leaves the balance
alone. -/
theorem settlesOr_quiet {Q : Prop → V → A → Prop} {label : L}
    {action : S → Except E A × S} {seen : V}
    (haction : ∀ state, ledger.sound state →
      ledger.sound (action state).2 ∧
      ledger.view (action state).2 = ledger.view state ∧
      ∀ result, (action state).1 = .ok result →
        Q False (ledger.view state) result) :
    ledger.SettlesOr Q (Fallible.command label action) False seen := by
  refine ⟨False.elim, fun state hsound _ => ?_⟩
  obtain ⟨hafter, hsame, hresult⟩ := haction state hsound
  refine ⟨hafter, fun _ => ?_, fun hne => absurd hsame hne⟩
  change OrSettled Q False (ledger.view state) (action state).1
  rcases houtcome : (action state).1 with error | result
  · exact not_false
  · exact hresult result houtcome

/-- One step inside a section, which leaves the balance alone. -/
theorem settlesOr_inside {Q : Prop → V → A → Prop} {label : L}
    {action : S → Except E A × S} {owes : Prop} {seen : V}
    (hlabel : ledger.inside label)
    (haction : ∀ state, ledger.sound state → ledger.view state = seen →
      ledger.sound (action state).2 ∧
      ledger.view (action state).2 = ledger.view state ∧
      OrSettled Q owes seen (action state).1) :
    ledger.SettlesOr Q (Fallible.command label action) owes seen := by
  refine ⟨fun _ => hlabel, fun state hsound hseen => ?_⟩
  obtain ⟨hafter, hsame, hresult⟩ := haction state hsound (hseen hlabel)
  refine ⟨hafter, fun _ => ?_, fun hne => absurd hsame hne⟩
  rw [hseen hlabel]
  exact hresult

/-- One step inside a section, which may change the balance. -/
theorem settlesOr_change {Q : Prop → V → A → Prop} {label : L}
    {action : S → Except E A × S} {owes : Prop} {seen : V}
    (hlabel : ledger.inside label)
    (haction : ∀ state, ledger.sound state → ledger.view state = seen →
      ledger.sound (action state).2 ∧ ∃ result,
        (action state).1 = .ok result ∧
        (ledger.view (action state).2 = seen → Q owes seen result) ∧
        (ledger.view (action state).2 ≠ seen → owes ∨ ledger.balanced seen →
          ∃ owesNow,
            (¬ ledger.balanced (ledger.view (action state).2) → owesNow) ∧
            Q owesNow (ledger.view (action state).2) result)) :
    ledger.SettlesOr Q (Fallible.command label action) owes seen := by
  refine ⟨fun _ => hlabel, fun state hsound hseen => ?_⟩
  obtain ⟨hafter, result, hresult, hsame, hchanged⟩ :=
    haction state hsound (hseen hlabel)
  have hdone : ∀ owesNow now, Q owesNow now result →
      ledger.Settles (OrSettled Q)
        (Async.done (action state).1 : Async L S (Except E A)) owesNow
        now := by
    intro owesNow now hnow
    change OrSettled Q owesNow now (action state).1
    rw [hresult]
    exact hnow
  rw [hseen hlabel]
  refine ⟨hafter, fun heq => hdone _ _ (hsame heq), fun hne => ?_⟩
  refine ⟨hlabel, fun hmay => ?_⟩
  obtain ⟨owesNow, howes, hnow⟩ := hchanged hne hmay
  exact ⟨owesNow, howes, hdone _ _ hnow⟩

/-! ### Systems -/

variable {T : Type w}

variable (ledger) in
/-- Nothing is owed by programs that have ended. -/
def SettlesUp (program : Async L S A) (owes : Prop) (seen : V) : Prop :=
  ledger.Settles (fun owes _ _ => ¬ owes) program owes seen

variable (ledger) in
/-- A balance that is unsettled is owed by one program, which is inside its
section. -/
structure Accounts (system : System T L S) (owner : Option Nat) : Prop where
  sound : ledger.sound system.state
  unsettled : ¬ ledger.balanced (ledger.view system.state) → owner.isSome
  inFlight : ∀ index, owner = some index → index < system.tasks.length
  settles : ∀ index task, system.tasks[index]? = some task →
    ledger.SettlesUp task.body (owner = some index)
      (ledger.view system.state)

variable (ledger) in
/-- A step changes the balance only while no other program is inside its
section. -/
def Exclusive (system : System T L S) : Event T L S → Prop
  | .spawn _ => True
  | .tick index =>
      ledger.view (system.tick index).state ≠ ledger.view system.state →
        ∀ other, other ≠ index → ∀ label,
          system.nextLabel? other = some label → ¬ ledger.inside label

theorem exclusive_tick_iff (system : System T L S) (index : Nat) :
    ledger.Exclusive system (.tick index) ↔
      (ledger.view (system.tick index).state ≠ ledger.view system.state →
        ∀ other ∈ List.range system.tasks.length, other ≠ index →
          ∀ label ∈ system.nextLabel? other, ¬ ledger.inside label) := by
  refine imp_congr_right (fun _ => ?_)
  constructor
  · intro hall other _ hother label hlabel
    exact hall other hother label hlabel
  · intro hall other hother label hlabel
    refine hall other ?_ hother label hlabel
    obtain ⟨task, hfound, _⟩ := Option.bind_eq_some_iff.1 hlabel
    exact List.mem_range.2 (List.getElem?_eq_some_iff.1 hfound).1

instance [DecidableEq V] [DecidablePred ledger.inside]
    (system : System T L S) (event : Event T L S) :
    Decidable (ledger.Exclusive system event) :=
  match event with
  | .spawn _ => inferInstanceAs (Decidable True)
  | .tick index => decidable_of_iff _ (exclusive_tick_iff system index).symm

theorem accounts_start {state : S} (hsound : ledger.sound state)
    (hbalanced : ledger.balanced (ledger.view state)) :
    ledger.Accounts (System.start (T := T) (L := L) state) none where
  sound := hsound
  unsettled := fun hunsettled => absurd hbalanced hunsettled
  inFlight := by simp
  settles := by simp [System.start]

theorem Accounts.spawn {system : System T L S} {owner : Option Nat}
    (haccounts : ledger.Accounts system owner) {task : Task T L S}
    (htask : ∀ seen, ledger.SettlesUp task.body False seen) :
    ledger.Accounts (system.spawn task) owner where
  sound := haccounts.sound
  unsettled := haccounts.unsettled
  inFlight := by
    intro index howner
    have hbelow := haccounts.inFlight index howner
    simp only [System.spawn, List.length_append, List.length_singleton]
    omega
  settles := by
    intro index other hother
    rcases System.getElem?_spawn_cases hother with hold | ⟨rfl, rfl⟩
    · exact haccounts.settles index other hold
    · have hnone : (owner = some system.tasks.length) = False := by
        rw [eq_iff_iff, iff_false]
        intro howner
        exact Nat.lt_irrefl _ (haccounts.inFlight _ howner)
      rw [hnone]
      exact htask _

/-- A program that owes something is about to take a step of its section. -/
theorem SettlesUp.inside_of_owes {program : Async L S A} {owes : Prop}
    {seen : V} (hprogram : ledger.SettlesUp program owes seen)
    (howes : owes) :
    ∃ label, program.head? = some label ∧ ledger.inside label := by
  cases program with
  | done result => exact absurd howes hprogram
  | step label effect next => exact ⟨label, rfl, hprogram.1 howes⟩

/-- If all other programs are outside the section, none of them owes. -/
theorem Accounts.owner_eq {system : System T L S} {owner : Option Nat}
    (haccounts : ledger.Accounts system owner) {index : Nat}
    (houtside : ∀ other task, other ≠ index →
      system.tasks[other]? = some task → ∀ label,
      task.body.head? = some label → ¬ ledger.inside label) {other : Nat}
    (howner : owner = some other) : other = index := by
  by_contra hother
  have hfound := List.getElem?_eq_getElem (haccounts.inFlight other howner)
  obtain ⟨label, hlabel, hinside⟩ :=
    (haccounts.settles other _ hfound).inside_of_owes howner
  exact houtside other _ hother hfound label hlabel hinside

theorem Accounts.owner_or_balanced {system : System T L S}
    {owner : Option Nat} (haccounts : ledger.Accounts system owner)
    {index : Nat} (hothers : ∀ other, owner = some other → other = index) :
    owner = some index ∨ ledger.balanced (ledger.view system.state) := by
  by_cases hbalanced : ledger.balanced (ledger.view system.state)
  · exact Or.inr hbalanced
  · obtain ⟨other, howner⟩ := Option.isSome_iff_exists.1
      (haccounts.unsettled hbalanced)
    exact Or.inl (hothers other howner ▸ howner)

/-- A step that leaves the balance leaves what is owed. -/
theorem Accounts.unchanged {system after : System T L S} {owner : Option Nat}
    (haccounts : ledger.Accounts system owner) {index : Nat}
    {moved : Task T L S} (htasks : after.tasks = system.tasks.set index moved)
    (hsound : ledger.sound after.state)
    (heq : ledger.view after.state = ledger.view system.state)
    (hmoved : ledger.SettlesUp moved.body (owner = some index)
      (ledger.view system.state)) : ledger.Accounts after owner where
  sound := hsound
  unsettled := by
    rw [heq]
    exact haccounts.unsettled
  inFlight := by
    intro other howner
    rw [htasks, List.length_set]
    exact haccounts.inFlight other howner
  settles := by
    intro other task hother
    rw [htasks] at hother
    rw [heq]
    rcases System.getElem?_set_cases hother with ⟨rfl, rfl⟩ | ⟨_, hold⟩
    · exact hmoved
    · exact haccounts.settles other task hold

/-- A step that changes the balance while the others are outside the section
takes over what is owed. -/
theorem Accounts.changed {system after : System T L S} {owner : Option Nat}
    (haccounts : ledger.Accounts system owner) {index : Nat}
    (hbelow : index < system.tasks.length)
    (houtside : ∀ other task, other ≠ index →
      system.tasks[other]? = some task → ∀ label,
      task.body.head? = some label → ¬ ledger.inside label)
    {moved : Task T L S} (htasks : after.tasks = system.tasks.set index moved)
    (hsound : ledger.sound after.state) {owesNow : Prop}
    (howes : ¬ ledger.balanced (ledger.view after.state) → owesNow)
    (hmoved : ledger.SettlesUp moved.body owesNow
      (ledger.view after.state)) : ∃ owner, ledger.Accounts after owner := by
  classical
  have hiff : ∀ other, ((if owesNow then some index else none) =
      some other) = (owesNow ∧ other = index) := by
    intro other
    split
    · next hnow => simp [hnow, eq_comm]
    · next hnow => simp [hnow]
  refine ⟨if owesNow then some index else none, hsound, ?_, ?_, ?_⟩
  · intro hunsettled
    rw [if_pos (howes hunsettled)]
    rfl
  · intro other howner
    rw [hiff] at howner
    rw [howner.2, htasks, List.length_set]
    exact hbelow
  · intro other task hother
    rw [htasks] at hother
    rw [hiff]
    rcases System.getElem?_set_cases hother with ⟨rfl, rfl⟩ | ⟨hne, hold⟩
    · rw [eq_true (rfl : other = other), and_true]
      exact hmoved
    · have hnone : (owner = some other) = (owesNow ∧ other = index) := by
        rw [eq_iff_iff]
        exact ⟨fun howner => absurd
          (haccounts.owner_eq houtside howner) hne,
          fun hboth => absurd hboth.2 hne⟩
      rw [← hnone]
      exact (haccounts.settles other task hold).of_outside
        (fun _ _ _ _ hresult => hresult) (houtside other task hne hold) _

/-- While the programs exclude each other, what is owed is owed by one. -/
theorem Accounts.tick {system : System T L S} {owner : Option Nat}
    (haccounts : ledger.Accounts system owner) {index : Nat}
    (hexclusive : ledger.Exclusive system (.tick index)) :
    ∃ owner, ledger.Accounts (system.tick index) owner := by
  rw [Exclusive] at hexclusive
  rcases system.tick_cases index with hsame | ⟨tag, label, effect, next,
    htask, htick⟩
  · rw [hsame]
    exact ⟨owner, haccounts⟩
  · obtain ⟨_, hstep⟩ := haccounts.settles index _ htask
    obtain ⟨hafter, hunchanged, hchanged⟩ := hstep system.state
      haccounts.sound (fun _ => rfl)
    rw [htick] at hexclusive ⊢
    by_cases heq : ledger.view (effect system.state) =
        ledger.view system.state
    · exact ⟨owner, haccounts.unchanged rfl hafter heq (hunchanged heq)⟩
    · obtain ⟨_, hsettles⟩ := hchanged heq
      have houtside : ∀ other task, other ≠ index →
          system.tasks[other]? = some task → ∀ label,
          task.body.head? = some label → ¬ ledger.inside label := by
        intro other task hother hfound label hlabel
        refine hexclusive heq other hother label ?_
        rw [System.nextLabel?, hfound]
        exact hlabel
      obtain ⟨owesNow, howes, hnext⟩ := hsettles
        (haccounts.owner_or_balanced (fun _ howner =>
          haccounts.owner_eq houtside howner))
      exact haccounts.changed (List.getElem?_eq_some_iff.1 htask).1 houtside
        rfl hafter howes hnext

/-- Once all programs have ended, the balance is right. -/
theorem Accounts.balanced {system : System T L S} {owner : Option Nat}
    (haccounts : ledger.Accounts system owner)
    (hquiescent : system.Quiescent) :
    ledger.balanced (ledger.view system.state) := by
  by_contra hunsettled
  obtain ⟨index, howner⟩ := Option.isSome_iff_exists.1
    (haccounts.unsettled hunsettled)
  have hfound := List.getElem?_eq_getElem (haccounts.inFlight index howner)
  obtain ⟨label, hlabel, _⟩ :=
    (haccounts.settles index _ hfound).inside_of_owes howner
  have hfinished := hquiescent _ (List.mem_of_getElem? hfound)
  rw [Async.finished, hlabel] at hfinished
  cases hfinished

variable (ledger) in
/-- The programs that are started settle what they owe. -/
def StartsSettling : Event T L S → Prop
  | .spawn task => ∀ seen, ledger.SettlesUp task.body False seen
  | .tick _ => True

/-- The balance is right after every run that is exclusive and finished. -/
theorem balanced_of_exclusive {state : S} (hsound : ledger.sound state)
    (hbalanced : ledger.balanced (ledger.view state))
    {events : List (Event T L S)}
    (hstarts : ∀ event ∈ events, ledger.StartsSettling event)
    (hexclusive : System.Along ledger.Exclusive
      (System.start (T := T) state) events)
    (hquiescent : ((System.start (T := T) state).run events).Quiescent) :
    ledger.balanced
      (ledger.view ((System.start (T := T) state).run events).state) := by
  have halong := hexclusive.and
    (System.along_of_forall (P := fun _ event => ledger.StartsSettling event)
      (fun event hevent _ => hstarts event hevent)
      (System.start (T := T) state))
  obtain ⟨owner, haccounts⟩ := System.Along.invariant
    (I := fun system => ∃ owner, ledger.Accounts system owner)
    (fun system event haccounts hevent => by
      obtain ⟨owner, haccounts⟩ := haccounts
      cases event with
      | spawn task => exact ⟨owner, haccounts.spawn hevent.2⟩
      | tick index => exact haccounts.tick hevent.1)
    ⟨none, accounts_start hsound hbalanced⟩ halong
  exact haccounts.balanced hquiescent

end Ledger

end SamaServer
