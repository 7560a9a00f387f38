/-
Programs that count on each other.  While a program waits, the others may
change the state; what it relies on is a relation that can depend on the step
it is about to take, and what it guarantees is a relation for each of its own
steps.  A fact that every program past its first step keeps is guarded.
-/
import SamaServer.Fallible

namespace SamaServer

universe u v w

namespace Async

variable {L M : Type u} {S : Type v} {A B : Type w}

/-- The same program under other labels. -/
def mapLabel (f : L → M) : Async L S A → Async M S A
  | done result => done result
  | step label effect next =>
      step (f label) effect (fun state => (next state).mapLabel f)

theorem keeps_mapLabel {f : L → M} {I : S → Prop} {program : Async L S A}
    (hprogram : program.Keeps I) : (program.mapLabel f).Keeps I := by
  induction program with
  | done result => trivial
  | step label effect next ih =>
      intro state hstate
      exact ⟨(hprogram state hstate).1, ih state (hprogram state hstate).2⟩

theorem keepsOutside_mapLabel {f : L → M} {D : M → Prop} {I : S → Prop}
    {program : Async L S A}
    (hprogram : program.KeepsOutside (fun label => D (f label)) I) :
    (program.mapLabel f).KeepsOutside D I := by
  induction program with
  | done result => trivial
  | step label effect next ih =>
      refine ⟨fun hlabel => ?_, fun state => ih state (hprogram.2 state)⟩
      have hkeeps := hprogram.1 hlabel
      exact keeps_mapLabel hkeeps

theorem endsWith_mapLabel {f : L → M} {P : M → (S → S) → Prop}
    {program : Async L S A}
    (hprogram : program.EndsWith (fun label => P (f label))) :
    (program.mapLabel f).EndsWith P := by
  induction program with
  | done result => exact hprogram
  | step label effect next ih =>
      rcases hprogram with ⟨hstep, hdone⟩ | hlater
      · refine .inl ⟨hstep, fun state => ?_⟩
        obtain ⟨result, hresult⟩ := hdone state
        refine ⟨result, ?_⟩
        change (next state).mapLabel f = done result
        rw [hresult]
        rfl
      · exact .inr (fun state => ih state (hlater state))

/-- The same program on a state of which its own is a part. -/
def onPart {P : Type v} (get : P → S) (put : P → S → P) :
    Async L S A → Async L P A
  | done result => done result
  | step label effect next =>
      step label (fun whole => put whole (effect (get whole)))
        (fun whole => (next (get whole)).onPart get put)

theorem run_onPart {P : Type v} (get : P → S) (put : P → S → P)
    (hget : ∀ whole part, get (put whole part) = part)
    (hput : ∀ whole part later, put (put whole part) later = put whole later)
    (hself : ∀ whole, put whole (get whole) = whole)
    (program : Async L S A) (whole : P) :
    (program.onPart get put).run whole =
      ((program.run (get whole)).1,
        put whole (program.run (get whole)).2) := by
  induction program generalizing whole with
  | done result => exact congrArg (Prod.mk result) (hself whole).symm
  | step label effect next ih =>
      change ((next (get whole)).onPart get put).run
        (put whole (effect (get whole))) = _
      rw [ih, hget, hput]
      rfl

theorem run_mapLabel (f : L → M) (program : Async L S A) (state : S) :
    (program.mapLabel f).run state = program.run state := by
  induction program generalizing state with
  | done result => rfl
  | step label effect next ih => exact ih state (effect state)

/-- What the steps do to a part they do to the whole. -/
theorem guarantees_onPart {P : Type v} {get : P → S} {put : P → S → P}
    {f : L → M} {G : L → S → S → Prop} {H : M → P → P → Prop}
    {program : Async L S A} (hprogram : program.Guarantees G)
    (hpart : ∀ label whole part, G label (get whole) part →
      H (f label) whole (put whole part)) :
    ((program.onPart get put).mapLabel f).Guarantees H := by
  induction program with
  | done result => trivial
  | step label effect next ih =>
      intro whole
      exact ⟨hpart label whole _ (hprogram (get whole)).1,
        ih (get whole) (hprogram (get whole)).2⟩

/-- The program was left at the state `now`.  Wherever the others take the
state, as far as `R` allows for the next label, its next step is one that `G`
allows and the rest goes on in the same way, to a result that satisfies
`Q`. -/
def Tracks (R G : L → S → S → Prop) (Q : A → S → Prop) :
    Async L S A → S → Prop
  | done result, now => Q result now
  | step label effect next, now =>
      ∀ state, R label now state →
        G label state (effect state) ∧
          (next state).Tracks R G Q (effect state)

variable {R G : L → S → S → Prop} {now : S}

theorem tracks_bind {Q : A → S → Prop} {P : B → S → Prop}
    {program : Async L S A} {rest : A → Async L S B}
    (hprogram : program.Tracks R G Q now)
    (hrest : ∀ result state, Q result state →
      (rest result).Tracks R G P state) :
    (program >>= rest).Tracks R G P now := by
  induction program generalizing now with
  | done result => exact hrest result now hprogram
  | step label effect next ih =>
      intro state hstate
      exact ⟨(hprogram state hstate).1, ih state (hprogram state hstate).2⟩

theorem Guarantees.tracks {program : Async L S A}
    (hprogram : program.Guarantees G) :
    program.Tracks R G (fun _ _ => True) now := by
  induction program generalizing now with
  | done result => trivial
  | step label effect next ih =>
      intro state _
      exact ⟨(hprogram state).1, ih state (hprogram state).2⟩

theorem tracks_mapLabel {f : L → M} {R G : M → S → S → Prop}
    {Q : A → S → Prop} {program : Async L S A}
    (hprogram : program.Tracks (fun label => R (f label))
      (fun label => G (f label)) Q now) :
    (program.mapLabel f).Tracks R G Q now := by
  induction program generalizing now with
  | done result => exact hprogram
  | step label effect next ih =>
      intro state hstate
      exact ⟨(hprogram state hstate).1, ih state (hprogram state hstate).2⟩

/-- What the others did before the next step adds up. -/
theorem Tracks.of_rely {program : Async L S A} {later : S}
    (htrans : ∀ label first second third, R label first second →
      R label second third → R label first third)
    (hprogram : program.Tracks R G (fun _ _ => True) now)
    (hrely : ∀ label, program.head? = some label → R label now later) :
    program.Tracks R G (fun _ _ => True) later := by
  cases program with
  | done result => trivial
  | step label effect next =>
      intro state hstate
      exact hprogram state (htrans _ _ _ _ (hrely label rfl) hstate)

end Async

namespace Fallible

variable {L : Type u} {S : Type v} {E A B : Type w} {R G : S → S → Prop}
  {now : S}

/-- A program that does not throw. -/
def ofAsync (program : Async L S A) : Fallible L S E A :=
  Async.bind program (fun result => .done (.ok result))

theorem exec_ofAsync (program : Async L S A) (state : S) :
    (ofAsync program : Fallible L S E A).exec state =
      (.ok (program.run state).1, (program.run state).2) :=
  Async.run_bind program _ state

/-- The program was left at the state `now`, the others change it as `R`
allows, and `Q` holds of a result where it is found. -/
def Tracks (R G : S → S → Prop) (Q : A → S → Prop)
    (program : Fallible L S E A) (now : S) : Prop :=
  Async.Tracks (fun _ => R) (fun _ => G) (fun outcome state =>
    ∀ result, outcome = .ok result → Q result state) program now

theorem tracks_pure {Q : A → S → Prop} {result : A} (hresult : Q result now) :
    (pure result : Fallible L S E A).Tracks R G Q now := by
  rintro _ ⟨⟩
  exact hresult

theorem tracks_throw {Q : A → S → Prop} (error : E) :
    (throw error : Fallible L S E A).Tracks R G Q now := by
  rintro _ ⟨⟩

theorem tracks_command {Q : A → S → Prop} {label : L}
    {action : S → Except E A × S}
    (haction : ∀ state, R now state → G state (action state).2 ∧
      ∀ result, (action state).1 = .ok result → Q result (action state).2) :
    (command label action).Tracks R G Q now :=
  haction

/-- What follows a result starts in the state where that result was found. -/
theorem tracks_bind {Q : A → S → Prop} {P : B → S → Prop}
    {program : Fallible L S E A} {rest : A → Fallible L S E B}
    (hprogram : program.Tracks R G Q now)
    (hrest : ∀ result state, Q result state →
      (rest result).Tracks R G P state) :
    (program >>= rest).Tracks R G P now := by
  refine Async.tracks_bind hprogram (fun outcome state houtcome => ?_)
  cases outcome with
  | ok result => exact hrest result state (houtcome result rfl)
  | error error =>
      rintro _ ⟨⟩

theorem Guarantees.tracks {program : Fallible L S E A}
    (hprogram : program.Guarantees G) :
    program.Tracks R G (fun _ _ => True) now := by
  induction program generalizing now with
  | done outcome => exact fun _ _ => trivial
  | step label effect next ih =>
      intro state _
      exact ⟨(hprogram state).1, ih state (hprogram state).2⟩

end Fallible

namespace System

variable {T : Type w} {L : Type u} {S : Type v}

/-- The task has not taken a step. -/
def Unstarted (system : System T L S) (index : Nat) : Prop :=
  ∀ label, (index, label) ∉ system.trace

/-- Positions in the trace are those of tasks. -/
def Indexed (system : System T L S) : Prop :=
  ∀ entry ∈ system.trace, entry.1 < system.tasks.length

/-- A fact that holds, and that no program past its first step destroys. -/
structure Guarded (F : S → Prop) (system : System T L S) : Prop where
  holds : F system.state
  tasks : ∀ index task, system.tasks[index]? = some task →
    system.Unstarted index ∨ task.body.Keeps F

theorem nextLabel?_of_quiescent {system : System T L S}
    (hquiescent : system.Quiescent) (index : Nat) :
    system.nextLabel? index = none := by
  rw [nextLabel?]
  cases htask : system.tasks[index]? with
  | none => rfl
  | some task =>
      have hfinished := hquiescent task (List.mem_of_getElem? htask)
      exact Option.isNone_iff_eq_none.1 hfinished

section Along

variable {P R : System T L S → Event T L S → Prop}
  {I : System T L S → Prop} {system : System T L S}

/-- What an invariant gives for every admitted event holds along the run. -/
theorem Along.of_invariant
    (hstep : ∀ system event, I system → R system event →
      I (system.exec event) ∧ P system event)
    {events : List (Event T L S)} (hinit : I system)
    (hruns : Along R system events) : Along P system events := by
  induction events generalizing system with
  | nil => trivial
  | cons event events ih =>
      obtain ⟨hnext, hevent⟩ := hstep system event hinit hruns.1
      exact ⟨hevent, ih hnext hruns.2⟩

/-- What holds along a run holds at each of its points. -/
theorem Along.at {before after : List (Event T L S)} {event : Event T L S}
    (hruns : Along P system (before ++ event :: after)) :
    P (system.run before) event := by
  induction before generalizing system with
  | nil => exact hruns.1
  | cons first before ih => exact ih hruns.2

end Along

section Spawn

variable {system : System T L S} {F : S → Prop}

theorem Indexed.unstarted_length (hindexed : system.Indexed) :
    system.Unstarted system.tasks.length :=
  fun _ hlabel => Nat.lt_irrefl _ (hindexed _ hlabel)

theorem Indexed.spawn (hindexed : system.Indexed) (task : Task T L S) :
    (system.spawn task).Indexed := by
  intro entry hentry
  have hold := hindexed entry hentry
  simp only [System.spawn, List.length_append, List.length_singleton]
  omega

theorem getElem?_spawn_of_some {index : Nat} {task : Task T L S}
    (htask : system.tasks[index]? = some task) (started : Task T L S) :
    (system.spawn started).tasks[index]? = some task := by
  simp only [System.spawn]
  rw [List.getElem?_append_left (List.getElem?_eq_some_iff.1 htask).1]
  exact htask

theorem Guarded.spawn (hguarded : Guarded F system)
    (hindexed : system.Indexed) (started : Task T L S) :
    Guarded F (system.spawn started) := by
  refine ⟨hguarded.holds, fun index task htask => ?_⟩
  rcases getElem?_spawn_cases htask with hold | ⟨rfl, -⟩
  · exact hguarded.tasks index task hold
  · exact .inl hindexed.unstarted_length

end Spawn

section Tick

variable {system : System T L S} {F : S → Prop} {index : Nat} {tag : T}
  {label : L} {effect : S → S} {next : S → Async L S Unit}
  (hfound : system.tasks[index]? = some ⟨tag, .step label effect next⟩)
include hfound

theorem nextLabel?_of_found : system.nextLabel? index = some label := by
  rw [nextLabel?, hfound]
  rfl

theorem state_tick : (system.tick index).state = effect system.state := by
  simp [tick, hfound]

theorem tasks_tick :
    (system.tick index).tasks =
      system.tasks.set index ⟨tag, next system.state⟩ := by
  simp [tick, hfound]

theorem trace_tick :
    (system.tick index).trace = system.trace ++ [(index, label)] := by
  simp [tick, hfound]

theorem mem_trace_tick {entry : Nat × L} :
    entry ∈ (system.tick index).trace ↔
      entry ∈ system.trace ∨ entry = (index, label) := by
  rw [trace_tick hfound, List.mem_append, List.mem_singleton]

theorem getElem?_tick_self :
    (system.tick index).tasks[index]? = some ⟨tag, next system.state⟩ := by
  rw [tasks_tick hfound,
    List.getElem?_set_self (List.getElem?_eq_some_iff.1 hfound).1]

theorem getElem?_tick_of_ne {other : Nat} (hother : other ≠ index) :
    (system.tick index).tasks[other]? = system.tasks[other]? := by
  rw [tasks_tick hfound, List.getElem?_set_ne (Ne.symm hother)]

theorem getElem?_tick_cases {other : Nat} {task : Task T L S}
    (htask : (system.tick index).tasks[other]? = some task) :
    (other = index ∧ task = ⟨tag, next system.state⟩) ∨
      (other ≠ index ∧ system.tasks[other]? = some task) := by
  rw [tasks_tick hfound] at htask
  exact getElem?_set_cases htask

theorem Indexed.tick (hindexed : system.Indexed) :
    (system.tick index).Indexed := by
  intro entry hentry
  rw [tasks_tick hfound, List.length_set]
  rcases (mem_trace_tick hfound).1 hentry with hold | rfl
  · exact hindexed entry hold
  · exact (List.getElem?_eq_some_iff.1 hfound).1

theorem Unstarted.tick_of_ne {other : Nat} (hother : other ≠ index)
    (hunstarted : system.Unstarted other) :
    (system.tick index).Unstarted other := by
  intro taken htaken
  rcases (mem_trace_tick hfound).1 htaken with hold | heq
  · exact hunstarted taken hold
  · exact hother (Prod.mk.inj heq).1

/-- A step that brings a fact about makes it guarded, when no other program
past its first step destroys it. -/
theorem guarded_tick (hholds : F (effect system.state))
    (hnext : (next system.state).Keeps F)
    (hothers : ∀ other task, other ≠ index →
      system.tasks[other]? = some task →
      system.Unstarted other ∨ task.body.Keeps F) :
    Guarded F (system.tick index) := by
  refine ⟨by rw [state_tick hfound]; exact hholds, fun other task htask => ?_⟩
  rcases getElem?_tick_cases hfound htask with ⟨rfl, rfl⟩ | ⟨hother, hold⟩
  · exact .inr hnext
  · rcases hothers other task hother hold with hunstarted | hkeeps
    · exact .inl (hunstarted.tick_of_ne hfound hother)
    · exact .inr hkeeps

/-- A first step that leaves the fact alone. -/
theorem Guarded.tick_first (hguarded : Guarded F system)
    (hholds : F (effect system.state))
    (hnext : (next system.state).Keeps F) :
    Guarded F (system.tick index) :=
  guarded_tick hfound hholds hnext
    (fun other task _ htask => hguarded.tasks other task htask)

/-- A later step. -/
theorem Guarded.tick_started (hguarded : Guarded F system)
    (hstarted : ¬ system.Unstarted index) :
    Guarded F (system.tick index) := by
  have hkeeps := (hguarded.tasks index _ hfound).resolve_left hstarted
  obtain ⟨hholds, hnext⟩ := hkeeps system.state hguarded.holds
  exact hguarded.tick_first hfound hholds hnext

end Tick

end System

end SamaServer
