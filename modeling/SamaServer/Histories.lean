/-
The histories of the items in a state.  Every event carries items over into
new versions, creates some and removes some; over a run each item has a line of
versions that goes back to the start of the run or to the event that created
it.
-/
import Mathlib.Data.List.Induction

namespace SamaServer

universe u v w x

variable {S : Type u} {E : Type v} {D : Type w} {A : Type x}

/-- The last version of an item at the end of a run, from its first version at
the start.  `F` is what an event does to an item that it carries over. -/
inductive Line (step : S → E → S) (F : S → E → D → D → Prop) :
    S → List E → D → D → Prop
  | nil (state : S) (item : D) : Line step F state [] item item
  | cons {state : S} {event : E} {events : List E} {old item last : D}
      (hfirst : F state event old item)
      (hrest : Line step F (step state event) events item last) :
      Line step F state (event :: events) old last

namespace Line

variable {step : S → E → S} {F : S → E → D → D → Prop} {state : S}
  {events : List E} {old last : D}

/-- What no event changes is the same in all versions. -/
theorem same {f : D → A} (hline : Line step F state events old last)
    (hsame : ∀ state event old item, F state event old item →
      f item = f old) : f last = f old := by
  induction hline with
  | nil state item => rfl
  | cons hfirst _ ih => exact ih.trans (hsame _ _ _ _ hfirst)

/-- What every event keeps is there in the last version. -/
theorem kept {P : D → Prop} (hline : Line step F state events old last)
    (hkept : ∀ state event old item, F state event old item → P old →
      P item) (hold : P old) : P last := by
  induction hline with
  | nil state item => exact hold
  | cons hfirst _ ih => exact ih (hkept _ _ _ _ hfirst hold)

/-- What is true of the last version was true of the first, or came in with
one of the events. -/
theorem cause {P : D → Prop} {C : S → E → D → Prop}
    (hline : Line step F state events old last)
    (hcause : ∀ state event old item, F state event old item → P item →
      P old ∨ C state event old) (hlast : P last) :
    P old ∨ ∃ earlier event later item, events = earlier ++ event :: later ∧
      Line step F state earlier old item ∧
      C (earlier.foldl step state) event item := by
  induction hline with
  | nil state item => exact Or.inl hlast
  | @cons state event events first item last hfirst _ ih =>
      rcases ih hlast with hitem | ⟨earlier, cause, later, version, hevents,
        hline, hcaused⟩
      · refine (hcause _ _ _ _ hfirst hitem).imp_right (fun hnow => ?_)
        exact ⟨[], event, events, first, rfl, .nil state first, hnow⟩
      · exact Or.inr ⟨event :: earlier, cause, later, version,
          congrArg (event :: ·) hevents, .cons hfirst hline, hcaused⟩

end Line

section Runs

variable {step : S → E → S} {F : S → E → D → D → Prop}
  (items : S → List D) {W R : S → E → D → Prop} {I : S → Prop} {P : E → Prop}
  (hkeeps : ∀ state event, I state → P event → I (step state event))
include hkeeps

/-- An item at the end of a run of events that `P` admits was there at the
start, or one of the events created it. -/
theorem exists_source (hsource : ∀ state event item, I state → P event →
      item ∈ items (step state event) →
        (∃ old ∈ items state, F state event old item) ∨ W state event item)
    (state : S) (events : List E) (hinit : I state)
    (hevents : ∀ event ∈ events, P event) {last : D}
    (hlast : last ∈ items (events.foldl step state)) :
    (∃ old ∈ items state, Line step F state events old last) ∨
      ∃ earlier event later item, events = earlier ++ event :: later ∧
        W (earlier.foldl step state) event item ∧
        Line step F (step (earlier.foldl step state) event) later item
          last := by
  induction events generalizing state with
  | nil => exact Or.inl ⟨last, hlast, .nil state last⟩
  | cons event events ih =>
      have hevent := hevents event List.mem_cons_self
      rcases ih (step state event) (hkeeps state event hinit hevent)
        (fun later hlater => hevents later (List.mem_cons_of_mem _ hlater))
        hlast with ⟨item, hitem, hline⟩ |
        ⟨earlier, cause, later, item, rfl, hcreated, hline⟩
      · rcases hsource state event item hinit hevent hitem with
          ⟨old, hold, hfirst⟩ | hnew
        · exact Or.inl ⟨old, hold, .cons hfirst hline⟩
        · exact Or.inr ⟨[], event, events, item, rfl, hnew, hline⟩
      · exact Or.inr ⟨event :: earlier, cause, later, item, rfl, hcreated,
          hline⟩

/-- An item at the start of a run is there at the end, or one of the events
removed it. -/
theorem exists_target (htarget : ∀ state event old, I state → P event →
      old ∈ items state → (∃ item ∈ items (step state event),
        F state event old item) ∨ R state event old)
    (state : S) (events : List E) (hinit : I state)
    (hevents : ∀ event ∈ events, P event) {old : D}
    (hold : old ∈ items state) :
    (∃ last ∈ items (events.foldl step state),
      Line step F state events old last) ∨
      ∃ earlier event later item, events = earlier ++ event :: later ∧
        Line step F state earlier old item ∧
        R (earlier.foldl step state) event item := by
  induction events generalizing state old with
  | nil => exact Or.inl ⟨old, hold, .nil state old⟩
  | cons event events ih =>
      have hevent := hevents event List.mem_cons_self
      rcases htarget state event old hinit hevent hold with
        ⟨item, hitem, hfirst⟩ | hgone
      · rcases ih (step state event) (hkeeps state event hinit hevent)
          (fun later hlater => hevents later (List.mem_cons_of_mem _ hlater))
          hitem with ⟨last, hlast, hline⟩ |
          ⟨earlier, cause, later, version, rfl, hline, hgone⟩
        · exact Or.inl ⟨last, hlast, .cons hfirst hline⟩
        · exact Or.inr ⟨event :: earlier, cause, later, version, rfl,
            .cons hfirst hline, hgone⟩
      · exact Or.inr ⟨[], event, events, old, rfl, .nil state old, hgone⟩

end Runs

end SamaServer
