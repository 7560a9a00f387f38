/-
Runs of a step function, seen through all the states they pass.
-/
import Mathlib.Data.List.Induction

namespace SamaServer

universe u v

variable {S : Type u} {E : Type v} {step : S → E → S} {init : S}

/-- A quantifier over the runs that a run starts with, split at its last
event. -/
theorem forall_starts_concat {P : List E → Prop} (events : List E)
    (last : E) :
    (∀ done, done <+: events ++ [last] → P done) ↔
      (∀ done, done <+: events → P done) ∧ P (events ++ [last]) := by
  constructor
  · intro hall
    exact ⟨fun done hdone => hall done (hdone.trans
      (List.prefix_append events [last])), hall _ (List.prefix_refl _)⟩
  · rintro ⟨hstarts, hlast⟩ done hdone
    rcases List.prefix_concat_iff.1 hdone with rfl | hstart
    · exact hlast
    · exact hstarts done hstart

/-- The same for the events of a run, each with the run before it. -/
theorem forall_events_concat {C : List E → E → Prop} (events : List E)
    (last : E) :
    (∀ done event, done ++ [event] <+: events ++ [last] → C done event) ↔
      (∀ done event, done ++ [event] <+: events → C done event) ∧
        C events last := by
  constructor
  · intro hall
    exact ⟨fun done event hdone => hall done event (hdone.trans
      (List.prefix_append events [last])),
      hall events last (List.prefix_refl _)⟩
  · rintro ⟨hearlier, hlast⟩ done event hdone
    rcases List.prefix_concat_iff.1 hdone with heq | hearly
    · obtain ⟨rfl, hevent⟩ := List.append_inj' heq rfl
      cases hevent
      exact hlast
    · exact hearlier done event hearly

/-- If a property is kept by an event exactly when the event meets a
condition, then it holds in all states of a run exactly when all events of
the run meet the condition. -/
theorem throughout_iff {P : S → Prop} {C : S → E → Prop} (hinit : P init)
    (hstep : ∀ done event, P (done.foldl step init) →
      (P ((done ++ [event]).foldl step init) ↔
        C (done.foldl step init) event)) (events : List E) :
    (∀ done, done <+: events → P (done.foldl step init)) ↔
      ∀ done event, done ++ [event] <+: events →
        C (done.foldl step init) event := by
  induction events using List.reverseRecOn with
  | nil =>
      constructor
      · intro _ done event hdone
        simp at hdone
      · intro _ done hdone
        rw [List.prefix_nil.1 hdone]
        exact hinit
  | append_singleton events last ih =>
      rw [forall_starts_concat, forall_events_concat, ← ih]
      refine and_congr_right (fun hstarts => ?_)
      exact hstep events last (hstarts events (List.prefix_refl _))

/-- The same for a property that an invariant gives: the invariant is kept
by every event that meets the condition, and any other event breaks the
property. -/
theorem throughout_iff_of_invariant {P I : S → Prop} {C : S → E → Prop}
    (hinit : I init) (hgives : ∀ s, I s → P s)
    (hkeeps : ∀ s event, I s → C s event → I (step s event))
    (hbreaks : ∀ s event, I s → P (step s event) → C s event)
    (events : List E) :
    (∀ done, done <+: events → P (done.foldl step init)) ↔
      ∀ done event, done ++ [event] <+: events →
        C (done.foldl step init) event := by
  have hinvariant := throughout_iff (C := C) hinit
    (fun done event hdone => by
      rw [List.foldl_append]
      exact ⟨fun hafter => hbreaks _ event hdone (hgives _ hafter),
        hkeeps _ event hdone⟩)
  constructor
  · induction events using List.reverseRecOn with
    | nil => simp
    | append_singleton events last ih =>
        rw [forall_starts_concat, forall_events_concat]
        rintro ⟨hearlier, hlast⟩
        have hmet := ih hearlier
        refine ⟨hmet, ?_⟩
        have hbefore := (hinvariant events).2 hmet events
          (List.prefix_refl events)
        rw [List.foldl_append] at hlast
        exact hbreaks _ last hbefore hlast
  · intro hmet done hdone
    exact hgives _ ((hinvariant events).2 hmet done hdone)

/-- The same where the equivalence needs an assumption on the event: the runs
that keep to the assumption and to the property are those whose events meet
both the assumption and the condition. -/
theorem throughout_and_iff {P : S → Prop} {A C : S → E → Prop}
    (hinit : P init)
    (hstep : ∀ done event, P (done.foldl step init) →
      A (done.foldl step init) event →
      (P ((done ++ [event]).foldl step init) ↔
        C (done.foldl step init) event)) (events : List E) :
    ((∀ done event, done ++ [event] <+: events →
        A (done.foldl step init) event) ∧
      ∀ done, done <+: events → P (done.foldl step init)) ↔
      ∀ done event, done ++ [event] <+: events →
        A (done.foldl step init) event ∧ C (done.foldl step init) event := by
  induction events using List.reverseRecOn with
  | nil => simp [hinit]
  | append_singleton events last ih =>
      simp only [forall_events_concat, forall_starts_concat]
      rw [← ih]
      constructor
      · rintro ⟨⟨hassumed, hlast⟩, hstarts, hafter⟩
        exact ⟨⟨hassumed, hstarts⟩, hlast, (hstep events last
          (hstarts events (List.prefix_refl _)) hlast).1 hafter⟩
      · rintro ⟨⟨hassumed, hstarts⟩, hlast, hcondition⟩
        exact ⟨⟨hassumed, hlast⟩, hstarts, (hstep events last
          (hstarts events (List.prefix_refl _)) hlast).2 hcondition⟩

/-- A fact that comes about by a cause only, and does not outlive an end, has
had a cause with no end after it. -/
theorem exists_cause_since {P : S → Prop} {C N : S → E → Prop}
    (hinit : ¬ P init) (events : List E)
    (hstep : ∀ (done : List E) event, event ∈ events →
      P (step (done.foldl step init) event) →
      C (done.foldl step init) event ∨
        (P (done.foldl step init) ∧ ¬ N (done.foldl step init) event))
    (hlast : P (events.foldl step init)) :
    ∃ earlier cause later, events = earlier ++ cause :: later ∧
      C (earlier.foldl step init) cause ∧
      ∀ between event rest, later = between ++ event :: rest →
        ¬ N ((earlier ++ cause :: between).foldl step init) event := by
  induction events using List.reverseRecOn with
  | nil => exact absurd hlast hinit
  | append_singleton events last ih =>
      rw [List.foldl_append] at hlast
      rcases hstep events last (by simp) hlast with hcause | ⟨hearly, hkept⟩
      · refine ⟨events, last, [], rfl, hcause, ?_⟩
        intro between event rest hnone
        simp at hnone
      · obtain ⟨earlier, cause, later, rfl, hcause, hlater⟩ := ih
          (fun done event hmem => hstep done event (by simp [hmem])) hearly
        refine ⟨earlier, cause, later ++ [last], by simp, hcause, ?_⟩
        intro between event rest hsplit
        -- the event is the last one, or it was among the later ones before
        rcases List.eq_nil_or_concat rest with rfl | ⟨front, final, rfl⟩
        · obtain ⟨rfl, hevent⟩ := List.append_inj' hsplit rfl
          cases hevent
          exact hkept
        · rw [List.concat_eq_append, ← List.cons_append,
            ← List.append_assoc] at hsplit
          exact hlater between event front (List.append_inj' hsplit rfl).1

end SamaServer
