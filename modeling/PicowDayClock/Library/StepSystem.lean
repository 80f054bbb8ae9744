/-! Systems that take one event after another. A run is a list of events, so a
property of every run is proved by induction on that list, once and here. -/
namespace PicowDayClock

/-- A system with its own notion of what an event does. An event that cannot
happen in a state has no next state there. -/
structure StepSystem (State Event : Type) where
  step : State → Event → Option State

namespace StepSystem

variable {State Event Notes : Type} (system : StepSystem State Event)

/-- The state after these events, if each of them can happen in its turn. -/
def run : State → List Event → Option State
  | state, [] => some state
  | state, event :: events => (system.step state event).bind fun next => run next events

/-- Every event of the run happens in a state that allows it. -/
def EveryStep (Allowed : State → Event → Prop) : State → List Event → Prop
  | _, [] => True
  | state, event :: events =>
    Allowed state event ∧ ∀ next ∈ system.step state event, EveryStep Allowed next events

instance decidableEveryStep (Allowed : State → Event → Prop)
    [∀ state event, Decidable (Allowed state event)] :
    ∀ state events, Decidable (system.EveryStep Allowed state events)
  | _, [] => isTrue trivial
  | state, event :: events =>
    have : ∀ next, Decidable (system.EveryStep Allowed next events) :=
      fun next => decidableEveryStep Allowed next events
    inferInstanceAs (Decidable
      (Allowed state event ∧ ∀ next ∈ system.step state event, EveryStep system Allowed next events))

/-- The system together with an observer that takes notes of each event before
it happens. The notes decide nothing. -/
def observed (note : State → Event → Notes → Notes) : StepSystem (State × Notes) Event where
  step pair event :=
    (system.step pair.1 event).map fun next => (next, note pair.1 event pair.2)

variable {system}

/-- A property that every allowed step keeps holds after every run whose steps
are all allowed. -/
theorem run_invariant_where {Inv : State → Prop} {Allowed : State → Event → Prop}
    (keeps : ∀ state event next, Inv state → Allowed state event →
      system.step state event = some next → Inv next)
    (begun : Inv state) (allowed : system.EveryStep Allowed state events)
    (ran : system.run state events = some reached) : Inv reached := by
  induction events generalizing state with
  | nil =>
    cases ran
    exact begun
  | cons event events ih =>
    obtain ⟨here, later⟩ := allowed
    obtain ⟨next, stepped, rest⟩ := Option.bind_eq_some_iff.mp ran
    exact ih (keeps state event next begun here stepped) (later next stepped) rest

/-- Two conditions on steps that agree wherever a property holds, which the
allowed steps keep, hold of the steps of the same runs. -/
theorem everyStep_iff_where {Inv : State → Prop} {Good Allowed : State → Event → Prop}
    (keeps : ∀ state event next, Inv state → Allowed state event →
      system.step state event = some next → Inv next)
    (agrees : ∀ state event, Inv state → (Good state event ↔ Allowed state event))
    (begun : Inv state) : system.EveryStep Good state events ↔ system.EveryStep Allowed state events := by
  induction events generalizing state with
  | nil => exact Iff.rfl
  | cons event events ih =>
    simp only [EveryStep, agrees state event begun]
    refine and_congr_right fun allowed => forall₂_congr fun next stepped => ?_
    exact ih (keeps state event next begun allowed stepped)

/-- In a system in which every event can happen, every run goes on to its end. -/
theorem run_total (total : ∀ state event, ∃ next, system.step state event = some next) :
    ∃ reached, system.run state events = some reached := by
  induction events generalizing state with
  | nil => exact ⟨state, rfl⟩
  | cons event events ih =>
    obtain ⟨next, stepped⟩ := total state event
    rw [run, stepped, Option.bind_some]
    exact ih

/-- In a system in which every event can happen, a property holds in every state
of a run if it holds at the beginning and behind each step. -/
theorem everyStep_reached_iff {Good : State → Prop}
    (total : ∀ state event, ∃ next, system.step state event = some next) :
    (∀ earlier, earlier <+: events →
      ∃ reached, system.run state earlier = some reached ∧ Good reached) ↔
    Good state ∧ system.EveryStep
      (fun state event => ∀ next ∈ system.step state event, Good next) state events := by
  induction events generalizing state with
  | nil =>
    simp only [List.prefix_nil, forall_eq, run, Option.some.injEq, exists_eq_left', EveryStep,
      and_true]
  | cons event events ih =>
    obtain ⟨next, stepped⟩ := total state event
    have later (earlier : List Event) :
        system.run state (event :: earlier) = system.run next earlier := by
      rw [run, stepped, Option.bind_some]
    simp only [EveryStep, stepped, Option.mem_some_iff, forall_eq']
    constructor
    · intro reaches
      obtain ⟨_, here, good⟩ := reaches [] List.nil_prefix
      cases here
      refine ⟨good, ih.mp fun earlier front => ?_⟩
      rw [← later]
      exact reaches (event :: earlier) ((List.prefix_cons_inj event).mpr front)
    · rintro ⟨good, rest⟩ earlier front
      cases earlier with
      | nil => exact ⟨state, rfl, good⟩
      | cons first earlier =>
        obtain ⟨rfl, shorter⟩ := List.cons_prefix_cons.mp front
        rw [later]
        exact ih.mpr rest earlier shorter

/-- A property that every step keeps holds after every run. -/
theorem run_invariant {Inv : State → Prop}
    (keeps : ∀ state event next, Inv state → system.step state event = some next → Inv next)
    (begun : Inv state) (ran : system.run state events = some reached) : Inv reached := by
  have allowed : system.EveryStep (fun _ _ => True) state events := by
    clear ran begun
    induction events generalizing state with
    | nil => trivial
    | cons event events ih => exact ⟨trivial, fun next _ => ih⟩
  exact run_invariant_where (fun state event next inv _ => keeps state event next inv)
    begun allowed ran

theorem observed_step {note : State → Event → Notes → Notes}
    (stepped : (system.observed note).step (state, notes) event = some (next, notesAfter)) :
    system.step state event = some next ∧ notesAfter = note state event notes := by
  obtain ⟨reached, happened, same⟩ := Option.map_eq_some_iff.mp stepped
  cases same
  exact ⟨happened, rfl⟩

theorem observed_of_step {note : State → Event → Notes → Notes} (notes : Notes)
    (happened : system.step state event = some next) :
    (system.observed note).step (state, notes) event = some (next, note state event notes) := by
  simp only [observed, happened, Option.map_some]

/-- A run that is observed is a run of the system. -/
theorem run_of_observed {note : State → Event → Notes → Notes}
    (ran : (system.observed note).run (state, notes) events = some (reached, notesAfter)) :
    system.run state events = some reached := by
  induction events generalizing state notes with
  | nil =>
    cases ran
    rfl
  | cons event events ih =>
    obtain ⟨⟨next, seen⟩, stepped, rest⟩ := Option.bind_eq_some_iff.mp ran
    rw [run, (observed_step stepped).1, Option.bind_some]
    exact ih rest

/-- A run is seen as a run of a smaller system, if each of its steps is seen as
a step there or is not seen at all. -/
theorem run_simulates {Seen Action : Type} {seen : StepSystem Seen Action} {view : State → Seen}
    (agrees : ∀ state event next, system.step state event = some next →
      view next = view state ∨ ∃ action, seen.step (view state) action = some (view next))
    (ran : system.run state events = some reached) :
    ∃ actions, seen.run (view state) actions = some (view reached) := by
  induction events generalizing state with
  | nil =>
    cases ran
    exact ⟨[], rfl⟩
  | cons event events ih =>
    obtain ⟨next, stepped, rest⟩ := Option.bind_eq_some_iff.mp ran
    obtain ⟨actions, later⟩ := ih rest
    rcases agrees state event next stepped with unseen | ⟨action, first⟩
    · exact ⟨actions, unseen ▸ later⟩
    · exact ⟨action :: actions, by simpa [run, first] using later⟩

/-- A run beside the run of only some of its events. The two stay related if
each event that is kept can happen on both sides, and each one that is left out
does not show; `Void` marks the runs that nothing is said about. -/
theorem run_filter {keep : Event → Bool} {Related : State → State → Prop} {Void : State → Prop}
    (own : ∀ state alone event next, Related state alone → keep event = true →
      system.step state event = some next →
      Void next ∨ ∃ nextAlone, system.step alone event = some nextAlone ∧ Related next nextAlone)
    (other : ∀ state alone event next, Related state alone → keep event = false →
      system.step state event = some next → Related next alone)
    (stays : ∀ state event next, Void state → system.step state event = some next → Void next)
    (begun : Related state alone) (ran : system.run state events = some reached) :
    Void reached ∨ ∃ reachedAlone,
      system.run alone (events.filter keep) = some reachedAlone ∧ Related reached reachedAlone := by
  induction events generalizing state alone with
  | nil =>
    cases ran
    exact .inr ⟨alone, rfl, begun⟩
  | cons event events ih =>
    obtain ⟨next, stepped, rest⟩ := Option.bind_eq_some_iff.mp ran
    cases kept : keep event with
    | true =>
      rcases own state alone event next begun kept stepped with void | ⟨nextAlone, also, related⟩
      · exact .inl (run_invariant stays void rest)
      · rcases ih related rest with void | ⟨reachedAlone, ranAlone, still⟩
        · exact .inl void
        · refine .inr ⟨reachedAlone, ?_, still⟩
          simp [kept, run, also, ranAlone]
    | false =>
      rcases ih (other state alone event next begun kept stepped) rest with
        void | ⟨reachedAlone, ranAlone, still⟩
      · exact .inl void
      · refine .inr ⟨reachedAlone, ?_, still⟩
        simpa [List.filter_cons, kept] using ranAlone

/-- Every run of the system is a run that an observer sees. -/
theorem observed_run (note : State → Event → Notes → Notes) (notes : Notes)
    (ran : system.run state events = some reached) :
    ∃ notesAfter, (system.observed note).run (state, notes) events = some (reached, notesAfter) := by
  induction events generalizing state notes with
  | nil =>
    cases ran
    exact ⟨notes, rfl⟩
  | cons event events ih =>
    obtain ⟨next, stepped, rest⟩ := Option.bind_eq_some_iff.mp ran
    obtain ⟨notesAfter, seen⟩ := ih (note state event notes) rest
    exact ⟨notesAfter, by simpa [run, observed_of_step notes stepped] using seen⟩

end StepSystem
end PicowDayClock
