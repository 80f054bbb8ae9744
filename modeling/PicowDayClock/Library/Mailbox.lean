import PicowDayClock.Library.StepSystem

/-! A mailbox of one slot and a flag, between a producer that interrupts and a
consumer that does not. The producer stores a value and then raises the flag.
The consumer tests the flag, lowers it, and only then fetches the value and
uses it. Every value used was delivered, and whenever the flag is down and the
consumer is not on its way from lowering it to using the value, the latest
value has been used. -/
namespace PicowDayClock

/-- How far the consumer is. -/
inductive Mailbox.Stage (Value : Type) where
  | waiting
  | seen
  | lowered
  | fetched (value : Value)

/-- The mailbox, with all that was delivered and used, latest first. -/
structure Mailbox (Value : Type) where
  slot : Value
  flag : Bool
  stage : Mailbox.Stage Value
  delivered : List Value
  used : List Value

namespace Mailbox

variable {Value : Type}

/-- What the producer and the consumer do. -/
inductive Action (Value : Type) where
  | deliver (value : Value)
  | notice | lower | fetch | use

/-- A mailbox that nothing has been delivered to. -/
def empty (slot : Value) : Mailbox Value where
  slot := slot
  flag := false
  stage := .waiting
  delivered := []
  used := []

/-- The producer acts at any time, the consumer in its order. -/
def system (Value : Type) : StepSystem (Mailbox Value) (Action Value) where
  step mailbox action :=
    match action, mailbox.stage with
    | .deliver value, _ =>
      some { mailbox with
        slot := value, flag := true, delivered := value :: mailbox.delivered }
    | .notice, .waiting => if mailbox.flag then some { mailbox with stage := .seen } else none
    | .lower, .seen => some { mailbox with flag := false, stage := .lowered }
    | .fetch, .lowered => some { mailbox with stage := .fetched mailbox.slot }
    | .use, .fetched value =>
      some { mailbox with stage := .waiting, used := value :: mailbox.used }
    | _, _ => none

/-- What holds at each stage. A value that was fetched is out of date only if
the flag is up again. -/
def StageHolds (mailbox : Mailbox Value) : Prop :=
  match mailbox.stage with
  | .waiting => mailbox.flag = false → mailbox.used.head? = mailbox.delivered.head?
  | .seen => mailbox.flag = true
  | .lowered => mailbox.delivered ≠ []
  | .fetched value =>
    value ∈ mailbox.delivered ∧
      (mailbox.flag = false → mailbox.delivered.head? = some value)

/-- The invariant of the hand-over. -/
structure Sound (mailbox : Mailbox Value) : Prop where
  slot : ∀ value ∈ mailbox.delivered.head?, mailbox.slot = value
  raised : mailbox.flag = true → mailbox.delivered ≠ []
  stage : mailbox.StageHolds
  genuine : ∀ value ∈ mailbox.used, value ∈ mailbox.delivered

theorem empty_sound (slot : Value) : Sound (empty slot) where
  slot := by simp [empty]
  raised := by simp [empty]
  stage := fun _ => rfl
  genuine := by simp [empty]

/-- A delivery keeps the invariant at whatever stage it interrupts. -/
theorem deliver_sound (sound : Sound mailbox) (value : Value) :
    Sound { mailbox with slot := value, flag := true, delivered := value :: mailbox.delivered } where
  slot := by simp
  raised := by simp
  stage := by
    have before := sound.stage
    unfold StageHolds at before ⊢
    cases stage : mailbox.stage with
    | waiting => simp
    | seen => simp
    | lowered => simp
    | fetched fetched =>
      simp only [stage] at before
      simp [before.1]
  genuine := fun used member => List.mem_cons_of_mem _ (sound.genuine used member)

/-- Each action of either side keeps the invariant. -/
theorem step_sound (sound : Sound mailbox)
    (stepped : (system Value).step mailbox action = some next) : Sound next := by
  have before := sound.stage
  cases action with
  | deliver value =>
    simp only [system, Option.some.injEq] at stepped
    subst stepped
    exact deliver_sound sound value
  | notice =>
    cases stage : mailbox.stage with
    | waiting =>
      simp only [system, stage, Option.ite_none_right_eq_some, Option.some.injEq] at stepped
      obtain ⟨raised, rfl⟩ := stepped
      exact { sound with stage := raised }
    | seen | lowered | fetched value => simp [system, stage] at stepped
  | lower =>
    cases stage : mailbox.stage with
    | seen =>
      simp only [StageHolds, stage] at before
      simp only [system, stage, Option.some.injEq] at stepped
      subst stepped
      exact { sound with
        raised := fun up => nomatch up
        stage := sound.raised before }
    | waiting | lowered | fetched value => simp [system, stage] at stepped
  | fetch =>
    cases stage : mailbox.stage with
    | lowered =>
      simp only [StageHolds, stage] at before
      simp only [system, stage, Option.some.injEq] at stepped
      subst stepped
      obtain ⟨latest, earlier, delivered⟩ := List.exists_cons_of_ne_nil before
      have slot := sound.slot latest (by rw [delivered]; rfl)
      exact { sound with stage := by simp [StageHolds, delivered, slot] }
    | waiting | seen | fetched value => simp [system, stage] at stepped
  | use =>
    cases stage : mailbox.stage with
    | fetched value =>
      simp only [StageHolds, stage] at before
      simp only [system, stage, Option.some.injEq] at stepped
      subst stepped
      exact { sound with
        stage := fun down => (before.2 down).symm
        genuine := by
          intro used member
          cases member with
          | head => exact before.1
          | tail _ member => exact sound.genuine used member }
    | waiting | seen | lowered => simp [system, stage] at stepped

/-- Only a delivery writes the slot and raises the flag. -/
theorem step_undelivered (stepped : (system Value).step mailbox action = some next)
    (undelivered : next.delivered = mailbox.delivered) :
    next.slot = mailbox.slot ∧ (next.flag = true → mailbox.flag = true) := by
  cases action with
  | deliver value =>
    simp only [system, Option.some.injEq] at stepped
    subst stepped
    exact absurd undelivered (List.cons_ne_self _ _)
  | notice | lower | fetch | use =>
    cases stage : mailbox.stage <;> simp [system, stage] at stepped
    all_goals grind

theorem run_sound {slot : Value} (ran : (system Value).run (empty slot) actions = some reached) :
    Sound reached :=
  StepSystem.run_invariant (fun _ _ _ sound stepped => step_sound sound stepped)
    (empty_sound slot) ran

/-- With the flag down and the consumer waiting, nothing is lost. -/
theorem Sound.up_to_date {mailbox : Mailbox Value} (sound : Sound mailbox)
    (down : mailbox.flag = false)
    (rests : mailbox.stage = .waiting ∨ mailbox.stage = .seen) :
    mailbox.used.head? = mailbox.delivered.head? := by
  have holds := sound.stage
  rcases rests with waiting | seen
  · simp only [StageHolds, waiting] at holds
    exact holds down
  · simp only [StageHolds, seen, down] at holds
    exact nomatch holds

/-! ## Counting -/

/-- How many values may still be used: one behind the flag, and one that the
consumer is on its way to. -/
def unused (mailbox : Mailbox Value) : Nat :=
  (if mailbox.flag then 1 else 0) +
    match mailbox.stage with
    | .waiting | .seen => 0
    | .lowered | .fetched _ => 1

/-- Only a delivery makes another use possible. -/
theorem step_unused (sound : Sound mailbox)
    (stepped : (system Value).step mailbox action = some next) :
    next.used.length + next.unused + mailbox.delivered.length ≤
      mailbox.used.length + mailbox.unused + next.delivered.length := by
  have before := sound.stage
  cases action with
  | deliver value =>
    simp only [system, Option.some.injEq] at stepped
    subst stepped
    cases stage : mailbox.stage <;> simp only [unused, stage, List.length_cons, if_true] <;> omega
  | notice =>
    cases stage : mailbox.stage with
    | waiting =>
      simp only [system, stage, Option.ite_none_right_eq_some, Option.some.injEq] at stepped
      obtain ⟨raised, rfl⟩ := stepped
      simp only [unused, stage, Nat.le_refl]
    | seen | lowered | fetched value => simp [system, stage] at stepped
  | lower =>
    cases stage : mailbox.stage with
    | seen =>
      simp only [StageHolds, stage] at before
      simp only [system, stage, Option.some.injEq] at stepped
      subst stepped
      simp [unused, stage, before]
    | waiting | lowered | fetched value => simp [system, stage] at stepped
  | fetch =>
    cases stage : mailbox.stage with
    | lowered =>
      simp only [system, stage, Option.some.injEq] at stepped
      subst stepped
      simp only [unused, stage, Nat.le_refl]
    | waiting | seen | fetched value => simp [system, stage] at stepped
  | use =>
    cases stage : mailbox.stage with
    | fetched value =>
      simp only [system, stage, Option.some.injEq] at stepped
      subst stepped
      simp only [unused, stage, List.length_cons]
      omega
    | waiting | seen | lowered => simp [system, stage] at stepped

end Mailbox
end PicowDayClock
