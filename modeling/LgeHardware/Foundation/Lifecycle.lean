import Mathlib.Tactic.Common

/-! # Life cycles of resources in a log

A log records when a resource is handed over, used and released. Over its life a
resource goes through these three in this order, and then it may be handed over
anew. Any other order is an error, which no later event repairs.
-/

namespace LgeHardware.Foundation

universe u

variable {Resource : Type u}

inductive LifeEvent (Resource : Type u)
  | handOver (resource : Resource)
  | use (resource : Resource)
  | release (resource : Resource)
  deriving DecidableEq, Repr

/-- The resource an event is about. -/
def LifeEvent.resource : LifeEvent Resource → Resource
  | .handOver resource | .use resource | .release resource => resource

inductive LifeStage
  | free
  | owned
  | used
  deriving DecidableEq, Repr

namespace LifeStage

variable [DecidableEq Resource]

/-- What an event makes of the stage of its resource, if it is in order. -/
def advance : LifeStage → LifeEvent Resource → Option LifeStage
  | .free, .handOver _ => some .owned
  | .owned, .use _ => some .used
  | .used, .release _ => some .free
  | _, _ => none

/-- The stage of a resource after one event, which may be about another one. -/
def next (resource : Resource) (stage : LifeStage) (event : LifeEvent Resource) :
    Option LifeStage :=
  if event.resource = resource then stage.advance event else some stage

/-- The stage of a resource after a log, if the log is in order. -/
def follow (resource : Resource) : LifeStage → List (LifeEvent Resource) → Option LifeStage
  | stage, [] => some stage
  | stage, event :: rest => (stage.next resource event).bind fun after => after.follow resource rest

variable {resource : Resource}

theorem next_self (stage : LifeStage) {event : LifeEvent Resource}
    (h : event.resource = resource) : stage.next resource event = stage.advance event := if_pos h

theorem follow_append (stage : LifeStage) (first second : List (LifeEvent Resource)) :
    stage.follow resource (first ++ second) =
      (stage.follow resource first).bind fun after => after.follow resource second := by
  induction first generalizing stage with
  | nil => rfl
  | cons event rest ih =>
      simp only [List.cons_append, follow]
      cases stage.next resource event with
      | none => rfl
      | some after => exact ih after

/-- Events about other resources do not matter. -/
theorem follow_of_untouched (stage : LifeStage) {log : List (LifeEvent Resource)}
    (h : ∀ event ∈ log, event.resource ≠ resource) : stage.follow resource log = some stage := by
  induction log with
  | nil => rfl
  | cons event rest ih =>
      have hother := h event List.mem_cons_self
      rw [follow, next, if_neg hother, Option.bind_some]
      exact ih fun event hmem => h event (List.mem_cons_of_mem _ hmem)

/-- An untouched part of a log can be left out. -/
theorem follow_untouched_append (stage : LifeStage) {first second : List (LifeEvent Resource)}
    (h : ∀ event ∈ first, event.resource ≠ resource) :
    stage.follow resource (first ++ second) = stage.follow resource second := by
  rw [follow_append, follow_of_untouched stage h, Option.bind_some]

/-- Events of one kind, one of which is out of order for the resource. -/
theorem follow_map_eq_none {event : Resource → LifeEvent Resource}
    (hevent : ∀ r, (event r).resource = r) {stage : LifeStage}
    (hstage : stage.next resource (event resource) = none) {resources : List Resource}
    (hmem : resource ∈ resources) : stage.follow resource (resources.map event) = none := by
  induction resources with
  | nil => simp at hmem
  | cons first rest ih =>
      rw [List.map_cons, follow]
      by_cases heq : first = resource
      · rw [heq, hstage]
        rfl
      · have hrest := (List.mem_cons.mp hmem).resolve_left (Ne.symm heq)
        rw [next, if_neg (by rw [hevent]; exact heq), Option.bind_some]
        exact ih hrest

/-- Events of one kind touch the resource once, or a second time out of order. -/
theorem follow_map_of_mem (event : Resource → LifeEvent Resource)
    (hevent : ∀ r, (event r).resource = r) {stage after : LifeStage}
    (hstage : stage.next resource (event resource) = some after)
    (honce : after.next resource (event resource) = none) {resources : List Resource}
    (hmem : resource ∈ resources) :
    stage.follow resource (resources.map event) = some after ∨
      stage.follow resource (resources.map event) = none := by
  induction resources with
  | nil => simp at hmem
  | cons first rest ih =>
      rw [List.map_cons, follow]
      by_cases heq : first = resource
      · rw [heq, hstage, Option.bind_some]
        by_cases hrest : resource ∈ rest
        · exact .inr (follow_map_eq_none hevent honce hrest)
        · left
          apply follow_of_untouched
          intro e he
          obtain ⟨r, hr, rfl⟩ := List.mem_map.mp he
          rw [hevent]
          exact fun h => hrest (h ▸ hr)
      · have hrest := (List.mem_cons.mp hmem).resolve_left (Ne.symm heq)
        rw [next, if_neg (by rw [hevent]; exact heq), Option.bind_some]
        exact ih hrest

/-- Handing over a free resource leaves it owned, unless it is handed over twice. -/
theorem follow_handOver {resources : List Resource} (hmem : resource ∈ resources) :
    LifeStage.free.follow resource (resources.map .handOver) = some .owned ∨
      LifeStage.free.follow resource (resources.map .handOver) = none :=
  follow_map_of_mem .handOver (fun _ => rfl) (next_self _ rfl) (next_self _ rfl) hmem

/-- Releasing what is not in use is an error, whatever comes later. -/
theorem follow_release {stage : LifeStage} (hstage : stage ≠ .used) {resources : List Resource}
    (hmem : resource ∈ resources) (rest : List (LifeEvent Resource)) :
    stage.follow resource (resources.map .release ++ rest) = none := by
  have hnext : stage.next resource (.release resource) = none := by
    refine (next_self stage rfl).trans ?_
    cases stage with
    | free => rfl
    | owned => rfl
    | used => exact absurd rfl hstage
  rw [follow_append, follow_map_eq_none (fun _ => rfl) hnext hmem]
  rfl

/-- Using an owned resource and releasing it twice is an error. -/
theorem follow_use_release_twice {resources : List Resource} (hmem : resource ∈ resources)
    (rest : List (LifeEvent Resource)) :
    LifeStage.owned.follow resource (resources.map .use ++ (resources.map .release ++
      (resources.map .release ++ rest))) = none := by
  rw [follow_append]
  rcases follow_map_of_mem .use (fun _ => rfl) (next_self .owned rfl)
    (next_self .used rfl) hmem with hused | hnone
  · rw [hused, Option.bind_some, follow_append]
    rcases follow_map_of_mem .release (fun _ => rfl) (next_self .used rfl)
      (next_self .free rfl) hmem with hfree | hnone
    · rw [hfree, Option.bind_some, follow_release (by decide) hmem]
    · rw [hnone]
      rfl
  · rw [hnone]
    rfl

end LifeStage

end LgeHardware.Foundation
