import LgeHardware.Foundation.OrdMap
import LgeHardware.Foundation.Run

/-! # A table of machines

Calls are for one machine of a table or for several, and each machine is told its own operation
or none. If a call does to every machine what its operation does to it alone, then a machine in
the table goes through what it would go through alone with the operations that it was told, and
puts out the same, however the calls for the machines are mixed.
-/

namespace LgeHardware.Foundation

universe u v w x

variable {Key : Type u} {Machine : Type v} {Op : Type w} {Call : Type x} {Out : Type*}
variable {cmp : Key → Key → Ordering} [Std.TransCmp cmp]

/-- What a machine does alone: its step and what the step puts out. -/
structure Behaviour (Machine : Type v) (Op : Type w) (Out : Type*) where
  next : Machine → Op → Machine
  out : Machine → Op → List Out

/-- The operations that a machine is told. -/
def told (route : Call → Key → Option Op) (key : Key) (calls : List Call) : List Op :=
  calls.filterMap fun call => route call key

section

variable {route : Call → Key → Option Op}

theorem told_cons_none {key : Key} {call : Call} (h : route call key = none) (rest : List Call) :
    told route key (call :: rest) = told route key rest := List.filterMap_cons_none h

theorem told_cons_some {key : Key} {call : Call} {op : Op} (h : route call key = some op)
    (rest : List Call) : told route key (call :: rest) = op :: told route key rest :=
  List.filterMap_cons_some h

end

/-- What a machine puts out of all that a table puts out. -/
def putBy (key : Key) [DecidableEq Key] (log : List (Key × Out)) : List Out :=
  log.filterMap fun entry => if entry.1 = key then some entry.2 else none

/-- A step of a table does to every machine what its own operation does, and nothing where there
is none. What it puts out comes with the machine that it is from. -/
structure Routes [DecidableEq Key] (behaviour : Behaviour Machine Op Out)
    (route : Call → Key → Option Op)
    (step : Std.ExtTreeMap Key Machine cmp → Call → Std.ExtTreeMap Key Machine cmp)
    (put : Std.ExtTreeMap Key Machine cmp → Call → List (Key × Out)) : Prop where
  getElem?_step : ∀ table call key, (step table call)[key]? = table[key]?.map fun machine =>
    ((route call key).map (behaviour.next machine)).getD machine
  putBy_put : ∀ table call key, putBy key (put table call) =
    (table[key]?.bind fun machine => (route call key).map (behaviour.out machine)).getD []

namespace Routes

variable [DecidableEq Key]

theorem putBy_append (key : Key) (first second : List (Key × Out)) :
    putBy key (first ++ second) = putBy key first ++ putBy key second := List.filterMap_append

variable {behaviour : Behaviour Machine Op Out} {route : Call → Key → Option Op}
  {step : Std.ExtTreeMap Key Machine cmp → Call → Std.ExtTreeMap Key Machine cmp}
  {put : Std.ExtTreeMap Key Machine cmp → Call → List (Key × Out)}

/-- A machine in the table is where it would be alone. -/
theorem getElem?_run (h : Routes behaviour route step put)
    (table : Std.ExtTreeMap Key Machine cmp) (calls : List Call) (key : Key) :
    (run step table calls)[key]? =
      table[key]?.map fun machine => run behaviour.next machine (told route key calls) := by
  induction calls generalizing table with
  | nil =>
      cases htable : table[key]? with
      | none => exact htable
      | some machine => exact htable
  | cons call rest ih =>
      rw [run_cons, ih, h.getElem?_step, Option.map_map]
      congr 1
      funext machine
      cases hroute : route call key with
      | none => rw [told_cons_none hroute]; rfl
      | some op => rw [told_cons_some hroute]; rfl

/-- What a machine puts out is what it would put out alone. -/
theorem putBy_outputs (h : Routes behaviour route step put)
    (table : Std.ExtTreeMap Key Machine cmp) (calls : List Call) (key : Key) :
    putBy key (outputs step put table calls) =
      (table[key]?.map fun machine =>
        outputs behaviour.next behaviour.out machine (told route key calls)).getD [] := by
  induction calls generalizing table with
  | nil => cases table[key]? <;> rfl
  | cons call rest ih =>
      rw [outputs, putBy_append, ih, h.putBy_put, h.getElem?_step]
      cases table[key]? with
      | none => rfl
      | some machine =>
          cases hroute : route call key with
          | none => rw [told_cons_none hroute]; rfl
          | some op => rw [told_cons_some hroute]; rfl

end Routes

end LgeHardware.Foundation
