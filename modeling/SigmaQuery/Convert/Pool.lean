import SigmaQuery.Convert.Backend

/-!
# Converting a collection with workers

With two workers or more, and two rules or more, a collection is converted by a pool. The
indices of the rules wait in a channel, filled and closed before the pool starts; each of at
most as many workers as rules takes the next index, converts that rule, writes the result to
the rule's own slot, and takes the next index, until the channel is empty. The pool returns
once every worker that started has finished; a worker may also never start. The main routine
then converts, in order, the indices still in the channel.

Which worker takes which index depends on the scheduling. A schedule is given here as the
sequence of workers that act, one step each: taking an index, or writing the result of the
index it holds. Every interleaving of the workers is some schedule.

Source: the worker path of `ConvertCollection`, `src/pkg/datadog/backend.go:259–296`.
-/

namespace SigmaQuery

/-- A pool converting a collection: the indices still in the channel, the index each worker
holds, the result slots, and the indices whose results were written, in the order they were. -/
structure Pool where
  pending : List Nat
  holding : List (Option Nat)
  slots : List Conversion
  written : List Nat
  deriving Inhabited

namespace Pool

/-- A pool of `k` workers over `n` rules: every index in the channel, no worker holding one,
and every slot holding the empty result.
`src/pkg/datadog/backend.go:259–267`. -/
def start (n k : Nat) : Pool :=
  { pending := List.range n, holding := List.replicate k none,
    slots := List.replicate n default, written := [] }

/-- Writes the result of an index to its slot. -/
def write (convert : Nat → Conversion) (p : Pool) (i : Nat) : Pool :=
  { p with slots := p.slots.set i (convert i), written := p.written ++ [i] }

/-- One step of worker `w`. With nothing in hand it takes the next index from the channel, and
does nothing once the channel is empty; with an index in hand it converts it and writes the
result.
The loop of each worker, `src/pkg/datadog/backend.go:278–280`. -/
def step (convert : Nat → Conversion) (p : Pool) (w : Nat) : Pool :=
  match p.holding[w]? with
  | some none =>
    match p.pending with
    | i :: rest => { p with pending := rest, holding := p.holding.set w (some i) }
    | [] => p
  | some (some i) => { p.write convert i with holding := p.holding.set w none }
  | none => p

/-- The pool after its workers act in the order of a schedule. -/
def run (convert : Nat → Conversion) (p : Pool) (schedule : List Nat) : Pool :=
  schedule.foldl (step convert) p

/-- The main routine's drain: the indices left in the channel, converted in order.
`src/pkg/datadog/backend.go:292–295`. -/
def drain (convert : Nat → Conversion) (p : Pool) : Pool :=
  p.pending.foldl (write convert) { p with pending := [] }

/-- Whether no worker is in the middle of a conversion, as when the pool has returned. -/
def Idle (p : Pool) : Prop := ∀ h ∈ p.holding, h = none

instance (p : Pool) : Decidable p.Idle := inferInstanceAs (Decidable (∀ h ∈ p.holding, h = none))

end Pool

namespace Backend

/-- The result for each position of a collection. -/
def conversionAt (b : Backend) (rules : List (Option Rule)) (mode : OutputMode) (i : Nat) :
    Conversion :=
  b.conversion mode (rules.getD i none) i

/-- The pool converting a collection after its workers act in the order of a schedule: as many
workers as the backend has, but no more than there are rules. -/
def poolAfter (b : Backend) (rules : List (Option Rule)) (mode : OutputMode)
    (schedule : List Nat) : Pool :=
  Pool.run (b.conversionAt rules mode) (Pool.start rules.length (min b.workers.toNat rules.length))
    schedule

/-- Converts a collection under a schedule: one rule after the other with fewer than two workers
or two rules, and otherwise by the pool and then the drain.
`ConvertCollection`, `src/pkg/datadog/backend.go:231–297`. -/
def convertPooled (b : Backend) (rules : List (Option Rule)) (mode : OutputMode)
    (schedule : List Nat) : List Conversion :=
  if b.workers < 2 || rules.length < 2 then b.convertAll rules mode
  else (Pool.drain (b.conversionAt rules mode) (b.poolAfter rules mode schedule)).slots

end Backend

end SigmaQuery
