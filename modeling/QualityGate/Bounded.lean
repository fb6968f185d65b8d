import QualityGate.Number

/-!
# Bounded concurrency

Calls over a list of items of which only so many are in flight at a time. Calls start in the order of the items and may end in any
order; the results are listed in the order of the items.
-/

namespace QualityGate

/-- Items that wait, calls in flight and results, each with its place in the list, and the most calls that were in flight. -/
structure Pool (α β : Type) where
  waiting : List (Nat × α)
  running : List (Nat × α)
  done : List (Nat × β)
  peak : Nat
  deriving Inhabited

namespace Pool

variable {α β : Type}

/-- Starts the next call, if an item waits. -/
def start (p : Pool α β) : Pool α β :=
  match p.waiting with
  | [] => p
  | item :: rest =>
    { p with waiting := rest, running := p.running ++ [item], peak := max p.peak (p.running.length + 1) }

/-- Starts a number of calls. -/
def starts : Nat → Pool α β → Pool α β
  | 0, p => p
  | n + 1, p => starts n p.start

/-- Items with their places. -/
def numbered (items : List α) : List (Nat × α) := items.zipIdx.map fun (a, i) => (i, a)

/-- The pool of a list of items with the first calls in flight. -/
def launch (workers : Nat) (items : List α) : Pool α β := starts workers ⟨numbered items, [], [], 0⟩

/-- A call has ended, and the worker that made it goes on. -/
def finish (i : Nat) (result : β) (p : Pool α β) : Pool α β :=
  start { p with running := p.running.filter (·.1 ≠ i), done := p.done ++ [(i, result)] }

/-- The results in the order of the items. -/
def results (p : Pool α β) : List β := (p.done.mergeSort fun a b => a.1 ≤ b.1).map (·.2)

/-- The result for each of a number of items, as far as there is one. -/
def resultsOf (p : Pool α β) (items : Nat) : List (Option β) := (List.range items).map fun i => p.done.lookup i

/-- Lets calls end, each time the one that is picked of those in flight, until none is left. -/
def drain {m : Type → Type} [Monad m] (call : α → Nat → m β) (pick : List (Nat × α) → Nat) :
    Nat → Pool α β → m (Pool α β)
  | 0, p => pure p
  | fuel + 1, p =>
    match p.running with
    | [] => pure p
    | first :: rest => do
      let (i, a) := (first :: rest).getD (pick (first :: rest)) first
      let result ← call a i
      drain call pick fuel (p.finish i result)

end Pool

/-- How many workers a limit allows for a number of items: never more than items, but always one. A limit that is no number allows
none. -/
def workersFor (limit : Number) (items : Nat) : Nat :=
  match limit with
  | .nan => 0
  | .infinite negative => if negative then 1 else max 1 items
  | .finite q => max 1 (min q.floor.toNat items)

/-- Calls a function on every item with at most `limit` calls in flight; calls end in the order in which they started. -/
def runBounded {m : Type → Type} [Monad m] {α β : Type} (limit : Number) (items : List α) (call : α → Nat → m β) :
    m (Pool α β) :=
  Pool.drain call (fun _ => 0) items.length (Pool.launch (workersFor limit items.length) items)

end QualityGate
