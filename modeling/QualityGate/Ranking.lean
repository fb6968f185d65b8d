import QualityGate.Text.Units

/-!
# Ranking by values that may not compare

A value that is no number compares with no other and so counts as equal to each of them. An order by such values is not transitive,
and where an item lands depends on how the list is gone through: the run at the start of the list is taken as it is, turned round
when it descends, and each further item finds its place by halving what is ranked already.
-/

namespace QualityGate.Ranking

variable {α : Type}

/-- The items that carry on the run of `last`, and the rest. In a descending run each item precedes the one before it, in any other
run none does. -/
def run (precedes : α → α → Bool) (descending : Bool) (last : α) : List α → List α × List α
  | [] => ([], [])
  | x :: rest =>
    if precedes x last = descending then
      let (more, others) := run precedes descending x rest
      (x :: more, others)
    else ([], x :: rest)

/-- Puts an item into its place among ranked ones: before the middle one if it precedes that, else behind it. -/
def insert (precedes : α → α → Bool) (x : α) (ranked : List α) : List α :=
  match split : ranked.drop (ranked.length / 2) with
  | [] => ranked ++ [x]
  | middle :: above =>
    have size : ranked.length = ranked.length / 2 + above.length + 1 := by
      have := congrArg List.length split
      simp only [List.length_drop, List.length_cons] at this
      omega
    if precedes x middle then insert precedes x (ranked.take (ranked.length / 2)) ++ middle :: above
    else ranked.take (ranked.length / 2) ++ middle :: insert precedes x above
termination_by ranked.length
decreasing_by
  · rw [List.length_take]
    omega
  · omega

/-- The leading run, and each further item put into its place. -/
def byRuns (precedes : α → α → Bool) : List α → List α
  | [] => []
  | [x] => [x]
  | x :: y :: rest =>
    let descending := precedes y x
    let (more, others) := run precedes descending x (y :: rest)
    let lead := x :: more
    others.foldl (fun ranked z => insert precedes z ranked) (if descending then lead.reverse else lead)

/-- The items by an order; when some of them do not compare, in the order in which they are gone through. -/
def rank (comparable : α → Bool) (order : α → α → Ordering) (items : List α) : List α :=
  if items.all comparable then sortBy order items else byRuns (fun a b => order a b = .lt) items

end QualityGate.Ranking
