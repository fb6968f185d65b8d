import Mathlib.Algebra.Order.Floor.Ring
import Mathlib.Data.List.Nodup
import Mathlib.Data.List.Perm.Basic
import Mathlib.Data.Rat.Floor
import QualityGate.Bounded
import QualityGate.Proofs.Entries
import QualityGate.Proofs.Magnitudes

/-!
# Bounded calls

Workers share the items of a list, each takes the next item as soon as it is free, and calls end in any order. What a run has done
is read off the trace of its calls and of their ends. One step keeps the account of the items, of the calls and of the workers
(`Account.step`), so every run does (`Account.of_runs`), whatever order the calls end in.
-/

namespace QualityGate

/-- What happens to a call: it is made, it returns a result, or it fails. -/
inductive CallEvent (α β : Type) where
  | called (i : Nat) (a : α)
  | returned (i : Nat) (result : β)
  | failed (i : Nat)
  deriving DecidableEq, Repr

namespace CallEvent

variable {α β : Type}

def call? : CallEvent α β → Option (Nat × α)
  | .called i a => some (i, a)
  | _ => none

def result? : CallEvent α β → Option (Nat × β)
  | .returned i result => some (i, result)
  | _ => none

/-- The place whose call ends with an event. -/
def end? : CallEvent α β → Option Nat
  | .called _ _ => none
  | .returned i _ | .failed i => some i

def failure? : CallEvent α β → Option Nat
  | .failed i => some i
  | _ => none

/-- The calls of a trace, each with its place and its item. -/
def calls (trace : List (CallEvent α β)) : List (Nat × α) := trace.filterMap call?

def results (trace : List (CallEvent α β)) : List (Nat × β) := trace.filterMap result?

def ends (trace : List (CallEvent α β)) : List Nat := trace.filterMap end?

def failures (trace : List (CallEvent α β)) : List Nat := trace.filterMap failure?

/-- The places whose calls have been made and have not ended. -/
def inFlight (trace : List (CallEvent α β)) : List Nat := ((calls trace).map (·.1)).filter fun i => i ∉ ends trace

end CallEvent

open CallEvent

/-- A pool, and how many of its workers are free to take an item. -/
structure Crew (α β : Type) where
  pool : Pool α β
  free : Nat
  deriving Inhabited

variable {α β ε : Type}

namespace Pool

/-- A call has returned, and its worker has not gone on yet. -/
def complete (i : Nat) (result : β) (p : Pool α β) : Pool α β :=
  { p with running := p.running.filter (·.1 ≠ i), done := p.done ++ [(i, result)] }

/-- A call has failed, and its worker ends with it. -/
def abandon (i : Nat) (p : Pool α β) : Pool α β := { p with running := p.running.filter (·.1 ≠ i) }

theorem finish_eq_start_complete (i : Nat) (result : β) (p : Pool α β) : p.finish i result = (p.complete i result).start := rfl

end Pool

namespace Crew

/-- What can happen next: a free worker calls the function on the next item, or a call that is in flight ends. -/
inductive Step : Crew α β → CallEvent α β → Crew α β → Prop where
  | call {p : Pool α β} {free i a rest} (waits : p.waiting = (i, a) :: rest) :
    Step ⟨p, free + 1⟩ (.called i a) ⟨p.start, free⟩
  | answer {p : Pool α β} {free i a} (runs : (i, a) ∈ p.running) (result : β) :
    Step ⟨p, free⟩ (.returned i result) ⟨p.complete i result, free + 1⟩
  | fail {p : Pool α β} {free i a} (runs : (i, a) ∈ p.running) : Step ⟨p, free⟩ (.failed i) ⟨p.abandon i, free⟩

/-- Steps one after the other, with their trace. -/
inductive Runs (start : Crew α β) : List (CallEvent α β) → Crew α β → Prop where
  | none : Runs start [] start
  | more {trace e c c'} (run : Runs start trace c) (step : Step c e c') : Runs start (trace ++ [e]) c'

/-- Nothing is left that could happen. -/
def Final (c : Crew α β) : Prop := ∀ e c', ¬Step c e c'

/-- All workers of a limit before the first call. -/
def begin (limit : Number) (items : List α) : Crew α β :=
  ⟨⟨Pool.numbered items, [], [], 0⟩, workersFor limit items.length⟩

/-- Nothing is left when no call is in flight, and no worker is free or no item waits. -/
theorem final_iff {c : Crew α β} : c.Final ↔ c.pool.running = [] ∧ (c.free = 0 ∨ c.pool.waiting = []) := by
  constructor
  · refine fun h => ⟨List.eq_nil_iff_forall_not_mem.mpr fun ⟨i, a⟩ hmem => h _ _ (.fail hmem), ?_⟩
    obtain ⟨p, free⟩ := c
    cases free with
    | zero => exact .inl rfl
    | succ free =>
      refine .inr (List.eq_nil_iff_forall_not_mem.mpr fun item hmem => ?_)
      obtain ⟨item, rest, hwaiting⟩ := List.exists_cons_of_ne_nil (List.ne_nil_of_mem hmem)
      exact h _ _ (.call hwaiting)
  · rintro ⟨hrunning, hidle⟩ e c' step
    cases step with
    | call waits =>
      rcases hidle with hfree | hwaiting
      · cases hfree
      · cases hwaiting.symm.trans waits
    | answer runs | fail runs => exact List.not_mem_nil (hrunning ▸ runs)

end Crew

/-! ## The account of a run -/

theorem Pool.numbered_eq (items : List α) : Pool.numbered items = items.mapIdx fun i a => (i, a) := by
  rw [Pool.numbered, List.mapIdx_eq_zipIdx_map]

/-- A numbered item is the one at its place. -/
theorem Pool.mem_numbered_iff {items : List α} {i : Nat} {a : α} : (i, a) ∈ numbered items ↔ items[i]? = some a := by
  rw [numbered, ← List.mk_mem_zipIdx_iff_getElem?, List.mem_map]
  constructor
  · rintro ⟨⟨b, j⟩, hmem, heq⟩
    obtain ⟨rfl, rfl⟩ := Prod.mk.inj heq
    exact hmem
  · exact fun hmem => ⟨(a, i), hmem, rfl⟩

/-- The numbers of the items are the places from zero on. -/
theorem Pool.map_fst_numbered (items : List α) : (Pool.numbered items).map (·.1) = List.range items.length := by
  have hswap : (fun x : Nat × α => x.1) ∘ (fun x : α × Nat => (x.2, x.1)) = Prod.snd := rfl
  rw [Pool.numbered, List.map_map, hswap, List.zipIdx_map_snd, List.range_eq_range']

/-- Of distinct places, all but one are kept when the entry at that one is taken out. -/
theorem perm_cons_filter_ne {running : List (Nat × α)} (hnodup : (running.map (·.1)).Nodup) {i : Nat} {a : α}
    (h : (i, a) ∈ running) : (i :: (running.filter (·.1 ≠ i)).map (·.1)).Perm (running.map (·.1)) := by
  have herase : (running.map (·.1)).erase i = (running.filter (·.1 ≠ i)).map (·.1) := by
    rw [hnodup.erase_eq_filter, List.filter_map]
    exact congrArg _ (List.filter_congr fun x _ => (decide_not (p := x.1 = i)).symm)
  have hmem : i ∈ running.map (·.1) := List.mem_map_of_mem h
  exact herase ▸ (List.perm_cons_erase hmem).symm

namespace CallEvent

/-- What is taken from a trace with one more event is taken from the trace and then from the event. -/
theorem filterMap_snoc {γ δ : Type} (f : γ → Option δ) (l : List γ) (a : γ) :
    (l ++ [a]).filterMap f = l.filterMap f ++ (f a).toList := by
  rw [List.filterMap_append]
  cases h : f a <;> simp [h]

/-- Every event is a call or the end of one. -/
theorem length_eq (trace : List (CallEvent α β)) : trace.length = (calls trace).length + (ends trace).length := by
  induction trace using List.reverseRecOn with
  | nil => rfl
  | append_singleton trace e ih =>
    simp only [calls, ends, filterMap_snoc, List.length_append] at ih ⊢
    cases e <;> simp only [call?, end?, Option.toList, List.length_cons, List.length_nil] <;> omega

variable {trace : List (CallEvent α β)} {e : CallEvent α β} {i : Nat}

/-- The end of a call is no call. -/
theorem calls_of_end (h : e.end? = some i) : calls (trace ++ [e]) = calls trace := by
  rw [calls, filterMap_snoc]
  cases e with
  | called => cases h
  | returned | failed => exact List.append_nil _

/-- The end of a call is the last of the ends. -/
theorem ends_of_end (h : e.end? = some i) : ends (trace ++ [e]) = ends trace ++ [i] := by
  rw [ends, filterMap_snoc, h]
  rfl

/-- Without a failure every call that ended has returned a result. -/
theorem ends_eq_of_failures_eq_nil (h : failures trace = []) :
    ends trace = (results trace).map (·.1) := by
  induction trace with
  | nil => rfl
  | cons e trace ih =>
    cases e with
    | called i a => exact ih h
    | returned i result => exact congrArg (i :: ·) (ih h)
    | failed i => cases h

end CallEvent

/-- What holds of a run of a number of workers at any time: the calls and the items that wait are the items in their order, every
call is in flight or has ended, the results are those that were returned, and each worker is free, in a call or has failed. -/
structure Account (workers : Nat) (items : List α) (trace : List (CallEvent α β)) (c : Crew α β) : Prop where
  items_eq : calls trace ++ c.pool.waiting = Pool.numbered items
  running_subset : c.pool.running ⊆ calls trace
  calls_perm : (c.pool.running.map (·.1) ++ ends trace).Perm ((calls trace).map (·.1))
  done_eq : c.pool.done = results trace
  workers_eq : c.free + c.pool.running.length + (failures trace).length = workers
  peak_le : c.pool.peak ≤ workers

namespace Account

variable {workers : Nat} {items : List α} {trace : List (CallEvent α β)} {c c' : Crew α β}

/-- Before the first call nothing has happened and all workers are free. -/
theorem begin (limit : Number) (items : List α) :
    Account (workersFor limit items.length) items [] (Crew.begin limit items : Crew α β) := by
  have hworkers : workersFor limit items.length + 0 + (failures ([] : List (CallEvent α β))).length = workersFor limit items.length :=
    rfl
  exact ⟨List.nil_append _, List.nil_subset _, .nil, rfl, hworkers, Nat.zero_le _⟩

/-- The places of the calls are the first places, each once. -/
theorem calls_prefix (h : Account workers items trace c) : calls trace <+: Pool.numbered items := ⟨_, h.items_eq⟩

/-- No place is called twice. -/
theorem nodup_calls (h : Account workers items trace c) : ((calls trace).map (·.1)).Nodup := by
  have hnodup : ((Pool.numbered items).map (·.1)).Nodup := Pool.map_fst_numbered items ▸ List.nodup_range
  exact hnodup.sublist (h.calls_prefix.sublist.map _)

theorem nodup_running_append (h : Account workers items trace c) : (c.pool.running.map (·.1) ++ ends trace).Nodup :=
  h.calls_perm.nodup_iff.mpr h.nodup_calls

/-- A call that ends leaves the calls in flight for those that have ended. -/
theorem perm_of_end (h : Account workers items trace c) {i : Nat} {a : α} (runs : (i, a) ∈ c.pool.running) :
    ((c.pool.running.filter (·.1 ≠ i)).map (·.1) ++ (ends trace ++ [i])).Perm ((calls trace).map (·.1)) := by
  have hrunning := perm_cons_filter_ne h.nodup_running_append.of_append_left runs
  refine List.Perm.trans ?_ ((hrunning.append_right _).trans h.calls_perm)
  rw [← List.append_assoc]
  exact List.perm_append_singleton i _

/-- The end of a call leaves one call less in flight. -/
theorem length_filter_ne (h : Account workers items trace c) {i : Nat} {a : α} (runs : (i, a) ∈ c.pool.running) :
    (c.pool.running.filter (·.1 ≠ i)).length + 1 = c.pool.running.length := by
  have hlength := (perm_cons_filter_ne h.nodup_running_append.of_append_left runs).length_eq
  rwa [List.length_cons, List.length_map, List.length_map] at hlength

/-- A step keeps the account. -/
theorem step (h : Account workers items trace c) {e : CallEvent α β} (step : Crew.Step c e c') :
    Account workers items (trace ++ [e]) c' := by
  cases step with
  | @call p free i a rest waits =>
    have hstart : p.start = ⟨rest, p.running ++ [(i, a)], p.done, max p.peak (p.running.length + 1)⟩ := by
      rw [Pool.start, waits]
    have hcalls : calls (trace ++ [.called i a]) = calls trace ++ [(i, a)] := filterMap_snoc ..
    have hends : ends (trace ++ [.called i a]) = ends trace := (filterMap_snoc ..).trans (List.append_nil _)
    have hworkers : free + 1 + p.running.length + (failures trace).length = workers := h.workers_eq
    rw [hstart]
    refine ⟨?_, ?_, ?_, ?_, ?_, Nat.max_le.mpr ⟨h.peak_le, by omega⟩⟩
    · rw [hcalls, ← h.items_eq, waits, List.append_assoc, List.singleton_append]
    · rw [hcalls]
      exact List.append_subset.mpr ⟨List.subset_append_of_subset_left _ h.running_subset, List.subset_append_right ..⟩
    · rw [hcalls, hends, List.map_append, List.map_append, List.append_assoc]
      refine (List.perm_append_comm.append_left _).trans ?_
      rw [← List.append_assoc]
      exact h.calls_perm.append_right _
    · rw [results, filterMap_snoc]
      exact h.done_eq.trans (List.append_nil _).symm
    · rw [failures, filterMap_snoc, ← hworkers, List.length_append, List.length_append]
      exact congrArg (· + _) (Nat.add_right_comm free p.running.length 1)
  | @answer p free i a runs result =>
    have hfailures : failures (trace ++ [.returned i result]) = failures trace := (filterMap_snoc ..).trans (List.append_nil _)
    have hworkers : free + p.running.length + (failures trace).length = workers := h.workers_eq
    refine ⟨?_, ?_, ?_, ?_, ?_, h.peak_le⟩
    · rw [calls_of_end rfl]
      exact h.items_eq
    · rw [calls_of_end rfl]
      exact List.Subset.trans (List.filter_subset_self _) h.running_subset
    · rw [calls_of_end rfl, ends_of_end rfl]
      exact h.perm_of_end runs
    · rw [results, filterMap_snoc]
      exact congrArg (· ++ [(i, result)]) h.done_eq
    · rw [hfailures, ← hworkers, ← h.length_filter_ne runs, Nat.add_right_comm free 1]
      rfl
  | @fail p free i a runs =>
    have hworkers : free + p.running.length + (failures trace).length = workers := h.workers_eq
    refine ⟨?_, ?_, ?_, ?_, ?_, h.peak_le⟩
    · rw [calls_of_end rfl]
      exact h.items_eq
    · rw [calls_of_end rfl]
      exact List.Subset.trans (List.filter_subset_self _) h.running_subset
    · rw [calls_of_end rfl, ends_of_end rfl]
      exact h.perm_of_end runs
    · rw [results, filterMap_snoc]
      exact h.done_eq.trans (List.append_nil _).symm
    · rw [failures, filterMap_snoc, ← hworkers, ← h.length_filter_ne runs, List.length_append]
      exact (Nat.add_right_comm (free + _) 1 _).symm

/-- The account holds at any time of a run, by induction on its steps. -/
theorem of_runs {limit : Number} (run : Crew.Runs (Crew.begin limit items) trace c) :
    Account (workersFor limit items.length) items trace c := by
  induction run with
  | none => exact begin limit items
  | more _ step ih => exact ih.step step

/-- The places in flight by the trace are those of the pool. -/
theorem inFlight_perm (h : Account workers items trace c) : (inFlight trace).Perm (c.pool.running.map (·.1)) := by
  have hdisjoint := List.disjoint_of_nodup_append h.nodup_running_append
  have hperm := h.calls_perm.filter fun i => decide (i ∉ ends trace)
  have hrunning : (c.pool.running.map (·.1)).filter (fun i => decide (i ∉ ends trace)) = c.pool.running.map (·.1) :=
    List.filter_eq_self.mpr fun i hi => decide_eq_true (hdisjoint hi)
  have hends : (ends trace).filter (fun i => decide (i ∉ ends trace)) = [] :=
    List.filter_eq_nil_iff.mpr fun i hi => by simp [hi]
  rw [List.filter_append, hrunning, hends, List.append_nil] at hperm
  exact hperm.symm

/-- No more calls are in flight than there are workers. -/
theorem length_inFlight_le (h : Account workers items trace c) : (inFlight trace).length ≤ workers := by
  rw [h.inFlight_perm.length_eq, List.length_map]
  have := h.workers_eq
  omega

/-- There is no run without an end: each place has two events at most. -/
theorem length_le (h : Account workers items trace c) : trace.length ≤ 2 * items.length := by
  have hends := h.calls_perm.length_eq
  have hcalls := h.calls_prefix.length_le
  rw [Pool.numbered, List.length_map, List.length_zipIdx] at hcalls
  rw [List.length_append, List.length_map, List.length_map] at hends
  rw [length_eq]
  omega

end Account

/-! ## How many workers there are -/

/-- Every limit that is a number has a worker. -/
theorem workersFor_pos {limit : Number} (h : limit ≠ .nan) (items : Nat) : 0 < workersFor limit items := by
  unfold workersFor
  cases limit with
  | nan => exact absurd rfl h
  | infinite negative =>
    dsimp only
    split <;> omega
  | finite q => exact Nat.le_max_left ..

/-- There are no more workers than the limit and the items allow. -/
theorem workersFor_le {limit : Number} (h : limit ≠ .nan) (items : Nat) {k : Nat} (hk : k ≤ workersFor limit items) :
    (Number.finite k).le (Number.max 1 (Number.min limit (.finite items))) = true := by
  cases limit with
  | nan => exact absurd rfl h
  | infinite negative =>
    cases negative with
    | true =>
      rw [Number.one_eq]
      show (Number.finite k).le (.finite 1) = true
      rw [Number.le_finite, decide_eq_true_eq]
      exact_mod_cast hk
    | false =>
      have hk : k ≤ max 1 items := hk
      rw [Number.one_eq]
      show (Number.finite k).le (Number.max (.finite 1) (.finite items)) = true
      rw [Number.max_finite, Number.le_finite, decide_eq_true_eq]
      exact_mod_cast hk
  | finite q =>
    have hk : k ≤ max 1 (min q.floor.toNat items) := hk
    rw [Number.one_eq, Number.min_finite, Number.max_finite, Number.le_finite, decide_eq_true_eq, le_sup_iff, le_inf_iff]
    rcases Nat.lt_or_ge 1 k with hmany | hone
    · have hfloor : (k : Int) ≤ q.floor := by omega
      exact .inr ⟨by exact_mod_cast Rat.le_floor_iff.mp hfloor, by exact_mod_cast (by omega : k ≤ items)⟩
    · exact .inl (by exact_mod_cast hone)

/-! ## Every order of the ends -/

namespace Account

variable {workers : Nat} {items : List α} {trace : List (CallEvent α β)} {c : Crew α β}

/-- When nothing is left to do and no call has failed, every item has been called and every call has returned. -/
theorem of_final (h : Account workers items trace c) (hworkers : 0 < workers) (hfinal : c.Final)
    (hfailures : failures trace = []) :
    calls trace = Pool.numbered items ∧ ((results trace).map (·.1)).Perm (List.range items.length) := by
  obtain ⟨hrunning, hidle⟩ := Crew.final_iff.mp hfinal
  have hwaiting : c.pool.waiting = [] := by
    refine hidle.resolve_left fun hfree => ?_
    have hnone := h.workers_eq
    rw [hfree, hrunning, hfailures, List.length_nil, List.length_nil] at hnone
    omega
  have hcalls : calls trace = Pool.numbered items := by
    rw [← h.items_eq, hwaiting, List.append_nil]
  have hperm := h.calls_perm
  rw [hrunning, ends_eq_of_failures_eq_nil hfailures, hcalls, Pool.map_fst_numbered] at hperm
  exact ⟨hcalls, hperm⟩

/-- Each place that has returned did so once, and its result stands at that place. -/
theorem exists_result (h : Account workers items trace c)
    (hperm : ((results trace).map (·.1)).Perm (List.range items.length)) {i : Nat} (hi : i < items.length) :
    ∃ result, (∀ r, (i, r) ∈ results trace ↔ r = result) ∧ (c.pool.resultsOf items.length)[i]? = some (some result) := by
  have hnodup : ((results trace).map (·.1)).Nodup := hperm.nodup_iff.mpr List.nodup_range
  obtain ⟨⟨j, result⟩, hmem, rfl : j = i⟩ := List.mem_map.mp (hperm.mem_iff.mpr (List.mem_range.mpr hi))
  have hlookup := (Entries.lookup_eq_some_iff_mem hnodup).mpr hmem
  refine ⟨result, fun r => ⟨fun hr => ?_, fun hr => hr ▸ hmem⟩, ?_⟩
  · exact Option.some.inj (((Entries.lookup_eq_some_iff_mem hnodup).mpr hr).symm.trans hlookup)
  · rw [Pool.resultsOf, h.done_eq, List.getElem?_map, List.getElem?_range hi, Option.map_some, hlookup]

end Account

/-- Bounded concurrency keeps the order and loses nothing. With a limit that is a number, at any time of a run and whatever order the
calls end in, the calls are those of the first items, in their order and each with its place; no call has ended twice; and there are
no more calls in flight, and there never were, than the limit and the items allow. The run comes to an end, and unless a call has
failed every item has been called once then, and the result at its place is what that call returned. -/
theorem calls_inOrder {limit : Number} (hlimit : limit ≠ .nan) {items : List α} {trace : List (CallEvent α β)} {c : Crew α β}
    (run : Crew.Runs (Crew.begin limit items) trace c) :
    calls trace <+: items.mapIdx (fun i a => (i, a)) ∧ (ends trace).Nodup ∧
      (Number.finite (inFlight trace).length).le (Number.max 1 (Number.min limit (.finite items.length))) ∧
      (Number.finite c.pool.peak).le (Number.max 1 (Number.min limit (.finite items.length))) ∧
      trace.length ≤ 2 * items.length ∧
      (c.Final → failures trace = [] →
        calls trace = items.mapIdx (fun i a => (i, a)) ∧
        ∀ i < items.length, ∃ result, (∀ r, (i, r) ∈ results trace ↔ r = result) ∧
          (c.pool.resultsOf items.length)[i]? = some (some result)) := by
  have account := Account.of_runs run
  refine ⟨Pool.numbered_eq items ▸ account.calls_prefix, account.nodup_running_append.of_append_right,
    workersFor_le hlimit _ account.length_inFlight_le, workersFor_le hlimit _ account.peak_le, account.length_le,
    fun hfinal hfailures => ?_⟩
  obtain ⟨hcalls, hperm⟩ := account.of_final (workersFor_pos hlimit _) hfinal hfailures
  exact ⟨hcalls.trans (Pool.numbered_eq items), fun i hi => account.exists_result hperm hi⟩

/-- Two calls at a time, of which the later one ends first: the results are in the order of the items. -/
theorem laterEndsFirst_inOrder :
    let trace : List (CallEvent Nat Char) :=
      [.called 0 7, .called 1 8, .returned 1 'b', .called 2 9, .returned 2 'c', .returned 0 'a']
    ∃ c, Number.finite 2 ≠ .nan ∧ Crew.Runs (Crew.begin (.finite 2) [7, 8, 9]) trace c ∧ c.Final ∧ failures trace = [] ∧
      (Number.finite (inFlight trace).length).le (Number.max 1 (Number.min (.finite 2) (.finite 3))) ∧
      (∀ i < 3, ∃ result, (∀ r, (i, r) ∈ results trace ↔ r = result) ∧ (c.pool.resultsOf 3)[i]? = some (some result)) ∧
      c.pool.resultsOf 3 = [some 'a', some 'b', some 'c'] := by
  intro trace
  have begun : Crew.Runs (Crew.begin (.finite 2) [7, 8, 9] : Crew Nat Char) [.called 0 7, .called 1 8]
      ⟨⟨[(2, 9)], [(0, 7), (1, 8)], [], 2⟩, 0⟩ :=
    (Crew.Runs.none.more (.call rfl)).more (.call rfl)
  have handedOn : Crew.Runs (Crew.begin (.finite 2) [7, 8, 9]) (trace.take 4) ⟨⟨[], [(0, 7), (2, 9)], [(1, 'b')], 2⟩, 0⟩ :=
    (begun.more (.answer (show (1, 8) ∈ [(0, 7), (1, 8)] by decide) 'b')).more (.call rfl)
  have run : Crew.Runs (Crew.begin (.finite 2) [7, 8, 9]) trace ⟨⟨[], [], [(1, 'b'), (2, 'c'), (0, 'a')], 2⟩, 2⟩ :=
    (handedOn.more (.answer (show (2, 9) ∈ [(0, 7), (2, 9)] by decide) 'c')).more
      (.answer (show (0, 7) ∈ [(0, 7)] by decide) 'a')
  have hlimit : Number.finite 2 ≠ .nan := by decide
  have hfinal : Crew.Final (⟨⟨[], [], [(1, 'b'), (2, 'c'), (0, 'a')], 2⟩, 2⟩ : Crew Nat Char) :=
    Crew.final_iff.mpr ⟨rfl, .inr rfl⟩
  obtain ⟨-, -, hinFlight, -, -, hresults⟩ := calls_inOrder hlimit run
  exact ⟨_, hlimit, run, hfinal, rfl, hinFlight, (hresults hfinal rfl).2, rfl⟩

/-- With a limit that is no number there is no worker: nothing is called, and there is no result. -/
theorem nan_callsNothing :
    (∃ c : Crew Nat Nat, Crew.Runs (Crew.begin .nan [7]) [] c ∧ c.Final ∧ c.pool.resultsOf 1 = [none]) ∧
      (runBounded .nan [7] fun a _ => (.ok a : Except Unit Nat)).map (·.resultsOf 1) = .ok [none] :=
  ⟨⟨_, .none, Crew.final_iff.mpr ⟨rfl, .inl rfl⟩, rfl⟩, rfl⟩

/-! ## The function that runs -/

theorem Pool.start_of_waiting_nil {p : Pool α β} (h : p.waiting = []) : p.start = p := by
  rw [Pool.start, h]

/-- Where no item waits, none is started, however often it is tried. -/
theorem Pool.starts_of_waiting_nil {p : Pool α β} (h : p.waiting = []) (n : Nat) : Pool.starts n p = p := by
  induction n with
  | zero => rfl
  | succ n ih => rw [Pool.starts, start_of_waiting_nil h, ih]

/-- A start takes an item from those that wait to the calls in flight. -/
theorem Pool.length_start (p : Pool α β) :
    p.start.running.length + p.start.waiting.length = p.running.length + p.waiting.length := by
  obtain ⟨waiting, running, done, peak⟩ := p
  cases waiting with
  | nil => rfl
  | cons item rest =>
    show (running ++ [item]).length + rest.length = running.length + (rest.length + 1)
    rw [List.length_append, List.length_singleton, Nat.add_assoc, Nat.add_comm 1]

/-- Items that are started are in flight and no longer wait. -/
theorem Pool.length_starts (n : Nat) (p : Pool α β) :
    (Pool.starts n p).running.length + (Pool.starts n p).waiting.length = p.running.length + p.waiting.length := by
  induction n generalizing p with
  | zero => rfl
  | succ n ih => rw [Pool.starts, ih, length_start]

/-- Where no call is in flight, nothing is left to be waited for. -/
theorem Pool.drain_of_running_nil {m : Type → Type} [Monad m] {p : Pool α β} (h : p.running = []) (call : α → Nat → m β)
    (pick : List (Nat × α) → Nat) (fuel : Nat) : Pool.drain call pick fuel p = pure p := by
  cases fuel with
  | zero => rfl
  | succ fuel => rw [Pool.drain, h]

/-- While calls are in flight, one of them ends next. -/
theorem Pool.exists_drain_eq {m : Type → Type} [Monad m] {p : Pool α β} (h : p.running ≠ []) (call : α → Nat → m β)
    (pick : List (Nat × α) → Nat) (fuel : Nat) :
    ∃ i a, (i, a) ∈ p.running ∧
      Pool.drain call pick (fuel + 1) p = call a i >>= fun result => Pool.drain call pick fuel (p.finish i result) := by
  obtain ⟨first, rest, hrunning⟩ := List.exists_cons_of_ne_nil h
  rw [Pool.drain, hrunning]
  refine ⟨_, _, ?_, rfl⟩
  cases hpicked : (first :: rest)[pick (first :: rest)]? with
  | none => exact List.mem_cons_self
  | some picked => exact List.mem_of_getElem? hpicked

/-- A trace in which no call fails and every one that ends returns what a function gives for its item and its place. -/
structure AnsweredBy (call : α → Nat → Except ε β) (trace : List (CallEvent α β)) : Prop where
  failures_eq : failures trace = []
  results_of : ∀ i result, (i, result) ∈ results trace → ∃ a, (i, a) ∈ calls trace ∧ call a i = .ok result

namespace AnsweredBy

variable {call : α → Nat → Except ε β} {trace : List (CallEvent α β)}

theorem nil : AnsweredBy call [] := ⟨rfl, fun _ _ h => absurd h List.not_mem_nil⟩

/-- A call that is made is not answered yet. -/
theorem called (h : AnsweredBy call trace) (i : Nat) (a : α) : AnsweredBy call (trace ++ [.called i a]) := by
  refine ⟨by rw [failures, filterMap_snoc]; exact (List.append_nil _).trans h.failures_eq, fun j result hmem => ?_⟩
  rw [results, filterMap_snoc] at hmem
  obtain ⟨b, hb, hcall⟩ := h.results_of j result (List.append_nil (results trace) ▸ hmem)
  rw [calls, filterMap_snoc]
  exact ⟨b, List.mem_append_left _ hb, hcall⟩

/-- A call returns what the function gives. -/
theorem returned (h : AnsweredBy call trace) {i : Nat} {a : α} {result : β} (hmem : (i, a) ∈ calls trace)
    (hcall : call a i = .ok result) : AnsweredBy call (trace ++ [.returned i result]) := by
  refine ⟨by rw [failures, filterMap_snoc]; exact (List.append_nil _).trans h.failures_eq, fun j other hother => ?_⟩
  rw [calls_of_end rfl]
  rw [results, filterMap_snoc] at hother
  rcases List.mem_append.mp hother with hother | hother
  · exact h.results_of j other hother
  · obtain ⟨rfl, rfl⟩ := Prod.mk.inj (List.mem_singleton.mp hother)
    exact ⟨a, hmem, hcall⟩

end AnsweredBy

namespace Crew

/-- A pool to which calls of a function lead of which none has failed, and in which no worker is idle while an item waits. -/
def Reaches (limit : Number) (items : List α) (call : α → Nat → Except ε β) (p : Pool α β) : Prop :=
  ∃ trace free, Runs (begin limit items) trace ⟨p, free⟩ ∧ AnsweredBy call trace ∧ (free = 0 ∨ p.waiting = [])

variable {limit : Number} {items : List α} {call : α → Nat → Except ε β} {p : Pool α β}

/-- A free worker takes an item, if one waits. -/
theorem exists_start {c : Crew α β} {trace : List (CallEvent α β)} {free : Nat} (run : Runs c trace ⟨p, free + 1⟩)
    (answered : AnsweredBy call trace) :
    ∃ trace' free', Runs c trace' ⟨p.start, free'⟩ ∧ AnsweredBy call trace' ∧ (free' = free ∨ p.start.waiting = []) := by
  obtain ⟨waiting, running, done, peak⟩ := p
  cases waiting with
  | nil => exact ⟨trace, free + 1, run, answered, .inr rfl⟩
  | cons item rest => exact ⟨_, free, run.more (.call rfl), answered.called item.1 item.2, .inl rfl⟩

/-- Free workers take items by steps, until none is free or none waits. -/
theorem exists_starts {c : Crew α β} {trace : List (CallEvent α β)} {free : Nat} (run : Runs c trace ⟨p, free⟩)
    (answered : AnsweredBy call trace) :
    ∃ trace' free', Runs c trace' ⟨Pool.starts free p, free'⟩ ∧ AnsweredBy call trace' ∧
      (free' = 0 ∨ (Pool.starts free p).waiting = []) := by
  induction free generalizing p trace with
  | zero => exact ⟨trace, 0, run, answered, .inl rfl⟩
  | succ free ih =>
    obtain ⟨trace', free', run', answered', rfl | hwaiting⟩ := exists_start run answered
    · exact ih run' answered'
    · rw [Pool.starts, Pool.starts_of_waiting_nil hwaiting]
      exact ⟨trace', free', run', answered', .inr hwaiting⟩

/-- The pool that is launched is reached by making the first calls. -/
theorem reaches_launch (limit : Number) (items : List α) (call : α → Nat → Except ε β) :
    Reaches limit items call (Pool.launch (workersFor limit items.length) items) :=
  exists_starts .none .nil

/-- A pool in which a call has returned is reached when the pool before is. -/
theorem Reaches.finish (h : Reaches limit items call p) {i : Nat} {a : α} {result : β} (runs : (i, a) ∈ p.running)
    (hcall : call a i = .ok result) : Reaches limit items call (p.finish i result) := by
  obtain ⟨trace, free, run, answered, hbusy⟩ := h
  have hmem : (i, a) ∈ calls trace := (Account.of_runs run).running_subset runs
  obtain ⟨trace', free', run', answered', hfree⟩ := exists_start (run.more (.answer runs result)) (answered.returned hmem hcall)
  refine ⟨trace', free', run', answered', hfree.elim (fun heq => heq ▸ hbusy.imp id fun hwaiting => ?_) .inr⟩
  have hstart : p.finish i result = p.complete i result := Pool.start_of_waiting_nil hwaiting
  rw [hstart]
  exact hwaiting

/-- A call in flight has the item at its place. -/
theorem Reaches.mem_numbered (h : Reaches limit items call p) {i : Nat} {a : α} (runs : (i, a) ∈ p.running) :
    (i, a) ∈ Pool.numbered items := by
  obtain ⟨trace, free, run, -, -⟩ := h
  have account := Account.of_runs run
  exact account.calls_prefix.subset (account.running_subset runs)

/-- A call that ends leaves one item less to be dealt with. -/
theorem Reaches.length_finish (h : Reaches limit items call p) {i : Nat} {a : α} (runs : (i, a) ∈ p.running) (result : β) :
    (p.finish i result).running.length + (p.finish i result).waiting.length + 1 = p.running.length + p.waiting.length := by
  obtain ⟨trace, free, run, -, -⟩ := h
  have hlength := (Account.of_runs run).length_filter_ne runs
  rw [Pool.finish_eq_start_complete, Pool.length_start]
  show (p.running.filter (·.1 ≠ i)).length + p.waiting.length + 1 = _
  rw [← hlength, Nat.add_right_comm]

/-- A pool is drained by letting calls end in any order, or by the first of them that fails. -/
theorem Reaches.drain (h : Reaches limit items call p) (pick : List (Nat × α) → Nat) (fuel : Nat)
    (hfuel : p.running.length + p.waiting.length ≤ fuel) :
    match Pool.drain call pick fuel p with
    | .ok q => ∃ trace free, Runs (begin limit items) trace ⟨q, free⟩ ∧ Final ⟨q, free⟩ ∧ AnsweredBy call trace
    | .error e => ∃ i a, (i, a) ∈ Pool.numbered items ∧ call a i = .error e := by
  induction fuel generalizing p with
  | zero =>
    obtain ⟨trace, free, run, answered, hbusy⟩ := h
    have hrunning : p.running = [] := List.length_eq_zero_iff.mp (by omega)
    exact ⟨trace, free, run, final_iff.mpr ⟨hrunning, hbusy⟩, answered⟩
  | succ fuel ih =>
    by_cases hrunning : p.running = []
    · obtain ⟨trace, free, run, answered, hbusy⟩ := h
      rw [Pool.drain_of_running_nil hrunning]
      exact ⟨trace, free, run, final_iff.mpr ⟨hrunning, hbusy⟩, answered⟩
    · obtain ⟨i, a, runs, hdrain⟩ := Pool.exists_drain_eq hrunning call pick fuel
      rw [hdrain]
      cases hcall : call a i with
      | error e => exact ⟨i, a, h.mem_numbered runs, hcall⟩
      | ok result =>
        have hlength := h.length_finish runs result
        exact ih (h.finish runs hcall) (by omega)

/-- The calls that are made when the program runs, of which those that were made first end first, are one of the orders. -/
theorem runBounded_spec (limit : Number) (items : List α) (call : α → Nat → Except ε β) :
    match runBounded limit items call with
    | .ok p => ∃ trace free, Runs (begin limit items) trace ⟨p, free⟩ ∧ Final ⟨p, free⟩ ∧ AnsweredBy call trace
    | .error e => ∃ i a, (i, a) ∈ Pool.numbered items ∧ call a i = .error e := by
  refine (reaches_launch limit items call).drain _ _ (Nat.le_of_eq ?_)
  rw [Pool.launch, Pool.length_starts, List.length_nil, Nat.zero_add, Pool.numbered, List.length_map, List.length_zipIdx]

end Crew

/-- The function that runs gives the result of every item at its place, unless it fails with the failure of one of them. -/
theorem resultsOf_runBounded {limit : Number} (hlimit : limit ≠ .nan) {items : List α} {call : α → Nat → Except ε β}
    {p : Pool α β} (h : runBounded limit items call = .ok p) {i : Nat} {a : α} (hitem : items[i]? = some a) :
    ∃ result, call a i = .ok result ∧ (p.resultsOf items.length)[i]? = some (some result) := by
  have hspec := Crew.runBounded_spec limit items call
  rw [h] at hspec
  obtain ⟨trace, free, run, hfinal, answered⟩ := hspec
  have account := Account.of_runs run
  obtain ⟨hcalls, hperm⟩ := account.of_final (workersFor_pos hlimit _) hfinal answered.failures_eq
  obtain ⟨result, hresult, hat⟩ := account.exists_result hperm (List.getElem?_eq_some_iff.mp hitem).1
  obtain ⟨b, hb, hcall⟩ := answered.results_of i result ((hresult result).mpr rfl)
  rw [hcalls, Pool.mem_numbered_iff, hitem] at hb
  exact ⟨result, Option.some.inj hb ▸ hcall, hat⟩

end QualityGate
