import Mathlib.Logic.Function.Basic
import QualityGate.Proofs.LockOwnership

/-!
# Two processes that take the cache lock at the same time

Each operation of an attempt is one step, and the steps of two attempts are interleaved in any order. The file is made before it is
filled, and a file that cannot be read is taken over: if one attempt reads while the other one has made the file and not filled it,
both end up with the lock, and in no other case (`bothAcquired_iff`).
-/

namespace QualityGate

/-- Processes that are alive to each other, within a time in which no record of theirs becomes stale. -/
structure Together (crowd : List LockAsker) : Prop where
  legible : ∀ a ∈ crowd, a.Legible
  fresh : ∀ a ∈ crowd, ∀ b ∈ crowd, b.findsStale a.record = false

/-- At one moment no record of a living process is stale. -/
theorem together_of_now {crowd : List LockAsker} (now : Instant) (hlegible : ∀ a ∈ crowd, a.Legible) (hnow : ∀ a ∈ crowd, a.now = now)
    (hliving : ∀ a ∈ crowd, ∀ b ∈ crowd, b.living a.pid = true) (hage : ∀ b ∈ crowd, b.staleMs.lt 0 = false) : Together crowd := by
  refine ⟨hlegible, fun a ha b hb => ?_⟩
  rw [LockAsker.findsStale_record (hlegible a ha), hliving a ha b hb, hnow a ha, hnow b hb, sub_self]
  exact hage b hb

/-- A part of such a crowd is one. -/
theorem Together.subset {crowd others : List LockAsker} (h : Together crowd) (hsubset : others ⊆ crowd) : Together others where
  legible a ha := h.legible a (hsubset ha)
  fresh a ha b hb := h.fresh a (hsubset ha) b (hsubset hb)

/-- Two processes at the start of 1970. -/
theorem together_two : Together [⟨1, 0, fun _ => true, 10000⟩, ⟨2, 0, fun _ => true, 10000⟩] := by
  refine together_of_now 0 ?_ ?_ ?_ ?_
  · simp only [List.mem_cons, List.not_mem_nil, or_false]
    rintro a (rfl | rfl) <;> exact ⟨Number.representable_intCast (by decide), by decide⟩
  · simp
  · simp
  · simp only [List.mem_cons, List.not_mem_nil, or_false]
    rintro a (rfl | rfl) <;> decide +kernel

/-- One operation of one of two attempts: which one moves, and how it sees the time and the other process. -/
structure Turn where
  side : Bool
  asker : LockAsker

/-- Two attempts on one path. -/
structure Race where
  stage : Bool → Attempt
  place : LockPlace

namespace Race

/-- Both attempts begin, and there is no lock file; some number of files have been there before. -/
def start (made : Nat) : Race := ⟨fun _ => .create, ⟨none, made⟩⟩

def turn (r : Race) (t : Turn) : Race :=
  ⟨Function.update r.stage t.side ((r.stage t.side).step t.asker r.place).1, ((r.stage t.side).step t.asker r.place).2⟩

def run (r : Race) (schedule : List Turn) : Race := schedule.foldl turn r

/-- In this turn an attempt reads a file that the other one has made and not filled. -/
def ReadsUnfilled (r : Race) (t : Turn) : Prop := r.stage t.side = .read ∧ ∃ id, r.stage (!t.side) = .fill id

/-- Some turn of a schedule reads a file that is not filled. -/
def MeetsUnfilled (r : Race) : List Turn → Prop
  | [] => False
  | t :: rest => r.ReadsUnfilled t ∨ (r.turn t).MeetsUnfilled rest

/-- An attempt is over. -/
def Ended (r : Race) (side : Bool) : Prop := r.stage side = .acquired ∨ ∃ owner, r.stage side = .refused owner

variable {r : Race} {t : Turn} {crowd : List LockAsker} {side : Bool}

/-- A turn moves the attempt whose turn it is. -/
theorem stage_turn_self (r : Race) (t : Turn) : (r.turn t).stage t.side = ((r.stage t.side).step t.asker r.place).1 :=
  Function.update_self _ _ _

theorem stage_turn_other (r : Race) (t : Turn) : (r.turn t).stage (!t.side) = r.stage (!t.side) :=
  Function.update_of_ne (Bool.not_ne_self _) _ _

theorem place_turn (r : Race) (t : Turn) : (r.turn t).place = ((r.stage t.side).step t.asker r.place).2 := rfl

/-- An attempt has made the file that is there, and filled it or not. -/
inductive Owns (crowd : List LockAsker) (r : Race) (side : Bool) : Prop
  | unfilled {id : Nat} (stage : r.stage side = .fill id) (file : r.place.file = some ⟨id, ""⟩)
  | filled {id : Nat} {a : LockAsker} (stage : r.stage side = .acquired) (member : a ∈ crowd)
      (file : r.place.file = some ⟨id, a.record.text⟩)

/-- The phases of a race in which no attempt meets a file that is not filled. -/
inductive Orderly (crowd : List LockAsker) (r : Race) : Prop
  | fresh (stage : ∀ side, r.stage side = .create) (file : r.place.file = none)
  | entering (side : Bool) (owns : r.Owns crowd side) (other : r.stage (!side) = .create ∨ r.stage (!side) = .read)
  | settled (side : Bool) (owner : r.stage side = .acquired) (other : ∃ pid, r.stage (!side) = .refused pid)

/-- The phases of a race after an attempt has met a file that is not filled: it takes the file away and makes its own. -/
structure Overlapped (r : Race) (side : Bool) : Prop where
  owner : (∃ id, r.stage side = .fill id) ∨ r.stage side = .acquired
  intruder : r.stage (!side) = .unlink ∨ (r.stage (!side) = .createAgain ∧ r.place.file = none) ∨
    (∃ id, r.stage (!side) = .fill id) ∨ r.stage (!side) = .acquired

/-- The first attempt that moves makes the file. -/
theorem Orderly.turn_fresh (stage : ∀ side, r.stage side = .create) (file : r.place.file = none) (t : Turn) :
    (r.turn t).Orderly crowd := by
  have hstep : (r.stage t.side).step t.asker r.place = (.fill r.place.made, r.place.create) := by
    rw [stage, Attempt.step, file]
    rfl
  refine .entering t.side (.unfilled ((stage_turn_self r t).trans (congrArg Prod.fst hstep)) ?_) (.inl ?_)
  · rw [place_turn, hstep]
    rfl
  · rw [stage_turn_other, stage]

/-- The attempt that has made the file fills it. -/
theorem Owns.turn_self (h : r.Owns crowd t.side) (hmember : t.asker ∈ crowd) : (r.turn t).Owns crowd t.side := by
  cases h with
  | @unfilled id stage file =>
    have hstep : (r.stage t.side).step t.asker r.place = (.acquired, { r.place with file := some ⟨id, t.asker.record.text⟩ }) := by
      rw [stage, Attempt.step, LockPlace.write, file]
      simp
    have hfile : (r.turn t).place.file = some ⟨id, t.asker.record.text⟩ := by rw [place_turn, hstep]
    exact .filled ((stage_turn_self r t).trans (congrArg Prod.fst hstep)) hmember hfile
  | @filled id a stage member file =>
    have hstep : (r.stage t.side).step t.asker r.place = (.acquired, r.place) := by rw [stage, Attempt.step]
    have hfile : (r.turn t).place.file = some ⟨id, a.record.text⟩ := by rw [place_turn, hstep, file]
    exact .filled ((stage_turn_self r t).trans (congrArg Prod.fst hstep)) member hfile

/-- An attempt that owns the file has one. -/
theorem Owns.isSome (h : r.Owns crowd side) : r.place.file.isSome := by
  cases h with
  | unfilled _ file => rw [file]; rfl
  | filled _ _ file => rw [file]; rfl

/-- What an attempt has made stays its own while the other one only looks. -/
theorem Owns.turn_other (h : r.Owns crowd (!t.side)) (hplace : (r.turn t).place = r.place) : (r.turn t).Owns crowd (!t.side) := by
  cases h with
  | unfilled stage file => exact .unfilled ((stage_turn_other r t).trans stage) (hplace ▸ file)
  | filled stage member file => exact .filled ((stage_turn_other r t).trans stage) member (hplace ▸ file)

/-- A turn in which no unfilled file is read keeps a race orderly. -/
theorem Orderly.turn (h : r.Orderly crowd) (ht : Together crowd) (hmember : t.asker ∈ crowd) (hread : ¬ r.ReadsUnfilled t) :
    (r.turn t).Orderly crowd := by
  cases h with
  | fresh stage file => exact turn_fresh stage file t
  | entering side owns other =>
    rcases Bool.eq_or_eq_not t.side side with rfl | hside
    · refine .entering t.side (owns.turn_self hmember) ?_
      rw [stage_turn_other]
      exact other
    · -- it is the turn of the one who does not own the file: it finds the file there, and then whose it is
      obtain rfl : side = !t.side := by rw [hside, Bool.not_not]
      rw [Bool.not_not] at other
      rcases other with hcreate | hstage
      · have hstep : (r.stage t.side).step t.asker r.place = (.read, r.place) := by
          rw [hcreate, Attempt.step, owns.isSome]
          rfl
        refine .entering (!t.side) (owns.turn_other ((place_turn r t).trans (congrArg Prod.snd hstep))) (.inr ?_)
        rw [Bool.not_not, stage_turn_self, hstep]
      · cases owns with
        | unfilled stage file => exact absurd ⟨hstage, _, stage⟩ hread
        | @filled id a stage member file =>
          have hrecord : r.place.record? = some a.record := by
            unfold LockPlace.record?
            rw [file]
            exact (ht.legible a member).ofText?_record
          have hstep : (r.stage t.side).step t.asker r.place = (.refused a.pid, r.place) := by
            rw [hstage, Attempt.step, hrecord]
            simp only [ht.fresh a member t.asker hmember, Bool.false_eq_true, if_false]
            rfl
          refine .settled (!t.side) ((stage_turn_other r t).trans stage) ⟨a.pid, ?_⟩
          rw [Bool.not_not, stage_turn_self, hstep]
  | settled side owner other =>
    obtain ⟨pid, hrefused⟩ := other
    rcases Bool.eq_or_eq_not t.side side with rfl | hside
    · refine .settled t.side ?_ ⟨pid, (stage_turn_other r t).trans hrefused⟩
      rw [stage_turn_self, owner, Attempt.step]
    · obtain rfl : side = !t.side := by rw [hside, Bool.not_not]
      rw [Bool.not_not] at hrefused
      refine .settled (!t.side) ((stage_turn_other r t).trans owner) ⟨pid, ?_⟩
      rw [Bool.not_not, stage_turn_self, hrefused, Attempt.step]

/-- An attempt that reads an unfilled file is going to take it away. -/
theorem Orderly.overlapped (h : r.Orderly crowd) (hread : r.ReadsUnfilled t) : (r.turn t).Overlapped (!t.side) := by
  obtain ⟨hstage, id, hfill⟩ := hread
  refine ⟨.inl ⟨id, (stage_turn_other r t).trans hfill⟩, .inl ?_⟩
  have hfile : ∃ id, r.place.file = some ⟨id, ""⟩ := by
    cases h with
    | fresh stage _ => rw [stage] at hfill; cases hfill
    | entering side owns _ =>
      rcases Bool.eq_or_eq_not t.side side with rfl | hside
      · cases owns with
        | unfilled stage _ => rw [hstage] at stage; cases stage
        | filled stage _ _ => rw [hstage] at stage; cases stage
      · obtain rfl : side = !t.side := by rw [hside, Bool.not_not]
        cases owns with
        | @unfilled id _ file => exact ⟨id, file⟩
        | filled stage _ _ => rw [hfill] at stage; cases stage
    | settled side owner other =>
      obtain ⟨pid, hrefused⟩ := other
      rcases Bool.eq_or_eq_not t.side side with rfl | hside
      · rw [hstage] at owner; cases owner
      · obtain rfl : side = !t.side := by rw [hside, Bool.not_not]
        rw [hfill] at owner; cases owner
  obtain ⟨id, hfile⟩ := hfile
  have hrecord : r.place.record? = none := by
    unfold LockPlace.record?
    rw [hfile]
    rfl
  rw [Bool.not_not, stage_turn_self, hstage, Attempt.step, hrecord]

/-- After that nothing stops either attempt. -/
theorem Overlapped.turn (h : r.Overlapped side) (t : Turn) : (r.turn t).Overlapped side := by
  obtain ⟨owner, intruder⟩ := h
  rcases Bool.eq_or_eq_not t.side side with rfl | hside
  · refine ⟨.inr ?_, ?_⟩
    · rw [stage_turn_self]
      rcases owner with ⟨id, hfill⟩ | hacquired
      · rw [hfill, Attempt.step]
      · rw [hacquired, Attempt.step]
    · rw [stage_turn_other]
      refine intruder.imp id (Or.imp (fun hheld => ⟨hheld.1, ?_⟩) id)
      rw [place_turn]
      rcases owner with ⟨id, hfill⟩ | hacquired
      · rw [hfill, Attempt.step, LockPlace.write, hheld.2]
        exact hheld.2
      · rw [hacquired, Attempt.step]
        exact hheld.2
  · obtain rfl : side = !t.side := by rw [hside, Bool.not_not]
    rw [Bool.not_not] at intruder
    refine ⟨(stage_turn_other r t).symm ▸ owner, ?_⟩
    rw [Bool.not_not, stage_turn_self, place_turn]
    rcases intruder with hunlink | ⟨hagain, hfile⟩ | ⟨id, hfill⟩ | hacquired
    · rw [hunlink, Attempt.step]
      exact .inr (.inl ⟨rfl, rfl⟩)
    · rw [hagain, Attempt.step, hfile]
      exact .inr (.inr (.inl ⟨_, rfl⟩))
    · rw [hfill, Attempt.step]
      exact .inr (.inr (.inr rfl))
    · rw [hacquired, Attempt.step]
      exact .inr (.inr (.inr rfl))

/-- Once attempts overlap, they do until the end of a schedule. -/
theorem Overlapped.run (h : r.Overlapped side) (schedule : List Turn) : (r.run schedule).Overlapped side := by
  induction schedule generalizing r with
  | nil => exact h
  | cons t rest ih => exact ih (h.turn t)

/-- A race stays orderly until an unfilled file is read, and is out of order from then on. -/
theorem Orderly.run {schedule : List Turn} (h : r.Orderly crowd) (ht : Together crowd)
    (hmember : ∀ t ∈ schedule, t.asker ∈ crowd) :
    (¬ r.MeetsUnfilled schedule ∧ (r.run schedule).Orderly crowd) ∨
      (r.MeetsUnfilled schedule ∧ ∃ side, (r.run schedule).Overlapped side) := by
  induction schedule generalizing r with
  | nil => exact .inl ⟨id, h⟩
  | cons t rest ih =>
    by_cases hread : r.ReadsUnfilled t
    · exact .inr ⟨.inl hread, _, (h.overlapped hread).run rest⟩
    · have hnext := h.turn ht (hmember t (.head _)) hread
      rcases ih hnext fun t ht => hmember t (.tail _ ht) with ⟨hmeets, horderly⟩ | ⟨hmeets, hoverlapped⟩
      · exact .inl ⟨not_or.mpr ⟨hread, hmeets⟩, horderly⟩
      · exact .inr ⟨.inr hmeets, hoverlapped⟩

/-- At most one attempt of an orderly race has the lock. -/
theorem Orderly.not_both (h : r.Orderly crowd) : ¬ ∀ side, r.stage side = .acquired := by
  intro hboth
  cases h with
  | fresh stage _ => exact absurd ((hboth true).symm.trans (stage true)) nofun
  | entering side _ other =>
    exact other.elim (fun h => absurd ((hboth _).symm.trans h) nofun) fun h => absurd ((hboth _).symm.trans h) nofun
  | settled side _ other =>
    obtain ⟨pid, hrefused⟩ := other
    exact absurd ((hboth _).symm.trans hrefused) nofun

/-- Both attempts end with the lock once the files have been mixed up. -/
theorem Overlapped.both (h : r.Overlapped side) (hended : ∀ side, r.Ended side) : ∀ side, r.stage side = .acquired := by
  have howner : r.stage side = .acquired := by
    rcases h.owner with ⟨id, hfill⟩ | hacquired
    · rcases hended side with hend | ⟨pid, hend⟩ <;> rw [hfill] at hend <;> cases hend
    · exact hacquired
  have hintruder : r.stage (!side) = .acquired := by
    rcases hended (!side) with hend | ⟨pid, hend⟩
    · exact hend
    · rcases h.intruder with hstage | ⟨hstage, _⟩ | ⟨id, hstage⟩ | hstage <;> rw [hstage] at hend <;> cases hend
  intro other
  rcases Bool.eq_or_eq_not other side with rfl | rfl
  · exact howner
  · exact hintruder

/-- Two attempts that are both alive both take the lock exactly when they come to their ends and one of them has read the file while
the other one had made it and not filled it. -/
theorem bothAcquired_iff (made : Nat) (schedule : List Turn) (h : Together (schedule.map (·.asker))) :
    (∀ side, ((start made).run schedule).stage side = .acquired) ↔
      (∀ side, ((start made).run schedule).Ended side) ∧ (start made).MeetsUnfilled schedule := by
  have hstart : (start made).Orderly (schedule.map (·.asker)) := .fresh (fun _ => rfl) rfl
  have hrun := hstart.run h fun t ht => List.mem_map_of_mem ht
  constructor
  · intro hboth
    refine ⟨fun side => .inl (hboth side), ?_⟩
    rcases hrun with ⟨-, horderly⟩ | ⟨hmeets, -⟩
    · exact absurd hboth horderly.not_both
    · exact hmeets
  · rintro ⟨hended, hmeets⟩
    rcases hrun with ⟨hnone, -⟩ | ⟨-, side, hoverlapped⟩
    · exact absurd hmeets hnone
    · exact hoverlapped.both hended

/-- An attempt that begins when the other one is over is refused. -/
theorem oneAfterOther_notBoth :
    let first : LockAsker := ⟨1, 0, fun _ => true, 10000⟩
    let second : LockAsker := ⟨2, 0, fun _ => true, 10000⟩
    ¬ ∀ side, ((start 0).run [⟨false, first⟩, ⟨false, first⟩, ⟨true, second⟩, ⟨true, second⟩]).stage side = .acquired := by
  intro first second hboth
  have htogether : Together ([⟨false, first⟩, ⟨false, first⟩, ⟨true, second⟩, ⟨true, second⟩].map Turn.asker) :=
    together_two.subset (by simp [first, second])
  obtain ⟨-, hmeets⟩ := (bothAcquired_iff 0 _ htogether).mp hboth
  rcases hmeets with ⟨hstage, -⟩ | ⟨hstage, -⟩ | ⟨hstage, -⟩ | ⟨-, id, hfill⟩ | hnone
  · cases hstage
  · cases hstage
  · cases hstage
  · cases hfill
  · exact hnone

/-- The second process looks at the file between its making and its filling by the first, takes it away and makes its own; both
have the lock. -/
theorem unfilledFile_lets_both_in :
    let first : LockAsker := ⟨1, 0, fun _ => true, 10000⟩
    let second : LockAsker := ⟨2, 0, fun _ => true, 10000⟩
    let schedule : List Turn := [⟨false, first⟩, ⟨true, second⟩, ⟨true, second⟩, ⟨true, second⟩, ⟨false, first⟩, ⟨true, second⟩,
      ⟨true, second⟩]
    Together (schedule.map (·.asker)) ∧ ∀ side, ((start 0).run schedule).stage side = .acquired := by
  intro first second schedule
  refine ⟨?_, ?_⟩
  · exact together_two.subset (by simp [schedule, first, second])
  · decide +kernel

end Race

end QualityGate
