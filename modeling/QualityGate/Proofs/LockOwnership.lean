import QualityGate.Lock
import QualityGate.Proofs.Instants
import QualityGate.Proofs.JsonText

/-!
# Who holds the cache lock over time

Processes take the lock and give it up, one whole call after another. Giving it up removes the file of whoever has taken the lock
over in the meantime, so a process that has the lock keeps the others out, until it gives the lock up or its record is stale, exactly
when no process that it took the lock over from still has to give it up (`keepsOut_iff`).
-/

namespace QualityGate

open Number (Representable)

namespace LockRecord

/-- A record that is written is read as the record. -/
theorem ofText?_text {r : LockRecord} (h : Representable (r.pid : Rat)) : ofText? r.text = some r := by
  have hrounded : (encode r).Rounded := ⟨Number.isRounded_ofRat _, trivial, trivial⟩
  have hpid : Number.ofInt r.pid = .finite (r.pid : Rat) := h
  have hwritten : (encode r).written = .obj [("pid", .num (.finite (r.pid : Rat))), ("acquiredAt", .str r.acquiredAt)] := by
    have hname : Record.index? "pid" = none ∧ Record.index? "acquiredAt" = none := by decide
    have hread : (encode r).written =
        .obj (Record.ofPairs [("pid", (Json.num (Number.ofInt r.pid)).written), ("acquiredAt", .str r.acquiredAt)]) := rfl
    rw [hread, hpid]
    simp [Record.ofPairs, Record.set, Record.get?, hname, Json.written, Number.isFinite]
  unfold ofText? text
  rw [Json.ofText?_compact hrounded, hwritten]
  simp [check, Check.object, Check.field, Record.get?, List.lookup_cons, Check.integer, Check.whole, Check.must, Check.number, Number.isNan,
    Number.toInt?, Check.text, Checked.below, Checked.demand, Checked.ok, Checked.accepted?, Functor.map, Seq.seq]

end LockRecord

namespace LockAsker

/-- A process that writes records which can be read back: its number is a floating-point number and its clock has a date. -/
structure Legible (a : LockAsker) : Prop where
  pid : Representable (a.pid : Rat)
  now : Instant.inRange a.now

variable {a b : LockAsker}

theorem Legible.ofText?_record (h : a.Legible) : LockRecord.ofText? a.record.text = some a.record := LockRecord.ofText?_text h.pid

/-- A record is stale to who takes its process for dead or finds it too old. -/
theorem findsStale_record (h : a.Legible) :
    b.findsStale a.record = (!b.living a.pid || b.staleMs.lt (.ofInt (b.now - a.now))) := by
  unfold findsStale record
  rw [Instant.ofText?_text h.now]

end LockAsker

namespace Lock

/-- Taking the lock succeeds unless there is a record that can be read and is not stale, whose process is then told. -/
theorem acquire_eq (a : LockAsker) (file : Option String) : acquire a file =
    match (file.bind LockRecord.ofText?).filter (!a.findsStale ·) with
    | some r => (.error r.pid, file)
    | none => (.ok (), some a.record.text) := by
  cases file with
  | none => rfl
  | some text =>
    rw [Option.bind_some]
    cases hread : LockRecord.ofText? text with
    | none =>
      simp [acquire, Attempt.alone, Attempt.longest, Attempt.step, LockPlace.record?, hread, LockPlace.unlink, LockPlace.create,
        LockPlace.write]
    | some r =>
      rw [Option.filter_some]
      cases hstale : a.findsStale r with
      | true =>
        simp [acquire, Attempt.alone, Attempt.longest, Attempt.step, LockPlace.record?, hread, hstale, LockPlace.unlink,
          LockPlace.create, LockPlace.write]
      | false =>
        simp [acquire, Attempt.alone, Attempt.longest, Attempt.step, LockPlace.record?, hread, hstale]

end Lock

/-- A whole call of a process to the lock: it takes the lock, or gives it up. -/
inductive LockCall where
  | acquire (a : LockAsker)
  | release (pid : Int)

namespace LockCall

/-- The time at which the lock is asked for. -/
def time? : LockCall → Option Instant
  | acquire a => some a.now
  | release _ => none

end LockCall

namespace Lock.Shared

/-- The lock after a call. -/
def call (s : Shared) : LockCall → Shared
  | .acquire a => (s.acquire a).2
  | .release pid => s.release pid

/-- The lock after a sequence of calls. -/
def run (s : Shared) (calls : List LockCall) : Shared := calls.foldl call s

variable {s : Shared} {a b : LockAsker} {calls : List LockCall}

/-- Who takes the lock puts its record into the file. -/
theorem acquire_ok (h : (s.acquire a).1 = .ok ()) : s.acquire a = (.ok (), ⟨some a.record.text, a.pid :: s.holders⟩) := by
  have heq := Lock.acquire_eq a s.file
  unfold acquire at h ⊢
  rw [heq] at h ⊢
  cases hfound : (s.file.bind LockRecord.ofText?).filter (!a.findsStale ·) with
  | none => rfl
  | some r =>
    rw [hfound] at h
    cases h

/-- A record that can be read and is not stale keeps others out. -/
theorem acquire_refused {text : String} {r : LockRecord} (hfile : s.file = some text) (hread : LockRecord.ofText? text = some r)
    (hfresh : b.findsStale r = false) : s.acquire b = (.error r.pid, s) := by
  unfold acquire
  rw [Lock.acquire_eq, hfile, Option.bind_some, hread, Option.filter_some, hfresh]
  cases s
  cases hfile
  rfl

theorem acquire_free (hfile : s.file = none) : (s.acquire a).1 = .ok () := by
  unfold acquire
  rw [Lock.acquire_eq, hfile]
  rfl

/-- Calls after a process has taken the lock, in the order of time, in which it does not give the lock up and none finds its record
stale. -/
structure Spares (a : LockAsker) (calls : List LockCall) : Prop where
  inOrder : (a.now :: calls.filterMap LockCall.time?).Pairwise (· ≤ ·)
  kept : .release a.pid ∉ calls
  fresh : ∀ b, .acquire b ∈ calls → b.findsStale a.record = false

/-- As long as a process that has the lock keeps it and its record is not stale, no other one takes the lock. -/
def KeepsOut (s : Shared) (a : LockAsker) : Prop :=
  ∀ calls b, Spares a (calls ++ [.acquire b]) → b.pid ≠ a.pid → ((s.run calls).acquire b).1 ≠ .ok ()

/-- The file is that of a process, and no other one has anything to give up. -/
structure HeldBy (s : Shared) (a : LockAsker) : Prop where
  file : s.file = some a.record.text
  alone : ∀ pid ∈ s.holders, pid = a.pid

/-- A call of another process, or one that does not find the record stale, leaves the lock with its owner. -/
theorem HeldBy.call (h : s.HeldBy a) (ha : a.Legible) {c : LockCall} (hkept : c ≠ .release a.pid)
    (hfresh : ∀ b, c = .acquire b → b.findsStale a.record = false) : (s.call c).HeldBy a := by
  cases c with
  | acquire b =>
    have hcall : s.call (.acquire b) = s :=
      congrArg Prod.snd (acquire_refused h.file ha.ofText?_record (hfresh b rfl))
    rw [hcall]
    exact h
  | release pid =>
    have hother : pid ∉ s.holders := fun hmem => hkept (by rw [h.alone pid hmem])
    have hcall : s.call (.release pid) = s := by
      unfold Shared.call release
      exact if_neg (by simpa using hother)
    rw [hcall]
    exact h

theorem HeldBy.run (h : s.HeldBy a) (ha : a.Legible) (hkept : .release a.pid ∉ calls)
    (hfresh : ∀ b, .acquire b ∈ calls → b.findsStale a.record = false) : (s.run calls).HeldBy a := by
  induction calls generalizing s with
  | nil => exact h
  | cons c rest ih =>
    rw [List.mem_cons, not_or] at hkept
    refine ih (h.call ha (Ne.symm hkept.1) fun b hb => hfresh b (hb ▸ .head _)) hkept.2 fun b hb => hfresh b (.tail _ hb)

/-- A process that has taken the lock keeps the others out exactly when no other process still has to give it up: who has been taken
over gives up what is not its own any more. -/
theorem keepsOut_iff (ha : a.Legible) (hok : (s.acquire a).1 = .ok ()) :
    (s.acquire a).2.KeepsOut a ↔ ∀ pid ∈ s.holders, pid = a.pid := by
  rw [acquire_ok hok]
  constructor
  · intro hkeeps pid hmem
    by_contra hother
    -- The other process gives up and asks again at once.
    have hfresh : (LockAsker.mk pid a.now (fun _ => true) 0).findsStale a.record = false := by
      rw [LockAsker.findsStale_record ha, sub_self]
      rfl
    refine hkeeps [.release pid] ⟨pid, a.now, fun _ => true, 0⟩ ⟨?_, ?_, ?_⟩ hother ?_
    · change List.Pairwise (· ≤ ·) [a.now, a.now]
      simp
    · simpa using Ne.symm hother
    · simpa using hfresh
    · refine acquire_free ?_
      have hmem : pid ∈ a.pid :: s.holders := List.mem_cons_of_mem _ hmem
      simp only [run, call, release, List.foldl_cons, List.foldl_nil]
      rw [if_pos (by simpa using hmem)]
  · intro halone calls b hspares _ hok
    have hheld : (Shared.mk (some a.record.text) (a.pid :: s.holders)).HeldBy a := by
      refine ⟨rfl, fun pid hmem => ?_⟩
      rcases List.mem_cons.mp hmem with rfl | hmem
      · rfl
      · exact halone pid hmem
    have hafter := hheld.run ha (fun hmem => hspares.kept (List.mem_append_left _ hmem))
      fun b hb => hspares.fresh b (List.mem_append_left _ hb)
    rw [acquire_refused hafter.file ha.ofText?_record (hspares.fresh b (List.mem_append_right _ (.head _)))] at hok
    cases hok

/-- A process that is the first to take the lock keeps the others out. -/
theorem first_keepsOut : ((Shared.mk none []).acquire ⟨1, 0, fun _ => true, 10000⟩).2.KeepsOut ⟨1, 0, fun _ => true, 10000⟩ :=
  (keepsOut_iff ⟨Number.representable_intCast (by decide), by decide⟩ (acquire_free rfl)).mpr nofun

/-- The first process takes the lock and becomes stale, the second takes it over, the first gives it up; then a third takes the lock
while the second still has it. -/
theorem lateRelease_lets_in :
    let first : LockAsker := ⟨1, 0, fun _ => true, 10000⟩
    let second : LockAsker := ⟨2, 20000, fun _ => true, 10000⟩
    let third : LockAsker := ⟨3, 20001, fun _ => true, 10000⟩
    let held := (Shared.mk none []).run [.acquire first]
    (held.acquire second).1 = .ok () ∧ Spares second [.release 1, .acquire third] ∧ third.pid ≠ second.pid ∧
      (((held.acquire second).2.run [.release 1]).acquire third).1 = .ok () := by
  intro first second third held
  have hfirst : first.Legible := ⟨Number.representable_intCast (by decide), by decide⟩
  have hsecond : second.Legible := ⟨Number.representable_intCast (by decide), by decide⟩
  have hheld : held = ⟨some first.record.text, [1]⟩ := congrArg Prod.snd (acquire_ok (acquire_free rfl))
  have hstale : second.findsStale first.record = true := by
    rw [LockAsker.findsStale_record hfirst]
    decide +kernel
  have hfresh : third.findsStale second.record = false := by
    rw [LockAsker.findsStale_record hsecond]
    decide +kernel
  have htaken : (held.acquire second).1 = .ok () := by
    unfold acquire
    rw [Lock.acquire_eq, hheld, Option.bind_some, hfirst.ofText?_record, Option.filter_some, hstale]
    rfl
  refine ⟨htaken, ⟨?_, ?_, ?_⟩, by decide, ?_⟩
  · change List.Pairwise (· ≤ ·) [(20000 : Int), 20001]
    decide
  · simp [second]
  · simpa using hfresh
  · rw [acquire_ok htaken, hheld]
    exact acquire_free rfl

end Lock.Shared

end QualityGate
