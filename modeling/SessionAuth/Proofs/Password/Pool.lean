import SessionAuth.Proofs.Password.Verdict

/-!
A pool does not show.

A pool does what its hasher does, with one addition: where the hasher cannot go on, the pool says that the
worker was lost. Both halves are facts about one task (`perform?_of_free`): a permit that is free is
taken, and it is back when the task has an answer, whichever it is. The same is then true of task after
task, by induction along the calls (`performAll?_of_free`), so that the pool never gets any smaller than
it was made.

Nothing is asked of the random source: every call may find it in another state, and every state in
which bytes can be read or not.
-/

set_option autoImplicit false

namespace SessionAuth

/-! ## Tasks -/

/-- What a worker is asked to do. -/
inductive PasswordTask where
  | hash (password : String)
  | verify (password encoded : String)
  deriving DecidableEq, Repr

/-- What there is when a task succeeds: a text, or nothing but the success. -/
abbrev PasswordTask.Product : PasswordTask → Type
  | .hash _ => String
  | .verify .. => Unit

/-- The answer to a task. -/
abbrev PasswordTask.Answer (t : PasswordTask) : Type := Except PasswordFault t.Product

/-- A task, and the random source that it finds. -/
structure PoolCall where
  task : PasswordTask
  random : RandomSource

/-- What a hasher says to a task, and what is left of the source. There is nothing where it cannot go
on. -/
def Hasher.perform? (h : Hasher) (r : RandomSource) :
    (t : PasswordTask) → Option (t.Answer × RandomSource)
  | .hash password => h.hash? password r
  | .verify password encoded => some (verify password encoded, r)

/-- A call that was answered, with the permits that were free before and after it. -/
structure PoolExchange where
  call : PoolCall
  answer : call.task.Answer
  left : RandomSource
  freeBefore : Nat
  freeAfter : Nat

/-- **An exchange in which the pool does not show**: all permits are free before it and after it, the
answer and what is left of the source are the hasher's own where it has an answer, and the worker is lost
exactly where it has none. -/
structure PoolExchange.IsPlain (x : PoolExchange) (h : Hasher) (permits : Nat) : Prop where
  freeBefore : x.freeBefore = permits
  freeAfter : x.freeAfter = permits
  answer : ∀ answer left, h.perform? x.call.random x.call.task = some (answer, left) →
    x.answer = answer ∧ x.left = left
  lost : x.answer = .error .workerLost ↔ h.perform? x.call.random x.call.task = none

namespace HashingPool

/-- Has a worker do a task; without a free permit there is no answer. -/
def perform? (p : HashingPool) (r : RandomSource) :
    (t : PasswordTask) → Option (t.Answer × HashingPool × RandomSource)
  | .hash password => p.hash? password r
  | .verify password encoded =>
    (p.verify? password encoded).map fun (result, p) => (result, p, r)

/-- Has workers do one task after the other. -/
def performAll? (p : HashingPool) : List PoolCall → Option (List PoolExchange × HashingPool)
  | [] => some ([], p)
  | call :: calls => do
    let (answer, after, left) ← p.perform? call.random call.task
    let (exchanges, last) ← after.performAll? calls
    return (⟨call, answer, left, p.free, after.free⟩ :: exchanges, last)

end HashingPool

/-! ## What hashers say -/

namespace Hasher

variable {h : Hasher} {r rest : RandomSource} {password encoded : String}

theorem hash?_eq_none_iff :
    h.hash? password r = none ↔ password ≠ "" ∧ r.canRead saltLength = false := by
  unfold hash?
  split
  · rename_i hempty
    exact ⟨nofun, fun hne => absurd (String.isEmpty_iff.mp hempty) hne.1⟩
  · rename_i hempty
    rw [Option.map_eq_none_iff, RandomSource.draw?_eq_none_iff]
    exact ⟨fun hnone => ⟨fun he => hempty (String.isEmpty_iff.mpr he), hnone⟩, And.right⟩

/-- Only an empty password is refused. -/
theorem hash?_error {fault : PasswordFault}
    (hhash : h.hash? password r = some (.error fault, rest)) : fault = .emptyPassword := by
  unfold hash? at hhash
  split at hhash
  · obtain ⟨hfault, -⟩ := Prod.mk.inj (Option.some.inj hhash)
    exact (Except.error.inj hfault).symm
  · obtain ⟨⟨salt, rest'⟩, -, hmade⟩ := Option.map_eq_some_iff.mp hhash
    cases (Prod.mk.inj hmade).1

/-- **When a hasher cannot go on**: a password is to be hashed, and no salt can be drawn for it. -/
theorem perform?_eq_none_iff {t : PasswordTask} :
    h.perform? r t = none
      ↔ ∃ password, t = .hash password ∧ password ≠ "" ∧ r.canRead saltLength = false := by
  cases t with
  | hash password =>
    rw [perform?, hash?_eq_none_iff]
    refine ⟨fun hnone => ⟨password, rfl, hnone⟩, ?_⟩
    rintro ⟨_, ⟨⟩, hnone⟩
    exact hnone
  | verify password encoded => exact ⟨nofun, nofun⟩

/-- No hasher speaks of lost workers. -/
theorem perform?_ne_workerLost (t : PasswordTask) :
    h.perform? r t ≠ some (.error .workerLost, rest) := by
  intro hlost
  cases t with
  | hash password => cases hash?_error hlost
  | verify password encoded =>
    have hverify : verify password encoded = .error .workerLost :=
      (Prod.mk.inj (Option.some.inj hlost)).1
    rcases verify_error hverify with hfault | hfault <;> cases hfault

end Hasher

/-! ## One task -/

namespace HashingPool

variable {p : HashingPool} {r : RandomSource}

/-- With a permit, a worker hashes as the hasher does, and the pool is as before. -/
theorem hash?_of_free (hfree : 0 < p.free) (password : String) :
    p.hash? password r = some (((p.hasher.hash? password r).map fun (result, left) =>
      (result, p, left)).getD (.error .workerLost, p, r)) := by
  obtain ⟨busy, hbusy, hhasher, hrelease⟩ := acquire?_of_free hfree
  rw [hash?, hbusy, Option.bind_eq_bind, Option.bind_some, hhasher, hrelease]
  cases p.hasher.hash? password r <;> rfl

/-- **One task**: with a permit there is an answer, and the permit is back. The answer is the hasher's,
or that the worker is lost. -/
theorem perform?_of_free (hfree : 0 < p.free) (t : PasswordTask) :
    p.perform? r t = some (((p.hasher.perform? r t).map fun (answer, left) =>
      (answer, p, left)).getD (.error .workerLost, p, r)) := by
  cases t with
  | hash password => exact hash?_of_free hfree password
  | verify password encoded =>
    rw [perform?, verify?_of_free hfree]
    rfl

/-- The pool does not show in the exchange that one task makes. -/
theorem perform?_isPlain (hfree : 0 < p.free) (call : PoolCall) :
    ∃ answer left, p.perform? call.random call.task = some (answer, p, left)
      ∧ (⟨call, answer, left, p.free, p.free⟩ : PoolExchange).IsPlain p.hasher p.free := by
  have hanswer := perform?_of_free (r := call.random) hfree call.task
  cases hplain : p.hasher.perform? call.random call.task with
  | none =>
    rw [hplain] at hanswer
    refine ⟨_, _, hanswer, rfl, rfl, fun _ _ hsome => ?_, fun _ => hplain, fun _ => rfl⟩
    cases hplain.symm.trans hsome
  | some plain =>
    obtain ⟨answer, left⟩ := plain
    rw [hplain] at hanswer
    refine ⟨answer, left, hanswer, rfl, rfl, fun _ _ hsome => ?_, fun hlost => ?_, fun hnone => ?_⟩
    · exact Prod.mk.inj (Option.some.inj (hplain.symm.trans hsome))
    · obtain rfl : answer = .error .workerLost := hlost
      exact absurd hplain (Hasher.perform?_ne_workerLost call.task)
    · cases hplain.symm.trans hnone

/-! ## One task after the other -/

/-- **Every call is answered and the pool never gets smaller**, whatever is called. -/
theorem performAll?_of_free (hfree : 0 < p.free) (calls : List PoolCall) :
    ∃ exchanges, p.performAll? calls = some (exchanges, p)
      ∧ exchanges.map PoolExchange.call = calls
      ∧ ∀ x ∈ exchanges, x.IsPlain p.hasher p.free := by
  induction calls with
  | nil => exact ⟨[], rfl, rfl, nofun⟩
  | cons call calls ih =>
    -- the pool behind the first call is the one before it, so the hypothesis is about that very pool
    obtain ⟨answer, left, hfirst, hplain⟩ := perform?_isPlain hfree call
    obtain ⟨exchanges, hrest, hcalls, hall⟩ := ih
    refine ⟨⟨call, answer, left, p.free, p.free⟩ :: exchanges, ?_, ?_,
      List.forall_mem_cons.mpr ⟨hplain, hall⟩⟩
    · simp only [performAll?, hfirst, Option.bind_eq_bind, Option.bind_some, hrest]
      rfl
    · rw [List.map_cons, hcalls]

theorem new?_of_le {h : Hasher} {n : Nat} (hn : n ≤ permitLimit) :
    new? h n = some ⟨h, max n 1⟩ := by
  have hlimit : max n 1 ≤ permitLimit := Nat.max_le.mpr ⟨hn, by decide⟩
  exact if_pos hlimit

/-- **A pool does not show and loses no permit.** For every hasher there is a pool of so many workers,
and of one where none are asked for. Whatever tasks it is given one after the other, and whatever random
source each of them finds, every one has an answer; all permits are free before it and after it; and the
answer is the hasher's own, or that the worker was lost, which it is exactly where the hasher cannot go
on. -/
theorem pool_transparent {n : Nat} (hn : n ≤ permitLimit) (h : Hasher) :
    ∃ pool, new? h n = some pool ∧ pool.hasher = h ∧ pool.free = max n 1
      ∧ ∀ calls, ∃ exchanges, pool.performAll? calls = some (exchanges, pool)
        ∧ exchanges.map PoolExchange.call = calls
        ∧ ∀ x ∈ exchanges, x.IsPlain h (max n 1) := by
  have hfree : 0 < max n 1 := Nat.lt_of_lt_of_le Nat.one_pos (Nat.le_max_right n 1)
  exact ⟨⟨h, max n 1⟩, new?_of_le hn, rfl, rfl,
    fun calls => performAll?_of_free (p := ⟨h, max n 1⟩) hfree calls⟩

/-- A password that cannot be salted costs a pool of one worker nothing but the answer: what is called
behind it is answered as ever. -/
theorem pool_transparent_dry :
    ∃ pool, new? ⟨⟨8, 1, 1⟩, rfl⟩ 0 = some pool
      ∧ ∃ lost empty garbage, pool.performAll? [⟨.hash "correct horse", ⟨.ofSeed 1, some 15⟩⟩,
          ⟨.hash "", ⟨.ofSeed 1, some 0⟩⟩, ⟨.verify "p" "garbage", ⟨.ofSeed 1, none⟩⟩]
            = some ([lost, empty, garbage], pool)
        ∧ lost.freeAfter = 1 ∧ lost.answer = .error .workerLost
        ∧ empty.freeAfter = 1 ∧ empty.answer = .error .emptyPassword
        ∧ garbage.freeAfter = 1 ∧ garbage.answer = .error .malformedHash := by
  obtain ⟨pool, hnew, -, -, hall⟩ := pool_transparent (n := 0) (by decide) ⟨⟨8, 1, 1⟩, rfl⟩
  obtain ⟨exchanges, hdone, hcalls, hplain⟩ := hall
    [⟨.hash "correct horse", ⟨.ofSeed 1, some 15⟩⟩, ⟨.hash "", ⟨.ofSeed 1, some 0⟩⟩,
      ⟨.verify "p" "garbage", ⟨.ofSeed 1, none⟩⟩]
  obtain ⟨⟨_, _, _, _, _⟩, exchanges₁, rfl, rfl, hcalls₁⟩ := List.map_eq_cons_iff.mp hcalls
  obtain ⟨⟨_, _, _, _, _⟩, exchanges₂, rfl, rfl, hcalls₂⟩ := List.map_eq_cons_iff.mp hcalls₁
  obtain ⟨⟨_, _, _, _, _⟩, exchanges₃, rfl, rfl, hcalls₃⟩ := List.map_eq_cons_iff.mp hcalls₂
  obtain rfl := List.map_eq_nil_iff.mp hcalls₃
  simp only [List.forall_mem_cons] at hplain
  obtain ⟨hlost, hempty, hgarbage, -⟩ := hplain
  have hdry := hlost.lost.mpr (Hasher.perform?_eq_none_iff.mpr ⟨_, rfl, by decide, rfl⟩)
  exact ⟨pool, hnew, _, _, _, hdone, hlost.freeAfter, hdry, hempty.freeAfter,
    (hempty.answer _ _ rfl).1, hgarbage.freeAfter, (hgarbage.answer _ _ rfl).1⟩

end HashingPool

end SessionAuth
