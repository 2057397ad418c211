import SessionAuth.Database.Tables

/-!
What the changes do to the rows of the tables.

An insertion appends one row whose identifier and digest are new. A revocation marks rows and is the
only change that a row ever sees: it keeps everything about a row but the time of its revocation,
and a time that is set stays as it is.
-/

set_option autoImplicit false

namespace SessionAuth.Database

variable {t t' : Tables} {s : NewSession} {now moment : Instant} {test : SessionRow → Bool}

/-- A row that is found by a value has the value. -/
theorem eq_of_find? {α β : Type} [BEq β] [LawfulBEq β] {f : α → β} {b : β} {l : List α} {a : α}
    (h : l.find? (f · == b) = some a) : f a = b :=
  beq_iff_eq.mp (List.find?_some (p := fun x => f x == b) h)

/-! ## Insertions -/

/-- An insertion appends a row that shares neither its identifier nor its digest with another one. -/
theorem insertSession_ok (h : t.insertSession s now = .ok t') :
    t' = { t with sessions := t.sessions ++ [s.row now] }
      ∧ (∀ r ∈ t.sessions, r.id ≠ s.id) ∧ ∀ r ∈ t.sessions, r.digest ≠ s.digest := by
  unfold Tables.insertSession at h
  split at h
  · cases h
  split at h
  · cases h
  split at h
  · cases h
  split at h
  · cases h
  rename_i hid hdigest _ _
  refine ⟨(Except.ok.inj h).symm, ?_, ?_⟩
  · simpa using hid
  · simpa using hdigest

/-- Where references are checked, an inserted row refers to what is there. -/
theorem insertSession_refers (hrefs : t.checksReferences = true)
    (h : t.insertSession s now = .ok t') :
    (∃ u ∈ t.users, u.id = s.userId)
      ∧ ∀ p, s.rotatedFrom = some p → ∃ r ∈ t.sessions, r.id = p := by
  unfold Tables.insertSession at h
  split at h
  · cases h
  split at h
  · cases h
  split at h
  · cases h
  split at h
  · cases h
  rename_i howner hback
  refine ⟨by simpa [hrefs] using howner, fun p hp => ?_⟩
  simpa [hrefs, Tables.lacksPredecessor, hp] using hback

/-- A row with a new digest and a predecessor that is there is refused for its identifier, or for its
owner where references are checked. -/
theorem insertSession_linked (hdigest : ∀ r ∈ t.sessions, r.digest ≠ s.digest)
    (hback : ∀ p, s.rotatedFrom = some p → ∃ r ∈ t.sessions, r.id = p) :
    t.insertSession s now
      = if t.sessions.any (·.id == s.id) then .error (.duplicate "sessions_pkey")
        else if t.checksReferences && !t.users.any (·.id == s.userId) then
          .error (.dangling "sessions_user_id_fkey")
        else .ok { t with sessions := t.sessions ++ [s.row now] } := by
  have hdigest' : t.sessions.any (·.digest == s.digest) = false := by simpa using hdigest
  have hback' : t.lacksPredecessor s = false := by
    unfold Tables.lacksPredecessor
    cases hp : s.rotatedFrom with
    | none => rfl
    | some p => simpa using hback p hp
  unfold Tables.insertSession
  rw [hdigest', hback', Bool.and_false]
  simp only [Bool.false_eq_true, if_false]

/-- A row is inserted whose identifier and digest are new, and which refers to what is there. -/
theorem insertSession_eq_ok (hid : ∀ r ∈ t.sessions, r.id ≠ s.id)
    (hdigest : ∀ r ∈ t.sessions, r.digest ≠ s.digest) (howner : ∃ u ∈ t.users, u.id = s.userId)
    (hback : ∀ p, s.rotatedFrom = some p → ∃ r ∈ t.sessions, r.id = p) :
    t.insertSession s now = .ok { t with sessions := t.sessions ++ [s.row now] } := by
  have hid' : t.sessions.any (·.id == s.id) = false := by simpa using hid
  have howner' : t.users.any (·.id == s.userId) = true := by simpa using howner
  rw [insertSession_linked hdigest hback, hid', howner', Bool.not_true, Bool.and_false]
  simp only [Bool.false_eq_true, if_false]

theorem insertSession_users (h : t.insertSession s now = .ok t') : t'.users = t.users := by
  rw [(insertSession_ok h).1]

/-- A user is added who shares neither the identifier nor the address with another one. -/
theorem insertUser_ok {u : UserRow} (h : t.insertUser u = .ok t') :
    t' = { t with users := t.users ++ [u] }
      ∧ (∀ r ∈ t.users, r.id ≠ u.id) ∧ ∀ r ∈ t.users, r.email ≠ u.email := by
  unfold Tables.insertUser at h
  split at h
  · cases h
  split at h
  · cases h
  rename_i hid hemail
  refine ⟨(Except.ok.inj h).symm, ?_, ?_⟩
  · simpa using hid
  · simpa using hemail

/-- Where the identifier is new, it is the address that decides. -/
theorem insertUser_of_unused {u : UserRow} (hid : ∀ r ∈ t.users, r.id ≠ u.id) :
    t.insertUser u = if t.users.any (·.email == u.email) then .error (.duplicate "users_email_key")
      else .ok { t with users := t.users ++ [u] } := by
  have hid' : t.users.any (·.id == u.id) = false := by simpa using hid
  unfold Tables.insertUser
  rw [hid', if_neg Bool.false_ne_true]

theorem insertUser_sessions {u : UserRow} (h : t.insertUser u = .ok t') :
    t'.sessions = t.sessions := by
  rw [(insertUser_ok h).1]

/-- A statement that inserts ends with the tables that the insertion ends with. -/
theorem inserted {r : Except ServerFault Tables} {o : Outcome}
    (h : r.map (fun t => ((⟨[], 1⟩ : Outcome), t)) = .ok (o, t')) : r = .ok t' := by
  cases r with
  | error fault => cases h
  | ok t =>
    cases h
    rfl

/-- A statement that inserts is refused where the insertion is. -/
theorem insertion_refused {r : Except ServerFault Tables} {fault : ServerFault}
    (h : r.map (fun t => ((⟨[], 1⟩ : Outcome), t)) = .error fault) : r = .error fault := by
  cases r with
  | error fault =>
    cases h
    rfl
  | ok t => cases h

/-! ## Revocations -/

/-- **A change that only revokes**: the row keeps everything but the time of its revocation, and it does
not lose that one. -/
structure Marks (f : SessionRow → SessionRow) : Prop where
  id : ∀ r, (f r).id = r.id
  userId : ∀ r, (f r).userId = r.userId
  digest : ∀ r, (f r).digest = r.digest
  rotatedFrom : ∀ r, (f r).rotatedFrom = r.rotatedFrom
  revoked : ∀ r, r.revokedAt.isSome → (f r).revokedAt.isSome

theorem Marks.filterMap_rotatedFrom {f : SessionRow → SessionRow} (hf : Marks f)
    {rows : List SessionRow} :
    (rows.map f).filterMap (·.rotatedFrom) = rows.filterMap (·.rotatedFrom) := by
  have hcomp : (fun r : SessionRow => r.rotatedFrom) ∘ f = fun r => r.rotatedFrom :=
    funext hf.rotatedFrom
  rw [List.filterMap_map, hcomp]

theorem marks_id : Marks id :=
  ⟨fun _ => rfl, fun _ => rfl, fun _ => rfl, fun _ => rfl, fun _ h => h⟩

/-- What is selected by what is kept, and shown by what is kept, is kept. -/
theorem Marks.filter_map {β : Type} {f : SessionRow → SessionRow} (_ : Marks f)
    {rows : List SessionRow} {p : SessionRow → Bool} {g : SessionRow → β}
    (hp : ∀ r, p (f r) = p r) (hg : ∀ r, g (f r) = g r) :
    ((rows.map f).filter p).map g = (rows.filter p).map g := by
  have hpf : p ∘ f = p := funext hp
  have hgf : g ∘ f = g := funext hg
  rw [List.filter_map, hpf, List.map_map, hgf]

/-- The row behind a revocation. -/
def SessionRow.revokedBy (test : SessionRow → Bool) (moment : Instant) (r : SessionRow) :
    SessionRow :=
  if test r && r.revokedAt.isNone then { r with revokedAt := some moment } else r

theorem revoke_sessions :
    (t.revoke test moment).2.sessions = t.sessions.map (SessionRow.revokedBy test moment) := rfl

theorem revoke_users (test : SessionRow → Bool) (moment : Instant) :
    (t.revoke test moment).2.users = t.users := rfl

theorem revokedBy_marks : Marks (SessionRow.revokedBy test moment) := by
  refine ⟨fun r => ?_, fun r => ?_, fun r => ?_, fun r => ?_, fun r h => ?_⟩ <;>
    unfold SessionRow.revokedBy <;> split
  all_goals first | rfl | exact h

/-- A row that passes the test is revoked afterwards. -/
theorem revokedBy_isSome {r : SessionRow} (h : test r = true) :
    (r.revokedBy test moment).revokedAt.isSome := by
  unfold SessionRow.revokedBy
  cases hr : r.revokedAt with
  | none => simp [h]
  | some at_ => simp [hr]

/-- No row is counted where all that pass the test are revoked already. -/
theorem revoke_changed_eq_zero_iff :
    (t.revoke test moment).1.changed = 0
      ↔ ∀ r ∈ t.sessions, test r = true → r.revokedAt.isSome := by
  show t.sessions.countP (fun r => test r && r.revokedAt.isNone) = 0 ↔ _
  rw [List.countP_eq_zero]
  refine forall₂_congr fun r _ => ?_
  cases r.revokedAt <;> simp

/-- Nothing is revoked where no row is counted. -/
theorem revoke_of_changed_eq_zero (h : (t.revoke test moment).1.changed = 0) :
    (t.revoke test moment).2 = t := by
  have hsame : ∀ r ∈ t.sessions, r.revokedBy test moment = id r := by
    intro r hr
    unfold SessionRow.revokedBy
    cases htest : test r with
    | false => rfl
    | true =>
      have hrev : r.revokedAt.isNone = false := by
        rw [Option.isNone_eq_false_iff]
        exact revoke_changed_eq_zero_iff.mp h r hr htest
      rw [hrev]
      rfl
  have hmap := (List.map_congr_left hsame).trans (List.map_id _)
  exact congrArg (fun l => { t with sessions := l }) hmap

end SessionAuth.Database
