import SessionAuth.Proofs.Agree
import SessionAuth.Store.Memory

/-!
A rotation in the store in memory: it adds one session, or leaves the sessions as they are.
-/

set_option autoImplicit false

namespace SessionAuth.MemoryStore

variable {ε α : Type} {w : World MemoryStore}

/-- The world in which a call has been noted. -/
def noted (call : StoreCall) (w : World MemoryStore) : World MemoryStore :=
  { w with store := { w.store with calls := w.store.calls ++ [call] } }

/-- A call misbehaves or does its work; it has been noted in every case. -/
theorem answering_ensures {call : StoreCall} {work : Act MemoryStore ε α}
    {misbehaviour : Misbehaviours → Option (Misbehaviour ε)} {Q : α → World MemoryStore → Prop}
    {F : Failure ε → World MemoryStore → Prop}
    (hstall : misbehaviour w.store.misbehaviours = some .stall → F .stalled (noted call w))
    (hfail : ∀ fault, misbehaviour w.store.misbehaviours = some (.fail fault) →
      F (.refused fault) (noted call w))
    (hwork : misbehaviour w.store.misbehaviours = none → Ensures work (noted call w) Q F) :
    Ensures (answering call misbehaviour work) w Q F := by
  unfold answering
  refine Act.modifyStore_bind (Act.store_bind ?_)
  split
  · exact hstall ‹_›
  · exact hfail _ ‹_›
  · exact hwork ‹_›

/-- A call that is not told to misbehave does its work. -/
theorem answering_calm {call : StoreCall} {work : Act MemoryStore ε α}
    {misbehaviour : Misbehaviours → Option (Misbehaviour ε)} {Q : α → World MemoryStore → Prop}
    {F : Failure ε → World MemoryStore → Prop} (hcalm : misbehaviour w.store.misbehaviours = none)
    (hwork : Ensures work (noted call w) Q F) : Ensures (answering call misbehaviour work) w Q F := by
  refine answering_ensures (fun h => ?_) (fun _ h => ?_) fun _ => hwork
  · rw [hcalm] at h
    cases h
  · rw [hcalm] at h
    cases h

/-- Two calls from one state misbehave alike, or both do their work. -/
theorem answering_inStep {β : Type} {R : MemoryStore → MemoryStore → Prop} {V : α → β → Prop}
    {call call' : StoreCall} {misbehaviour : Misbehaviours → Option (Misbehaviour ε)}
    {work : Act MemoryStore ε α} {work' : Act MemoryStore ε β}
    (hnoted : World.InStep R (noted call w) (noted call' w))
    (hwork : Agree (World.InStep R) V Eq work work' (noted call w) (noted call' w)) :
    Agree (World.InStep R) V Eq (answering call misbehaviour work)
      (answering call' misbehaviour work') w w := by
  refine .modify_bind (.get_bind ?_)
  dsimp only
  rcases misbehaviour w.store.misbehaviours with _ | _ | fault
  · exact hwork
  · exact .throw rfl hnoted
  · exact .throw rfl hnoted

theorem length_updateFirst {β : Type} (test : β → Bool) (f : β → β) (l : List β) :
    (updateFirst test f l).length = l.length := by
  induction l with
  | nil => rfl
  | cons a rest ih =>
    unfold updateFirst
    split
    · rfl
    · rw [List.length_cons, ih, List.length_cons]

section Rotation

variable {oldSecret newSecret : String} {expiresAt : Instant} {client : Client}

/-- A rotation adds one session, or leaves the sessions as they are. -/
theorem rotateSession_ensures :
    Ensures (store.rotateSession oldSecret newSecret expiresAt client) w
      (fun _ w' => w'.now = w.now
        ∧ w'.store.sessions.length = w.store.sessions.length + 1)
      (fun _ w' => w'.store.sessions = w.store.sessions) := by
  refine answering_ensures (fun _ => rfl) (fun _ _ => rfl) fun _ => ?_
  refine Act.store_bind (Act.now_bind ?_)
  split
  · rfl
  split
  · rfl
  · rfl
  split
  · rfl
  refine Act.modifyStore_bind ⟨rfl, ?_⟩
  show (updateFirst _ _ w.store.sessions ++ [_]).length = _
  rw [List.length_append, length_updateFirst]
  rfl

/-- Which session a rotation replaces, and for whom: it is decided by the session of the old secret, by
its state and by its owner, in this order. -/
def rotationAnswer (m : MemoryStore) (now : Instant) (oldSecret : String) :
    Except SessionFault (Session × User) :=
  match m.sessionOf? oldSecret with
  | none => .error .unknown
  | some old =>
    match old.state now with
    | .revoked => .error .revoked
    | .expired => .error .expired
    | .active =>
      match m.users.find? (·.id == old.userId) with
      | none => .error .unknown
      | some user => .ok (old, user)

/-- The world behind the rotation of a session. -/
def rotated (w : World MemoryStore) (old : Session) (user : User) (newSecret : String)
    (expiresAt : Instant) (client : Client) : World MemoryStore :=
  let revoked := w.store.revokeFirst (·.digest == old.digest) w.now
  { w with store := revoked.addSession user.id newSecret w.now expiresAt client (some old.id) }

/-- **A store that does what it is asked to do rotates as the answer says.** -/
theorem rotateSession_answered (hcalm : w.store.misbehaviours.rotateSession = none) :
    Ensures (store.rotateSession oldSecret newSecret expiresAt client) w
      (fun r w' => ∃ old user, w.store.rotationAnswer w.now oldSecret = .ok (old, user)
        ∧ r = ⟨w.store.nextSessionId, user⟩
        ∧ w' = rotated (noted (.rotateSession oldSecret newSecret expiresAt client) w) old user
            newSecret expiresAt client)
      (fun e w' => ∃ fault, w.store.rotationAnswer w.now oldSecret = .error fault
        ∧ e = .refused fault
        ∧ w' = noted (.rotateSession oldSecret newSecret expiresAt client) w) := by
  refine answering_calm hcalm (Act.store_bind (Act.now_bind ?_))
  generalize hw : noted (.rotateSession oldSecret newSecret expiresAt client) w = w'
  have hanswer : w.store.rotationAnswer w.now oldSecret = w'.store.rotationAnswer w'.now oldSecret := by
    rw [← hw]
    rfl
  have hnext : w.store.nextSessionId = w'.store.nextSessionId := by
    rw [← hw]
    rfl
  rw [hanswer, hnext, rotationAnswer]
  cases w'.store.sessionOf? oldSecret with
  | none => exact ⟨.unknown, rfl, rfl, rfl⟩
  | some old =>
    dsimp only
    cases old.state w'.now with
    | revoked => exact ⟨.revoked, rfl, rfl, rfl⟩
    | expired => exact ⟨.expired, rfl, rfl, rfl⟩
    | active =>
      dsimp only
      cases w'.store.users.find? (·.id == old.userId) with
      | none => exact ⟨.unknown, rfl, rfl, rfl⟩
      | some user => exact Act.modifyStore_bind ⟨old, user, rfl, rfl, rfl⟩

/-- An active session of a known user is rotated. -/
theorem rotateSession_active {old : Session} {user : User}
    (hcalm : w.store.misbehaviours.rotateSession = none)
    (hold : w.store.sessionOf? oldSecret = some old) (hactive : old.state w.now = .active)
    (huser : w.store.users.find? (·.id == old.userId) = some user) :
    Ensures (store.rotateSession oldSecret newSecret expiresAt client) w (fun _ _ => True)
      (fun _ _ => False) := by
  have hanswer : w.store.rotationAnswer w.now oldSecret = .ok (old, user) := by
    simp only [rotationAnswer, hold, hactive, huser]
  refine (rotateSession_answered hcalm).mono (fun _ _ _ => trivial) ?_
  rintro _ _ ⟨fault, hfault, -⟩
  cases hfault.symm.trans hanswer

/-- A session that has expired is refused as such. -/
theorem rotateSession_expired {old : Session}
    (hcalm : w.store.misbehaviours.rotateSession = none)
    (hold : w.store.sessionOf? oldSecret = some old) (hexpired : old.state w.now = .expired) :
    Ensures (store.rotateSession oldSecret newSecret expiresAt client) w (fun _ _ => False)
      (fun e _ => e = .refused .expired) := by
  have hanswer : w.store.rotationAnswer w.now oldSecret = .error .expired := by
    simp only [rotationAnswer, hold, hexpired]
  refine (rotateSession_answered hcalm).mono ?_ ?_
  · rintro _ _ ⟨_, _, hdone, -⟩
    cases hdone.symm.trans hanswer
  · rintro _ _ ⟨fault, hfault, rfl, -⟩
    rw [Except.error.inj (hfault.symm.trans hanswer)]

end Rotation

end SessionAuth.MemoryStore
