import SessionAuth.Proofs.Agree
import SessionAuth.Proofs.Store.Memory
import SessionAuth.Proofs.Store.Relational

/-!
What stores may refuse with, and stores that differ in the wording only.

A store rejects a secret that is presented to it. Where none is presented, it can only fail for reasons of
its own, and that is all that is asked of it (`Store.RejectsSecretsOnly`); both stores do no more.

What a fault says is for those who look after the service. Two stores *resemble* each other if whatever
is asked of both, they answer the same, or fail alike up to what is said, and resemble each other again
(`Store.Resembles`). A store in memory that is told to fail resembles one that is told to fail in other
words.
-/

set_option autoImplicit false

namespace SessionAuth

variable {σ σ' ε α β : Type}

/-! ## Rejections -/

/-- **A store that rejects secrets only.** Opening a session and ending all sessions of a user come
without a secret that could be rejected, so that they are refused for reasons of the store alone. Looking
for a user, behind which a session may be opened, does not change this. Nothing is asked of what other
calls are refused with. -/
structure Store.RejectsSecretsOnly (store : Store σ) (ready : σ → Prop) : Prop where
  findUserByEmail : ∀ {w : World σ} (email : Email), ready w.store →
    Ensures (store.findUserByEmail email) w (fun _ w' => ready w'.store) (fun _ _ => True)
  createSession : ∀ {w : World σ} (u : UserId) (secret : String) (expiresAt : Instant)
    (client : Client) (rotatedFrom : Option SessionId), ready w.store →
    Ensures (store.createSession u secret expiresAt client rotatedFrom) w (fun _ _ => True)
      (fun e _ => ∀ fault, e = .refused fault → fault.isRejection = false)
  revokeAllSessions : ∀ {w : World σ} (u : UserId), ready w.store →
    Ensures (store.revokeAllSessions u) w (fun _ _ => True)
      (fun e _ => ∀ fault, e = .refused fault → fault.isRejection = false)

/-- Whatever is wrong with a statement, it is not the secret. -/
theorem Relational.execute_notRejected {w : World Database} {s : Database.Statement} :
    Ensures (execute s) w (fun _ _ => True)
      (fun e _ => ∀ fault, e = .refused fault → fault.isRejection = false) := by
  refine Database.mapFault_ensures (Ensures.itself.mono (fun _ _ _ => trivial) ?_)
  rintro (query | _ | _) _ _ fault hfault
  · obtain rfl : sessionFault query = fault := Failure.refused.inj hfault
    rfl
  · cases hfault
  · cases hfault

/-- **The tables reject secrets only**, in whichever state they are. -/
theorem Relational.rejectsSecretsOnly (lockTimeout : Duration) :
    (store lockTimeout).RejectsSecretsOnly fun _ => True where
  findUserByEmail _ _ := Ensures.itself.mono (fun _ _ _ => trivial) fun _ _ _ => trivial
  createSession _ _ _ _ _ _ := by
    refine Ensures.bind (Q := fun _ _ => True) (Ensures.map (Act.draw_ensures ?_ ?_)) ?_
    · exact fun _ _ _ => trivial
    · exact fun _ _ hpanicked => nomatch hpanicked
    · exact fun id w _ => Ensures.bind execute_notRejected fun _ _ _ => trivial
  revokeAllSessions _ _ := Ensures.bind execute_notRejected fun _ _ _ => trivial

/-- A call of the store in memory that is not told to reject fails for no other reason. -/
theorem MemoryStore.answering_notRejected {w : World MemoryStore} {call : StoreCall}
    {misbehaviour : Misbehaviours → Option (Misbehaviour SessionFault)}
    {work : Act MemoryStore SessionFault α}
    (htold : ∀ fault, misbehaviour w.store.misbehaviours = some (.fail fault) →
      fault.isRejection = false)
    (hwork : ∀ w', Ensures work w' (fun _ _ => True) (fun _ _ => False)) :
    Ensures (answering call misbehaviour work) w (fun _ _ => True)
      (fun e _ => ∀ fault, e = .refused fault → fault.isRejection = false) := by
  refine answering_ensures (fun _ => nofun) ?_ fun _ => ?_
  · intro told htelling fault hfault
    rw [← Failure.refused.inj hfault]
    exact htold told htelling
  · exact (hwork _).mono (fun _ _ _ => trivial) fun _ _ h => h.elim

/-- **The store in memory rejects secrets only**, unless it is told otherwise. -/
theorem MemoryStore.rejectsSecretsOnly :
    store.RejectsSecretsOnly fun m =>
      (∀ fault, m.misbehaviours.createSession = some (.fail fault) → fault.isRejection = false)
      ∧ ∀ fault, m.misbehaviours.revokeAllSessions = some (.fail fault) →
          fault.isRejection = false where
  findUserByEmail _ hready :=
    answering_ensures (fun _ => trivial) (fun _ _ => trivial) fun _ => Act.store_bind hready
  createSession _ _ _ _ _ hready := answering_notRejected hready.1 fun _ =>
    Act.store_bind (Act.now_bind (Act.modifyStore_bind trivial))
  revokeAllSessions _ hready := answering_notRejected hready.2 fun _ =>
    Act.store_bind (Act.now_bind (Act.modifyStore_bind trivial))

/-! ## Faults up to what they say -/

/-- **Faults of one kind**, whatever they say. -/
inductive UserFault.Alike : UserFault → UserFault → Prop where
  | invalidId {flaw flaw' : Uuid.Flaw} : Alike (.invalidId flaw) (.invalidId flaw')
  | invalidEmail {flaw flaw' : Email.Flaw} : Alike (.invalidEmail flaw) (.invalidEmail flaw')
  | passwordTooShort {text text' : String} :
      Alike (.passwordTooShort text) (.passwordTooShort text')
  | notFound {who who' : String} : Alike (.notFound who) (.notFound who')
  | emailTaken {email email' : String} : Alike (.emailTaken email) (.emailTaken email')
  | database {text text' : String} : Alike (.database text) (.database text')

/-- Faults of one kind, whatever they say. -/
inductive SessionFault.Alike : SessionFault → SessionFault → Prop where
  | unknown : Alike .unknown .unknown
  | revoked : Alike .revoked .revoked
  | expired : Alike .expired .expired
  | database {text text' : String} : Alike (.database text) (.database text')

/-- What a fault says does not make it a rejection. -/
theorem SessionFault.Alike.isRejection {fault fault' : SessionFault} (h : fault.Alike fault') :
    fault.isRejection = fault'.isRejection := by
  cases h <;> rfl

/-- **Failures alike**, going by what is alike among faults. -/
inductive Failure.Alike (alike : ε → ε → Prop) : Failure ε → Failure ε → Prop where
  | refused {fault fault' : ε} (h : alike fault fault') : Alike alike (.refused fault) (.refused fault')
  | stalled : Alike alike .stalled .stalled
  | panicked : Alike alike .panicked .panicked

/-! ## Stores that resemble each other -/

/-- **Surroundings that match**: the clock and the random source are the same, and the stores are related.
The events are not compared. -/
structure World.Matches (R : σ → σ' → Prop) (w : World σ) (w' : World σ') : Prop where
  now : w.now = w'.now
  random : w.random = w'.random
  store : R w.store w'.store

/-- **Calls that differ in the wording only**: in surroundings that match, both have the same value, or
both fail alike, and the surroundings match again. -/
def CallsResemble (R : σ → σ' → Prop) (alike : ε → ε → Prop) (a : Act σ ε α) (a' : Act σ' ε α) :
    Prop :=
  ∀ w w', World.Matches R w w' → Agree (World.Matches R) Eq (Failure.Alike alike) a a' w w'

/-- **Stores that resemble each other** differ in what their faults say, and in nothing else that could be
noticed by calling them. -/
structure Store.Resembles (R : σ → σ' → Prop) (store : Store σ) (store' : Store σ') : Prop where
  createUser : ∀ u, CallsResemble R UserFault.Alike (store.createUser u) (store'.createUser u)
  findUserByEmail : ∀ email, CallsResemble R UserFault.Alike (store.findUserByEmail email)
    (store'.findUserByEmail email)
  createSession : ∀ u secret expiresAt client rotatedFrom, CallsResemble R SessionFault.Alike
    (store.createSession u secret expiresAt client rotatedFrom)
    (store'.createSession u secret expiresAt client rotatedFrom)
  rotateSession : ∀ oldSecret newSecret expiresAt client, CallsResemble R SessionFault.Alike
    (store.rotateSession oldSecret newSecret expiresAt client)
    (store'.rotateSession oldSecret newSecret expiresAt client)
  revokeSession : ∀ secret, CallsResemble R SessionFault.Alike (store.revokeSession secret)
    (store'.revokeSession secret)
  revokeAllSessions : ∀ u, CallsResemble R SessionFault.Alike (store.revokeAllSessions u)
    (store'.revokeAllSessions u)

/-! ## Stores in memory that are told to fail in different words -/

/-- Misbehaviours alike, going by what is alike among faults. -/
inductive Misbehaviour.Alike (alike : ε → ε → Prop) :
    Option (Misbehaviour ε) → Option (Misbehaviour ε) → Prop where
  | calm : Alike alike none none
  | stall : Alike alike (some .stall) (some .stall)
  | fail {fault fault' : ε} (h : alike fault fault') :
      Alike alike (some (.fail fault)) (some (.fail fault'))

/-- The same misbehaviours, but for what the faults say. -/
structure Misbehaviours.Alike (b b' : Misbehaviours) : Prop where
  createUser : Misbehaviour.Alike UserFault.Alike b.createUser b'.createUser
  findUserByEmail : Misbehaviour.Alike UserFault.Alike b.findUserByEmail b'.findUserByEmail
  createSession : Misbehaviour.Alike SessionFault.Alike b.createSession b'.createSession
  rotateSession : Misbehaviour.Alike SessionFault.Alike b.rotateSession b'.rotateSession
  revokeSession : Misbehaviour.Alike SessionFault.Alike b.revokeSession b'.revokeSession
  revokeAllSessions : Misbehaviour.Alike SessionFault.Alike b.revokeAllSessions b'.revokeAllSessions

namespace MemoryStore

/-- The same store, but for what it is told to say. -/
def Alike (m m' : MemoryStore) : Prop :=
  ∃ misbehaviours, m' = { m with misbehaviours } ∧ m.misbehaviours.Alike misbehaviours

variable {alike : ε → ε → Prop}

/-- Both calls misbehave alike, or both do their work. -/
theorem answering_resembles {call : StoreCall}
    {misbehaviour : Misbehaviours → Option (Misbehaviour ε)} {work : Act MemoryStore ε α}
    (htold : ∀ {b b' : Misbehaviours}, b.Alike b' →
      Misbehaviour.Alike alike (misbehaviour b) (misbehaviour b'))
    (hwork : CallsResemble Alike alike work work) :
    CallsResemble Alike alike (answering call misbehaviour work)
      (answering call misbehaviour work) := by
  intro w w' hw
  obtain ⟨b', hstore, hb⟩ := hw.store
  have hnoted : World.Matches Alike (noted call w) (noted call w') := by
    refine ⟨hw.now, hw.random, b', ?_, hb⟩
    show { w'.store with calls := w'.store.calls ++ [call] } = _
    rw [hstore]
    rfl
  have hmisbehaviours : w'.store.misbehaviours = b' := by
    rw [hstore]
  have htold' := htold hb
  rw [← hmisbehaviours] at htold'
  unfold answering
  apply Agree.modify_bind
  apply Agree.get_bind
  dsimp only
  generalize misbehaviour w.store.misbehaviours = told at htold' ⊢
  generalize misbehaviour w'.store.misbehaviours = told' at htold' ⊢
  cases htold' with
  | calm => exact hwork _ _ hnoted
  | stall => exact .throw .stalled hnoted
  | fail h => exact .throw (.refused h) hnoted

/-- Work that does not look at what the store is told to do. -/
theorem work_resembles {work : Act MemoryStore ε α}
    (h : ∀ now random events events' (m : MemoryStore) (b' : Misbehaviours),
      m.misbehaviours.Alike b' → Agree (World.Matches Alike) Eq (Failure.Alike alike) work work
        ⟨now, random, events, m⟩ ⟨now, random, events', { m with misbehaviours := b' }⟩) :
    CallsResemble Alike alike work work := by
  rintro ⟨now, random, events, m⟩ ⟨_, _, events', _⟩ ⟨rfl, rfl, b', rfl, hb⟩
  exact h now random events events' m b' hb

/-- **Stores in memory resemble each other** if they are told to do the same, in whichever words. -/
theorem resembles : Store.Resembles Alike store store where
  createUser u := by
    refine answering_resembles (fun h => h.createUser) (work_resembles fun _ _ _ _ m b' hb => ?_)
    refine .get_bind (.ite (fun _ => ?_) fun _ => ?_)
    · exact .throw (.refused .emailTaken) ⟨rfl, rfl, b', rfl, hb⟩
    · exact .modify_bind (.pure rfl ⟨rfl, rfl, b', rfl, hb⟩)
  findUserByEmail email := by
    refine answering_resembles (fun h => h.findUserByEmail)
      (work_resembles fun _ _ _ _ m b' hb => ?_)
    exact .get_bind (.pure rfl ⟨rfl, rfl, b', rfl, hb⟩)
  createSession u secret expiresAt client rotatedFrom := by
    refine answering_resembles (fun h => h.createSession)
      (work_resembles fun _ _ _ _ m b' hb => ?_)
    exact .get_bind (.get_bind (.modify_bind (.pure rfl ⟨rfl, rfl, b', rfl, hb⟩)))
  rotateSession oldSecret newSecret expiresAt client := by
    refine answering_resembles (fun h => h.rotateSession)
      (work_resembles fun now _ _ _ m b' hb => ?_)
    apply Agree.get_bind
    apply Agree.get_bind
    -- what is looked up is looked up in lists that are the same
    have hsame : sessionOf? { m with misbehaviours := b' } oldSecret = m.sessionOf? oldSecret := rfl
    dsimp only
    rw [hsame]
    cases m.sessionOf? oldSecret with
    | none => exact .throw (.refused .unknown) ⟨rfl, rfl, b', rfl, hb⟩
    | some old =>
      dsimp only
      cases old.state now with
      | revoked => exact .throw (.refused .revoked) ⟨rfl, rfl, b', rfl, hb⟩
      | expired => exact .throw (.refused .expired) ⟨rfl, rfl, b', rfl, hb⟩
      | active =>
        dsimp only
        cases m.users.find? (·.id == old.userId) with
        | none => exact .throw (.refused .unknown) ⟨rfl, rfl, b', rfl, hb⟩
        | some user => exact .modify_bind (.pure rfl ⟨rfl, rfl, b', rfl, hb⟩)
  revokeSession secret := by
    refine answering_resembles (fun h => h.revokeSession)
      (work_resembles fun now _ _ _ m b' hb => ?_)
    refine .get_bind (.get_bind (.ite (fun _ => ?_) fun _ => ?_))
    · exact .value rfl ⟨rfl, rfl, b', rfl, hb⟩
    · exact .throw (.refused .unknown) ⟨rfl, rfl, b', rfl, hb⟩
  revokeAllSessions u := by
    refine answering_resembles (fun h => h.revokeAllSessions)
      (work_resembles fun _ _ _ _ m b' hb => ?_)
    exact .get_bind (.get_bind (.modify_bind (.pure rfl ⟨rfl, rfl, b', rfl, hb⟩)))

end MemoryStore

end SessionAuth
