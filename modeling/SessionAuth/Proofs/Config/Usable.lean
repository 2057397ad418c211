import SessionAuth.Config.Settings
import SessionAuth.Proofs.Service.Login
import SessionAuth.Proofs.Time.Instant
import SessionAuth.Time.Calendar

/-!
Settings that a service can be run with.

Settings are checked so that a service which is started with them is of use. To be of use, it needs a
hasher of the configured cost, a pool of the configured size, and lifetimes that lead from any clock to a
date; then it lets in whoever has the right password. Each of these has limits, and together the limits
are exact (`usable_iff_withinLimits`).

The check asks for other things: it refuses no lifetime that is too long, and it looks at neither the
cost nor the size of the pool. So there are settings without an objection to them for every way of being
of no use (`accepted_not_usable`).
-/

set_option autoImplicit false

namespace SessionAuth

/-! ## Clocks and lifetimes -/

/-- The end of the year 9999. -/
def Instant.endOf9999 : Instant := .ofParts 253402300799 999999999

example : Instant.endOf9999.toText = "9999-12-31T23:59:59.999999999Z" := by decide +kernel

/-- **A clock that is set**, to a time from 1970 to 9999. -/
def Instant.IsSet (now : Instant) : Prop := .epoch ≤ now ∧ now ≤ .endOf9999

theorem Instant.isSet_endOf9999 : endOf9999.IsSet := ⟨by decide, by decide⟩

/-- The longest lifetime that leads to a date from the end of 9999: what remains of the calendar then. -/
def Duration.longestLifetime : Duration := .ofSeconds 7956864576000

/-- **A lifetime leads to a date from every clock that is set** exactly if it is not too long for the latest
of them. -/
theorem Duration.dated_iff {d : Duration} :
    (∀ now : Instant, now.IsSet → now.after? d ≠ none)
      ↔ d.nanoseconds ≤ longestLifetime.nanoseconds := by
  have hlongest : longestLifetime.nanoseconds = 7956864576000 * 1000000000 := rfl
  have hmost : longest.nanoseconds = 9223372036854775807 * 1000000 := rfl
  have hfirst : Instant.first.nanoseconds = -8334601228800 * 1000000000 := by decide
  have hend : Instant.endOf9999.nanoseconds = 253402300799999999999 := by decide
  have hlast : Instant.last.nanoseconds = 8210266876799999999999 := by decide
  constructor
  · intro h
    obtain ⟨-, -, hdate⟩ := Instant.after?_ne_none_iff.mp (h .endOf9999 Instant.isSet_endOf9999)
    rw [Instant.le_def, hlast, hend] at hdate
    dsimp only at hdate
    omega
  · rintro h now ⟨hepoch, hlate⟩
    rw [Instant.le_def] at hepoch hlate
    have hzero : Instant.epoch.nanoseconds = 0 := rfl
    refine Instant.after?_ne_none_iff.mpr ⟨by omega, ?_, ?_⟩
    · rw [Instant.le_def]
      dsimp only
      omega
    · rw [Instant.le_def]
      dsimp only
      omega

/-- A lifetime that outlasts the calendar leads to no date. -/
theorem Instant.after?_eq_none {now : Instant} {d : Duration} (hepoch : epoch ≤ now)
    (hd : last.nanoseconds < d.nanoseconds) : now.after? d = none := by
  by_contra hdated
  obtain ⟨-, -, hdate⟩ := after?_ne_none_iff.mp hdated
  rw [le_def] at hepoch hdate
  have hzero : epoch.nanoseconds = 0 := rfl
  dsimp only at hdate
  omega

/-! ## Pools -/

theorem HashingPool.new?_isSome_iff {hasher : Hasher} {n : Nat} :
    (new? hasher n).isSome = true ↔ n ≤ permitLimit := by
  have hlimit : permitLimit = 2305843009213693951 := rfl
  unfold new?
  dsimp only
  split
  · exact ⟨fun _ => by omega, fun _ => rfl⟩
  · exact ⟨nofun, fun _ => by omega⟩

/-- A new pool has a permit, also where none was asked for. -/
theorem HashingPool.free_pos_of_new? {hasher : Hasher} {n : Nat} {pool : HashingPool}
    (h : new? hasher n = some pool) : 0 < pool.free := by
  unfold new? at h
  dsimp only at h
  split at h
  · obtain rfl := Option.some.inj h
    exact Nat.lt_of_lt_of_le Nat.one_pos (Nat.le_max_right n 1)
  · cases h

namespace Config

/-! ## Services with given settings -/

/-- The signer of access tokens that is configured. -/
def Settings.signer (s : Settings) : TokenSigner := ⟨Utf8.ofString s.token.secret, s.token.issuer⟩

/-- The settings of the service itself. -/
def Settings.auth (s : Settings) : AuthSettings :=
  ⟨s.token.accessLifetime, s.session.refreshLifetime, s.session.operationTimeout⟩

/-- The service on a store. -/
def Settings.service {σ : Type} (s : Settings) (store : Store σ) : Service σ :=
  ⟨store, s.signer, s.auth⟩

/-- **Settings that a service can be run with.** The service can be put together, tokens can be issued
whatever the clock, and so a login succeeds in which nothing else stands in the way. -/
structure Settings.Usable (s : Settings) : Prop where
  hasher : ∃ hasher, Hasher.ofCost s.password.cost = .ok hasher
  pool : ∀ hasher, (HashingPool.new? hasher s.password.maxConcurrent).isSome = true
  signs : ∀ now : Instant, now.IsSet → ∀ subject email, ∃ minted,
    s.signer.mint now subject email s.token.accessLifetime = .ok minted
  dates : ∀ now : Instant, now.IsSet → now.after? s.session.refreshLifetime ≠ none
  letsIn : ∀ (σ : Type) (store : Store σ) (st : ServiceState σ) (hasher : Hasher) (user : User)
    (raw password : String) (client : Client),
    HashingPool.new? hasher s.password.maxConcurrent = some st.pool → st.world.now.IsSet →
    (s.service store).Expects st.world user raw password client →
    Ensures ((s.service store).login raw password client) st
      (fun tokens _ => tokens.userId = user.id) (fun _ _ => False)

/-- **The limits of settings.** -/
structure Settings.WithinLimits (s : Settings) : Prop where
  leastMemory : 8 ≤ s.password.cost.memoryKib
  memory : s.password.cost.lanes * 8 ≤ s.password.cost.memoryKib
  passes : 1 ≤ s.password.cost.passes
  leastLanes : 1 ≤ s.password.cost.lanes
  lanes : s.password.cost.lanes ≤ HashCost.laneLimit
  permits : s.password.maxConcurrent ≤ HashingPool.permitLimit
  access : s.token.accessLifetime.nanoseconds ≤ Duration.longestLifetime.nanoseconds
  refresh : s.session.refreshLifetime.nanoseconds ≤ Duration.longestLifetime.nanoseconds

/-- **Settings that let nobody in**: whatever the clock, a login in which nothing else stands in the way is
refused for an internal fault. -/
def Settings.ShutsOut (s : Settings) : Prop :=
  ∀ (σ : Type) (store : Store σ) (st : ServiceState σ) (user : User) (raw password : String)
    (client : Client), 0 < st.pool.free → st.world.now.IsSet →
    (s.service store).Expects st.world user raw password client →
    Ensures ((s.service store).login raw password client) st (fun _ _ => False)
      (fun e _ => e = .refused .internal)

variable {s : Settings}

theorem Settings.Usable.withinLimits (h : s.Usable) : s.WithinLimits := by
  obtain ⟨hleast, hmemory, hpasses, hlanes, hmost⟩ :=
    HashCost.flaw?_eq_none_iff.mp (Hasher.ofCost_ok_iff.mp h.hasher)
  obtain ⟨hasher, -⟩ := h.hasher
  have haccess : ∀ now : Instant, now.IsSet → now.after? s.token.accessLifetime ≠ none :=
    fun now hnow => Service.mint_ok_iff.mp (h.signs now hnow "" "")
  exact ⟨hleast, hmemory, hpasses, hlanes, hmost, HashingPool.new?_isSome_iff.mp (h.pool hasher),
    Duration.dated_iff.mp haccess, Duration.dated_iff.mp h.dates⟩

/-- Within the limits, a login succeeds if nothing but the settings can stand in its way. -/
theorem Settings.WithinLimits.login (h : s.WithinLimits) {σ : Type} {store : Store σ}
    {st : ServiceState σ} {hasher : Hasher} {user : User} {raw password : String} {client : Client}
    (hpool : HashingPool.new? hasher s.password.maxConcurrent = some st.pool)
    (hnow : st.world.now.IsSet)
    (hexpects : (s.service store).Expects st.world user raw password client) :
    Ensures ((s.service store).login raw password client) st
      (fun tokens _ => tokens.userId = user.id) (fun _ _ => False) := by
  have hfree : 0 < st.pool.free := HashingPool.free_pos_of_new? hpool
  exact Service.login_done hexpects hfree (Duration.dated_iff.mpr h.refresh _ hnow)
    (Duration.dated_iff.mpr h.access _ hnow)

theorem Settings.WithinLimits.usable (h : s.WithinLimits) : s.Usable where
  hasher := Hasher.ofCost_ok_iff.mpr <| HashCost.flaw?_eq_none_iff.mpr
    ⟨h.leastMemory, h.memory, h.passes, h.leastLanes, h.lanes⟩
  pool _ := HashingPool.new?_isSome_iff.mpr h.permits
  signs now hnow _ _ := Service.mint_ok_iff.mpr (Duration.dated_iff.mpr h.access now hnow)
  dates := Duration.dated_iff.mpr h.refresh
  letsIn _ _ _ _ _ _ _ _ := h.login

/-- One lifetime that outlasts the calendar is enough to let nobody in. -/
theorem Settings.shutsOut
    (h : Instant.last.nanoseconds < s.session.refreshLifetime.nanoseconds
      ∨ Instant.last.nanoseconds < s.token.accessLifetime.nanoseconds) : s.ShutsOut := by
  intro σ store st user raw password client hfree hnow hexpects
  apply Service.login_undated hexpects hfree
  exact h.imp (Instant.after?_eq_none hnow.1) (Instant.after?_eq_none hnow.1)

/-- **Which settings can be used**: exactly those within the limits. -/
theorem usable_iff_withinLimits (s : Settings) : s.Usable ↔ s.WithinLimits :=
  ⟨Settings.Usable.withinLimits, Settings.WithinLimits.usable⟩

/-! ## Settings without an objection that cannot be used -/

/-- The built-in values, with an address and a secret. -/
def ordinary : Settings where
  database := ⟨"postgres://localhost/auth", 10, 0, .ofSeconds 5, .ofSeconds 600, .ofSeconds 1800,
    .ofMillis 2000⟩
  httpPort := 8080
  token := ⟨"a secret of more than thirty-two bytes", "auth-service", .ofSeconds 900⟩
  session := ⟨.ofSeconds 604800, .ofMillis 10000, .ofMillis 5000⟩
  password := ⟨.standard, 4⟩

/-- The built-in values are within the limits. -/
example : ordinary.objection? = none ∧ ordinary.WithinLimits :=
  ⟨by decide +kernel, by decide, by decide, by decide, by decide, by decide, by decide, by decide,
    by decide⟩

/-- Passwords are to be hashed without memory. -/
def forgetful : Settings :=
  { ordinary with password := { ordinary.password with cost := ⟨0, 3, 2⟩ } }

/-- More permits than a pool can have. -/
def crowded : Settings :=
  { ordinary with password := { ordinary.password with maxConcurrent := 2305843009213693952 } }

/-- Access tokens are to live for half a million years. -/
def patient : Settings :=
  { ordinary with token := { ordinary.token with accessLifetime := .ofSeconds 16000000000000 } }

/-- Sessions are to live for half a million years. -/
def faithful : Settings :=
  { ordinary with session := { ordinary.session with refreshLifetime := .ofSeconds 16000000000000 } }

/-- **Settings can be of no use without an objection to them**, in each way there is: no hasher, no pool, no
access token or no session, even at the start of 1970. In the last two cases the service can be started,
and then lets nobody in. -/
theorem accepted_not_usable :
    (forgetful.objection? = none ∧ ¬forgetful.Usable
      ∧ Hasher.ofCost forgetful.password.cost = .error (.unusableCost .memoryTooSmall))
    ∧ (crowded.objection? = none ∧ ¬crowded.Usable
      ∧ ∀ hasher, HashingPool.new? hasher crowded.password.maxConcurrent = none)
    ∧ (patient.objection? = none ∧ ¬patient.Usable ∧ patient.ShutsOut
      ∧ patient.signer.mint .epoch "" "" patient.token.accessLifetime
        = .error .expiryTooLate)
    ∧ (faithful.objection? = none ∧ ¬faithful.Usable ∧ faithful.ShutsOut
      ∧ Instant.epoch.after? faithful.session.refreshLifetime = none) := by
  refine ⟨⟨by decide +kernel, fun h => ?_, by rfl⟩, ⟨by decide +kernel, fun h => ?_, fun _ => rfl⟩,
    ⟨by decide +kernel, fun h => ?_, ?_, by rfl⟩, ⟨by decide +kernel, fun h => ?_, ?_, by rfl⟩⟩
  · exact absurd h.withinLimits.leastMemory (by decide)
  · exact absurd h.withinLimits.permits (by decide)
  · exact absurd h.withinLimits.access (by decide)
  · exact Settings.shutsOut (Or.inr (by decide))
  · exact absurd h.withinLimits.refresh (by decide)
  · exact Settings.shutsOut (Or.inl (by decide))

end Config

end SessionAuth
