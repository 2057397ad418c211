import Mathlib.Data.Fintype.Defs
import SessionAuth.Config.Read
import SessionAuth.Proofs.Config.Conversion

/-!
Settings, field by field.

`Field` lists what can be set: where it stands, what a scalar means in its place, and where it is found in
the settings. Settings are nothing but their fields, and layers are read by converting each field from the
scalar that stands in its place (`Settings.read_eq_ok_iff`).
-/

set_option autoImplicit false

namespace SessionAuth.Config

/-! ## Fields -/

/-- The fields of settings. -/
inductive Field where
  | url
  | maxConnections
  | minConnections
  | acquireTimeout
  | idleTimeout
  | maxLifetime
  | initialPingTimeout
  | httpPort
  | secret
  | issuer
  | accessLifetime
  | refreshLifetime
  | operationTimeout
  | lockTimeout
  | memoryKib
  | passes
  | lanes
  | maxConcurrent
  deriving DecidableEq, Repr

namespace Field

/-- The section of a field, and its name there. -/
def place : Field → String × String
  | url => ("database", "url")
  | maxConnections => ("database", "max_connections")
  | minConnections => ("database", "min_connections")
  | acquireTimeout => ("database", "acquire_timeout_secs")
  | idleTimeout => ("database", "idle_timeout_secs")
  | maxLifetime => ("database", "max_lifetime_secs")
  | initialPingTimeout => ("database", "initial_ping_timeout_ms")
  | httpPort => ("server", "http_port")
  | secret => ("jwt", "secret")
  | issuer => ("jwt", "issuer")
  | accessLifetime => ("jwt", "access_ttl_secs")
  | refreshLifetime => ("session", "refresh_ttl_secs")
  | operationTimeout => ("session", "operation_timeout_ms")
  | lockTimeout => ("session", "lock_timeout_ms")
  | memoryKib => ("password", "memory_kib")
  | passes => ("password", "time_cost")
  | lanes => ("password", "parallelism")
  | maxConcurrent => ("password", "max_concurrent")

/-- All fields. -/
def all : List Field :=
  [url, maxConnections, minConnections, acquireTimeout, idleTimeout, maxLifetime,
    initialPingTimeout, httpPort, secret, issuer, accessLifetime, refreshLifetime, operationTimeout,
    lockTimeout, memoryKib, passes, lanes, maxConcurrent]

instance : Fintype Field where
  elems := ⟨all, by decide⟩
  complete f := by cases f <;> decide

/-- What a field is converted to. -/
def Value : Field → Type
  | url | secret | issuer => String
  | acquireTimeout | idleTimeout | maxLifetime | initialPingTimeout | accessLifetime
  | refreshLifetime | operationTimeout | lockTimeout => Duration
  | httpPort | maxConnections | minConnections | memoryKib | passes | lanes | maxConcurrent => Nat

end Field

/-- **What a scalar means as the value of a field**: a text, a number of so many bits, or so many seconds or
milliseconds. -/
def Field.Converts : (f : Field) → Scalar → f.Value → Prop
  | url, v, x | secret, v, x | issuer, v, x => v.Reads x
  | httpPort, v, n => v.DenotesWithin 16 n
  | maxConnections, v, n | minConnections, v, n | memoryKib, v, n | passes, v, n | lanes, v, n =>
    v.DenotesWithin 32 n
  | maxConcurrent, v, n => v.DenotesWithin 64 n
  | acquireTimeout, v, d | idleTimeout, v, d | maxLifetime, v, d | accessLifetime, v, d
  | refreshLifetime, v, d =>
    ∃ n, v.DenotesWithin 64 n ∧ d.nanoseconds = n * 1000000000
  | initialPingTimeout, v, d | operationTimeout, v, d | lockTimeout, v, d =>
    ∃ n, v.DenotesWithin 64 n ∧ d.nanoseconds = n * 1000000

/-- A scalar has one meaning at most. -/
theorem Field.Converts.unique {f : Field} {v : Scalar} {x y : f.Value} (hx : f.Converts v x)
    (hy : f.Converts v y) : x = y := by
  have hduration : ∀ {unit : Nat} {d d' : Duration},
      (∃ n, v.DenotesWithin 64 n ∧ d.nanoseconds = n * unit) →
      (∃ n, v.DenotesWithin 64 n ∧ d'.nanoseconds = n * unit) → d = d' := by
    rintro unit ⟨_⟩ ⟨_⟩ ⟨n, hn, rfl⟩ ⟨n', hn', rfl⟩
    rw [hn.1.unique hn'.1]
  cases f with
  | url | secret | issuer => exact Scalar.Reads.unique hx hy
  | httpPort | maxConnections | minConnections | memoryKib | passes | lanes | maxConcurrent =>
    exact Scalar.Denotes.unique hx.1 hy.1
  | acquireTimeout | idleTimeout | maxLifetime | accessLifetime | refreshLifetime
  | initialPingTimeout | operationTimeout | lockTimeout => exact hduration hx hy

/-- **The value of a field** in settings. -/
def Settings.value (s : Settings) : (f : Field) → f.Value
  | .url => s.database.url
  | .maxConnections => s.database.maxConnections
  | .minConnections => s.database.minConnections
  | .acquireTimeout => s.database.acquireTimeout
  | .idleTimeout => s.database.idleTimeout
  | .maxLifetime => s.database.maxLifetime
  | .initialPingTimeout => s.database.initialPingTimeout
  | .httpPort => s.httpPort
  | .secret => s.token.secret
  | .issuer => s.token.issuer
  | .accessLifetime => s.token.accessLifetime
  | .refreshLifetime => s.session.refreshLifetime
  | .operationTimeout => s.session.operationTimeout
  | .lockTimeout => s.session.lockTimeout
  | .memoryKib => s.password.cost.memoryKib
  | .passes => s.password.cost.passes
  | .lanes => s.password.cost.lanes
  | .maxConcurrent => s.password.maxConcurrent

/-- There are settings with any values. -/
theorem Settings.exists_values (x : (f : Field) → f.Value) :
    ∃ s : Settings, ∀ f, s.value f = x f := by
  refine ⟨{
    database := ⟨x .url, x .maxConnections, x .minConnections, x .acquireTimeout, x .idleTimeout,
      x .maxLifetime, x .initialPingTimeout⟩
    httpPort := x .httpPort
    token := ⟨x .secret, x .issuer, x .accessLifetime⟩
    session := ⟨x .refreshLifetime, x .operationTimeout, x .lockTimeout⟩
    password := ⟨⟨x .memoryKib, x .passes, x .lanes⟩, x .maxConcurrent⟩ }, fun f => ?_⟩
  cases f <;> rfl

/-! ## Scalars in their places -/

/-- The scalar that a piece is, if it is one. -/
def Node.scalar? : Node → Option Scalar
  | .scalar _ v => some v
  | _ => none

/-- **What stands in the place of a field.** -/
def Node.valueAt? (root : Node) (f : Field) : Option Scalar :=
  (root.members.lookup f.place.1).bind fun part => (part.members.lookup f.place.2).bind Node.scalar?

section

variable {v : Node}

/-- What is converted is a scalar. -/
theorem layerText_node_iff {x : String} :
    layerText v = .ok x ↔ ∃ scalar, v.scalar? = some scalar ∧ scalar.Reads x := by
  cases v with
  | scalar origin scalar =>
    rw [layerText_eq_ok_iff]
    exact ⟨fun h => ⟨scalar, rfl, h⟩, fun ⟨_, hscalar, h⟩ => Option.some.inj hscalar ▸ h⟩
  | _ => exact ⟨nofun, nofun⟩

theorem layerNatural_node_iff {bits n : Nat} :
    layerNatural bits v = .ok n ↔ ∃ scalar, v.scalar? = some scalar ∧ scalar.DenotesWithin bits n := by
  cases v with
  | scalar origin scalar =>
    rw [layerNatural_eq_ok_iff]
    exact ⟨fun h => ⟨scalar, rfl, h⟩, fun ⟨_, hscalar, h⟩ => Option.some.inj hscalar ▸ h⟩
  | _ => exact ⟨nofun, nofun⟩

end

/-! ## Reading tables -/

section

variable {members : List (String × Node)} {number : Nat} {name : String}

/-- The fields of a table. -/
def tableFields (members : List (String × Node)) : Fields Node Misfit :=
  fun _ field => .ok ((members.lookup field).map fun v => (v, Misfit.within field))

theorem tableFields_read {α : Type} {read : Node → Except Misfit α} {x : α} :
    (tableFields members).read read number name = .ok (some x)
      ↔ ∃ v, members.lookup name = some v ∧ read v = .ok x := by
  unfold Fields.read tableFields
  rw [ok_bind]
  cases members.lookup name with
  | none => exact ⟨nofun, nofun⟩
  | some v =>
    show ((read v).mapError _ >>= fun a => .ok (some a)) = .ok (some x) ↔ _
    constructor
    · intro h
      obtain ⟨a, ha, hx⟩ := bind_eq_ok h
      obtain rfl := Option.some.inj (Except.ok.inj hx)
      exact ⟨v, rfl, mapError_eq_ok ha⟩
    · rintro ⟨v', hv', h⟩
      obtain rfl := Option.some.inj hv'
      rw [h]
      rfl

theorem tableFields_read_of {α : Type} {read : Node → Except Misfit α} {v : Node} {x : α}
    (h : members.lookup name = some v) :
    (tableFields members).read read number name = .ok (some x) ↔ read v = .ok x := by
  rw [tableFields_read, h]
  exact ⟨fun ⟨_, hv, hread⟩ => Option.some.inj hv ▸ hread, fun hread => ⟨v, rfl, hread⟩⟩

theorem require_eq_ok_iff {α : Type} {o : Option α} {x : α} :
    layerFormat.require name o = .ok x ↔ o = some x := by
  cases o with
  | none => exact ⟨nofun, nofun⟩
  | some y =>
    exact ⟨fun h => congrArg some (Except.ok.inj h),
      fun h => congrArg Except.ok (Option.some.inj h)⟩

/-- **A scalar of a table and what it means.** -/
def Given {α : Type} (members : List (String × Node)) (name : String)
    (means : Scalar → α → Prop) (x : α) : Prop :=
  ∃ scalar, (members.lookup name).bind Node.scalar? = some scalar ∧ means scalar x

/-- A field is read as what the scalar that it is means. -/
theorem read_eq_ok_iff_given {α : Type} {read : Node → Except Misfit α}
    {means : Scalar → α → Prop} {x : α} (hread : ∀ v : Node, read v = .ok x
      ↔ ∃ scalar, v.scalar? = some scalar ∧ means scalar x) :
    (tableFields members).read read number name = .ok (some x) ↔ Given members name means x := by
  rw [tableFields_read]
  unfold Given
  cases members.lookup name with
  | none => exact ⟨nofun, nofun⟩
  | some v =>
    rw [Option.bind_some, ← hread]
    exact ⟨fun ⟨_, hv, h⟩ => Option.some.inj hv ▸ h, fun h => ⟨v, rfl, h⟩⟩

theorem read_text_iff {x : String} :
    (tableFields members).read layerText number name = .ok (some x)
      ↔ Given members name Scalar.Reads x :=
  read_eq_ok_iff_given fun _ => layerText_node_iff

theorem read_natural_iff {bits n : Nat} :
    (tableFields members).read (layerNatural bits) number name = .ok (some n)
      ↔ Given members name (Scalar.DenotesWithin bits) n :=
  read_eq_ok_iff_given fun _ => layerNatural_node_iff

/-- A duration is read as a number of its unit. -/
theorem given_duration_iff {unit : Nat} {d : Duration} :
    Given members name (fun v d => ∃ n, v.DenotesWithin 64 n ∧ d.nanoseconds = n * unit) d
      ↔ ∃ n, (tableFields members).read (layerNatural 64) number name = .ok (some n)
        ∧ ⟨n * unit⟩ = d := by
  constructor
  · rintro ⟨scalar, hscalar, n, hn, hd⟩
    exact ⟨n, read_natural_iff.mpr ⟨scalar, hscalar, hn⟩, hd ▸ rfl⟩
  · rintro ⟨n, hn, rfl⟩
    obtain ⟨scalar, hscalar, hn⟩ := read_natural_iff.mp hn
    exact ⟨scalar, hscalar, n, hn, rfl⟩

theorem given_seconds_iff {d : Duration} :
    Given members name (fun v d => ∃ n, v.DenotesWithin 64 n ∧ d.nanoseconds = n * 1000000000) d
      ↔ ∃ n, (tableFields members).read (layerNatural 64) number name = .ok (some n)
        ∧ .ofSeconds n = d :=
  given_duration_iff

theorem given_millis_iff {d : Duration} :
    Given members name (fun v d => ∃ n, v.DenotesWithin 64 n ∧ d.nanoseconds = n * 1000000) d
      ↔ ∃ n, (tableFields members).read (layerNatural 64) number name = .ok (some n)
        ∧ .ofMillis n = d :=
  given_duration_iff

/-! ### Sections -/

/-- A field of a section is given in the table of the section. -/
abbrev Field.GivenIn (f : Field) (members : List (String × Node)) (x : f.Value) : Prop :=
  Given members f.place.2 f.Converts x

variable {origin : Option String}

theorem DatabaseSettings.read_eq_ok_iff {d : DatabaseSettings} :
    DatabaseSettings.read layerFormat (.table origin members) = .ok d
      ↔ Field.url.GivenIn members d.url
        ∧ Field.maxConnections.GivenIn members d.maxConnections
        ∧ Field.minConnections.GivenIn members d.minConnections
        ∧ Field.acquireTimeout.GivenIn members d.acquireTimeout
        ∧ Field.idleTimeout.GivenIn members d.idleTimeout
        ∧ Field.maxLifetime.GivenIn members d.maxLifetime
        ∧ Field.initialPingTimeout.GivenIn members d.initialPingTimeout := by
  have hrecord : layerFormat.record "DatabaseConfig" 7 (.table origin members)
      = .ok (tableFields members) := rfl
  simp only [DatabaseSettings.read, hrecord, ok_bind, bind_eq_ok_iff, require_eq_ok_iff]
  constructor
  · rintro ⟨_, h0, _, h1, _, h2, _, h3, _, h4, _, h5, _, h6, _, rfl, _, rfl, _, rfl, _, rfl, _, rfl,
      _, rfl, _, rfl, hd⟩
    obtain rfl := Except.ok.inj hd
    exact ⟨read_text_iff.mp h0, read_natural_iff.mp h1, read_natural_iff.mp h2,
      given_seconds_iff.mpr ⟨_, h3, rfl⟩, given_seconds_iff.mpr ⟨_, h4, rfl⟩,
      given_seconds_iff.mpr ⟨_, h5, rfl⟩, given_millis_iff.mpr ⟨_, h6, rfl⟩⟩
  · rintro ⟨h0, h1, h2, h3, h4, h5, h6⟩
    obtain ⟨_, h3, hacquire⟩ := given_seconds_iff.mp h3
    obtain ⟨_, h4, hidle⟩ := given_seconds_iff.mp h4
    obtain ⟨_, h5, hlife⟩ := given_seconds_iff.mp h5
    obtain ⟨_, h6, hping⟩ := given_millis_iff.mp h6
    refine ⟨_, read_text_iff.mpr h0, _, read_natural_iff.mpr h1, _, read_natural_iff.mpr h2, _, h3,
      _, h4, _, h5, _, h6, _, rfl, _, rfl, _, rfl, _, rfl, _, rfl, _, rfl, _, rfl, ?_⟩
    rw [hacquire, hidle, hlife, hping]
    rfl

theorem readHttpPort_eq_ok_iff {port : Nat} :
    readHttpPort layerFormat (.table origin members) = .ok port
      ↔ Field.httpPort.GivenIn members port := by
  have hrecord : layerFormat.record "ServerConfig" 1 (.table origin members)
      = .ok (tableFields members) := rfl
  simp only [readHttpPort, hrecord, ok_bind, bind_eq_ok_iff, require_eq_ok_iff]
  constructor
  · rintro ⟨_, h0, rfl⟩
    exact read_natural_iff.mp h0
  · intro h0
    exact ⟨_, read_natural_iff.mpr h0, rfl⟩

theorem TokenSettings.read_eq_ok_iff {t : TokenSettings} :
    TokenSettings.read layerFormat (.table origin members) = .ok t
      ↔ Field.secret.GivenIn members t.secret ∧ Field.issuer.GivenIn members t.issuer
        ∧ Field.accessLifetime.GivenIn members t.accessLifetime := by
  have hrecord : layerFormat.record "JwtConfig" 3 (.table origin members)
      = .ok (tableFields members) := rfl
  simp only [TokenSettings.read, hrecord, ok_bind, bind_eq_ok_iff, require_eq_ok_iff]
  constructor
  · rintro ⟨_, h0, _, h1, _, h2, _, rfl, _, rfl, _, rfl, ht⟩
    obtain rfl := Except.ok.inj ht
    exact ⟨read_text_iff.mp h0, read_text_iff.mp h1, given_seconds_iff.mpr ⟨_, h2, rfl⟩⟩
  · rintro ⟨h0, h1, h2⟩
    obtain ⟨_, h2, haccess⟩ := given_seconds_iff.mp h2
    refine ⟨_, read_text_iff.mpr h0, _, read_text_iff.mpr h1, _, h2, _, rfl, _, rfl, _, rfl, ?_⟩
    rw [haccess]
    rfl

theorem SessionSettings.read_eq_ok_iff {t : SessionSettings} :
    SessionSettings.read layerFormat (.table origin members) = .ok t
      ↔ Field.refreshLifetime.GivenIn members t.refreshLifetime
        ∧ Field.operationTimeout.GivenIn members t.operationTimeout
        ∧ Field.lockTimeout.GivenIn members t.lockTimeout := by
  have hrecord : layerFormat.record "SessionConfig" 3 (.table origin members)
      = .ok (tableFields members) := rfl
  simp only [SessionSettings.read, hrecord, ok_bind, bind_eq_ok_iff, require_eq_ok_iff]
  constructor
  · rintro ⟨_, h0, _, h1, _, h2, _, rfl, _, rfl, _, rfl, ht⟩
    obtain rfl := Except.ok.inj ht
    exact ⟨given_seconds_iff.mpr ⟨_, h0, rfl⟩, given_millis_iff.mpr ⟨_, h1, rfl⟩,
      given_millis_iff.mpr ⟨_, h2, rfl⟩⟩
  · rintro ⟨h0, h1, h2⟩
    obtain ⟨_, h0, hrefresh⟩ := given_seconds_iff.mp h0
    obtain ⟨_, h1, hoperation⟩ := given_millis_iff.mp h1
    obtain ⟨_, h2, hlock⟩ := given_millis_iff.mp h2
    refine ⟨_, h0, _, h1, _, h2, _, rfl, _, rfl, _, rfl, ?_⟩
    rw [hrefresh, hoperation, hlock]
    rfl

theorem PasswordSettings.read_eq_ok_iff {t : PasswordSettings} :
    PasswordSettings.read layerFormat (.table origin members) = .ok t
      ↔ Field.memoryKib.GivenIn members t.cost.memoryKib
        ∧ Field.passes.GivenIn members t.cost.passes
        ∧ Field.lanes.GivenIn members t.cost.lanes
        ∧ Field.maxConcurrent.GivenIn members t.maxConcurrent := by
  have hrecord : layerFormat.record "PasswordConfig" 4 (.table origin members)
      = .ok (tableFields members) := rfl
  simp only [PasswordSettings.read, hrecord, ok_bind, bind_eq_ok_iff, require_eq_ok_iff]
  constructor
  · rintro ⟨_, h0, _, h1, _, h2, _, h3, _, rfl, _, rfl, _, rfl, _, rfl, ht⟩
    obtain rfl := Except.ok.inj ht
    exact ⟨read_natural_iff.mp h0, read_natural_iff.mp h1, read_natural_iff.mp h2,
      read_natural_iff.mp h3⟩
  · rintro ⟨h0, h1, h2, h3⟩
    exact ⟨_, read_natural_iff.mpr h0, _, read_natural_iff.mpr h1, _, read_natural_iff.mpr h2, _,
      read_natural_iff.mpr h3, _, rfl, _, rfl, _, rfl, _, rfl, rfl⟩

/-! ### All sections -/

/-- **A table of sections**: each section is there, and is a table. -/
def Node.HasSections (root : Node) : Prop :=
  ∃ origin members, root = .table origin members
    ∧ ∀ f : Field, ∃ origin' part, members.lookup f.place.1 = some (.table origin' part)

/-- What is given in the table of a section stands in its place. -/
theorem Field.givenIn_iff (f : Field) {x : f.Value} {origin' : Option String}
    {part : List (String × Node)} (h : members.lookup f.place.1 = some (.table origin' part)) :
    f.GivenIn part x
      ↔ ∃ scalar, (Node.table origin members).valueAt? f = some scalar
        ∧ f.Converts scalar x := by
  unfold Node.valueAt? GivenIn Given
  rw [show (Node.table origin members).members = members from rfl, h]
  rfl

/-- **Settings are read field by field**: where the sections are there, what is read is what the scalars in
the places of the fields mean. -/
theorem Settings.read_eq_ok_iff {root : Node} {s : Settings} (h : root.HasSections) :
    Settings.read layerFormat root = .ok s
      ↔ ∀ f, ∃ scalar, root.valueAt? f = some scalar ∧ f.Converts scalar (s.value f) := by
  obtain ⟨origin, members, rfl, hsections⟩ := h
  obtain ⟨o₀, database, hdatabase⟩ := hsections .url
  obtain ⟨o₁, server, hserver⟩ := hsections .httpPort
  obtain ⟨o₂, token, htoken⟩ := hsections .secret
  obtain ⟨o₃, session, hsession⟩ := hsections .refreshLifetime
  obtain ⟨o₄, password, hpassword⟩ := hsections .memoryKib
  have hrecord : layerFormat.record "Config" 5 (.table origin members)
      = .ok (tableFields members) := rfl
  simp only [Settings.read, hrecord, ok_bind, bind_eq_ok_iff, require_eq_ok_iff]
  constructor
  · rintro ⟨_, h0, _, h1, _, h2, _, h3, _, h4, _, rfl, _, rfl, _, rfl, _, rfl, _, rfl, hs⟩
    obtain rfl := Except.ok.inj hs
    -- each section has been read from the table that stands there
    have hd := DatabaseSettings.read_eq_ok_iff.mp ((tableFields_read_of hdatabase).mp h0)
    have hport := readHttpPort_eq_ok_iff.mp ((tableFields_read_of hserver).mp h1)
    have ht := TokenSettings.read_eq_ok_iff.mp ((tableFields_read_of htoken).mp h2)
    have hs := SessionSettings.read_eq_ok_iff.mp ((tableFields_read_of hsession).mp h3)
    have hp := PasswordSettings.read_eq_ok_iff.mp ((tableFields_read_of hpassword).mp h4)
    intro f
    cases f with
    | url => exact (Field.givenIn_iff .url hdatabase).mp hd.1
    | maxConnections => exact (Field.givenIn_iff .maxConnections hdatabase).mp hd.2.1
    | minConnections => exact (Field.givenIn_iff .minConnections hdatabase).mp hd.2.2.1
    | acquireTimeout => exact (Field.givenIn_iff .acquireTimeout hdatabase).mp hd.2.2.2.1
    | idleTimeout => exact (Field.givenIn_iff .idleTimeout hdatabase).mp hd.2.2.2.2.1
    | maxLifetime => exact (Field.givenIn_iff .maxLifetime hdatabase).mp hd.2.2.2.2.2.1
    | initialPingTimeout =>
      exact (Field.givenIn_iff .initialPingTimeout hdatabase).mp hd.2.2.2.2.2.2
    | httpPort => exact (Field.givenIn_iff .httpPort hserver).mp hport
    | secret => exact (Field.givenIn_iff .secret htoken).mp ht.1
    | issuer => exact (Field.givenIn_iff .issuer htoken).mp ht.2.1
    | accessLifetime => exact (Field.givenIn_iff .accessLifetime htoken).mp ht.2.2
    | refreshLifetime => exact (Field.givenIn_iff .refreshLifetime hsession).mp hs.1
    | operationTimeout => exact (Field.givenIn_iff .operationTimeout hsession).mp hs.2.1
    | lockTimeout => exact (Field.givenIn_iff .lockTimeout hsession).mp hs.2.2
    | memoryKib => exact (Field.givenIn_iff .memoryKib hpassword).mp hp.1
    | passes => exact (Field.givenIn_iff .passes hpassword).mp hp.2.1
    | lanes => exact (Field.givenIn_iff .lanes hpassword).mp hp.2.2.1
    | maxConcurrent => exact (Field.givenIn_iff .maxConcurrent hpassword).mp hp.2.2.2
  · intro hall
    have hd : DatabaseSettings.read layerFormat (.table o₀ database) = .ok s.database :=
      DatabaseSettings.read_eq_ok_iff.mpr
        ⟨(Field.givenIn_iff .url hdatabase).mpr (hall .url),
          (Field.givenIn_iff .maxConnections hdatabase).mpr (hall .maxConnections),
          (Field.givenIn_iff .minConnections hdatabase).mpr (hall .minConnections),
          (Field.givenIn_iff .acquireTimeout hdatabase).mpr (hall .acquireTimeout),
          (Field.givenIn_iff .idleTimeout hdatabase).mpr (hall .idleTimeout),
          (Field.givenIn_iff .maxLifetime hdatabase).mpr (hall .maxLifetime),
          (Field.givenIn_iff .initialPingTimeout hdatabase).mpr (hall .initialPingTimeout)⟩
    have hport : readHttpPort layerFormat (.table o₁ server) = .ok s.httpPort :=
      readHttpPort_eq_ok_iff.mpr ((Field.givenIn_iff .httpPort hserver).mpr (hall .httpPort))
    have ht : TokenSettings.read layerFormat (.table o₂ token) = .ok s.token :=
      TokenSettings.read_eq_ok_iff.mpr
        ⟨(Field.givenIn_iff .secret htoken).mpr (hall .secret),
          (Field.givenIn_iff .issuer htoken).mpr (hall .issuer),
          (Field.givenIn_iff .accessLifetime htoken).mpr (hall .accessLifetime)⟩
    have hs : SessionSettings.read layerFormat (.table o₃ session) = .ok s.session :=
      SessionSettings.read_eq_ok_iff.mpr
        ⟨(Field.givenIn_iff .refreshLifetime hsession).mpr (hall .refreshLifetime),
          (Field.givenIn_iff .operationTimeout hsession).mpr (hall .operationTimeout),
          (Field.givenIn_iff .lockTimeout hsession).mpr (hall .lockTimeout)⟩
    have hp : PasswordSettings.read layerFormat (.table o₄ password) = .ok s.password :=
      PasswordSettings.read_eq_ok_iff.mpr
        ⟨(Field.givenIn_iff .memoryKib hpassword).mpr (hall .memoryKib),
          (Field.givenIn_iff .passes hpassword).mpr (hall .passes),
          (Field.givenIn_iff .lanes hpassword).mpr (hall .lanes),
          (Field.givenIn_iff .maxConcurrent hpassword).mpr (hall .maxConcurrent)⟩
    exact ⟨_, (tableFields_read_of hdatabase).mpr hd, _, (tableFields_read_of hserver).mpr hport, _,
      (tableFields_read_of htoken).mpr ht, _, (tableFields_read_of hsession).mpr hs, _,
      (tableFields_read_of hpassword).mpr hp, _, rfl, _, rfl, _, rfl, _, rfl, _, rfl, rfl⟩

end

end SessionAuth.Config
