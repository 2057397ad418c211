import SessionAuth.Password.Pool
import SessionAuth.Proofs.Password.Hasher

/-!
Which texts are password hashes, and what checking a password against them says.

`StoredHash` is a hash as its text has it: the parameters one by one and in their order, the salt and the
digest. `IsAccepted` lists what is asked of it, and `chars` is its text. The texts that are understood are
the texts of accepted hashes (`parse?_eq_some_iff`): in one direction each part is the text of what is
read from it, in the other the parts are read back as they were written. Both come down to one parameter
(`takeParameter?_eq_some_iff`), and from there to the list of them by induction.

So checking has two steps that do not meet. Whether a text is malformed is up to the text
(`verify_verdict`); for every other one the digest of the password decides, under what the text says and
whatever the hasher that checks would write itself (`hash_verifies`).
-/

set_option autoImplicit false

namespace SessionAuth

namespace Hasher

/-! ## Parameters -/

/-- A parameter of a hash. -/
inductive Parameter where
  | memory (kib : Nat)
  | passes (n : Nat)
  | lanes (n : Nat)
  | keyId (id : Bytes)
  | data (bytes : Bytes)
  deriving DecidableEq, Repr

namespace Parameter

def name : Parameter → List Char
  | .memory _ => ['m']
  | .passes _ => ['t']
  | .lanes _ => ['p']
  | .keyId _ => "keyid".toList
  | .data _ => "data".toList

/-- Numbers are in decimal, bytes in Base64. -/
def value : Parameter → List Char
  | .memory n | .passes n | .lanes n => Decimal.digits n
  | .keyId b | .data b => Base64.encode .standard b

/-- The parameter as its field has it. -/
def chars (q : Parameter) : List Char := q.name ++ '=' :: q.value

/-- Numbers have 32 bits, a key identifier at most eight bytes and the data at most 32. -/
def Fits : Parameter → Prop
  | .memory n | .passes n | .lanes n => n < 4294967296
  | .keyId b => b.length ≤ 8
  | .data b => b.length ≤ 32

instance (q : Parameter) : Decidable q.Fits :=
  match q with
  | .memory n | .passes n | .lanes n => inferInstanceAs (Decidable (n < 4294967296))
  | .keyId b => inferInstanceAs (Decidable (b.length ≤ 8))
  | .data b => inferInstanceAs (Decidable (b.length ≤ 32))

def memory? : Parameter → Option Nat
  | .memory n => some n
  | _ => none

def passes? : Parameter → Option Nat
  | .passes n => some n
  | _ => none

def lanes? : Parameter → Option Nat
  | .lanes n => some n
  | _ => none

def data? : Parameter → Option Bytes
  | .data b => some b
  | _ => none

/-- The name and the value. -/
def written (q : Parameter) : List Char × List Char := (q.name, q.value)

/-- The cost and the associated data with a parameter in its place. A key identifier has none. -/
def onto (acc : HashCost × Bytes) : Parameter → HashCost × Bytes
  | .memory n => ({ acc.1 with memoryKib := n }, acc.2)
  | .passes n => ({ acc.1 with passes := n }, acc.2)
  | .lanes n => ({ acc.1 with lanes := n }, acc.2)
  | .keyId _ => acc
  | .data b => (acc.1, b)

/-- Every parameter that fits can be written. -/
theorem Fits.isParameter {q : Parameter} (h : q.Fits) : EncodedHash.IsParameter q.written := by
  have hbytes : ∀ b : Bytes, b.length ≤ 32 →
      EncodedHash.isValue (Base64.encode .standard b) = true := by
    intro b hb
    simp only [EncodedHash.isValue, Bool.and_eq_true, decide_eq_true_eq, List.all_eq_true]
    rw [Base64.length_encode]
    exact ⟨by omega, fun _ => EncodedHash.isValueChar_of_mem_encode⟩
  cases q with
  | memory n => exact ⟨rfl, EncodedHash.isValue_digits h⟩
  | passes n => exact ⟨rfl, EncodedHash.isValue_digits h⟩
  | lanes n => exact ⟨rfl, EncodedHash.isValue_digits h⟩
  | keyId b => exact ⟨rfl, hbytes b (Nat.le_trans h (by decide))⟩
  | data b => exact ⟨rfl, hbytes b h⟩

end Parameter

variable {acc acc' : HashCost × Bytes}

theorem boundedBytes?_eq_some_iff {limit : Nat} {l : List Char} {b : Bytes} :
    boundedBytes? limit l = some b ↔ b.length ≤ limit ∧ l = Base64.encode .standard b := by
  rw [boundedBytes?, Option.filter_eq_some_iff, decide_eq_true_eq, and_comm]
  refine and_congr_right fun _ => ⟨EncodedHash.eq_encode_of_bytes?, ?_⟩
  rintro rfl
  exact EncodedHash.bytes?_encode b

theorem number?_eq_some_iff {l : List Char} {n : Nat} :
    EncodedHash.number? l = some n ↔ n < 4294967296 ∧ l = Decimal.digits n := by
  refine ⟨fun h => (EncodedHash.eq_digits_of_number? h).symm, ?_⟩
  rintro ⟨hn, rfl⟩
  exact EncodedHash.number?_digits hn

/-- **The parameters that are taken into account**, and what each of them changes. -/
theorem takeParameter?_eq_some_iff {p : List Char × List Char} :
    takeParameter? acc p = some acc'
      ↔ ∃ q : Parameter, q.Fits ∧ p = q.written ∧ acc' = q.onto acc := by
  obtain ⟨name, value⟩ := p
  constructor
  · intro h
    unfold takeParameter? at h
    split at h
    · obtain ⟨n, hn, rfl⟩ := Option.map_eq_some_iff.mp h
      obtain ⟨hlt, hvalue⟩ := number?_eq_some_iff.mp hn
      exact ⟨.memory n, hlt, Prod.ext ‹_› hvalue, rfl⟩
    · obtain ⟨n, hn, rfl⟩ := Option.map_eq_some_iff.mp h
      obtain ⟨hlt, hvalue⟩ := number?_eq_some_iff.mp hn
      exact ⟨.passes n, hlt, Prod.ext ‹_› hvalue, rfl⟩
    · obtain ⟨n, hn, rfl⟩ := Option.map_eq_some_iff.mp h
      obtain ⟨hlt, hvalue⟩ := number?_eq_some_iff.mp hn
      exact ⟨.lanes n, hlt, Prod.ext ‹_› hvalue, rfl⟩
    · obtain ⟨b, hb, rfl⟩ := Option.map_eq_some_iff.mp h
      obtain ⟨hlength, hvalue⟩ := boundedBytes?_eq_some_iff.mp hb
      exact ⟨.keyId b, hlength, Prod.ext ‹_› hvalue, rfl⟩
    · obtain ⟨b, hb, rfl⟩ := Option.map_eq_some_iff.mp h
      obtain ⟨hlength, hvalue⟩ := boundedBytes?_eq_some_iff.mp hb
      exact ⟨.data b, hlength, Prod.ext ‹_› hvalue, rfl⟩
    · cases h
  · rintro ⟨q, hfits, hp, rfl⟩
    obtain ⟨rfl, rfl⟩ := Prod.mk.inj hp
    cases q with
    | memory n => exact Option.map_eq_some_iff.mpr ⟨n, number?_eq_some_iff.mpr ⟨hfits, rfl⟩, rfl⟩
    | passes n => exact Option.map_eq_some_iff.mpr ⟨n, number?_eq_some_iff.mpr ⟨hfits, rfl⟩, rfl⟩
    | lanes n => exact Option.map_eq_some_iff.mpr ⟨n, number?_eq_some_iff.mpr ⟨hfits, rfl⟩, rfl⟩
    | keyId b =>
      exact Option.map_eq_some_iff.mpr ⟨b, boundedBytes?_eq_some_iff.mpr ⟨hfits, rfl⟩, rfl⟩
    | data b =>
      exact Option.map_eq_some_iff.mpr ⟨b, boundedBytes?_eq_some_iff.mpr ⟨hfits, rfl⟩, rfl⟩

theorem takeParameters_eq_some_iff {ps : List (List Char × List Char)} :
    ps.foldlM takeParameter? acc = some acc'
      ↔ ∃ qs : List Parameter, (∀ q ∈ qs, q.Fits) ∧ ps = qs.map Parameter.written
        ∧ acc' = qs.foldl Parameter.onto acc := by
  induction ps generalizing acc with
  | nil =>
    constructor
    · intro h
      obtain rfl := Option.some.inj h
      exact ⟨[], nofun, rfl, rfl⟩
    · rintro ⟨qs, -, hnil, rfl⟩
      obtain rfl := List.map_eq_nil_iff.mp hnil.symm
      rfl
  | cons p ps ih =>
    -- the accumulator differs from step to step, so it is not fixed in the induction
    rw [List.foldlM_cons]
    constructor
    · intro h
      obtain ⟨next, hp, hps⟩ := Option.bind_eq_some_iff.mp h
      obtain ⟨q, hq, rfl, rfl⟩ := takeParameter?_eq_some_iff.mp hp
      obtain ⟨qs, hqs, rfl, rfl⟩ := ih.mp hps
      exact ⟨q :: qs, List.forall_mem_cons.mpr ⟨hq, hqs⟩, rfl, rfl⟩
    · rintro ⟨qs, hfits, hwritten, rfl⟩
      obtain ⟨q, qs, rfl, rfl, rfl⟩ := List.map_eq_cons_iff.mp hwritten.symm
      obtain ⟨hq, hqs⟩ := List.forall_mem_cons.mp hfits
      exact Option.bind_eq_some_iff.mpr
        ⟨q.onto acc, takeParameter?_eq_some_iff.mpr ⟨q, hq, rfl, rfl⟩, ih.mpr ⟨qs, hqs, rfl, rfl⟩⟩

/-- **Of the values of a name the last one counts**, and where there is none the one before stays. -/
theorem foldl_onto (qs : List Parameter) (acc : HashCost × Bytes) :
    qs.foldl Parameter.onto acc
      = (⟨(qs.filterMap Parameter.memory?).getLastD acc.1.memoryKib,
          (qs.filterMap Parameter.passes?).getLastD acc.1.passes,
          (qs.filterMap Parameter.lanes?).getLastD acc.1.lanes⟩,
        (qs.filterMap Parameter.data?).getLastD acc.2) := by
  induction qs generalizing acc with
  | nil => rfl
  | cons q qs ih =>
    rw [List.foldl_cons, ih]
    cases q <;> simp only [Parameter.onto, List.filterMap_cons, Parameter.memory?,
      Parameter.passes?, Parameter.lanes?, Parameter.data?, List.getLastD_cons]

end Hasher

/-! ## Hashes and their texts -/

open Hasher (Parameter)

/-- A password hash as its text has it. -/
structure StoredHash where
  parameters : List Parameter
  salt : Bytes
  digest : Bytes

namespace StoredHash

/-- The cost that a hash was made with. What it leaves out has a value of its own. -/
def cost (h : StoredHash) : HashCost where
  memoryKib := (h.parameters.filterMap Parameter.memory?).getLastD 19456
  passes := (h.parameters.filterMap Parameter.passes?).getLastD 2
  lanes := (h.parameters.filterMap Parameter.lanes?).getLastD 1

/-- The associated data that a hash was made with. -/
def associatedData (h : StoredHash) : Bytes :=
  (h.parameters.filterMap Parameter.data?).getLastD []

/-- The field of the parameters. -/
def parameterField (h : StoredHash) : List Char :=
  List.intercalate [','] (h.parameters.map Parameter.chars)

/-- The text: the algorithm, its version, the parameters unless there are none, the salt and the
digest. -/
def chars (h : StoredHash) : List Char :=
  "$argon2id$v=19".toList
    ++ (if h.parameters.isEmpty then [] else '$' :: h.parameterField)
    ++ '$' :: Base64.encode .standard h.salt
    ++ '$' :: Base64.encode .standard h.digest

def text (h : StoredHash) : String := String.ofList h.chars

/-- **What is asked of a hash**: parameters that fit, in a field of at most 127 signs; a cost that can be
used; a salt and a digest that are neither too short nor too long. -/
structure IsAccepted (h : StoredHash) : Prop where
  parameters : ∀ q ∈ h.parameters, q.Fits
  parameterField : h.parameterField.length ≤ 127
  memory : 8 ≤ h.cost.memoryKib
  memory_lanes : h.cost.lanes * 8 ≤ h.cost.memoryKib
  passes : 1 ≤ h.cost.passes
  lanes : 1 ≤ h.cost.lanes
  lanes_limit : h.cost.lanes ≤ 16777215
  salt : 8 ≤ h.salt.length ∧ h.salt.length ≤ 48
  digest : 16 ≤ h.digest.length ∧ h.digest.length ≤ 64

/-- The hash as it is taken apart. -/
def encoded (h : StoredHash) : EncodedHash where
  algorithm := Hasher.algorithmName
  version := some Argon2id.versionNumber
  parameters := h.parameters.map Parameter.written
  salt := some (Base64.encode .standard h.salt)
  digest := some h.digest

/-- What the hash says. -/
def parsed (h : StoredHash) : Hasher.Parsed := ⟨h.cost, h.salt, h.digest, h.associatedData⟩

variable {h : StoredHash}

theorem parametersChars_encoded (h : StoredHash) :
    EncodedHash.parametersChars h.encoded.parameters = h.parameterField := by
  rw [parameterField, EncodedHash.parametersChars, encoded, List.map_map]
  rfl

theorem toText_encoded (h : StoredHash) : h.encoded.toText = h.text := by
  have hfront : '$' :: Hasher.algorithmName
      ++ '$' :: 'v' :: '=' :: Decimal.digits Argon2id.versionNumber = "$argon2id$v=19".toList := by
    decide
  have hfield : List.intercalate [','] (h.encoded.parameters.map EncodedHash.parameterChars)
      = h.parameterField := h.parametersChars_encoded
  have hempty : h.encoded.parameters.isEmpty = h.parameters.isEmpty := List.isEmpty_map
  refine congrArg String.ofList ?_
  show '$' :: Hasher.algorithmName ++ '$' :: 'v' :: '=' :: Decimal.digits Argon2id.versionNumber
      ++ (if h.encoded.parameters.isEmpty then [] else '$' :: List.intercalate [',']
        (h.encoded.parameters.map EncodedHash.parameterChars))
      ++ '$' :: Base64.encode .standard h.salt ++ '$' :: Base64.encode .standard h.digest = h.chars
  rw [hfront, hfield, hempty]
  rfl

/-- The text of a hash that states a whole cost. -/
theorem chars_of_cost (memory passes lanes : Nat) (salt digest : Bytes) :
    (⟨[.memory memory, .passes passes, .lanes lanes], salt, digest⟩ : StoredHash).chars
      = "$argon2id$v=19$m=".toList ++ Decimal.digits memory ++ ",t=".toList ++ Decimal.digits passes
        ++ ",p=".toList ++ Decimal.digits lanes
        ++ '$' :: Base64.encode .standard salt ++ '$' :: Base64.encode .standard digest := by
  have hjoined : ∀ a b c : List Char,
      List.intercalate [','] [a, b, c] = a ++ ',' :: b ++ ',' :: c := by
    intro a b c
    simp [List.intercalate]
  have hfront : "$argon2id$v=19$m=".toList = "$argon2id$v=19".toList ++ ['$', 'm', '='] := rfl
  have hpasses : ",t=".toList = [',', 't', '='] := rfl
  have hlanes : ",p=".toList = [',', 'p', '='] := rfl
  show "$argon2id$v=19".toList ++ '$' :: List.intercalate [','] ['m' :: '=' :: Decimal.digits memory,
    't' :: '=' :: Decimal.digits passes, 'p' :: '=' :: Decimal.digits lanes] ++ _ ++ _ = _
  rw [hjoined, hfront, hpasses, hlanes]
  simp only [List.append_assoc, List.cons_append, List.nil_append]

theorem foldl_parameters (h : StoredHash) :
    h.parameters.foldl Parameter.onto (HashCost.unstated, []) = (h.cost, h.associatedData) :=
  Hasher.foldl_onto h.parameters _

theorem IsAccepted.flaw?_eq_none (ha : h.IsAccepted) : h.cost.flaw? = none :=
  HashCost.flaw?_eq_none_iff.mpr ⟨ha.memory, ha.memory_lanes, ha.passes, ha.lanes, ha.lanes_limit⟩

theorem isParameter_of_fits (hfits : ∀ q ∈ h.parameters, q.Fits) :
    ∀ p ∈ h.encoded.parameters, EncodedHash.IsParameter p := by
  intro p hp
  obtain ⟨q, hq, rfl⟩ := List.mem_map.mp hp
  exact (hfits q hq).isParameter

/-- The field of the parameters has as many bytes as signs. -/
theorem length_parametersChars_encoded (hfits : ∀ q ∈ h.parameters, q.Fits) :
    (Utf8.encode (EncodedHash.parametersChars h.encoded.parameters)).length
      = h.parameterField.length := by
  rw [Utf8.encode_ascii (EncodedHash.parametersChars_ascii (isParameter_of_fits hfits)),
    List.length_map, parametersChars_encoded]

/-- An accepted hash keeps to the bounds of hashes in general. -/
theorem IsAccepted.isBounded (ha : h.IsAccepted) : h.encoded.IsBounded where
  algorithm := rfl
  version := by
    rintro _ ⟨⟩
    decide
  parameters := isParameter_of_fits ha.parameters
  parameters_short := by
    rw [length_parametersChars_encoded ha.parameters]
    exact ha.parameterField
  salt := by
    rintro _ ⟨⟩
    have hlength := ha.salt
    simp only [EncodedHash.isValue, Bool.and_eq_true, decide_eq_true_eq, List.all_eq_true]
    rw [Base64.length_encode]
    exact ⟨by omega, by omega, fun _ => EncodedHash.isValueChar_of_mem_encode⟩
  digest := by
    rintro _ ⟨⟩
    have hlength := ha.digest
    omega
  salted := fun _ => rfl

/-- A hash within the bounds is accepted if its parameters are taken, its cost can be used and nothing
of it is too short. -/
theorem isAccepted_of_isBounded (hbounded : h.encoded.IsBounded)
    (hfits : ∀ q ∈ h.parameters, q.Fits) (husable : h.cost.flaw? = none)
    (hsalt : Hasher.leastSalt ≤ h.salt.length) (hdigest : Hasher.leastDigest ≤ h.digest.length) :
    h.IsAccepted := by
  have hshort := hbounded.parameters_short
  rw [length_parametersChars_encoded hfits] at hshort
  have hvalue := (hbounded.salt _ rfl).2
  rw [EncodedHash.isValue, Bool.and_eq_true, decide_eq_true_eq, Base64.length_encode] at hvalue
  obtain ⟨hmemory, hmemoryLanes, hpasses, hlanes, hlimit⟩ := HashCost.flaw?_eq_none_iff.mp husable
  exact ⟨hfits, hshort, hmemory, hmemoryLanes, hpasses, hlanes, hlimit, ⟨hsalt, by omega⟩,
    hdigest, (hbounded.digest _ rfl).2⟩

end StoredHash

namespace Hasher

variable {s : String} {p : Parsed}

/-- **The texts that are understood are the texts of accepted hashes**, and they say what these do. -/
theorem parse?_eq_some_iff :
    parse? s = some p ↔ ∃ h : StoredHash, h.IsAccepted ∧ s = h.text ∧ p = h.parsed := by
  constructor
  · intro h
    unfold parse? at h
    obtain ⟨e, he, h⟩ := Option.bind_eq_some_iff.mp h
    split at h
    · cases h
    rename_i hnamed
    obtain ⟨written, hwritten, h⟩ := Option.bind_eq_some_iff.mp h
    obtain ⟨salt, hsalt, h⟩ := Option.bind_eq_some_iff.mp h
    obtain ⟨digest, hdigest, h⟩ := Option.bind_eq_some_iff.mp h
    split at h
    · cases h
    rename_i hlong
    obtain ⟨⟨cost, data⟩, hsaid, h⟩ := Option.bind_eq_some_iff.mp h
    dsimp only at h
    split at h
    · cases h
    rename_i husable
    obtain rfl := Option.some.inj h
    obtain ⟨hbounded, rfl⟩ := EncodedHash.eq_toText_of_parse? he
    obtain ⟨qs, hfits, hqs, hfold⟩ := takeParameters_eq_some_iff.mp hsaid
    -- from here on each part of the text is the text of what was read from it
    obtain ⟨algorithm, version, parameters, salt', digest'⟩ := e
    obtain ⟨rfl, rfl⟩ : algorithm = algorithmName ∧ version = some Argon2id.versionNumber := by
      simpa using hnamed
    obtain rfl : salt' = some written := hwritten
    obtain rfl : digest' = some digest := hdigest
    obtain rfl : parameters = qs.map Parameter.written := hqs
    obtain rfl := EncodedHash.eq_encode_of_bytes? hsalt
    -- what has been taken apart is the hash of these parameters
    have hstored := (⟨qs, salt, digest⟩ : StoredHash).foldl_parameters
    obtain ⟨rfl, rfl⟩ := Prod.mk.inj (hfold.trans hstored)
    refine ⟨⟨qs, salt, digest⟩, StoredHash.isAccepted_of_isBounded hbounded hfits ?_ ?_ ?_,
      StoredHash.toText_encoded ⟨qs, salt, digest⟩, rfl⟩
    · simpa using husable
    · exact Nat.le_of_not_lt fun hshort => hlong (Or.inl hshort)
    · exact Nat.le_of_not_lt fun hshort => hlong (Or.inr hshort)
  · rintro ⟨h, ha, rfl, rfl⟩
    -- no test of the reader fails, as what an accepted hash is asked for is what they ask
    have hnamed : ¬(h.encoded.algorithm ≠ algorithmName
        ∨ h.encoded.version ≠ some Argon2id.versionNumber) := by
      rintro (hne | hne) <;> exact hne rfl
    have hlong : ¬(h.salt.length < leastSalt ∨ h.digest.length < leastDigest) := by
      rintro (hshort | hshort)
      · exact Nat.not_lt_of_le ha.salt.1 hshort
      · exact Nat.not_lt_of_le ha.digest.1 hshort
    have hsaid : h.encoded.parameters.foldlM takeParameter? (HashCost.unstated, [])
        = some (h.cost, h.associatedData) :=
      takeParameters_eq_some_iff.mpr ⟨h.parameters, ha.parameters, rfl, h.foldl_parameters.symm⟩
    have husable : ¬h.cost.flaw?.isSome = true := by
      rw [ha.flaw?_eq_none]
      exact Bool.false_ne_true
    have hsalt : h.encoded.salt = some (Base64.encode .standard h.salt) := rfl
    have hdigest : h.encoded.digest = some h.digest := rfl
    rw [parse?, ← h.toText_encoded, EncodedHash.parse?_toText ha.isBounded rfl]
    simp only [Option.bind_eq_bind, Option.bind_some, if_neg hnamed, hsalt, hdigest,
      EncodedHash.bytes?_encode, if_neg hlong, hsaid, if_neg husable]
    rfl

/-- A password that is checked and not accepted is another one, or there is no hash of it. -/
theorem verify_error {password encoded : String} {fault : PasswordFault}
    (h : verify password encoded = .error fault) : fault = .mismatch ∨ fault = .malformedHash := by
  unfold verify at h
  split at h
  · exact .inr (Except.error.inj h).symm
  · split at h
    · cases h
    · exact .inl (Except.error.inj h).symm

theorem verify_eq_malformedHash_iff {password encoded : String} :
    verify password encoded = .error .malformedHash ↔ parse? encoded = none := by
  unfold verify
  cases parse? encoded with
  | none => exact ⟨fun _ => rfl, fun _ => rfl⟩
  | some p =>
    refine ⟨fun h => ?_, nofun⟩
    dsimp only at h
    split at h <;> cases h

end Hasher

/-! ## Workers -/

namespace HashingPool

variable {pool busy : HashingPool}

/-- What is given back is what was taken. -/
theorem release_of_acquire? (h : pool.acquire? = some busy) : busy.release = pool := by
  unfold acquire? at h
  split at h
  · cases h
  · rename_i hfree
    obtain rfl := Option.some.inj h
    show (⟨pool.hasher, pool.free - 1 + 1⟩ : HashingPool) = pool
    rw [Nat.sub_add_cancel (Nat.one_le_iff_ne_zero.mpr hfree)]

theorem acquire?_eq_none_iff : pool.acquire? = none ↔ pool.free = 0 := by
  unfold acquire?
  split
  · exact ⟨fun _ => ‹_›, fun _ => rfl⟩
  · exact ⟨nofun, fun h => absurd h ‹_›⟩

/-- Where a permit is free, one is taken from the pool. -/
theorem acquire?_of_free (hfree : 0 < pool.free) :
    ∃ busy, pool.acquire? = some busy ∧ busy.hasher = pool.hasher ∧ busy.release = pool := by
  cases hbusy : pool.acquire? with
  | none =>
    rw [acquire?_eq_none_iff.mp hbusy] at hfree
    cases hfree
  | some busy =>
    have hrelease := release_of_acquire? hbusy
    exact ⟨busy, rfl, congrArg (·.hasher) hrelease, hrelease⟩

/-- With a permit, a worker says what there is to say, and the pool is as before. -/
theorem verify?_of_free (hfree : 0 < pool.free) (password encoded : String) :
    pool.verify? password encoded = some (Hasher.verify password encoded, pool) := by
  obtain ⟨busy, hbusy, -, hrelease⟩ := acquire?_of_free hfree
  rw [verify?, hbusy, Option.bind_eq_bind, Option.bind_some, hrelease]
  rfl

end HashingPool

/-! ## Verdicts -/

namespace Hasher

/-- **Whether a text is malformed is up to the text**, whatever the password and whoever checks it: it
is malformed exactly if no accepted hash has this text. For the text of an accepted hash, the digest
decides that the password has under what the hash says. -/
theorem verify_verdict (encoded : String) :
    (∀ p q, verify p encoded = .error .malformedHash ↔ verify q encoded = .error .malformedHash)
      ∧ (∀ p, verify p encoded = .error .malformedHash
        ↔ ¬∃ h : StoredHash, h.IsAccepted ∧ encoded = h.text)
      ∧ (∀ h : StoredHash, h.IsAccepted → encoded = h.text → ∀ p, verify p encoded
        = if Argon2id.hash ⟨h.cost.memoryKib, h.cost.passes, h.cost.lanes, h.digest.length,
            h.associatedData⟩ (Utf8.ofString p) h.salt = h.digest then .ok () else .error .mismatch)
      ∧ ∀ (pool : HashingPool) (p), 0 < pool.free →
        pool.verify? p encoded = some (verify p encoded, pool) := by
  refine ⟨fun p q => ?_, fun p => ?_, fun h ha hencoded p => ?_,
    fun pool p hfree => HashingPool.verify?_of_free hfree p encoded⟩
  · rw [verify_eq_malformedHash_iff, verify_eq_malformedHash_iff]
  · rw [verify_eq_malformedHash_iff, Option.eq_none_iff_forall_ne_some]
    constructor
    · rintro hnone ⟨h, ha, hencoded⟩
      exact hnone h.parsed (parse?_eq_some_iff.mpr ⟨h, ha, hencoded, rfl⟩)
    · intro hnone said hsaid
      obtain ⟨h, ha, hencoded, -⟩ := parse?_eq_some_iff.mp hsaid
      exact hnone ⟨h, ha, hencoded⟩
  · have hsaid : parse? encoded = some h.parsed :=
      parse?_eq_some_iff.mpr ⟨h, ha, hencoded, rfl⟩
    rw [verify, hsaid]
    rfl

/-- A salt of eight bytes and a digest of sixteen are enough, and most of the cost may be left out. -/
theorem verify_verdict_shortest :
    verify "" "$argon2id$v=19$m=8$c29tZXNhbHQ$aGFzaGhhc2hoYXNoaGFzaA" ≠ .error .malformedHash := by
  intro hmalformed
  refine ((verify_verdict _).2.1 "").mp hmalformed
    ⟨⟨[.memory 8], Utf8.ofString "somesalt", Utf8.ofString "hashhashhashhash"⟩, ?_, rfl⟩
  constructor <;> decide

/-! ## Hashes that are made -/

variable {cost : HashCost} {hasher : Hasher} {password : String} {salt : Bytes}
  {r rest : RandomSource}

theorem cost_of_ofCost (h : ofCost cost = .ok hasher) : hasher.cost = cost := by
  unfold ofCost at h
  split at h
  · obtain rfl := Except.ok.inj h
    rfl
  · cases h

theorem hash?_of_draw? (hpassword : password ≠ "") (hdraw : r.draw? saltLength = some (salt, rest)) :
    hasher.hash? password r = some (.ok (hasher.encode password salt).toText, rest) := by
  have hempty : ¬password.isEmpty = true := fun h => hpassword (String.isEmpty_iff.mp h)
  rw [hash?, if_neg hempty, hdraw]
  rfl

/-- A hash that is made states its whole cost and nothing else. -/
theorem toText_encode (hasher : Hasher) (password : String) (salt : Bytes) :
    (hasher.encode password salt).toText
      = (⟨[.memory hasher.cost.memoryKib, .passes hasher.cost.passes, .lanes hasher.cost.lanes],
          salt, hasher.digestOf password salt⟩ : StoredHash).text :=
  StoredHash.toText_encoded ⟨[.memory hasher.cost.memoryKib, .passes hasher.cost.passes,
    .lanes hasher.cost.lanes], salt, hasher.digestOf password salt⟩

/-- **A text that a hasher makes of a password**, under a salt as it is drawn. -/
def Makes (hasher : Hasher) (password text : String) : Prop :=
  ∃ salt : Bytes, salt.length = saltLength ∧ text = (hasher.encode password salt).toText

theorem makes_of_hash? {text : String} (h : hasher.hash? password r = some (.ok text, rest)) :
    password.isEmpty = false ∧ hasher.Makes password text := by
  unfold hash? at h
  split at h
  · cases (Prod.mk.inj (Option.some.inj h)).1
  · obtain ⟨⟨salt, left⟩, hdraw, hmade⟩ := Option.map_eq_some_iff.mp h
    have htext := Except.ok.inj (Prod.mk.inj hmade).1
    exact ⟨Bool.eq_false_iff.mpr ‹_›, salt, RandomSource.length_of_draw? hdraw, htext.symm⟩

/-- What is made says the cost of the hasher. -/
theorem Makes.parse? {text : String} (h : hasher.Makes password text) (hfits : hasher.cost.Fits) :
    ∃ said, Hasher.parse? text = some said ∧ said.cost = hasher.cost := by
  obtain ⟨salt, hsalt, rfl⟩ := h
  exact ⟨_, parse?_encode hfits hsalt, rfl⟩

/-- What is made is never called malformed: a password is the right one or not. -/
theorem Makes.verify {text : String} (h : hasher.Makes password text) (hfits : hasher.cost.Fits)
    (attempt : String) :
    Hasher.verify attempt text = .ok () ∨ Hasher.verify attempt text = .error .mismatch := by
  obtain ⟨salt, hsalt, rfl⟩ := h
  rw [verify_encode hfits hsalt]
  split
  · exact .inl rfl
  · exact .inr rfl

/-- **A hash verifies under every configuration.** Every password but the empty one has a hash under
every cost that can be used and every salt that is drawn. It says the cost, the salt and a digest of 32
bytes, and nothing more. Whatever cost another hasher has, it accepts exactly the passwords that have
this digest under the cost and the salt of the hash, and calls the others a mismatch. -/
theorem hash_verifies (hfits : cost.Fits) (hhasher : ofCost cost = .ok hasher)
    (hpassword : password ≠ "") (hdraw : r.draw? saltLength = some (salt, rest)) :
    ∃ text digest, hasher.hash? password r = some (.ok text, rest)
      ∧ digest = Argon2id.hash (setting cost digestLength []) (Utf8.ofString password) salt
      ∧ text.toList = "$argon2id$v=19$m=".toList ++ Decimal.digits cost.memoryKib
        ++ ",t=".toList ++ Decimal.digits cost.passes
        ++ ",p=".toList ++ Decimal.digits cost.lanes
        ++ '$' :: Base64.encode .standard salt ++ '$' :: Base64.encode .standard digest
      ∧ salt.length = 16 ∧ digest.length = 32
      ∧ parse? text = some ⟨cost, salt, digest, []⟩
      ∧ ∀ (other : HashCost) (pool : HashingPool), ofCost other = .ok pool.hasher →
        0 < pool.free → ∀ attempt, pool.verify? attempt text
          = some (if Argon2id.hash (setting cost digestLength []) (Utf8.ofString attempt) salt = digest
              then .ok () else .error .mismatch, pool) := by
  have hsalt : salt.length = saltLength := RandomSource.length_of_draw? hdraw
  obtain rfl := cost_of_ofCost hhasher
  have htext : (hasher.encode password salt).toText.toList = _ :=
    (congrArg String.toList (toText_encode hasher password salt)).trans
      (String.toList_ofList.trans (StoredHash.chars_of_cost _ _ _ _ _))
  refine ⟨_, hasher.digestOf password salt, hash?_of_draw? hpassword hdraw, rfl, htext, hsalt,
    length_digestOf, parse?_encode hfits hsalt, ?_⟩
  intro other pool _ hfree attempt
  rw [HashingPool.verify?_of_free hfree, verify_encode hfits hsalt]
  rfl

/-- The cheapest hash is checked by a worker that would make expensive ones. -/
theorem hash_verifies_cheapest :
    ∃ text : String, (⟨⟨8, 1, 1⟩, rfl⟩ : Hasher).hash? "p" ⟨.ofSeed 1, none⟩
        = some (.ok text, ⟨(ByteStream.ofSeed 1).drop saltLength, none⟩)
      ∧ (⟨⟨.standard, HashCost.flaw?_standard⟩, 1⟩ : HashingPool).verify? "p" text
        = some (.ok (), ⟨⟨.standard, HashCost.flaw?_standard⟩, 1⟩) := by
  have hfits : (⟨8, 1, 1⟩ : HashCost).Fits := ⟨by decide, by decide⟩
  have hhasher : ofCost ⟨8, 1, 1⟩ = .ok ⟨⟨8, 1, 1⟩, rfl⟩ := rfl
  have hpassword : "p" ≠ "" := by decide
  have hdraw : (⟨.ofSeed 1, none⟩ : RandomSource).draw? saltLength
      = some ((ByteStream.ofSeed 1).take saltLength,
        ⟨(ByteStream.ofSeed 1).drop saltLength, none⟩) := rfl
  obtain ⟨text, digest, hmade, hdigest, -, -, -, -, hverify⟩ :=
    hash_verifies hfits hhasher hpassword hdraw
  refine ⟨text, hmade, ?_⟩
  rw [hverify .standard _ rfl (Nat.zero_lt_succ 0), if_pos hdigest.symm]

end Hasher

end SessionAuth
