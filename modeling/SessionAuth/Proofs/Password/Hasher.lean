import SessionAuth.Password.Hasher
import SessionAuth.Proofs.Password.Encoded

/-!
A hash that was made for a password is understood when a password is checked against it.

What is written into a hash comes back as it was (`parse?_encode`), the cost included. Checking therefore
repeats the computation that was made, under the same salt and the same cost, and comes down to a
comparison of two digests (`verify_encode`). Whether two passwords can have the same digest is a
question about the hash function, to which `Separates` gives a name.
-/

set_option autoImplicit false

namespace SessionAuth

/-! ## Lengths of digests -/

theorem Blake2b.Words8.length_toBytes (h : Words8) : h.toBytes.length = 64 := by
  simp [toBytes]

theorem Blake2b.length_digest {n : Nat} (hn : n ≤ 64) (message : Bytes) :
    (digest n message).length = n := by
  rw [digest, List.length_take, Words8.length_toBytes, Nat.min_eq_left hn]

/-- A short hash is as long as it is asked to be. -/
theorem Argon2id.length_hash {s : Setting} (h : s.outputLength ≤ 64) (password salt : Bytes) :
    (hash s password salt).length = s.outputLength := by
  rw [hash, Blake2b.extended, if_pos h, Blake2b.length_digest h]

/-! ## Costs -/

/-- **The numbers of a cost have 32 bits**, as they have in an encoded hash. -/
structure HashCost.Fits (c : HashCost) : Prop where
  memoryKib : c.memoryKib < 4294967296
  passes : c.passes < 4294967296

/-- **The costs that can be used.** Counting the memory of the lanes in 32 bits makes no difference to
them, as more lanes than the limit are refused in any case. -/
theorem HashCost.flaw?_eq_none_iff {c : HashCost} :
    c.flaw? = none ↔ 8 ≤ c.memoryKib ∧ c.lanes * 8 ≤ c.memoryKib ∧ 1 ≤ c.passes
      ∧ 1 ≤ c.lanes ∧ c.lanes ≤ laneLimit := by
  have hlimit : laneLimit = 16777215 := rfl
  unfold flaw? memoryFor
  constructor
  · intro h
    split at h
    · cases h
    split at h
    · cases h
    split at h
    · cases h
    split at h
    · cases h
    · rename_i hmemory hpasses hlanes hmost
      have hsmall : c.lanes * 8 % 4294967296 = c.lanes * 8 := Nat.mod_eq_of_lt (by omega)
      rw [hsmall] at hmemory
      omega
  · rintro ⟨hleast, hmemory, hpasses, hlanes, hmost⟩
    have hsmall : c.lanes * 8 % 4294967296 = c.lanes * 8 := Nat.mod_eq_of_lt (by omega)
    rw [hsmall, if_neg (by omega), if_neg (by omega), if_neg (by omega), if_neg (by omega)]

/-- The lanes of a cost that can be used are bounded anyway. -/
theorem HashCost.lanes_lt {c : HashCost} (h : c.flaw? = none) : c.lanes < 4294967296 := by
  have hlimit : laneLimit = 16777215 := rfl
  obtain ⟨-, -, -, -, hmost⟩ := flaw?_eq_none_iff.mp h
  omega

theorem Hasher.ofCost_ok_iff {c : HashCost} : (∃ hasher, ofCost c = .ok hasher) ↔ c.flaw? = none := by
  unfold ofCost
  split
  · rename_i h
    exact ⟨fun _ => h, fun _ => ⟨_, rfl⟩⟩
  · rename_i flaw h
    rw [h]
    exact ⟨nofun, nofun⟩

namespace Hasher

open EncodedHash (IsParameter parametersChars)

variable {h : Hasher} {password : String} {salt : Bytes}

/-- The digest of a password in the hashes that are made. -/
def digestOf (h : Hasher) (password : String) (salt : Bytes) : Bytes :=
  Argon2id.hash (setting h.cost digestLength []) (Utf8.ofString password) salt

theorem length_digestOf : (h.digestOf password salt).length = digestLength := by
  refine Argon2id.length_hash ?_ _ _
  show digestLength ≤ 64
  decide

theorem costParameters_isParameter (hfits : h.cost.Fits) :
    ∀ p ∈ costParameters h.cost, IsParameter p := by
  have hvalue : ∀ n < 4294967296, EncodedHash.isValue (Decimal.digits n) = true :=
    fun n hn => EncodedHash.isValue_digits hn
  simp only [costParameters, List.forall_mem_cons]
  exact ⟨⟨rfl, hvalue _ hfits.memoryKib⟩, ⟨rfl, hvalue _ hfits.passes⟩,
    ⟨rfl, hvalue _ (HashCost.lanes_lt h.usable)⟩, nofun⟩

/-- Three numbers of at most ten digits fit into the field of the parameters. -/
theorem costParameters_short (hfits : h.cost.Fits) :
    (Utf8.encode (parametersChars (costParameters h.cost))).length ≤ 127 := by
  have hdigits : ∀ n < 4294967296, (Decimal.digits n).length ≤ 10 :=
    fun n hn => Decimal.length_digits_le (by omega) (by omega)
  have hmemory := hdigits _ hfits.memoryKib
  have hpasses := hdigits _ hfits.passes
  have hlanes := hdigits _ (HashCost.lanes_lt h.usable)
  rw [Utf8.encode_ascii (EncodedHash.parametersChars_ascii (costParameters_isParameter hfits)),
    List.length_map]
  simp only [parametersChars, costParameters, EncodedHash.parameterChars, List.map_cons,
    List.map_nil, List.intercalate, List.intersperse_cons_cons, List.intersperse_singleton,
    List.flatten_cons, List.flatten_nil, List.length_append, List.length_cons, List.length_nil]
  omega

/-- A hash that is made keeps to the bounds. -/
theorem encode_isBounded (hfits : h.cost.Fits) (hsalt : salt.length = saltLength) :
    (h.encode password salt).IsBounded where
  algorithm := rfl
  version := by
    rintro _ ⟨⟩
    decide
  parameters := costParameters_isParameter hfits
  parameters_short := costParameters_short hfits
  salt := by
    rintro _ ⟨⟩
    simp only [EncodedHash.isValue, Bool.and_eq_true, decide_eq_true_eq, List.all_eq_true]
    rw [Base64.length_encode, hsalt]
    exact ⟨by decide, by decide, fun _ => EncodedHash.isValueChar_of_mem_encode⟩
  digest := by
    intro digest hdigest
    obtain rfl : h.digestOf password salt = digest := Option.some.inj hdigest
    rw [length_digestOf]
    decide
  salted := fun _ => rfl

/-- **A hash that is made is understood**: cost, salt and digest come back as they were. -/
theorem parse?_encode (hfits : h.cost.Fits) (hsalt : salt.length = saltLength) :
    parse? (h.encode password salt).toText
      = some ⟨h.cost, salt, h.digestOf password salt, []⟩ := by
  have hnamed : ¬((h.encode password salt).algorithm ≠ algorithmName
      ∨ (h.encode password salt).version ≠ some Argon2id.versionNumber) := by
    rintro (hne | hne) <;> exact hne rfl
  have hlong : ¬(salt.length < leastSalt ∨ (h.digestOf password salt).length < leastDigest) := by
    rw [hsalt, length_digestOf]
    decide
  have hcost : (costParameters h.cost).foldlM takeParameter? (HashCost.unstated, [])
      = some (h.cost, []) := by
    simp [costParameters, takeParameter?, EncodedHash.number?_digits hfits.memoryKib,
      EncodedHash.number?_digits hfits.passes,
      EncodedHash.number?_digits (HashCost.lanes_lt h.usable)]
  have husable : ¬h.cost.flaw?.isSome = true := by
    rw [h.usable]
    exact Bool.false_ne_true
  have hsalted : (h.encode password salt).salt = some (Base64.encode .standard salt) := rfl
  have hdigested : (h.encode password salt).digest = some (h.digestOf password salt) := rfl
  rw [parse?, EncodedHash.parse?_toText (encode_isBounded hfits hsalt) rfl]
  simp only [Option.bind_eq_bind, Option.bind_some, if_neg hnamed, hsalted, hdigested,
    EncodedHash.bytes?_encode, if_neg hlong]
  show Option.bind ((costParameters h.cost).foldlM takeParameter? (HashCost.unstated, [])) _ = _
  rw [hcost]
  simp only [Option.bind_some, if_neg husable]
  rfl

/-- **Checking repeats what was computed**: it comes down to a comparison of two digests. -/
theorem verify_encode (hfits : h.cost.Fits) (hsalt : salt.length = saltLength) (attempt : String) :
    verify attempt (h.encode password salt).toText
      = if h.digestOf attempt salt = h.digestOf password salt then .ok () else .error .mismatch := by
  have hdigest : Parsed.digestOf ⟨h.cost, salt, h.digestOf password salt, []⟩ attempt
      = h.digestOf attempt salt := by
    rw [Parsed.digestOf, length_digestOf]
    rfl
  rw [verify, parse?_encode hfits hsalt]
  show (if Parsed.digestOf _ _ = _ then _ else _) = _
  rw [hdigest]

/-- **Two passwords have different digests**, under every salt that is drawn. -/
def Separates (h : Hasher) (password attempt : String) : Prop :=
  ∀ salt : Bytes, salt.length = saltLength →
    h.digestOf attempt salt = h.digestOf password salt → attempt = password

end Hasher

end SessionAuth
