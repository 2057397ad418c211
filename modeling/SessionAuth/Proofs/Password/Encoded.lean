import SessionAuth.Password.Encoded
import SessionAuth.Proofs.Decimal.Digits
import SessionAuth.Proofs.Encoding.Base64
import SessionAuth.Proofs.Result

/-!
Password hashes are read back as they were written, and nothing else is read.

None of the signs that separate the parts of a hash may stand in a name or a value, and the symbols of
numbers and of Base64 may all stand in a value; so the pieces between the separators are the parts
(`splitAt_intercalate`). In the other direction, the pieces are the whole text (`intercalate_splitAt`),
and each of them is the text of what is read from it. Together: a text is read as a hash with a version
exactly if it is the text of that hash and the parts keep to their bounds (`parse?_eq_some_iff`). Without
a version this is not so, since a single parameter of the name `v` is taken for one.
-/

set_option autoImplicit false

namespace SessionAuth.EncodedHash

/-! ## Pieces -/

section Pieces

variable {separator : Char} {l : List Char}

theorem splitAt_of_notMem (h : separator ∉ l) : splitAt separator l = [l] := by
  induction l with
  | nil => rfl
  | cons c rest ih =>
    rw [List.mem_cons, not_or] at h
    rw [splitAt, if_neg (Ne.symm h.1), ih h.2]

theorem splitAt_append (h : separator ∉ l) (rest : List Char) :
    splitAt separator (l ++ separator :: rest) = l :: splitAt separator rest := by
  induction l with
  | nil => rw [List.nil_append, splitAt, if_pos rfl]
  | cons c l ih =>
    rw [List.mem_cons, not_or] at h
    rw [List.cons_append, splitAt, if_neg (Ne.symm h.1), ih h.2]

/-- **Texts with a separator between them are taken apart again**, if it is in none of them. -/
theorem splitAt_intercalate {pieces : List (List Char)} (hne : pieces ≠ [])
    (h : ∀ piece ∈ pieces, separator ∉ piece) :
    splitAt separator (List.intercalate [separator] pieces) = pieces := by
  induction pieces with
  | nil => exact absurd rfl hne
  | cons piece rest ih =>
    obtain ⟨hpiece, hrest⟩ := List.forall_mem_cons.mp h
    cases rest with
    | nil =>
      show splitAt separator (piece ++ []) = _
      rw [List.append_nil, splitAt_of_notMem hpiece]
    | cons next rest =>
      show splitAt separator (piece ++ separator :: List.intercalate [separator] (next :: rest)) = _
      rw [splitAt_append hpiece, ih (List.cons_ne_nil _ _) hrest]

theorem intercalate_cons_piece (c : Char) (piece : List Char) (pieces : List (List Char)) :
    List.intercalate [separator] ((c :: piece) :: pieces)
      = c :: List.intercalate [separator] (piece :: pieces) := by
  cases pieces <;> rfl

theorem splitAt_ne_nil : splitAt separator l ≠ [] := by
  cases l with
  | nil => exact List.cons_ne_nil _ _
  | cons c rest =>
    unfold splitAt
    split
    · exact List.cons_ne_nil _ _
    · split <;> exact List.cons_ne_nil _ _

/-- **A text is its pieces with the separator between them.** -/
theorem intercalate_splitAt (separator : Char) (l : List Char) :
    List.intercalate [separator] (splitAt separator l) = l := by
  induction l with
  | nil => rfl
  | cons c rest ih =>
    have hne : splitAt separator rest ≠ [] := splitAt_ne_nil
    obtain ⟨piece, pieces, hsplit⟩ := List.exists_cons_of_ne_nil hne
    rw [hsplit] at ih
    rw [splitAt, hsplit]
    split
    · rename_i hc
      show [] ++ separator :: List.intercalate [separator] (piece :: pieces) = c :: rest
      rw [ih, hc, List.nil_append]
    · show List.intercalate [separator] ((c :: piece) :: pieces) = c :: rest
      rw [intercalate_cons_piece, ih]

end Pieces

/-! ## Names, values and numbers -/

theorem isValueChar_separators {c : Char} (h : isValueChar c = true) :
    c ≠ '$' ∧ c ≠ ',' ∧ c ≠ '=' := by
  refine ⟨?_, ?_, ?_⟩ <;> rintro rfl <;> revert h <;> decide

theorem isValueChar_ascii {c : Char} (h : isValueChar c = true) : c.toNat < 0x80 := by
  simp only [isValueChar, isNameChar, Decimal.isDigit, Decimal.value?, Bool.or_eq_true,
    Bool.and_eq_true, decide_eq_true_eq, beq_iff_eq] at h
  rcases h with (((((h | h) | rfl) | h) | rfl) | rfl) | rfl
  · omega
  · split at h
    · omega
    · cases h
  · decide
  · omega
  · decide
  · decide
  · decide

theorem isValueChar_of_isNameChar {c : Char} (h : isNameChar c = true) : isValueChar c = true := by
  simp [isValueChar, h]

theorem isValueChar_of_mem {l : List Char} (h : isValue l = true) :
    ∀ c ∈ l, isValueChar c = true := by
  simp only [isValue, Bool.and_eq_true, List.all_eq_true] at h
  exact h.2

theorem isValueChar_of_mem_name {l : List Char} (h : isName l = true) :
    ∀ c ∈ l, isValueChar c = true := by
  simp only [isName, Bool.and_eq_true, List.all_eq_true] at h
  exact fun c hc => isValueChar_of_isNameChar (h.2 c hc)

/-- A number of 32 bits is a value. -/
theorem isValue_digits {n : Nat} (h : n < 4294967296) : isValue (Decimal.digits n) = true := by
  simp only [isValue, Bool.and_eq_true, decide_eq_true_eq, List.all_eq_true]
  constructor
  · have hlength : (Decimal.digits n).length ≤ 10 := Decimal.length_digits_le (by omega) (by omega)
    omega
  · intro c hc
    obtain ⟨d, hd, rfl⟩ := Decimal.mem_digits hc
    have hall : ∀ d < 10, isValueChar (Decimal.digit d) = true := by decide
    exact hall d hd

/-- A number of 32 bits reads back. -/
theorem number?_digits {n : Nat} (h : n < 4294967296) : number? (Decimal.digits n) = some n := by
  have hzero : ¬((Decimal.digits n).head? = some '0' ∧ 1 < (Decimal.digits n).length) := by
    obtain ⟨ds, hds, hspells⟩ := Decimal.digits_spells n
    obtain ⟨d, rest, rfl, hd⟩ := hspells.head
    rw [hds]
    rintro ⟨hhead, hlength⟩
    have hdigit : ∀ d < 10, Decimal.digit d = '0' → d = 0 := by decide
    have hrest := (hd (hdigit d (hspells.lt_ten d List.mem_cons_self) (by simpa using hhead))).1
    rw [hrest] at hlength
    exact absurd hlength (by simp)
  rw [number?, if_neg hzero, Decimal.readBelow?, Decimal.read?_digits]
  simp [h]

/-- A number is read from its digits only. -/
theorem eq_digits_of_number? {l : List Char} {n : Nat} (h : number? l = some n) :
    l = Decimal.digits n ∧ n < 4294967296 := by
  unfold number? at h
  split at h
  · cases h
  · rename_i hzero
    obtain ⟨hread, hlt⟩ := Option.filter_eq_some_iff.mp h
    exact ⟨Decimal.eq_digits hzero hread, of_decide_eq_true hlt⟩

/-- Every symbol of standard Base64 may stand in a value. -/
theorem isValueChar_of_mem_encode {b : Bytes} {c : Char} (h : c ∈ Base64.encode .standard b) :
    isValueChar c = true := by
  obtain ⟨n, hn, rfl⟩ := Base64.mem_encode h
  have hall : ∀ n < 64, isValueChar (Base64.Alphabet.symbol .standard n) = true := by decide
  exact hall n hn

theorem bytes?_encode (b : Bytes) : bytes? (Base64.encode .standard b) = some b := by
  rw [bytes?, Base64.decode?, Base64.decode_encode]
  rfl

/-- Bytes are read from their text only. -/
theorem eq_encode_of_bytes? {l : List Char} {b : Bytes} (h : bytes? l = some b) :
    l = Base64.encode .standard b := by
  have hdecoded : Base64.decode .standard (Utf8.encode l) = .ok b := toOption_eq_some_iff.mp h
  have hsymbols := Base64.decode_eq_ok_iff.mp hdecoded
  rw [← Base64.utf8_encode] at hsymbols
  exact Utf8.encode_injective hsymbols

/-! ## Parameters -/

/-- A parameter that can be written: a name and a value. -/
def IsParameter (p : List Char × List Char) : Prop := isName p.1 = true ∧ isValue p.2 = true

/-- A parameter holds one separator of its own. -/
theorem mem_parameterChars {p : List Char × List Char} (h : IsParameter p) {c : Char}
    (hc : c ∈ parameterChars p) : c = '=' ∨ isValueChar c = true := by
  rcases List.mem_append.mp hc with hc | hc
  · exact Or.inr (isValueChar_of_mem_name h.1 c hc)
  rcases List.mem_cons.mp hc with hc | hc
  · exact Or.inl hc
  · exact Or.inr (isValueChar_of_mem h.2 c hc)

/-- A parameter holds none of the separators around it. -/
theorem parameterChars_separators {p : List Char × List Char} (h : IsParameter p) :
    '$' ∉ parameterChars p ∧ ',' ∉ parameterChars p := by
  refine ⟨fun hc => ?_, fun hc => ?_⟩
  · rcases mem_parameterChars h hc with heq | hvalue
    · exact absurd heq (by decide)
    · exact (isValueChar_separators hvalue).1 rfl
  · rcases mem_parameterChars h hc with heq | hvalue
    · exact absurd heq (by decide)
    · exact (isValueChar_separators hvalue).2.1 rfl

theorem parameter?_parameterChars {p : List Char × List Char} (h : IsParameter p) :
    parameter? (parameterChars p) = some p := by
  have hname : '=' ∉ p.1 := fun hc =>
    (isValueChar_separators (isValueChar_of_mem_name h.1 _ hc)).2.2 rfl
  have hvalue : '=' ∉ p.2 := fun hc =>
    (isValueChar_separators (isValueChar_of_mem h.2 _ hc)).2.2 rfl
  rw [parameter?, parameterChars, splitAt_append hname, splitAt_of_notMem hvalue]
  simp [h.1, h.2]

theorem mapM_parameter? {ps : List (List Char × List Char)} (h : ∀ p ∈ ps, IsParameter p) :
    (ps.map parameterChars).mapM parameter? = some ps := by
  induction ps with
  | nil => rfl
  | cons p ps ih =>
    obtain ⟨hp, hps⟩ := List.forall_mem_cons.mp h
    rw [List.map_cons, List.mapM_cons, parameter?_parameterChars hp, ih hps]
    rfl

/-- The field of some parameters. -/
def parametersChars (ps : List (List Char × List Char)) : List Char :=
  List.intercalate [','] (ps.map parameterChars)

/-- Every character of a field is one of a parameter, or a comma between two of them. -/
theorem mem_parametersChars {ps : List (List Char × List Char)} {c : Char}
    (h : c ∈ parametersChars ps) : c = ',' ∨ ∃ p ∈ ps, c ∈ parameterChars p := by
  induction ps with
  | nil => cases h
  | cons p ps ih =>
    cases ps with
    | nil =>
      have hc : c ∈ parameterChars p ++ [] := h
      rw [List.append_nil] at hc
      exact Or.inr ⟨p, List.mem_cons_self, hc⟩
    | cons q ps =>
      have hc : c ∈ parameterChars p ++ ',' :: parametersChars (q :: ps) := h
      rcases List.mem_append.mp hc with hc | hc
      · exact Or.inr ⟨p, List.mem_cons_self, hc⟩
      rcases List.mem_cons.mp hc with hc | hc
      · exact Or.inl hc
      rcases ih hc with hc | ⟨p', hp', hc⟩
      · exact Or.inl hc
      · exact Or.inr ⟨p', List.mem_cons_of_mem _ hp', hc⟩

theorem dollar_notMem_parametersChars {ps : List (List Char × List Char)}
    (h : ∀ p ∈ ps, IsParameter p) : '$' ∉ parametersChars ps := by
  intro hc
  rcases mem_parametersChars hc with heq | ⟨p, hp, hmem⟩
  · exact absurd heq (by decide)
  · exact (parameterChars_separators (h p hp)).1 hmem

theorem parametersChars_ascii {ps : List (List Char × List Char)}
    (h : ∀ p ∈ ps, IsParameter p) : ∀ c ∈ parametersChars ps, c.toNat < 0x80 := by
  intro c hc
  rcases mem_parametersChars hc with rfl | ⟨p, hp, hmem⟩
  · decide
  rcases mem_parameterChars (h p hp) hmem with rfl | hvalue
  · decide
  · exact isValueChar_ascii hvalue

theorem parameters?_parametersChars {ps : List (List Char × List Char)} (hne : ps ≠ [])
    (h : ∀ p ∈ ps, IsParameter p) (hshort : (Utf8.encode (parametersChars ps)).length ≤ 127) :
    parameters? (parametersChars ps) = some ps := by
  have hcomma : ∀ piece ∈ ps.map parameterChars, ',' ∉ piece := by
    intro piece hpiece
    obtain ⟨p, hp, rfl⟩ := List.mem_map.mp hpiece
    exact (parameterChars_separators (h p hp)).2
  rw [parameters?, if_pos hshort, parametersChars,
    splitAt_intercalate (fun hnil => hne (List.map_eq_nil_iff.mp hnil)) hcomma,
    mapM_parameter? h]

theorem contains_parametersChars {ps : List (List Char × List Char)} (hne : ps ≠ []) :
    (parametersChars ps).contains '=' = true := by
  cases ps with
  | nil => exact absurd rfl hne
  | cons p ps => cases ps <;> simp [parametersChars, parameterChars, List.intercalate]

/-! ### What is read of parameters -/

theorem parameter?_eq_some {l : List Char} {p : List Char × List Char}
    (h : parameter? l = some p) : IsParameter p ∧ l = parameterChars p := by
  unfold parameter? at h
  split at h
  · rename_i name value hsplit
    split at h
    · rename_i hboth
      obtain rfl := Option.some.inj h
      have hl := intercalate_splitAt '=' l
      rw [hsplit] at hl
      rw [Bool.and_eq_true] at hboth
      refine ⟨hboth, hl.symm.trans ?_⟩
      show name ++ '=' :: (value ++ []) = name ++ '=' :: value
      rw [List.append_nil]
    · cases h
  · cases h

theorem mapM_parameter?_eq_some {pieces : List (List Char)} {ps : List (List Char × List Char)}
    (h : pieces.mapM parameter? = some ps) :
    (∀ p ∈ ps, IsParameter p) ∧ pieces = ps.map parameterChars := by
  induction pieces generalizing ps with
  | nil =>
    obtain rfl := Option.some.inj h
    exact ⟨nofun, rfl⟩
  | cons piece pieces ih =>
    rw [List.mapM_cons] at h
    obtain ⟨p, hp, h⟩ := Option.bind_eq_some_iff.mp h
    obtain ⟨rest, hrest, h⟩ := Option.bind_eq_some_iff.mp h
    obtain rfl := Option.some.inj h
    obtain ⟨hparameter, rfl⟩ := parameter?_eq_some hp
    obtain ⟨hall, rfl⟩ := ih hrest
    exact ⟨List.forall_mem_cons.mpr ⟨hparameter, hall⟩, rfl⟩

theorem parameters?_eq_some {l : List Char} {ps : List (List Char × List Char)}
    (h : parameters? l = some ps) :
    ps ≠ [] ∧ (∀ p ∈ ps, IsParameter p) ∧ (Utf8.encode (parametersChars ps)).length ≤ 127
      ∧ l = parametersChars ps := by
  unfold parameters? at h
  split at h
  · rename_i hshort
    obtain ⟨hall, hpieces⟩ := mapM_parameter?_eq_some h
    have hl : parametersChars ps = l := by
      rw [parametersChars, ← hpieces, intercalate_splitAt]
    refine ⟨?_, hall, hl ▸ hshort, hl.symm⟩
    rintro rfl
    exact splitAt_ne_nil hpieces
  · cases h

/-! ## The whole -/

/-- **The parts of a hash keep to their bounds.** There is no digest without a salt. -/
structure IsBounded (e : EncodedHash) : Prop where
  algorithm : isName e.algorithm = true
  version : ∀ v ∈ e.version, v < 4294967296
  parameters : ∀ p ∈ e.parameters, IsParameter p
  parameters_short : (Utf8.encode (parametersChars e.parameters)).length ≤ 127
  salt : ∀ salt ∈ e.salt, 4 ≤ salt.length ∧ isValue salt = true
  digest : ∀ digest ∈ e.digest, 10 ≤ digest.length ∧ digest.length ≤ 64
  salted : e.digest.isSome → e.salt.isSome

/-- The field of a version. -/
def versionField (v : Nat) : List Char := 'v' :: '=' :: Decimal.digits v

/-- The field of the parameters, if there are any. -/
def parameterFields (ps : List (List Char × List Char)) : List (List Char) :=
  if ps.isEmpty then [] else [parametersChars ps]

/-- The fields of the salt and of the digest, as far as they are there. -/
def lastFields (e : EncodedHash) : List (List Char) :=
  e.salt.toList ++ e.digest.toList.map (Base64.encode .standard)

/-- The fields of a hash, as they are written. The first one is empty. -/
def fields (e : EncodedHash) : List (List Char) :=
  [] :: e.algorithm :: (e.version.toList.map versionField
    ++ (parameterFields e.parameters ++ e.lastFields))

variable {e : EncodedHash}

theorem toChars_eq (e : EncodedHash) : e.toChars = List.intercalate ['$'] e.fields := by
  obtain ⟨algorithm, _ | version, _ | ⟨p, ps⟩, _ | salt, _ | digest⟩ := e <;>
    simp [toChars, fields, lastFields, versionField, parameterFields, parametersChars,
      List.intercalate]

/-- No field holds the sign between them. -/
theorem IsBounded.dollar_notMem (h : e.IsBounded) : ∀ field ∈ e.fields, '$' ∉ field := by
  have hvalue : ∀ l : List Char, (∀ c ∈ l, isValueChar c = true) → '$' ∉ l :=
    fun l hl hc => (isValueChar_separators (hl _ hc)).1 rfl
  have hparameters : ∀ field ∈ parameterFields e.parameters, '$' ∉ field := by
    unfold parameterFields
    split
    · exact nofun
    · intro field hfield
      rw [List.mem_singleton.mp hfield]
      exact dollar_notMem_parametersChars h.parameters
  have hlast : ∀ field ∈ e.lastFields, '$' ∉ field := by
    intro field hfield
    rcases List.mem_append.mp hfield with hsalt | hdigest
    · exact hvalue _ (isValueChar_of_mem (h.salt field (Option.mem_toList.mp hsalt)).2)
    · obtain ⟨digest, -, rfl⟩ := List.mem_map.mp hdigest
      exact hvalue _ fun _ => isValueChar_of_mem_encode
  simp only [fields, List.forall_mem_cons, List.forall_mem_append, List.forall_mem_map]
  refine ⟨List.not_mem_nil, hvalue _ (isValueChar_of_mem_name h.algorithm), ?_, hparameters,
    hlast⟩
  intro v hv
  have hdigits := hvalue _ (isValueChar_of_mem (isValue_digits
    (h.version v (Option.mem_toList.mp hv))))
  simpa [versionField] using hdigits

theorem takeVersion?_digits {version : Nat} {fields : List (List Char)}
    (h : version < 4294967296) :
    takeVersion? (versionField version :: fields) = some (some version, fields) := by
  have hcomma : ',' ∉ Decimal.digits version := fun hc =>
    (isValueChar_separators (isValueChar_of_mem (isValue_digits h) _ hc)).2.1 rfl
  have hfield : (versionField version).take 2 = ['v', '=']
      ∧ (!(versionField version).contains ',') = true := by
    refine ⟨rfl, ?_⟩
    simpa [versionField] using hcomma
  rw [takeVersion?, if_pos hfield]
  show (if isValue (Decimal.digits version) = true then _ else _) = _
  rw [if_pos (isValue_digits h)]
  show (number? (Decimal.digits version)).map _ = _
  rw [number?_digits h]
  rfl

/-- The parameters are taken from their field, and none are taken where there is none: a salt is not
taken for parameters. -/
theorem IsBounded.takeParameters? (h : e.IsBounded) :
    takeParameters? (parameterFields e.parameters ++ e.lastFields)
      = some (e.parameters, e.lastFields) := by
  unfold parameterFields
  cases hempty : e.parameters.isEmpty with
  | false =>
    have hne : e.parameters ≠ [] := List.isEmpty_eq_false_iff.mp hempty
    rw [if_neg Bool.false_ne_true, List.singleton_append, EncodedHash.takeParameters?,
      if_pos (contains_parametersChars hne),
      parameters?_parametersChars hne h.parameters h.parameters_short]
    rfl
  | true =>
    rw [if_pos rfl, List.nil_append, List.isEmpty_iff.mp hempty]
    unfold lastFields
    cases hsalt : e.salt with
    | none =>
      have hdigest : e.digest = none := by
        have hsalted := h.salted
        rw [hsalt] at hsalted
        exact Option.not_isSome_iff_eq_none.mp fun hd => nomatch hsalted hd
      rw [hdigest]
      rfl
    | some salt =>
      have hplain : ¬salt.contains '=' = true := by
        rw [List.contains_iff_mem]
        exact fun hc => (isValueChar_separators
          (isValueChar_of_mem (h.salt salt hsalt).2 _ hc)).2.2 rfl
      show EncodedHash.takeParameters? (salt :: _) = _
      rw [EncodedHash.takeParameters?, if_neg hplain]
      rfl

/-- **A hash with a version is read back as it was written.** -/
theorem parse?_toText (h : e.IsBounded) (hversion : e.version.isSome) :
    parse? e.toText = some e := by
  obtain ⟨version, hv⟩ := Option.isSome_iff_exists.mp hversion
  have hfields : splitAt '$' e.toText.toList = e.fields := by
    rw [toText, String.toList_ofList, toChars_eq]
    exact splitAt_intercalate (List.cons_ne_nil _ _) h.dollar_notMem
  have hparameters := h.takeParameters?
  rw [parse?, hfields, fields, hv]
  simp only [h.algorithm, Bool.not_true, Bool.false_eq_true, if_false, Option.toList_some,
    List.map_cons, List.map_nil, List.singleton_append, takeVersion?_digits (h.version version hv),
    Option.bind_eq_bind, Option.bind_some, hparameters]
  unfold lastFields
  obtain ⟨algorithm, _, parameters, _ | salt, _ | digest⟩ := e
  · obtain rfl : _ = some version := hv
    rfl
  · cases h.salted rfl
  · obtain rfl : _ = some version := hv
    have hsalt : salt? salt = some salt := by
      simp [salt?, h.salt salt rfl]
    simp [hsalt]
  · obtain rfl : _ = some version := hv
    have hsalt : salt? salt = some salt := by
      simp [salt?, h.salt salt rfl]
    have hdigest : digest? (Base64.encode .standard digest) = some digest := by
      rw [digest?, bytes?_encode]
      simp [h.digest digest rfl]
    simp [hsalt, hdigest]

/-! ## What is read -/

theorem takeVersion?_eq_some {l rest : List (List Char)} {version : Option Nat}
    (h : takeVersion? l = some (version, rest)) :
    l = version.toList.map versionField ++ rest ∧ ∀ v ∈ version, v < 4294967296 := by
  unfold takeVersion? at h
  split at h
  · obtain ⟨rfl, rfl⟩ := Prod.mk.inj (Option.some.inj h)
    exact ⟨rfl, nofun⟩
  rename_i field fields
  split at h
  · rename_i hfield
    dsimp only at h
    split at h
    · obtain ⟨n, hn, heq⟩ := Option.map_eq_some_iff.mp h
      obtain ⟨rfl, rfl⟩ := Prod.mk.inj heq
      obtain ⟨hdigits, hlt⟩ := eq_digits_of_number? hn
      have hwhole : field = versionField n := by
        rw [versionField, ← hdigits, ← List.take_append_drop 2 field, hfield.1]
        rfl
      refine ⟨by rw [hwhole]; rfl, ?_⟩
      rintro _ ⟨⟩
      exact hlt
    · cases h
  · obtain ⟨rfl, rfl⟩ := Prod.mk.inj (Option.some.inj h)
    exact ⟨rfl, nofun⟩

theorem takeParameters?_eq_some {l rest : List (List Char)} {ps : List (List Char × List Char)}
    (h : takeParameters? l = some (ps, rest)) :
    l = parameterFields ps ++ rest ∧ (∀ p ∈ ps, IsParameter p)
      ∧ (Utf8.encode (parametersChars ps)).length ≤ 127 := by
  have hnone : (Utf8.encode (parametersChars [])).length ≤ 127 := Nat.zero_le _
  unfold takeParameters? at h
  split at h
  · obtain ⟨rfl, rfl⟩ := Prod.mk.inj (Option.some.inj h)
    exact ⟨rfl, nofun, hnone⟩
  split at h
  · obtain ⟨qs, hqs, heq⟩ := Option.map_eq_some_iff.mp h
    obtain ⟨rfl, rfl⟩ := Prod.mk.inj heq
    obtain ⟨hne, hall, hshort, rfl⟩ := parameters?_eq_some hqs
    refine ⟨?_, hall, hshort⟩
    rw [parameterFields, List.isEmpty_eq_false_iff.mpr hne]
    rfl
  · obtain ⟨rfl, rfl⟩ := Prod.mk.inj (Option.some.inj h)
    exact ⟨rfl, nofun, hnone⟩

theorem salt?_eq_some {l salt : List Char} (h : salt? l = some salt) :
    l = salt ∧ 4 ≤ salt.length ∧ isValue salt = true := by
  unfold salt? at h
  split at h
  · rename_i hsalt
    rw [Bool.and_eq_true, decide_eq_true_eq] at hsalt
    obtain rfl := Option.some.inj h
    exact ⟨rfl, hsalt⟩
  · cases h

theorem digest?_eq_some {l : List Char} {digest : Bytes} (h : digest? l = some digest) :
    l = Base64.encode .standard digest ∧ 10 ≤ digest.length ∧ digest.length ≤ 64 := by
  obtain ⟨hbytes, hlength⟩ := Option.filter_eq_some_iff.mp h
  rw [Bool.and_eq_true, decide_eq_true_eq, decide_eq_true_eq] at hlength
  exact ⟨eq_encode_of_bytes? hbytes, hlength⟩

/-- **Whatever is read is the text of what is read from it.** -/
theorem eq_toText_of_parse? {s : String} (h : parse? s = some e) : e.IsBounded ∧ s = e.toText := by
  suffices hfields : e.IsBounded ∧ splitAt '$' s.toList = e.fields by
    refine ⟨hfields.1, ?_⟩
    rw [toText, toChars_eq, ← hfields.2, intercalate_splitAt, String.ofList_toList]
  unfold parse? at h
  split at h
  · rename_i algorithm fields hsplit
    split at h
    · cases h
    rename_i hname
    obtain ⟨⟨version, rest⟩, hversion, h⟩ := Option.bind_eq_some_iff.mp h
    obtain ⟨⟨parameters, last⟩, hparameters, h⟩ := Option.bind_eq_some_iff.mp h
    obtain ⟨hfields, hsmall⟩ := takeVersion?_eq_some hversion
    obtain ⟨hrest, hall, hshort⟩ := takeParameters?_eq_some hparameters
    have halgorithm : isName algorithm = true := by simpa using hname
    rw [hsplit, hfields, hrest]
    dsimp only at h
    split at h
    · obtain rfl := Option.some.inj h
      exact ⟨⟨halgorithm, hsmall, hall, hshort, nofun, nofun, nofun⟩, rfl⟩
    · obtain ⟨salt, hsalt, h⟩ := Option.bind_eq_some_iff.mp h
      obtain rfl := Option.some.inj h
      obtain ⟨rfl, hvalue⟩ := salt?_eq_some hsalt
      refine ⟨⟨halgorithm, hsmall, hall, hshort, ?_, nofun, nofun⟩, rfl⟩
      rintro _ ⟨⟩
      exact hvalue
    · obtain ⟨salt, hsalt, h⟩ := Option.bind_eq_some_iff.mp h
      obtain ⟨digest, hdigest, h⟩ := Option.bind_eq_some_iff.mp h
      obtain rfl := Option.some.inj h
      obtain ⟨rfl, hvalue⟩ := salt?_eq_some hsalt
      obtain ⟨rfl, hlength⟩ := digest?_eq_some hdigest
      refine ⟨⟨halgorithm, hsmall, hall, hshort, ?_, ?_, fun _ => rfl⟩, rfl⟩
      · rintro _ ⟨⟩
        exact hvalue
      · rintro _ ⟨⟩
        exact hlength
    · cases h
  · cases h

/-- **A text is read as a hash with a version exactly if it is the text of that hash**, and the hash
keeps to the bounds. -/
theorem parse?_eq_some_iff {s : String} (hversion : e.version.isSome) :
    parse? s = some e ↔ e.IsBounded ∧ s = e.toText := by
  constructor
  · exact eq_toText_of_parse?
  · rintro ⟨hbounded, rfl⟩
    exact parse?_toText hbounded hversion

end SessionAuth.EncodedHash
