import SessionAuth.Json.Record
import SessionAuth.Proofs.Json.Number
import SessionAuth.Proofs.Json.Text
import SessionAuth.Proofs.Result

/-!
Records of texts and whole numbers read back from the objects that are written for them.
-/

set_option autoImplicit false

namespace SessionAuth.Json

variable {rest : Bytes} {s : String} {i : Int}

/-! ## Single values -/

theorem skipSpace_cons {x : UInt8} {b : Bytes} (h : isSpace x = false) :
    skipSpace (x :: b) = x :: b := by
  unfold skipSpace
  rw [List.dropWhile_cons_of_neg]
  rw [h]
  exact Bool.false_ne_true

/-- The bytes of text between quotes. -/
def textBytes (s : String) : Bytes := byte '"' :: quotedTail s

theorem skipSpace_textBytes : skipSpace (textBytes s ++ rest) = byte '"' :: (quotedTail s ++ rest) :=
  skipSpace_cons rfl

theorem readText_textBytes : readText (textBytes s ++ rest) = .ok (s, rest) := by
  unfold readText
  rw [skipSpace_textBytes]
  exact readTextTail_quotedTail s

theorem readValueWith_textBytes {list object : UInt8 → Reader Value} :
    readValueWith list object (textBytes s ++ rest) = .ok (.text s, rest) := by
  unfold readValueWith
  rw [skipSpace_textBytes]
  show (readTextTail (quotedTail s ++ rest)).map _ = _
  rw [readTextTail_quotedTail]
  rfl

theorem skipValue_textBytes : skipValue (textBytes s ++ rest) = .ok rest := by
  unfold skipValue
  rw [skipWithin.eq_def]
  simp only [skipSpace_textBytes]
  show (skipText (quotedTail s ++ rest) >>= _) = _
  rw [skipText_quotedTail]
  rfl

/-- A digit opens nothing but a number. -/
theorem digitByte_opens {d : Nat} (h : d < 10) :
    isSpace (digitByte d) = false ∧ digitByte d ≠ byte 'n' ∧ digitByte d ≠ byte 't'
      ∧ digitByte d ≠ byte 'f' ∧ digitByte d ≠ byte '-' ∧ isDigit (digitByte d) = true := by
  revert d
  decide

section Numbers

variable (hi : Decimal.isSignedWord i = true) (hrest : EndsNumber rest)

include hi hrest

theorem readInt64_intBytes : readInt64 (intBytes i ++ rest) = .ok (i, rest) := by
  have hword : toInt64 (.int i) rest = .ok (i, rest) := by
    unfold Decimal.isSignedWord at hi
    rw [decide_eq_true_eq] at hi
    show (if i ≤ 9223372036854775807 then _ else _) = _
    rw [if_pos hi.2]
  unfold readInt64
  rcases intBytes_cases hi hrest with ⟨tail, hbytes, hread, -⟩ | ⟨d, hd, tail, hbytes, hread, -⟩
  · rw [hbytes, skipSpace_cons rfl]
    show (readNumber true tail >>= _) = _
    rw [hread]
    exact hword
  · obtain ⟨hspace, -, -, -, hminus, hdigit⟩ := digitByte_opens hd
    rw [hbytes, skipSpace_cons hspace]
    simp only [hminus, hdigit, if_false, if_true, hread]
    exact hword

theorem readValueWith_intBytes {list object : UInt8 → Reader Value} :
    readValueWith list object (intBytes i ++ rest) = .ok (.number (.int i), rest) := by
  unfold readValueWith
  rcases intBytes_cases hi hrest with ⟨tail, hbytes, hread, -⟩ | ⟨d, hd, tail, hbytes, hread, -⟩
  · rw [hbytes, skipSpace_cons rfl]
    show (readNumber true tail).map _ = _
    rw [hread]
    rfl
  · obtain ⟨hspace, hn, ht, hf, hminus, hdigit⟩ := digitByte_opens hd
    rw [hbytes, skipSpace_cons hspace]
    simp only [hn, ht, hf, hminus, hdigit, if_false, if_true, hread]
    rfl

theorem skipValue_intBytes : skipValue (intBytes i ++ rest) = .ok rest := by
  unfold skipValue
  rw [skipWithin.eq_def]
  rcases intBytes_cases hi hrest with ⟨tail, hbytes, -, hskip⟩ | ⟨d, hd, tail, hbytes, -, hskip⟩
  · rw [hbytes]
    simp only [skipSpace_cons (b := tail) (show isSpace (byte '-') = false from rfl)]
    show (skipNumber tail >>= _) = _
    rw [hskip]
    rfl
  · obtain ⟨hspace, hn, ht, hf, hminus, hdigit⟩ := digitByte_opens hd
    rw [hbytes]
    simp only [skipSpace_cons hspace, hn, ht, hf, hminus, hdigit, if_false, if_true, hskip]
    rfl

end Numbers

/-! ## Members -/

/-- The bytes of members, with a comma before each that is not the first one. -/
def memberBytes : Bool → List (String × Value) → Bytes
  | _, [] => []
  | first, (k, v) :: members =>
    (if first then [] else [byte ',']) ++ (textBytes k ++ byte ':' :: (Utf8.encode v.toChars
      ++ memberBytes false members))

theorem encode_memberChars (members : List (String × Value)) :
    Utf8.encode (Value.memberChars members) = memberBytes true members := by
  induction members with
  | nil => rfl
  | cons m members ih =>
    obtain ⟨k, v⟩ := m
    cases members with
    | nil =>
      rw [Value.memberChars, Utf8.encode_append, encode_quote, Utf8.encode_cons, memberBytes]
      show textBytes k ++ byte ':' :: Utf8.encode v.toChars = textBytes k ++ byte ':' :: _
      rw [memberBytes, List.append_nil]
    | cons m' members =>
      rw [Value.memberChars, List.append_assoc, Utf8.encode_append, encode_quote, List.cons_append,
        List.cons_append, Utf8.encode_cons, Utf8.encode_append, Utf8.encode_cons, ih]
      rfl

theorem encode_object (members : List (String × Value)) :
    Utf8.encode (Value.object members).toChars
      = byte '\x7b' :: (memberBytes true members ++ [byte '\x7d']) := by
  rw [Value.toChars, List.cons_append, Utf8.encode_cons, Utf8.encode_append, encode_memberChars]
  rfl

theorem length_le_memberBytes (first : Bool) (members : List (String × Value)) :
    members.length ≤ (memberBytes first members).length := by
  induction members generalizing first with
  | nil => exact Nat.zero_le _
  | cons m members ih =>
    have h := ih false
    rw [memberBytes]
    simp only [List.length_append, List.length_cons]
    omega

section Members

variable {σ α : Type} {fields : List (Field σ)} {draft draft' : σ}

/-- **A member and what it does to a draft.** One of an unknown name is passed over, and one of a field
that is still missing is read into the draft. -/
inductive Taken (fields : List (Field σ)) : String × Value → σ → σ → Prop where
  | passed {k : String} {v : Value} {draft : σ} (hfield : fields.find? (·.name == k) = none)
      (hskip : ∀ rest, EndsNumber rest → skipValue (Utf8.encode v.toChars ++ rest) = .ok rest) :
      Taken fields (k, v) draft draft
  | read {k : String} {v : Value} {draft draft' : σ} {field : Field σ}
      (hfield : fields.find? (·.name == k) = some field) (hfilled : field.filled draft = false)
      (hread : ∀ rest, EndsNumber rest →
        field.read draft (Utf8.encode v.toChars ++ rest) = .ok (draft', rest)) :
      Taken fields (k, v) draft draft'

/-- Members one after the other. -/
inductive TakenAll (fields : List (Field σ)) : List (String × Value) → σ → σ → Prop where
  | nil {draft : σ} : TakenAll fields [] draft draft
  | cons {m : String × Value} {members : List (String × Value)} {draft draft' draft'' : σ}
      (h : Taken fields m draft draft') (hs : TakenAll fields members draft' draft'') :
      TakenAll fields (m :: members) draft draft''

theorem endsNumber_memberBytes (members : List (String × Value)) (rest : Bytes) :
    EndsNumber (memberBytes false members ++ byte '\x7d' :: rest) := by
  have hcomma : isDigit (byte ',') = false ∧ byte ',' ≠ byte '.' ∧ isExponentMark (byte ',') = false :=
    by decide
  have hbrace : isDigit (byte '\x7d') = false ∧ byte '\x7d' ≠ byte '.'
      ∧ isExponentMark (byte '\x7d') = false := by decide
  intro x hx
  cases members with
  | nil =>
    obtain rfl := Option.some.inj hx
    exact hbrace
  | cons m members =>
    obtain rfl := Option.some.inj hx
    exact hcomma

theorem nextKey_first (b : Bytes) :
    nextKey true (byte '"' :: b) = .ok (some b, byte '"' :: b) := rfl

theorem nextKey_next (b : Bytes) :
    nextKey false (byte ',' :: byte '"' :: b) = .ok (some b, byte '"' :: b) := rfl

theorem nextKey_memberBytes (first : Bool) (k : String) (v : Value)
    (members : List (String × Value)) :
    nextKey first (memberBytes first ((k, v) :: members) ++ rest)
      = .ok (some (quotedTail k ++ byte ':' :: (Utf8.encode v.toChars
          ++ (memberBytes false members ++ rest))),
        textBytes k ++ byte ':' :: (Utf8.encode v.toChars
          ++ (memberBytes false members ++ rest))) := by
  rw [memberBytes]
  simp only [List.append_assoc, List.cons_append, textBytes]
  cases first with
  | true => exact nextKey_first _
  | false => exact nextKey_next _

theorem readColon_cons (b : Bytes) : readColon (byte ':' :: b) = .ok b := rfl

/-- Written members are read one after the other, up to the end of the object. -/
theorem readFields_memberBytes {members : List (String × Value)}
    (h : TakenAll fields members draft draft') :
    ∀ {fuel : Nat} {first : Bool}, members.length < fuel →
      readFields fields fuel first draft (memberBytes first members ++ byte '\x7d' :: rest)
        = .ok (.ok draft', byte '\x7d' :: rest) := by
  induction h with
  | nil =>
    intro fuel first hfuel
    obtain ⟨fuel, rfl⟩ : ∃ n, fuel = n + 1 := ⟨fuel - 1, by omega⟩
    rfl
  | @cons m members draft draft₁ draft' htaken _ ih =>
    intro fuel first hfuel
    obtain ⟨fuel, rfl⟩ : ∃ n, fuel = n + 1 := ⟨fuel - 1, by omega⟩
    have hends := endsNumber_memberBytes members rest
    have hlength : members.length < fuel := by simpa using hfuel
    obtain ⟨k, v⟩ := m
    rw [readFields, nextKey_memberBytes]
    show (readTextTail (quotedTail k ++ _) >>= _) = _
    rw [readTextTail_quotedTail]
    cases htaken with
    | passed hfield hskip =>
      simp only [ok_bind, hfield]
      show (partFault (.field k) (skipValue (Utf8.encode v.toChars ++ _)) >>= _) = _
      rw [hskip _ hends]
      exact ih hlength
    | read hfield hfilled hread =>
      simp only [ok_bind, hfield, hfilled]
      show (partFault (.field k) (_ >>= _) >>= _) = _
      rw [readColon_cons]
      show (partFault (.field k) (Field.read _ draft (Utf8.encode v.toChars ++ _)) >>= _) = _
      rw [hread _ hends]
      exact ih hlength

/-- **A record reads back** from an object whose members lead from the empty draft to a finished
one. -/
theorem Record.readAll_object {r : Record σ α} {members : List (String × Value)} {a : α}
    (h : TakenAll r.fields members r.empty draft) (hfinish : r.finish draft = .ok a) :
    readAll r.read (Utf8.encode (Value.object members).toChars) = .ok a := by
  have hfuel : members.length < (memberBytes true members ++ [byte '\x7d']).length + 1 := by
    have hle := length_le_memberBytes true members
    rw [List.length_append]
    omega
  have hread : readFields r.fields _ true r.empty (memberBytes true members ++ [byte '\x7d'])
      = .ok (.ok draft, [byte '\x7d']) := readFields_memberBytes h hfuel
  have hbind : (Except.ok draft : Except Mismatch σ).bind r.finish = .ok a := hfinish
  rw [encode_object]
  show (finishRecord r closeObject (readFields r.fields _ true r.empty
    (memberBytes true members ++ [byte '\x7d'])) >>= _) = _
  rw [hread]
  simp only [finishRecord, closing, ok_bind, hbind]
  rfl

end Members

/-! ## What has been read

The other direction: from a record back to the parts that it was read from. -/

section Read

variable {σ α : Type} {r : Record σ α}

theorem wrongType_ne_ok {expected : String} {b : Bytes} {p : α × Bytes} :
    wrongType expected b ≠ .ok p := by
  intro h
  unfold wrongType at h
  split at h
  · cases h
  · simp only at h
    repeat' split at h
    all_goals first
      | cases h
      | (obtain ⟨_, -, h⟩ := bind_eq_ok h
         cases h)

theorem closing_eq_ok {close : Bytes → Except Fault Bytes} {read : Except Fault α} {a : α}
    (h : closing close read = .ok a) : read = .ok a := by
  cases read with
  | error fault => cases h
  | ok a' => exact h

theorem finishRecord_eq_ok {close : Bytes → Except Fault Bytes}
    {read : Except Fault (Except Mismatch σ × Bytes)} {a : α} {behind : Bytes}
    (h : finishRecord r close read = .ok (a, behind)) :
    ∃ draft b, read = .ok (.ok draft, b) ∧ r.finish draft = .ok a := by
  obtain ⟨⟨result, b⟩, hread, h⟩ := bind_eq_ok h
  cases result with
  | error m => cases h
  | ok draft =>
    refine ⟨draft, b, closing_eq_ok hread, ?_⟩
    have hbind : (Except.ok draft : Except Mismatch σ).bind r.finish = r.finish draft := rfl
    simp only [hbind] at h
    split at h
    · cases h
    · rename_i a' hfinish
      obtain ⟨rest, -, h⟩ := bind_eq_ok h
      rw [hfinish, (Prod.mk.inj (Except.ok.inj h)).1]

/-- A record is read from an object or from a list. -/
theorem Record.read_eq_ok {b behind : Bytes} {a : α} (h : r.read b = .ok (a, behind)) :
    ∃ rest draft b', r.finish draft = .ok a
      ∧ (skipSpace b = byte '\x7b' :: rest
            ∧ readFields r.fields (rest.length + 1) true r.empty rest = .ok (.ok draft, b')
        ∨ skipSpace b = byte '[' :: rest
            ∧ readFieldsInOrder r.expectedList 0 r.fields r.empty rest = .ok (.ok draft, b')) := by
  unfold Record.read at h
  split at h
  · cases h
  · rename_i c rest hb
    split at h
    · rename_i hc
      obtain ⟨draft, b', hread, hfinish⟩ := finishRecord_eq_ok h
      exact ⟨rest, draft, b', hfinish, Or.inr ⟨by rw [hb, hc], hread⟩⟩
    · split at h
      · rename_i hc
        obtain ⟨draft, b', hread, hfinish⟩ := finishRecord_eq_ok h
        exact ⟨rest, draft, b', hfinish, Or.inl ⟨by rw [hb, hc], hread⟩⟩
      · exact absurd h wrongType_ne_ok

theorem partFault_eq_ok {step : Step} {read : Except Fault α} {a : α}
    (h : partFault step read = .ok a) : read = .ok a := by
  cases read with
  | error fault => cases h
  | ok a' => exact h

/-- The first field of a list is read from its next element. -/
theorem readFieldsInOrder_cons {expected : String} {n : Nat} {f : Field σ} {fields : List (Field σ)}
    {d d' : σ} {b behind : Bytes}
    (h : readFieldsInOrder expected n (f :: fields) d b = .ok (.ok d', behind)) :
    ∃ b₁ d₁ b₂, nextElement (n == 0) b = .ok (true, b₁) ∧ f.read d b₁ = .ok (d₁, b₂)
      ∧ readFieldsInOrder expected (n + 1) fields d₁ b₂ = .ok (.ok d', behind) := by
  rw [readFieldsInOrder] at h
  obtain ⟨⟨more, b₁⟩, hnext, h⟩ := bind_eq_ok h
  cases more with
  | false => cases h
  | true =>
    obtain ⟨⟨d₁, b₂⟩, hread, h⟩ := bind_eq_ok h
    exact ⟨b₁, d₁, b₂, hnext, partFault_eq_ok hread, h⟩

/-- What every field keeps is kept by a list of fields. -/
theorem readFieldsInOrder_keeps {P : σ → Prop} {expected : String} {fields : List (Field σ)}
    (hfields : ∀ f ∈ fields, ∀ d b d' b', P d → f.read d b = .ok (d', b') → P d') :
    ∀ {n d b d' b'}, P d → readFieldsInOrder expected n fields d b = .ok (.ok d', b') → P d' := by
  induction fields with
  | nil =>
    intro n d b d' b' hd h
    cases h
    exact hd
  | cons f fields ih =>
    intro n d b d' b' hd h
    obtain ⟨hf, hfields⟩ := List.forall_mem_cons.mp hfields
    obtain ⟨b₁, d₁, b₂, -, hread, h⟩ := readFieldsInOrder_cons h
    exact ih hfields (hf d b₁ d₁ b₂ hd hread) h

/-- **A member of an object** that is read as a record, and where its value starts. The members before it
are passed over, or read into the draft. -/
inductive HasMember (fields : List (Field σ)) : Bool → σ → Bytes → String → Bytes → Prop where
  | here {first : Bool} {draft : σ} {b tail b' rest v : Bytes} {k : String}
      (hkey : nextKey first b = .ok (some tail, b')) (hname : readTextTail tail = .ok (k, rest))
      (hcolon : readColon rest = .ok v) : HasMember fields first draft b k v
  | passed {first : Bool} {draft : σ} {b tail b' rest v' next v : Bytes} {k' k : String}
      (hkey : nextKey first b = .ok (some tail, b')) (hname : readTextTail tail = .ok (k', rest))
      (hcolon : readColon rest = .ok v') (hfield : fields.find? (·.name == k') = none)
      (hskip : skipValue v' = .ok next) (h : HasMember fields false draft next k v) :
      HasMember fields first draft b k v
  | read {first : Bool} {draft draft' : σ} {b tail b' rest v' next v : Bytes} {k' k : String}
      {field : Field σ} (hkey : nextKey first b = .ok (some tail, b'))
      (hname : readTextTail tail = .ok (k', rest)) (hcolon : readColon rest = .ok v')
      (hfield : fields.find? (·.name == k') = some field)
      (hread : field.read draft v' = .ok (draft', next))
      (h : HasMember fields false draft' next k v) : HasMember fields first draft b k v

/-- What holds of a draft in the end and not in the beginning has been read from a member. -/
theorem readFields_member {P : σ → Prop} {fields : List (Field σ)} {fuel : Nat} {first : Bool}
    {draft draft' : σ} {b behind : Bytes} (hbefore : ¬P draft) (hafter : P draft')
    (h : readFields fields fuel first draft b = .ok (.ok draft', behind)) :
    ∃ k v field d d' next, HasMember fields first draft b k v
      ∧ fields.find? (·.name == k) = some field ∧ field.read d v = .ok (d', next)
      ∧ ¬P d ∧ P d' := by
  induction fuel generalizing first draft b with
  | zero => cases h
  | succ fuel ih =>
    rw [readFields] at h
    obtain ⟨⟨key, b₁⟩, hkey, h⟩ := bind_eq_ok h
    cases key with
    | none =>
      obtain rfl := Except.ok.inj (Prod.mk.inj (Except.ok.inj h)).1
      exact absurd hafter hbefore
    | some tail =>
      obtain ⟨⟨k', rest⟩, hname, h⟩ := bind_eq_ok h
      dsimp only at h
      split at h
      · rename_i hfield
        obtain ⟨next, hskip, h⟩ := bind_eq_ok h
        obtain ⟨v', hcolon, hskip⟩ := bind_eq_ok (partFault_eq_ok hskip)
        obtain ⟨k, v, field, d, d', next', hmember, hrest⟩ := ih hbefore h
        exact ⟨k, v, field, d, d', next', .passed hkey hname hcolon hfield hskip hmember, hrest⟩
      · rename_i field hfield
        split at h
        · cases h
        obtain ⟨⟨d₁, next⟩, hread, h⟩ := bind_eq_ok h
        obtain ⟨v', hcolon, hread⟩ := bind_eq_ok (partFault_eq_ok hread)
        by_cases hnow : P d₁
        · exact ⟨k', v', field, draft, d₁, next, .here hkey hname hcolon, hfield, hread, hbefore, hnow⟩
        · obtain ⟨k, v, field', d, d', next', hmember, hrest⟩ := ih hnow h
          exact ⟨k, v, field', d, d', next', .read hkey hname hcolon hfield hread hmember, hrest⟩

theorem readAll_eq_ok {read : Reader α} {input : Bytes} {a : α}
    (h : readAll read input = .ok a) : ∃ rest, read input = .ok (a, rest) := by
  obtain ⟨⟨a', rest⟩, hread, h⟩ := bind_eq_ok h
  refine ⟨rest, ?_⟩
  dsimp only at h
  split at h
  · rw [hread, Except.ok.inj h]
  · cases h

end Read

end SessionAuth.Json
