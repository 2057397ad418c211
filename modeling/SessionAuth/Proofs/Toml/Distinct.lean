import SessionAuth.Proofs.Keyed
import SessionAuth.Toml.Document

/-!
In a document that can be read, nothing is set twice.

A key can be set in a line of its own, in a table on one line, or by a header, and in each case it is
looked for first. So no table of the document has a key twice, however deep it lies (`parse?_distinct`):
a lookup finds the one value that the document gives to a key.
-/

set_option autoImplicit false

namespace SessionAuth.Toml

/-! ## Tables without repetition -/

/-- **A value in which no key is set twice**, at any depth. -/
inductive Value.Distinct : Value → Prop
  | text (s : String) : Distinct (.text s)
  | bool (b : Bool) : Distinct (.bool b)
  | integer (i : Int) : Distinct (.integer i)
  | float (x : Decimal.Extended) : Distinct (.float x)
  | moment (s : String) : Distinct (.moment s)
  | list {elements : List Value} (h : ∀ v ∈ elements, Distinct v) : Distinct (.list elements)
  | table {members : List (String × Value)} (hkeys : DistinctKeys members)
      (h : ∀ m ∈ members, Distinct m.2) : Distinct (.table members)

/-- **An item in which no key is set twice**, at any depth. -/
inductive Item.Distinct : Item → Prop
  | value {v : Value} (h : v.Distinct) : Distinct (.value v)
  | table {origin : Origin} {members : Members} (hkeys : DistinctKeys members)
      (h : ∀ m ∈ members, Distinct m.2) : Distinct (.table origin members)
  | tables {elements : List Members} (hkeys : ∀ l ∈ elements, DistinctKeys l)
      (h : ∀ l ∈ elements, ∀ m ∈ l, Distinct m.2) : Distinct (.tables elements)

/-- Members in which no key is set twice, at any depth. -/
structure SetOnce (l : Members) : Prop where
  keys : DistinctKeys l
  items : ∀ m ∈ l, m.2.Distinct

theorem SetOnce.nil : SetOnce [] := ⟨List.nodup_nil, nofun⟩

/-- What is found under a key. -/
theorem SetOnce.lookup {l : Members} {key : String} {item : Item} (h : SetOnce l)
    (hfound : l.lookup key = some item) : item.Distinct := h.items _ (mem_of_lookup hfound)

theorem setMember_eq_keyed (key : String) (item : Item) (l : Members) :
    setMember key item l = keyed key item l := by
  induction l with
  | nil => rfl
  | cons m rest ih =>
    obtain ⟨k, v⟩ := m
    rw [setMember, keyed, ih]

theorem SetOnce.setMember {l : Members} {key : String} {item : Item} (h : SetOnce l)
    (hitem : item.Distinct) : SetOnce (setMember key item l) := by
  rw [setMember_eq_keyed]
  refine ⟨h.keys.keyed, fun m hm => ?_⟩
  rcases mem_keyed hm with rfl | hm
  · exact hitem
  · exact h.items m hm

theorem SetOnce.append {l : Members} {key : String} {item : Item} (h : SetOnce l)
    (hitem : item.Distinct) (hnew : l.lookup key = none) : SetOnce (l ++ [(key, item)]) := by
  refine ⟨h.keys.append hnew, fun m hm => ?_⟩
  rcases List.mem_append.mp hm with hm | hm
  · exact h.items m hm
  · rw [List.mem_singleton.mp hm]
    exact hitem

/-! ## Changes -/

/-- Where one element is changed, what holds of the others still does. -/
theorem of_changeLast? {α : Type} {P : α → Prop} {f : α → Option α}
    (hf : ∀ a b, P a → f a = some b → P b) {l l' : List α} (h : changeLast? f l = some l')
    (hl : ∀ a ∈ l, P a) : ∀ a ∈ l', P a := by
  induction l generalizing l' with
  | nil => cases h
  | cons a rest ih =>
    cases rest with
    | nil =>
      obtain ⟨b, hb, rfl⟩ := Option.map_eq_some_iff.mp h
      intro x hx
      rw [List.mem_singleton.mp hx]
      exact hf a b (hl a List.mem_cons_self) hb
    | cons b rest =>
      obtain ⟨changed, hchanged, rfl⟩ := Option.map_eq_some_iff.mp h
      intro x hx
      rcases List.mem_cons.mp hx with rfl | hx
      · exact hl x List.mem_cons_self
      · exact ih hchanged (fun y hy => hl y (List.mem_cons_of_mem a hy)) x hx

/-- **On the way to a table nothing is set twice**, if nothing is in the table itself. -/
theorem descend?_setOnce {byKey : Bool} {f : Origin → Members → Option Members}
    (hf : ∀ origin l l', SetOnce l → f origin l = some l' → SetOnce l') {path : List String}
    {origin : Origin} {l l' : Members} (hl : SetOnce l)
    (h : descend? byKey f path origin l = some l') : SetOnce l' := by
  induction path generalizing origin l l' with
  | nil => exact hf origin l l' hl h
  | cons key path ih =>
    rw [descend?] at h
    split at h
    · -- the table comes into being on the way
      obtain ⟨inner, hinner, rfl⟩ := Option.map_eq_some_iff.mp h
      have honce := ih .nil hinner
      exact hl.setMember (.table honce.keys honce.items)
    · cases h
    · rename_i elements hfound
      obtain ⟨changed, hchanged, rfl⟩ := Option.map_eq_some_iff.mp h
      cases hl.lookup hfound with
      | tables hkeys hitems =>
        have honce : ∀ inner ∈ changed, SetOnce inner :=
          of_changeLast? (fun a b ha hb => ih ha hb) hchanged
            fun inner hinner => ⟨hkeys inner hinner, hitems inner hinner⟩
        exact hl.setMember (.tables (fun inner hinner => (honce inner hinner).keys)
          fun inner hinner => (honce inner hinner).items)
    · rename_i inner hfound
      split at h
      · cases h
      · obtain ⟨changed, hchanged, rfl⟩ := Option.map_eq_some_iff.mp h
        cases hl.lookup hfound with
        | table hkeys hitems =>
          have honce := ih ⟨hkeys, hitems⟩ hchanged
          exact hl.setMember (.table honce.keys honce.items)

theorem assign?_setOnce {path : List String} {v : Value} {l l' : Members} (hv : v.Distinct)
    (hl : SetOnce l) (h : assign? path v l = some l') : SetOnce l' := by
  obtain ⟨key, -, h⟩ := Option.bind_eq_some_iff.mp h
  refine descend?_setOnce ?_ hl h
  intro origin inner inner' hinner hset
  split at hset
  · cases hset
  · rename_i hfree
    rw [← Option.some.inj hset]
    refine hinner.append (.value hv) ?_
    rw [Bool.or_eq_true, not_or, Option.not_isSome_iff_eq_none] at hfree
    exact hfree.2

theorem openTable?_setOnce {path : List String} {l l' : Members} (hl : SetOnce l)
    (h : openTable? path l = some l') : SetOnce l' := by
  obtain ⟨key, -, h⟩ := Option.bind_eq_some_iff.mp h
  refine descend?_setOnce ?_ hl h
  intro origin inner inner' hinner hset
  split at hset
  · rename_i hnew
    rw [← Option.some.inj hset]
    exact hinner.append (.table List.nodup_nil nofun) hnew
  · rename_i content hfound
    rw [← Option.some.inj hset]
    cases hinner.lookup hfound with
    | table hkeys hitems => exact hinner.setMember (.table hkeys hitems)
  · cases hset

theorem openNextTable?_setOnce {path : List String} {l l' : Members} (hl : SetOnce l)
    (h : openNextTable? path l = some l') : SetOnce l' := by
  have hempty : ∀ inner ∈ [([] : Members)], SetOnce inner := by
    intro inner hinner
    rw [List.mem_singleton.mp hinner]
    exact .nil
  obtain ⟨key, -, h⟩ := Option.bind_eq_some_iff.mp h
  refine descend?_setOnce ?_ hl h
  intro origin inner inner' hinner hset
  split at hset
  · rename_i hnew
    rw [← Option.some.inj hset]
    refine hinner.append (.tables (fun inner h => ?_) fun inner h => ?_) hnew
    · exact (hempty inner h).keys
    · exact (hempty inner h).items
  · rename_i elements hfound
    rw [← Option.some.inj hset]
    cases hinner.lookup hfound with
    | tables hkeys hitems =>
      have honce : ∀ inner ∈ elements ++ [[]], SetOnce inner := by
        intro inner h
        rcases List.mem_append.mp h with h | h
        · exact ⟨hkeys inner h, hitems inner h⟩
        · exact hempty inner h
      exact hinner.setMember (.tables (fun inner h => (honce inner h).keys)
        fun inner h => (honce inner h).items)
  · cases hset

/-! ## Items as values -/

theorem mem_valuesOf {l : Members} {m : String × Value} (h : m ∈ Item.valuesOf l) :
    ∃ item, (m.1, item) ∈ l ∧ m.2 = item.toValue := by
  induction l with
  | nil => cases h
  | cons first rest ih =>
    obtain ⟨k, item⟩ := first
    rw [Item.valuesOf] at h
    rcases List.mem_cons.mp h with rfl | h
    · exact ⟨item, List.mem_cons_self, rfl⟩
    · obtain ⟨item', hitem', hvalue⟩ := ih h
      exact ⟨item', List.mem_cons_of_mem _ hitem', hvalue⟩

theorem keys_valuesOf (l : Members) : (Item.valuesOf l).map Prod.fst = l.map Prod.fst := by
  induction l with
  | nil => rfl
  | cons first rest ih =>
    rw [Item.valuesOf, List.map_cons, List.map_cons, ih]

theorem mem_tablesOf {elements : List Members} {v : Value} (h : v ∈ Item.tablesOf elements) :
    ∃ l ∈ elements, v = .table (Item.valuesOf l) := by
  induction elements with
  | nil => cases h
  | cons first rest ih =>
    rw [Item.tablesOf] at h
    rcases List.mem_cons.mp h with rfl | h
    · exact ⟨first, List.mem_cons_self, rfl⟩
    · obtain ⟨l, hl, hv⟩ := ih h
      exact ⟨l, List.mem_cons_of_mem _ hl, hv⟩

/-- Members whose values have no key twice, as a table. -/
theorem distinct_valuesOf {l : Members} (hkeys : DistinctKeys l)
    (h : ∀ m ∈ l, m.2.toValue.Distinct) : (Value.table (Item.valuesOf l)).Distinct := by
  refine .table ?_ fun m hm => ?_
  · unfold DistinctKeys
    rw [keys_valuesOf]
    exact hkeys
  · obtain ⟨item, hitem, hvalue⟩ := mem_valuesOf hm
    rw [hvalue]
    exact h _ hitem

theorem Item.Distinct.toValue {item : Item} (h : item.Distinct) : item.toValue.Distinct := by
  induction h with
  | value h =>
    rw [Item.toValue]
    exact h
  | table hkeys _ ih =>
    rw [Item.toValue]
    exact distinct_valuesOf hkeys ih
  | tables hkeys _ ih =>
    rw [Item.toValue]
    refine .list fun v hv => ?_
    obtain ⟨l, hl, rfl⟩ := mem_tablesOf hv
    exact distinct_valuesOf (hkeys l hl) (ih l hl)

theorem SetOnce.toValue {l : Members} (h : SetOnce l) :
    (Value.table (Item.valuesOf l)).Distinct :=
  distinct_valuesOf h.keys fun m hm => (h.items m hm).toValue

/-! ## Reading -/

theorem tokenValue?_distinct {token : List Char} {v : Value} (h : tokenValue? token = some v) :
    v.Distinct := by
  unfold tokenValue? at h
  split at h
  · rw [← Option.some.inj h]
    exact .bool true
  split at h
  · rw [← Option.some.inj h]
    exact .bool false
  split at h
  · rw [← Option.some.inj h]
    exact .moment _
  split at h
  · rw [← Option.some.inj h]
    exact .float _
  · obtain ⟨i, -, rfl⟩ := Option.map_eq_some_iff.mp h
    exact .integer i

/-- What a bound on the steps is shown for: values, elements and tables on one line. -/
structure ReadsDistinct (fuel : Nat) : Prop where
  value : ∀ {depth l v rest}, readValue fuel depth l = some (v, rest) → v.Distinct
  elements : ∀ {depth l elements rest}, readElements fuel depth l = some (elements, rest) →
    ∀ v ∈ elements, v.Distinct
  inline : ∀ {depth l found members rest}, readInline fuel depth found l = some (members, rest) →
    SetOnce found → SetOnce members

section

variable {fuel depth : Nat} {l rest : List Char}

theorem readValue_distinct (ih : ReadsDistinct fuel) {v : Value}
    (h : readValue (fuel + 1) depth l = some (v, rest)) : v.Distinct := by
  cases l with
  | nil =>
    unfold readValue at h
    cases h
  | cons c behind =>
    unfold readValue at h
    split at h
    · obtain ⟨⟨s, _⟩, -, heq⟩ := Option.map_eq_some_iff.mp h
      rw [← (Prod.mk.inj heq).1]
      exact .text s
    split at h
    · split at h
      · cases h
      · obtain ⟨⟨elements, _⟩, hread, heq⟩ := Option.map_eq_some_iff.mp h
        rw [← (Prod.mk.inj heq).1]
        exact .list (ih.elements hread)
    split at h
    · split at h
      · cases h
      split at h
      · rw [← (Prod.mk.inj (Option.some.inj h)).1]
        exact .table List.nodup_nil nofun
      · obtain ⟨⟨members, _⟩, hread, heq⟩ := Option.map_eq_some_iff.mp h
        rw [← (Prod.mk.inj heq).1]
        exact (ih.inline hread .nil).toValue
    · obtain ⟨v', htoken, heq⟩ := Option.map_eq_some_iff.mp h
      rw [← (Prod.mk.inj heq).1]
      exact tokenValue?_distinct htoken

theorem readElements_distinct (ih : ReadsDistinct fuel) {elements : List Value}
    (h : readElements (fuel + 1) depth l = some (elements, rest)) : ∀ v ∈ elements, v.Distinct := by
  rw [readElements] at h
  split at h
  · rw [← (Prod.mk.inj (Option.some.inj h)).1]
    exact nofun
  · obtain ⟨⟨v, behind⟩, hv, h⟩ := Option.bind_eq_some_iff.mp h
    have hfirst := ih.value hv
    dsimp only at h
    split at h
    · obtain ⟨⟨more, _⟩, hmore, h⟩ := Option.bind_eq_some_iff.mp h
      rw [← (Prod.mk.inj (Option.some.inj h)).1]
      exact List.forall_mem_cons.mpr ⟨hfirst, ih.elements hmore⟩
    · rw [← (Prod.mk.inj (Option.some.inj h)).1]
      exact List.forall_mem_singleton.mpr hfirst
    · cases h

theorem readInline_setOnce (ih : ReadsDistinct fuel) {found members : Members}
    (h : readInline (fuel + 1) depth found l = some (members, rest)) (hfound : SetOnce found) :
    SetOnce members := by
  rw [readInline] at h
  obtain ⟨⟨path, behind⟩, -, h⟩ := Option.bind_eq_some_iff.mp h
  dsimp only at h
  split at h
  · obtain ⟨⟨v, behind'⟩, hv, h⟩ := Option.bind_eq_some_iff.mp h
    obtain ⟨next, hnext, h⟩ := Option.bind_eq_some_iff.mp h
    have honce := assign?_setOnce (ih.value hv) hfound hnext
    split at h
    · exact ih.inline h honce
    · rw [← (Prod.mk.inj (Option.some.inj h)).1]
      exact honce
    · cases h
  · cases h

/-- **Nothing is set twice in what stands on one line**, whatever bounds the steps. -/
theorem readsDistinct (fuel : Nat) : ReadsDistinct fuel := by
  induction fuel with
  | zero =>
    refine ⟨fun h => ?_, fun h => ?_, fun h => ?_⟩
    · unfold readValue at h
      cases h
    · unfold readElements at h
      cases h
    · unfold readInline at h
      cases h
  | succ fuel ih => exact ⟨readValue_distinct ih, readElements_distinct ih, readInline_setOnce ih⟩

end

/-! ## Lines -/

section

variable {p p' : Progress} {l rest : List Char}

theorem readHeader_setOnce (hp : SetOnce p.members) (h : readHeader p l = some (p', rest)) :
    SetOnce p'.members := by
  unfold readHeader at h
  split at h
  · obtain ⟨⟨path, behind⟩, -, h⟩ := Option.bind_eq_some_iff.mp h
    dsimp only at h
    split at h
    · obtain ⟨members, hopened, h⟩ := Option.bind_eq_some_iff.mp h
      rw [← (Prod.mk.inj (Option.some.inj h)).1]
      exact openNextTable?_setOnce hp hopened
    · cases h
  · obtain ⟨⟨path, behind⟩, -, h⟩ := Option.bind_eq_some_iff.mp h
    dsimp only at h
    split at h
    · obtain ⟨members, hopened, h⟩ := Option.bind_eq_some_iff.mp h
      rw [← (Prod.mk.inj (Option.some.inj h)).1]
      exact openTable?_setOnce hp hopened
    · cases h

theorem readAssignment_setOnce (hp : SetOnce p.members) (h : readAssignment p l = some (p', rest)) :
    SetOnce p'.members := by
  unfold readAssignment at h
  obtain ⟨⟨path, behind⟩, -, h⟩ := Option.bind_eq_some_iff.mp h
  dsimp only at h
  split at h
  · obtain ⟨⟨v, behind'⟩, hv, h⟩ := Option.bind_eq_some_iff.mp h
    obtain ⟨members, hset, h⟩ := Option.bind_eq_some_iff.mp h
    rw [← (Prod.mk.inj (Option.some.inj h)).1]
    refine descend?_setOnce (fun _ inner inner' hinner hassigned => ?_) hp hset
    exact assign?_setOnce ((readsDistinct _).value hv) hinner hassigned
  · cases h

theorem readLines_setOnce {fuel : Nat} {members : Members} (hp : SetOnce p.members)
    (h : readLines fuel p l = some members) : SetOnce members := by
  induction fuel generalizing p l with
  | zero => cases h
  | succ fuel ih =>
    rw [readLines] at h
    split at h
    · rw [← Option.some.inj h]
      exact hp
    · split at h
      · rw [← Option.some.inj h]
        exact hp
      · cases h
    · obtain ⟨⟨p', behind⟩, hheader, h⟩ := Option.bind_eq_some_iff.mp h
      obtain ⟨behind', -, h⟩ := Option.bind_eq_some_iff.mp h
      exact ih (readHeader_setOnce hp hheader) h
    · obtain ⟨⟨p', behind⟩, hassignment, h⟩ := Option.bind_eq_some_iff.mp h
      obtain ⟨behind', -, h⟩ := Option.bind_eq_some_iff.mp h
      exact ih (readAssignment_setOnce hp hassignment) h

end

/-- **A document that can be read sets nothing twice**, at any depth. -/
theorem parse?_distinct {s : String} {members : List (String × Value)}
    (h : parse? s = some members) : (Value.table members).Distinct := by
  obtain ⟨items, hitems, rfl⟩ := Option.map_eq_some_iff.mp h
  exact (readLines_setOnce .nil hitems).toValue

example : (parse? "[jwt]\nissuer = \"a\"\nissuer = \"b\"\n").isNone = true := by decide +kernel

end SessionAuth.Toml
