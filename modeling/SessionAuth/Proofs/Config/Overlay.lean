import SessionAuth.Config.Load
import SessionAuth.Proofs.Config.Field
import SessionAuth.Proofs.Keyed

/-!
Layers laid over each other.

A layer holds sections, and a section holds scalars for some of its fields. What is laid over a layer by a
path is seen in the place of the field that the path leads to, and nowhere else: whole layers give way to
each other field by field (`overlay_layer`), and variables do so one by one (`overlay_variables`).
-/

set_option autoImplicit false

namespace SessionAuth.Config

/-! ## Names and paths -/

/-- The name of the variable for a field. -/
def Field.variable (f : Field) : String := "AUTH_" ++ f.place.1.toUpper ++ "__" ++ f.place.2.toUpper

/-- The path to a field. -/
def Field.path (f : Field) : String := f.place.1 ++ "." ++ f.place.2

theorem Field.foldName_section (f : Field) : Node.foldName f.place.1 = f.place.1 := by
  cases f <;> decide +kernel

theorem Field.foldName_name (f : Field) : Node.foldName f.place.2 = f.place.2 := by
  cases f <;> decide +kernel

theorem Field.parse_section (f : Field) : Path.parse f.place.1 = ⟨f.place.1, []⟩ := by
  cases f <;> decide +kernel

theorem Field.parse_path (f : Field) : Path.parse f.path = ⟨f.place.1, [.member f.place.2]⟩ := by
  cases f <;> decide +kernel

theorem Field.place_injective {f g : Field} (h : f.place = g.place) : f = g := by
  have hall : ∀ f g : Field, f.place = g.place → f = g := by decide +kernel
  exact hall f g h

theorem ofVariable?_field (f : Field) (value : String) :
    ofVariable? (f.variable, value)
      = some (f.path, .scalar (some "the environment") (.text value)) := by
  have hname : variableStart.isPrefixOf (Text.lower f.variable.toList) = true
      ∧ String.ofList (dotted ((Text.lower f.variable.toList).drop variableStart.length))
        = f.path := by
    cases f <;> decide +kernel
  unfold ofVariable?
  dsimp only
  rw [if_pos hname.1, hname.2]

/-- The name of a variable leads to one field only. -/
theorem Field.variable_injective {f g : Field} (h : f.variable = g.variable) : f = g := by
  have hmember := ofVariable?_field f ""
  rw [h, ofVariable?_field g ""] at hmember
  have hpath : g.path = f.path := (Prod.mk.inj (Option.some.inj hmember)).1
  have hparsed := g.parse_path
  rw [hpath, f.parse_path] at hparsed
  obtain ⟨hfirst, hsteps⟩ := Path.mk.inj hparsed
  have hname : f.place.2 = g.place.2 := Step.member.inj (List.cons.inj hsteps).1
  exact place_injective (Prod.ext hfirst hname)

/-! ## Layers -/

/-- **Scalars for fields of a section**, one for each. -/
structure IsSection (name : String) (part : List (String × Node)) : Prop where
  keys : DistinctKeys part
  field : ∀ m ∈ part, ∃ f : Field, f.place = (name, m.1)
  scalar : ∀ m ∈ part, ∃ origin value, m.2 = .scalar origin value

/-- **Sections**, one of each name. -/
structure IsLayer (members : List (String × Node)) : Prop where
  keys : DistinctKeys members
  named : ∀ m ∈ members, ∃ f : Field, f.place.1 = m.1
  part : ∀ m ∈ members, ∃ origin part, m.2 = .table origin part ∧ IsSection m.1 part

theorem IsSection.nil (name : String) : IsSection name [] := ⟨List.nodup_nil, nofun, nofun⟩

theorem IsLayer.nil : IsLayer [] := ⟨List.nodup_nil, nofun, nofun⟩

/-- The scalar of a name. -/
def scalarOf? (part : List (String × Node)) (name : String) : Option Scalar :=
  (part.lookup name).bind Node.scalar?

/-- The members of a section, of which there are none where the section is not there. -/
def partOf (members : List (String × Node)) (name : String) : List (String × Node) :=
  ((members.lookup name).map Node.members).getD []

variable {members ms part fs : List (String × Node)} {origin : Option String} {name k : String}
  {f : Field} {v : Node}

theorem valueAt?_table :
    (Node.table origin ms).valueAt? f = scalarOf? (partOf ms f.place.1) f.place.2 := by
  unfold Node.valueAt? partOf scalarOf?
  rw [show (Node.table origin ms).members = ms from rfl]
  cases ms.lookup f.place.1 <;> rfl

theorem setIn_eq_keyed (name : String) (v : Node) (l : List (String × Node)) :
    Node.setIn name v l = keyed name v l := by
  induction l with
  | nil => rfl
  | cons m rest ih =>
    obtain ⟨k, w⟩ := m
    rw [Node.setIn, keyed, ih]

/-! ### Sections -/

namespace IsSection

theorem keyed (h : IsSection name part) (hf : f.place = (name, k)) (value : Scalar) :
    IsSection name (keyed k (.scalar origin value) part) := by
  refine ⟨h.keys.keyed, fun m hm => ?_, fun m hm => ?_⟩
  · rcases mem_keyed hm with rfl | hm
    · exact ⟨f, hf⟩
    · exact h.field m hm
  · rcases mem_keyed hm with rfl | hm
    · exact ⟨origin, value, rfl⟩
    · exact h.scalar m hm

theorem tail {m : String × Node} (h : IsSection name (m :: part)) : IsSection name part :=
  ⟨(distinctKeys_cons.mp h.keys).2, fun m hm => h.field m (List.mem_cons_of_mem _ hm),
    fun m hm => h.scalar m (List.mem_cons_of_mem _ hm)⟩

end IsSection

theorem scalarOf?_keyed {value : Scalar} :
    scalarOf? (keyed k (.scalar origin value) part) name
      = if name = k then some value else scalarOf? part name := by
  unfold scalarOf?
  rw [lookup_keyed]
  split <;> rfl

theorem scalarOf?_cons {value : Scalar} :
    scalarOf? ((k, .scalar origin value) :: part) name
      = if name = k then some value else scalarOf? part name := by
  unfold scalarOf?
  rw [lookup_cons]
  split <;> rfl

theorem scalarOf?_eq_none (h : name ∉ part.map Prod.fst) : scalarOf? part name = none := by
  unfold scalarOf?
  rw [lookup_eq_none_iff_notMem.mpr h]
  rfl

/-- **A section is laid over another one** scalar by scalar. -/
theorem putAll_section (origin : Option String) (hpart : IsSection name part)
    (hfs : IsSection name fs) :
    ∃ fs', Node.putAll part (.table origin fs) = .table origin fs' ∧ IsSection name fs'
      ∧ ∀ k, scalarOf? fs' k = (scalarOf? part k).or (scalarOf? fs k) := by
  induction part generalizing fs with
  | nil =>
    refine ⟨fs, ?_, hfs, fun _ => rfl⟩
    rw [Node.putAll]
  | cons m rest ih =>
    obtain ⟨k₀, w⟩ := m
    obtain ⟨f, hf⟩ := hpart.field _ List.mem_cons_self
    obtain ⟨origin', value, hw⟩ := hpart.scalar _ List.mem_cons_self
    obtain rfl : w = .scalar origin' value := hw
    have hname : Node.foldName k₀ = k₀ := by
      have hfold := f.foldName_name
      rw [hf] at hfold
      exact hfold
    have hput : Node.put k₀ (.scalar origin' value) (.table origin fs)
        = .table origin (SessionAuth.keyed k₀ (.scalar origin' value) fs) := by
      rw [Node.put, hname, Node.setMember, setIn_eq_keyed]
      nofun
    obtain ⟨fs', hfs', hsection, hvalues⟩ := ih hpart.tail (hfs.keyed hf value)
    refine ⟨fs', ?_, hsection, fun k => ?_⟩
    · rw [Node.putAll, hput, hfs']
    · rw [hvalues, scalarOf?_keyed, scalarOf?_cons]
      by_cases hk : k = k₀
      · -- the name is not set again further on
        have hnone : scalarOf? rest k = none := by
          rw [hk]
          exact scalarOf?_eq_none (distinctKeys_cons.mp hpart.keys).1
        rw [if_pos hk, if_pos hk, hnone]
        rfl
      · rw [if_neg hk, if_neg hk]

/-! ### Sections of a layer -/

theorem IsLayer.partOf (h : IsLayer ms) (f : Field) :
    IsSection f.place.1 (partOf ms f.place.1) := by
  unfold SessionAuth.Config.partOf
  cases hfound : ms.lookup f.place.1 with
  | none => exact .nil _
  | some v =>
    obtain ⟨origin, part, hv, hpart⟩ := h.part _ (mem_of_lookup hfound)
    obtain rfl : v = .table origin part := hv
    exact hpart

/-- A section is found as it is, or is not there. -/
theorem IsLayer.lookup (h : IsLayer ms) (name : String) :
    (ms.lookup name = none ∧ Config.partOf ms name = [])
      ∨ ∃ origin, ms.lookup name = some (.table origin (Config.partOf ms name)) := by
  unfold Config.partOf
  cases hfound : ms.lookup name with
  | none => exact .inl ⟨rfl, rfl⟩
  | some v =>
    obtain ⟨origin, part, hv, -⟩ := h.part _ (mem_of_lookup hfound)
    obtain rfl : v = .table origin part := hv
    exact .inr ⟨origin, rfl⟩

/-- A layer with another section. -/
theorem IsLayer.keyed (h : IsLayer ms) (hname : ∃ f : Field, f.place.1 = name)
    (hpart : IsSection name part) : IsLayer (keyed name (.table origin part) ms) := by
  refine ⟨h.keys.keyed, fun m hm => ?_, fun m hm => ?_⟩
  · rcases mem_keyed hm with rfl | hm
    · exact hname
    · exact h.named m hm
  · rcases mem_keyed hm with rfl | hm
    · exact ⟨origin, part, rfl, hpart⟩
    · exact h.part m hm

theorem partOf_keyed {origin' : Option String} :
    partOf (keyed name (.table origin' part) ms) k = if k = name then part else partOf ms k := by
  unfold partOf
  rw [lookup_keyed]
  split <;> rfl

theorem partOf_cons {origin' : Option String} :
    partOf ((name, .table origin' part) :: ms) k = if k = name then part else partOf ms k := by
  unfold partOf
  rw [lookup_cons]
  split <;> rfl

theorem partOf_eq_nil (h : k ∉ ms.map Prod.fst) : partOf ms k = [] := by
  unfold partOf
  rw [lookup_eq_none_iff_notMem.mpr h]
  rfl

/-- The sections that are there stay there. -/
theorem lookup_keyed_ne_none (h : ms.lookup k ≠ none) : (keyed name v ms).lookup k ≠ none := by
  rw [lookup_keyed]
  split
  · exact nofun
  · exact h

/-! ## Laying over -/

/-- The value that a layer has for a field. -/
def valueIn? (ms : List (String × Node)) (f : Field) : Option Scalar :=
  scalarOf? (partOf ms f.place.1) f.place.2

/-- **A layer over which values have been laid**: where there is a value, it has taken the place of the one
that was there, and all else is as before. -/
structure Overlaid (above : Field → Option Scalar) (ms ms' : List (String × Node)) : Prop where
  layer : IsLayer ms'
  sections : ∀ k, ms.lookup k ≠ none → ms'.lookup k ≠ none
  values : ∀ f, valueIn? ms' f = (above f).or (valueIn? ms f)

namespace Overlaid

variable {above above' : Field → Option Scalar} {ms' ms'' : List (String × Node)}

theorem refl (h : IsLayer ms) : Overlaid (fun _ => none) ms ms := ⟨h, fun _ hk => hk, fun _ => rfl⟩

theorem trans (h : Overlaid above ms ms') (h' : Overlaid above' ms' ms'') :
    Overlaid (fun f => (above' f).or (above f)) ms ms'' := by
  refine ⟨h'.layer, fun k hk => h'.sections k (h.sections k hk), fun f => ?_⟩
  rw [h'.values, h.values, Option.or_assoc]

theorem congr (h : Overlaid above ms ms') (heq : ∀ f, above f = above' f) :
    Overlaid above' ms ms' :=
  ⟨h.layer, h.sections, fun f => heq f ▸ h.values f⟩

end Overlaid

/-- A layer in which a section has been replaced. -/
theorem overlaid_keyed (hms : IsLayer ms) (g : Field) (hpart : IsSection g.place.1 part)
    {above : Field → Option Scalar}
    (hvalues : ∀ f : Field, f.place.1 = g.place.1 →
      scalarOf? part f.place.2 = (above f).or (valueIn? ms f))
    (helse : ∀ f : Field, f.place.1 ≠ g.place.1 → above f = none) :
    Overlaid above ms (keyed g.place.1 (.table origin part) ms) := by
  refine ⟨hms.keyed ⟨g, rfl⟩ hpart, fun k hk => lookup_keyed_ne_none hk, fun f => ?_⟩
  unfold valueIn?
  rw [partOf_keyed]
  by_cases hf : f.place.1 = g.place.1
  · rw [if_pos hf, hvalues f hf]
    rfl
  · rw [if_neg hf, helse f hf]
    rfl

/-- What a section of a layer lays over. -/
theorem put_overlaid (origin : Option String) (hms : IsLayer ms) (g : Field)
    (hpart : IsSection g.place.1 part) (origin' : Option String) :
    ∃ ms', Node.put g.place.1 (.table origin' part) (.table origin ms) = .table origin ms'
      ∧ Overlaid (fun f => if f.place.1 = g.place.1 then scalarOf? part f.place.2 else none)
        ms ms' := by
  obtain ⟨origin₀, htarget⟩ : ∃ origin₀, (ms.lookup g.place.1).getD Node.emptyTable
      = .table origin₀ (partOf ms g.place.1) := by
    rcases hms.lookup g.place.1 with ⟨hnone, hpart₀⟩ | ⟨origin₀, hfound⟩
    · exact ⟨none, by rw [hnone, hpart₀]; rfl⟩
    · exact ⟨origin₀, by rw [hfound]; rfl⟩
  obtain ⟨part', hput, hsection, hvalues⟩ := putAll_section origin₀ hpart (hms.partOf g)
  refine ⟨keyed g.place.1 (.table origin₀ part') ms, ?_, ?_⟩
  · rw [Node.put, g.foldName_section]
    dsimp only [Node.members]
    rw [htarget, hput, Node.setMember, setIn_eq_keyed]
  · refine overlaid_keyed hms g hsection (fun f hf => ?_) fun f hf => if_neg hf
    rw [hvalues, if_pos hf]
    unfold valueIn?
    rw [hf]

/-- **A layer is laid over another one field by field.** -/
theorem overlay_layer (origin : Option String) (hmembers : IsLayer members) (hms : IsLayer ms) :
    ∃ ms', overlay members (.table origin ms) = .table origin ms'
      ∧ Overlaid (valueIn? members) ms ms' := by
  induction members generalizing ms with
  | nil => exact ⟨ms, rfl, .refl hms⟩
  | cons m rest ih =>
    obtain ⟨name, v⟩ := m
    obtain ⟨g, hg⟩ := hmembers.named _ List.mem_cons_self
    obtain rfl : g.place.1 = name := hg
    obtain ⟨origin', part, hv, hpart⟩ := hmembers.part _ List.mem_cons_self
    obtain rfl : v = .table origin' part := hv
    obtain ⟨hnew, hkeys⟩ := distinctKeys_cons.mp hmembers.keys
    have hrest : IsLayer rest := ⟨hkeys, fun m hm => hmembers.named m (List.mem_cons_of_mem _ hm),
      fun m hm => hmembers.part m (List.mem_cons_of_mem _ hm)⟩
    obtain ⟨ms₁, hput, h₁⟩ := put_overlaid origin hms g hpart origin'
    obtain ⟨ms₂, hfold, h₂⟩ := ih hrest h₁.layer
    refine ⟨ms₂, ?_, (h₁.trans h₂).congr fun f => ?_⟩
    · rw [overlay, List.foldl_cons, g.parse_section]
      show overlay rest (Node.put g.place.1 (.table origin' part) (.table origin ms)) = _
      rw [hput, hfold]
    · -- a section of this name does not come again further on
      show (valueIn? rest f).or _ = valueIn? ((g.place.1, .table origin' part) :: rest) f
      unfold valueIn?
      rw [partOf_cons]
      by_cases hf : f.place.1 = g.place.1
      · rw [if_pos hf, if_pos hf, partOf_eq_nil (hf ▸ hnew)]
        rfl
      · rw [if_neg hf, if_neg hf, Option.or_none]

/-! ### Variables -/

/-- What a variable lays over a layer. -/
theorem set_overlaid (origin : Option String) (hms : IsLayer ms) (g : Field) (value : Scalar)
    (origin' : Option String) :
    ∃ ms', (Path.parse g.path).set (.scalar origin' value) (.table origin ms) = .table origin ms'
      ∧ Overlaid (fun f => if f = g then some value else none) ms ms' := by
  have hsection : IsSection g.place.1
      (keyed g.place.2 (.scalar origin' value) (partOf ms g.place.1)) :=
    (hms.partOf g).keyed rfl value
  obtain ⟨origin₀, hchange⟩ : ∃ origin₀, Path.change (Node.cover (.scalar origin' value))
      [.member g.place.2] ((ms.lookup g.place.1).getD Node.nothing)
        = .table origin₀ (keyed g.place.2 (.scalar origin' value) (partOf ms g.place.1)) := by
    rw [Path.change, g.foldName_name]
    show ∃ origin₀, Node.setMember g.place.2 (.scalar origin' value) _ = _
    rcases hms.lookup g.place.1 with ⟨hnone, hpart₀⟩ | ⟨origin₀, hfound⟩
    · exact ⟨none, by rw [hnone, hpart₀]; rfl⟩
    · refine ⟨origin₀, ?_⟩
      rw [hfound, Option.getD_some, Node.setMember, setIn_eq_keyed]
  refine ⟨keyed g.place.1 (.table origin₀ (keyed g.place.2 (.scalar origin' value)
    (partOf ms g.place.1))) ms, ?_, ?_⟩
  · rw [g.parse_path, Path.set]
    show Path.change _ [.member g.place.1, .member g.place.2] (.table origin ms) = _
    rw [Path.change, g.foldName_section]
    dsimp only [Node.members]
    rw [hchange, Node.setMember, setIn_eq_keyed]
  · refine overlaid_keyed hms g hsection (fun f hf => ?_) fun f hf => ?_
    · rw [scalarOf?_keyed]
      by_cases hfg : f = g
      · rw [if_pos hfg, hfg, if_pos rfl]
        rfl
      · have hname : f.place.2 ≠ g.place.2 :=
          fun hname => hfg (Field.place_injective (Prod.ext hf hname))
        rw [if_neg hfg, if_neg hname, ← hf]
        rfl
    · refine if_neg ?_
      rintro rfl
      exact hf rfl

/-- **Variables for fields are laid over a layer one by one.** Variables that are not of the service are
none of its business. -/
theorem overlay_variables (origin : Option String) {environment : List (String × String)}
    (hdistinct : DistinctKeys environment)
    (hfields : ∀ v ∈ environment, (ofVariable? v).isSome = true → ∃ f : Field, v.1 = f.variable)
    (hms : IsLayer ms) :
    ∃ ms', overlay (environment.filterMap ofVariable?) (.table origin ms) = .table origin ms'
      ∧ Overlaid (fun f => (environment.lookup f.variable).map .text) ms ms' := by
  induction environment generalizing ms with
  | nil => exact ⟨ms, rfl, .refl hms⟩
  | cons v rest ih =>
    obtain ⟨name, value⟩ := v
    obtain ⟨hnew, hkeys⟩ := distinctKeys_cons.mp hdistinct
    have hrest : ∀ v ∈ rest, (ofVariable? v).isSome = true → ∃ f : Field, v.1 = f.variable :=
      fun v hv => hfields v (List.mem_cons_of_mem _ hv)
    cases hvariable : ofVariable? (name, value) with
    | none =>
      obtain ⟨ms', hfold, h'⟩ := ih hkeys hrest hms
      refine ⟨ms', ?_, h'.congr fun f => ?_⟩
      · rw [List.filterMap_cons_none hvariable, hfold]
      · have hother : f.variable ≠ name := by
          rintro rfl
          rw [ofVariable?_field] at hvariable
          cases hvariable
        rw [lookup_cons, if_neg hother]
    | some m =>
      have hisSome : (ofVariable? (name, value)).isSome = true := by
        rw [hvariable]
        rfl
      obtain ⟨g, hg⟩ := hfields _ List.mem_cons_self hisSome
      obtain rfl : name = g.variable := hg
      rw [ofVariable?_field] at hvariable
      obtain rfl := Option.some.inj hvariable
      obtain ⟨ms₁, hset, h₁⟩ :=
        set_overlaid origin hms g (.text value) (some "the environment")
      obtain ⟨ms₂, hfold, h₂⟩ := ih hkeys hrest h₁.layer
      refine ⟨ms₂, ?_, (h₁.trans h₂).congr fun f => ?_⟩
      · rw [List.filterMap_cons_some (ofVariable?_field g value), overlay, List.foldl_cons, hset]
        exact hfold
      · -- a variable of this name does not come again further on
        rw [lookup_cons]
        by_cases hf : f = g
        · rw [hf, if_pos rfl, if_pos rfl, lookup_eq_none_iff_notMem.mpr hnew]
          rfl
        · rw [if_neg hf, if_neg fun heq => hf (Field.variable_injective heq), Option.or_none]

end SessionAuth.Config
