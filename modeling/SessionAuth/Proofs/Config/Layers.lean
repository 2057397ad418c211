import SessionAuth.Proofs.Config.Overlay
import SessionAuth.Proofs.Toml.Distinct

/-!
Which source a setting is taken from.

A setting can come from a variable of the environment, from the file for the mode that the service runs in,
from the default file, or be built in. `Surroundings.winner` is the value of the first of these that has
one for the very field, and says nothing of sections or of merging. Settings are loaded exactly as the
winners say (`fields_give_way_one_by_one`): what a source has for one field has no part in another one.
-/

set_option autoImplicit false

namespace SessionAuth.Config

/-! ## Documents -/

/-- The scalar that a value of a document is, if it is one. -/
def tomlScalar? : Toml.Value → Option Scalar
  | .text s | .moment s => some (.text s)
  | .bool b => some (.bool b)
  | .integer i => some (.integer i)
  | .float x => some (.float x)
  | .list _ | .table _ => none

/-- **Members of a document that are settings**: sections, with scalars for fields of theirs. -/
def IsConfiguration (members : List (String × Toml.Value)) : Prop :=
  ∀ m ∈ members, (∃ f : Field, f.place.1 = m.1) ∧ ∃ part, m.2 = .table part
    ∧ ∀ x ∈ part, (∃ f : Field, f.place = (m.1, x.1)) ∧ (tomlScalar? x.2).isSome = true

instance {p : List (String × Toml.Value) → Prop} [DecidablePred p] (v : Toml.Value) :
    Decidable (∃ part, v = .table part ∧ p part) :=
  match v with
  | .table part =>
    decidable_of_iff (p part)
      ⟨fun h => ⟨part, rfl, h⟩, fun ⟨_, hv, h⟩ => Toml.Value.table.inj hv ▸ h⟩
  | .text _ | .bool _ | .integer _ | .float _ | .moment _ | .list _ =>
    .isFalse fun ⟨_, hv, _⟩ => Toml.Value.noConfusion hv

instance : DecidablePred IsConfiguration := fun members =>
  inferInstanceAs (Decidable (∀ m ∈ members, (∃ f : Field, f.place.1 = m.1)
    ∧ ∃ part, m.2 = .table part
      ∧ ∀ x ∈ part, (∃ f : Field, f.place = (m.1, x.1)) ∧ (tomlScalar? x.2).isSome = true))

/-- What a document sets a field to. -/
def documentValue? (members : List (String × Toml.Value)) (f : Field) : Option Scalar :=
  match members.lookup f.place.1 with
  | some (.table part) => (part.lookup f.place.2).bind tomlScalar?
  | _ => none

section

variable {members : List (String × Toml.Value)} {origin : Option String} {name : String}

theorem ofTomlMembers_eq_map (origin : Option String) (members : List (String × Toml.Value)) :
    ofTomlMembers origin members = members.map fun m => (m.1, ofToml origin m.2) := by
  induction members with
  | nil => rw [ofTomlMembers, List.map_nil]
  | cons m rest ih =>
    obtain ⟨k, v⟩ := m
    rw [ofTomlMembers, ih, List.map_cons]

/-- The members that come of a document. -/
theorem mem_ofTomlMembers {m : String × Node} (h : m ∈ ofTomlMembers origin members) :
    ∃ m' ∈ members, m = (m'.1, ofToml origin m'.2) := by
  rw [ofTomlMembers_eq_map] at h
  obtain ⟨m', hm', heq⟩ := List.mem_map.mp h
  exact ⟨m', hm', heq.symm⟩

theorem distinctKeys_ofToml (origin : Option String) (h : DistinctKeys members) :
    DistinctKeys (ofTomlMembers origin members) := by
  unfold DistinctKeys
  rw [ofTomlMembers_eq_map, List.map_map]
  exact h

theorem lookup_ofTomlMembers (origin : Option String) (members : List (String × Toml.Value)) :
    (ofTomlMembers origin members).lookup name = (members.lookup name).map (ofToml origin) := by
  induction members with
  | nil => rfl
  | cons m rest ih =>
    obtain ⟨k, v⟩ := m
    rw [ofTomlMembers, lookup_cons, lookup_cons, ih]
    split <;> rfl

theorem scalar?_ofToml (origin : Option String) (v : Toml.Value) :
    (ofToml origin v).scalar? = tomlScalar? v := by
  cases v <;> rfl

theorem ofToml_scalar (origin : Option String) {v : Toml.Value}
    (h : (tomlScalar? v).isSome = true) :
    ∃ value, ofToml origin v = .scalar origin value := by
  cases v with
  | list elements => cases h
  | table members => cases h
  | _ => exact ⟨_, rfl⟩

theorem isSection_ofToml {part : List (String × Toml.Value)}
    (hfields : ∀ x ∈ part, (∃ f : Field, f.place = (name, x.1)) ∧ (tomlScalar? x.2).isSome = true)
    (hkeys : DistinctKeys part) : IsSection name (ofTomlMembers origin part) := by
  refine ⟨distinctKeys_ofToml origin hkeys, fun m hm => ?_, fun m hm => ?_⟩
  · obtain ⟨x, hx, rfl⟩ := mem_ofTomlMembers hm
    exact (hfields x hx).1
  · obtain ⟨x, hx, rfl⟩ := mem_ofTomlMembers hm
    obtain ⟨value, hvalue⟩ := ofToml_scalar origin (hfields x hx).2
    exact ⟨origin, value, hvalue⟩

/-- **What a document sets is a layer**, with the values of the document. -/
theorem isLayer_ofToml (h : IsConfiguration members)
    (hdistinct : (Toml.Value.table members).Distinct) : IsLayer (ofTomlMembers origin members) := by
  cases hdistinct with
  | table hkeys hparts =>
    refine ⟨distinctKeys_ofToml origin hkeys, fun m hm => ?_, fun m hm => ?_⟩
    · obtain ⟨m', hm', rfl⟩ := mem_ofTomlMembers hm
      exact (h m' hm').1
    · obtain ⟨m', hm', rfl⟩ := mem_ofTomlMembers hm
      obtain ⟨-, part, hpart, hfields⟩ := h m' hm'
      have hpartDistinct := hparts m' hm'
      dsimp only
      rw [hpart] at hpartDistinct ⊢
      cases hpartDistinct with
      | table hpartKeys _ =>
        exact ⟨origin, ofTomlMembers origin part, rfl, isSection_ofToml hfields hpartKeys⟩

theorem valueIn?_ofToml (h : IsConfiguration members) (f : Field) :
    valueIn? (ofTomlMembers origin members) f = documentValue? members f := by
  unfold valueIn? partOf documentValue? scalarOf?
  rw [lookup_ofTomlMembers]
  cases hfound : members.lookup f.place.1 with
  | none => rfl
  | some v =>
    obtain ⟨-, part, hv, -⟩ := h _ (mem_of_lookup hfound)
    obtain rfl : v = .table part := hv
    show ((ofTomlMembers origin part).lookup f.place.2).bind Node.scalar?
      = (part.lookup f.place.2).bind tomlScalar?
    rw [lookup_ofTomlMembers]
    cases part.lookup f.place.2 with
    | none => rfl
    | some x => exact scalar?_ofToml origin x

end

/-! ## Files -/

/-- **A name without an ending**: it is not empty and has no dot. -/
structure IsPlainName (name : String) : Prop where
  nonempty : name.isEmpty = false
  dot : '.' ∉ name.toList

instance (name : String) : Decidable (IsPlainName name) :=
  decidable_of_iff (name.isEmpty = false ∧ '.' ∉ name.toList)
    ⟨fun h => ⟨h.1, h.2⟩, fun h => ⟨h.nonempty, h.dot⟩⟩

/-- A folder with at most two files: the default one and the one for the mode. -/
def OnlyLayers (files : List (String × String)) (mode : String) : Prop :=
  ∀ file ∈ files, file.1 = "default.toml" ∨ file.1 = mode ++ ".toml"

instance (files : List (String × String)) (mode : String) : Decidable (OnlyLayers files mode) :=
  inferInstanceAs (Decidable (∀ file ∈ files, file.1 = "default.toml" ∨ file.1 = mode ++ ".toml"))

/-- What the file of a name sets a field to, if it is there. -/
def fileValue? (files : List (String × String)) (name : String) (f : Field) : Option Scalar := do
  let content ← files.lookup (name ++ ".toml")
  let members ← Toml.parse? content
  documentValue? members f

section

variable {files : List (String × String)} {mode name : String}

theorem OnlyLayers.ending (h : OnlyLayers files mode) {file : String × String}
    (hfile : file ∈ files) :
    ∃ start : List Char, file.1.toList = start ++ ".toml".toList := by
  rcases h file hfile with heq | heq
  · exact ⟨"default".toList, by rw [heq]; decide⟩
  · exact ⟨mode.toList, by rw [heq, String.toList_append]⟩

/-- There is no file of just this name. -/
theorem OnlyLayers.lookup_plain (h : OnlyLayers files mode) (hname : IsPlainName name) :
    files.lookup name = none := by
  cases hfound : files.lookup name with
  | none => rfl
  | some content =>
    obtain ⟨start, hstart⟩ := h.ending (mem_of_lookup hfound)
    have hdot : '.' ∈ name.toList := by
      rw [show name.toList = start ++ ".toml".toList from hstart]
      exact List.mem_append_right start (by decide)
    exact absurd hdot hname.dot

/-- There is no file in another notation. -/
theorem OnlyLayers.lookup_json (h : OnlyLayers files mode) :
    files.lookup (name ++ "." ++ "json") = none := by
  cases hfound : files.lookup (name ++ "." ++ "json") with
  | none => rfl
  | some content =>
    obtain ⟨start, hstart⟩ := h.ending (mem_of_lookup hfound)
    have hlast := congrArg List.getLast? hstart
    dsimp only at hlast
    rw [String.toList_append, List.getLast?_append_of_ne_nil _ (by decide),
      List.getLast?_append_of_ne_nil _ (by decide)] at hlast
    exact absurd hlast (by decide)

/-- A plain name stands for a file with the one ending that there is. -/
theorem findFile?_plain (h : OnlyLayers files mode) (hname : IsPlainName name) :
    findFile? files name
      = (files.lookup (name ++ ".toml")).map fun content => (name ++ ".toml", "toml", content) := by
  have htoml : name ++ "." ++ "toml" = name ++ ".toml" := by rw [String.append_assoc]; rfl
  unfold findFile? endings
  rw [h.lookup_plain hname]
  dsimp only
  rw [hname.nonempty, if_neg Bool.false_ne_true, List.findSome?_cons, List.findSome?_cons, htoml,
    h.lookup_json]
  cases files.lookup (name ++ ".toml") <;> rfl

/-- **A file is a layer**, with the values that it sets. -/
theorem loadFile_layer (h : OnlyLayers files mode) (hname : IsPlainName name)
    (hcontents : ∀ file ∈ files, ∃ members ∈ Toml.parse? file.2, IsConfiguration members) :
    ∃ members, loadFile files name = .ok members ∧ IsLayer members
      ∧ ∀ f, valueIn? members f = fileValue? files name f := by
  unfold loadFile fileValue?
  rw [findFile?_plain h hname]
  cases hfound : files.lookup (name ++ ".toml") with
  | none => exact ⟨[], rfl, .nil, fun _ => rfl⟩
  | some content =>
    obtain ⟨members, hparsed, hconfiguration⟩ := hcontents _ (mem_of_lookup hfound)
    have hdocument : Toml.parse? content = some members := hparsed
    refine ⟨ofTomlMembers (some ("config/" ++ (name ++ ".toml"))) members, ?_,
      isLayer_ofToml hconfiguration (Toml.parse?_distinct hdocument), fun f => ?_⟩
    · rw [Option.map_some]
      dsimp only
      rw [parseFile?, if_pos rfl, hdocument]
      rfl
    · rw [valueIn?_ofToml hconfiguration]
      show _ = (Toml.parse? content).bind fun members => documentValue? members f
      rw [hdocument]
      rfl

end

/-! ## Sources -/

/-- Where the value of a field can come from. -/
inductive Source where
  | environment
  | modeFile
  | defaultFile
  | builtIn
  deriving DecidableEq, Repr

/-- The sources, the first one ahead of the others. -/
def Source.byPriority : List Source := [.environment, .modeFile, .defaultFile, .builtIn]

/-- **What is built in for a field.** There is nothing for the address of the database and the secret. -/
def Field.builtIn? (processors : Nat) : Field → Option Scalar
  | url | secret => none
  | maxConnections => some (.integer 10)
  | minConnections => some (.integer 0)
  | acquireTimeout => some (.integer 5)
  | idleTimeout => some (.integer 600)
  | maxLifetime => some (.integer 1800)
  | initialPingTimeout => some (.integer 2000)
  | httpPort => some (.integer 8080)
  | issuer => some (.text "auth-service")
  | accessLifetime => some (.integer 900)
  | refreshLifetime => some (.integer 604800)
  | operationTimeout => some (.integer 10000)
  | lockTimeout => some (.integer 5000)
  | memoryKib => some (.integer 65536)
  | passes => some (.integer 3)
  | lanes => some (.integer 2)
  | maxConcurrent => some (.integer processors)

namespace Surroundings

variable {e : Surroundings}

/-- The mode that is asked for, or development. -/
def mode (e : Surroundings) : String := (e.environment.lookup "RUN_MODE").getD "development"

/-- **What a source has for a field.** -/
def value? (e : Surroundings) (f : Field) : Source → Option Scalar
  | .environment => (e.environment.lookup f.variable).map .text
  | .modeFile => fileValue? e.files e.mode f
  | .defaultFile => fileValue? e.files "default" f
  | .builtIn => f.builtIn? e.processors

/-- **What the first source that has something for a field has for it.** -/
def winner (e : Surroundings) (f : Field) : Option Scalar :=
  Source.byPriority.findSome? (e.value? f)

theorem winner_eq (e : Surroundings) (f : Field) :
    e.winner f = ((e.environment.lookup f.variable).map Scalar.text).or
      ((fileValue? e.files e.mode f).or
        ((fileValue? e.files "default" f).or (f.builtIn? e.processors))) := by
  have hcons : ∀ (source : Source) (rest : List Source), (source :: rest).findSome? (e.value? f)
      = (e.value? f source).or (rest.findSome? (e.value? f)) := by
    intro source rest
    rw [List.findSome?_cons]
    cases e.value? f source <;> rfl
  rw [winner, Source.byPriority, hcons, hcons, hcons, hcons, List.findSome?_nil, Option.or_none]
  rfl

/-- **Surroundings that set fields, and nothing else**: there are no files but the default one and the one
for the mode, both hold settings, and the variables of the service are variables for fields. -/
structure SetFields (e : Surroundings) : Prop where
  mode : IsPlainName e.mode
  files : OnlyLayers e.files e.mode
  contents : ∀ file ∈ e.files, ∃ members ∈ Toml.parse? file.2, IsConfiguration members
  distinct : DistinctKeys e.environment
  named : ∀ v ∈ e.environment, (ofVariable? v).isSome = true → ∃ f : Field, v.1 = f.variable

instance (e : Surroundings) : Decidable e.SetFields :=
  decidable_of_iff (IsPlainName e.mode ∧ OnlyLayers e.files e.mode
      ∧ (∀ file ∈ e.files, ∃ members ∈ Toml.parse? file.2, IsConfiguration members)
      ∧ DistinctKeys e.environment
      ∧ ∀ v ∈ e.environment, (ofVariable? v).isSome = true → ∃ f : Field, v.1 = f.variable)
    ⟨fun ⟨hmode, hfiles, hcontents, hdistinct, hnamed⟩ =>
      ⟨hmode, hfiles, hcontents, hdistinct, hnamed⟩,
    fun h => ⟨h.mode, h.files, h.contents, h.distinct, h.named⟩⟩

end Surroundings

/-! ### Built-in values -/

/-- Scalars for fields of a section, written down one after the other. -/
theorem isSection_of_fields {name : String} {fields : List (Field × Scalar)}
    (hname : ∀ f ∈ fields.map Prod.fst, f.place.1 = name) (honce : (fields.map Prod.fst).Nodup) :
    IsSection name (fields.map fun p => (p.1.place.2, .scalar none p.2)) := by
  have hplace : ∀ p ∈ fields, p.1.place = (name, p.1.place.2) :=
    fun p hp => Prod.ext (hname _ (List.mem_map_of_mem hp)) rfl
  refine ⟨?_, fun m hm => ?_, fun m hm => ?_⟩
  · unfold DistinctKeys
    rw [List.map_map]
    have hnames : ((fields.map Prod.fst).map fun f => f.place.2).Nodup := by
      refine honce.map_on fun f hf g hg heq => ?_
      exact Field.place_injective (Prod.ext ((hname f hf).trans (hname g hg).symm) heq)
    rw [List.map_map] at hnames
    exact hnames
  · obtain ⟨p, hp, rfl⟩ := List.mem_map.mp hm
    exact ⟨p.1, hplace p hp⟩
  · obtain ⟨p, -, rfl⟩ := List.mem_map.mp hm
    exact ⟨none, p.2, rfl⟩

theorem isLayer_builtIn (processors : Nat) : IsLayer (builtInLayer processors).members := by
  have hdatabase : IsSection "database" ([(Field.maxConnections, Scalar.integer 10),
      (.minConnections, .integer 0), (.acquireTimeout, .integer 5), (.idleTimeout, .integer 600),
      (.maxLifetime, .integer 1800), (.initialPingTimeout, .integer 2000)].map
        fun p => (p.1.place.2, Node.scalar none p.2)) := isSection_of_fields (by decide) (by decide)
  have hserver : IsSection "server" ([(Field.httpPort, Scalar.integer 8080)].map
      fun p => (p.1.place.2, Node.scalar none p.2)) := isSection_of_fields (by decide) (by decide)
  have hjwt : IsSection "jwt" ([(Field.issuer, Scalar.text "auth-service"),
      (.accessLifetime, .integer 900)].map fun p => (p.1.place.2, Node.scalar none p.2)) :=
    isSection_of_fields (by decide) (by decide)
  have hsession : IsSection "session" ([(Field.refreshLifetime, Scalar.integer 604800),
      (.operationTimeout, .integer 10000), (.lockTimeout, .integer 5000)].map
        fun p => (p.1.place.2, Node.scalar none p.2)) := isSection_of_fields (by decide) (by decide)
  have hpassword : IsSection "password" ([(Field.memoryKib, Scalar.integer 65536),
      (.passes, .integer 3), (.lanes, .integer 2), (.maxConcurrent, .integer processors)].map
        fun p => (p.1.place.2, Node.scalar none p.2)) := by
    have hfields : ∀ f ∈ [Field.memoryKib, .passes, .lanes, .maxConcurrent],
        f.place.1 = "password" := by decide
    have honce : [Field.memoryKib, .passes, .lanes, .maxConcurrent].Nodup := by decide
    exact isSection_of_fields hfields honce
  have hkeys : ["database", "server", "jwt", "session", "password"].Nodup := by decide
  refine ⟨hkeys, ?_, ?_⟩
  · have hnamed : ∀ name ∈ ["database", "server", "jwt", "session", "password"],
        ∃ f : Field, f.place.1 = name := by decide
    exact fun m hm => hnamed m.1 (List.mem_map_of_mem hm)
  · refine List.forall_mem_cons.mpr ⟨⟨none, _, rfl, hdatabase⟩, ?_⟩
    refine List.forall_mem_cons.mpr ⟨⟨none, _, rfl, hserver⟩, ?_⟩
    refine List.forall_mem_cons.mpr ⟨⟨none, _, rfl, hjwt⟩, ?_⟩
    refine List.forall_mem_cons.mpr ⟨⟨none, _, rfl, hsession⟩, ?_⟩
    exact List.forall_mem_singleton.mpr ⟨none, _, rfl, hpassword⟩

/-- Every section is there from the start. -/
theorem builtIn_sections (processors : Nat) (f : Field) :
    (builtInLayer processors).members.lookup f.place.1 ≠ none := by
  cases f <;> exact nofun

/-- What is built in stands in the places of the fields. -/
theorem valueAt?_builtIn (processors : Nat) (f : Field) :
    (builtInLayer processors).valueAt? f = f.builtIn? processors := by
  cases f <;> rfl

/-- All is built in but the address of the database and the secret. -/
theorem builtIn_ne_none {processors : Nat} {f : Field} (hurl : f ≠ .url) (hsecret : f ≠ .secret) :
    f.builtIn? processors ≠ none := by
  cases f with
  | url => exact absurd rfl hurl
  | secret => exact absurd rfl hsecret
  | _ => exact nofun

/-! ## Merged layers -/

section

variable {e : Surroundings}

/-- **The layers lie over each other as the sources prevail.** -/
theorem layers_winner (h : e.SetFields) :
    ∃ root, layers e = .ok root ∧ root.HasSections ∧ ∀ f, root.valueAt? f = e.winner f := by
  have hdefault : IsPlainName "default" := ⟨by decide, by decide⟩
  obtain ⟨standard, hstandard, hstandardLayer, hstandardValues⟩ :=
    loadFile_layer h.files hdefault h.contents
  obtain ⟨special, hspecial, hspecialLayer, hspecialValues⟩ :=
    loadFile_layer h.files h.mode h.contents
  -- from the weakest file to the variables, and then all of this over what is built in
  obtain ⟨ms₁, hms₁, h₁⟩ := overlay_layer none hstandardLayer .nil
  obtain ⟨ms₂, hms₂, h₂⟩ := overlay_layer none hspecialLayer h₁.layer
  obtain ⟨ms₃, hms₃, h₃⟩ := overlay_variables none h.distinct h.named h₂.layer
  obtain ⟨ms₄, hms₄, h₄⟩ := overlay_layer none h₃.layer (isLayer_builtIn e.processors)
  refine ⟨.table none ms₄, ?_, ⟨none, ms₄, rfl, fun f => ?_⟩, fun f => ?_⟩
  · unfold layers
    rw [hstandard, ok_bind, show runMode e = e.mode from rfl, hspecial, ok_bind]
    dsimp only
    rw [Node.emptyTable, hms₁, hms₂, hms₃]
    exact congrArg Except.ok hms₄
  · rcases h₄.layer.lookup f.place.1 with ⟨hnone, -⟩ | ⟨origin, hfound⟩
    · exact absurd hnone (h₄.sections _ (builtIn_sections e.processors f))
    · exact ⟨origin, _, hfound⟩
  · have hmerged : valueIn? ms₃ f = ((e.environment.lookup f.variable).map Scalar.text).or
        ((fileValue? e.files e.mode f).or (fileValue? e.files "default" f)) := by
      rw [h₃.values, h₂.values, h₁.values, hspecialValues, hstandardValues]
      exact congrArg _ (congrArg _ Option.or_none)
    have hbuiltIn : f.builtIn? e.processors
        = valueIn? (builtInLayer e.processors).members f :=
      (valueAt?_builtIn e.processors f).symm.trans valueAt?_table
    rw [valueAt?_table]
    show valueIn? ms₄ f = _
    rw [h₄.values, hmerged, Surroundings.winner_eq, hbuiltIn, Option.or_assoc, Option.or_assoc]

/-! ## Loading -/

theorem Settings.check_eq_ok_iff {s s' : Settings} :
    s.check = .ok s' ↔ s.objection? = none ∧ s = s' := by
  unfold Settings.check
  cases s.objection? with
  | none => exact ⟨fun h => ⟨rfl, Except.ok.inj h⟩, fun h => congrArg Except.ok h.2⟩
  | some objection => exact ⟨nofun, fun h => absurd h.1 nofun⟩

/-- **Settings that hold for each field what its winner means.** -/
def Surroundings.Determines (e : Surroundings) (s : Settings) : Prop :=
  ∀ f, ∃ value, e.winner f = some value ∧ f.Converts value (s.value f)

/-- What is read from the layers is what the winners determine. -/
theorem layers_determined (h : e.SetFields) :
    ∃ root, layers e = .ok root
      ∧ ∀ s, Settings.read layerFormat root = .ok s ↔ e.Determines s := by
  obtain ⟨root, hlayers, hsections, hvalues⟩ := layers_winner h
  refine ⟨root, hlayers, fun s => ?_⟩
  rw [Settings.read_eq_ok_iff hsections]
  simp only [hvalues]
  rfl

theorem load_eq_ok_iff (h : e.SetFields) {s : Settings} :
    load e = .ok s ↔ e.Determines s ∧ s.objection? = none := by
  obtain ⟨root, hlayers, hread⟩ := layers_determined h
  unfold load
  rw [hlayers, ok_bind, ← hread]
  constructor
  · intro hload
    obtain ⟨s', hs', hcheck⟩ := bind_eq_ok hload
    obtain ⟨hobjection, rfl⟩ := Settings.check_eq_ok_iff.mp (mapError_eq_ok hcheck)
    exact ⟨mapError_eq_ok hs', hobjection⟩
  · rintro ⟨hs, hobjection⟩
    rw [hs]
    show s.check.mapError _ = _
    rw [Settings.check_eq_ok_iff.mpr ⟨hobjection, rfl⟩]
    rfl

/-- The winners determine at most one. -/
theorem Surroundings.Determines.unique (h : e.SetFields) {s s' : Settings} (hs : e.Determines s)
    (hs' : e.Determines s') : s = s' := by
  obtain ⟨root, -, hread⟩ := layers_determined h
  exact Except.ok.inj (((hread s).mpr hs).symm.trans ((hread s').mpr hs'))

/-- Where every field has a winner that means something, the winners determine settings. -/
theorem Surroundings.exists_determined
    (h : ∀ f, ∃ value, e.winner f = some value ∧ ∃ x, f.Converts value x) :
    ∃ s, e.Determines s := by
  have hvalue : ∀ f : Field, ∃ x : f.Value, ∃ value, e.winner f = some value
      ∧ f.Converts value x := by
    intro f
    obtain ⟨value, hwinner, x, hx⟩ := h f
    exact ⟨x, value, hwinner, hx⟩
  choose x hx using hvalue
  obtain ⟨s, hs⟩ := Settings.exists_values x
  refine ⟨s, fun f => ?_⟩
  rw [hs]
  exact hx f

/-- Only the address of the database and the secret can be without a winner. -/
theorem Surroundings.winner_ne_none {f : Field} (hurl : f ≠ .url) (hsecret : f ≠ .secret) :
    e.winner f ≠ none := by
  rw [winner_eq]
  intro hnone
  simp only [Option.or_eq_none_iff] at hnone
  exact builtIn_ne_none hurl hsecret hnone.2.2.2

/-- **Sources give way to each other field by field.** Settings are loaded exactly if each of their fields
is what the value of the first source that sets this very field means, and there is no objection to them.
Loading fails exactly if no source has the address of the database or the secret, if a value that prevails
means nothing for its field, or if there is an objection to what has been put together. And a field depends
on nothing but what the sources have for itself. -/
theorem fields_give_way_one_by_one (h : e.SetFields) :
    (∀ s, load e = .ok s ↔ e.Determines s ∧ s.objection? = none)
    ∧ ((∃ fault, load e = .error fault) ↔
        (e.winner .url = none ∨ e.winner .secret = none)
        ∨ (∃ f value, e.winner f = some value ∧ ∀ x, ¬f.Converts value x)
        ∨ ∃ s, e.Determines s ∧ s.objection? ≠ none)
    ∧ ∀ (e' : Surroundings) (s s' : Settings) (f : Field), e'.SetFields →
        load e = .ok s → load e' = .ok s' →
        (∀ source, e.value? f source = e'.value? f source) → s.value f = s'.value f := by
  refine ⟨fun s => load_eq_ok_iff h, ⟨?_, ?_⟩, ?_⟩
  · rintro ⟨fault, hfault⟩
    by_cases hall : ∀ f, ∃ value, e.winner f = some value ∧ ∃ x, f.Converts value x
    · -- every value means something, so it is the check that has failed
      obtain ⟨s, hs⟩ := Surroundings.exists_determined hall
      refine .inr (.inr ⟨s, hs, fun hobjection => ?_⟩)
      rw [(load_eq_ok_iff h).mpr ⟨hs, hobjection⟩] at hfault
      cases hfault
    · obtain ⟨f, hf⟩ := not_forall.mp hall
      cases hwinner : e.winner f with
      | none =>
        -- all other fields have a value that is built in
        refine .inl (by_contra fun hboth => ?_)
        obtain ⟨hurl, hsecret⟩ := not_or.mp hboth
        refine Surroundings.winner_ne_none ?_ ?_ hwinner
        · rintro rfl
          exact hurl hwinner
        · rintro rfl
          exact hsecret hwinner
      | some value =>
        exact .inr (.inl ⟨f, value, hwinner, fun x hx => hf ⟨value, hwinner, x, hx⟩⟩)
  · intro hwrong
    cases hload : load e with
    | error fault => exact ⟨fault, rfl⟩
    | ok s =>
      -- settings that are loaded have a value for each field, and nothing is wrong with them
      obtain ⟨hs, hobjection⟩ := (load_eq_ok_iff h).mp hload
      rcases hwrong with (hnone | hnone) | ⟨f, value, hwinner, hconvert⟩ | ⟨s', hs', hobjection'⟩
      · obtain ⟨value, hvalue, -⟩ := hs .url
        rw [hnone] at hvalue
        cases hvalue
      · obtain ⟨value, hvalue, -⟩ := hs .secret
        rw [hnone] at hvalue
        cases hvalue
      · obtain ⟨value', hvalue, hx⟩ := hs f
        rw [hwinner] at hvalue
        obtain rfl := Option.some.inj hvalue
        exact absurd hx (hconvert _)
      · exact absurd (hs.unique h hs' ▸ hobjection) hobjection'
  · intro e' s s' f h' hload hload' hsame
    obtain ⟨value, hwinner, hx⟩ := ((load_eq_ok_iff h).mp hload).1 f
    obtain ⟨value', hwinner', hx'⟩ := ((load_eq_ok_iff h').mp hload').1 f
    have hvalues : e.value? f = e'.value? f := funext hsame
    rw [Surroundings.winner, hvalues] at hwinner
    obtain rfl := Option.some.inj (hwinner.symm.trans hwinner')
    exact hx.unique hx'

/-- Two files that both set the issuer and the memory, of which one sets the secret, the port and the passes
too, and the other one the lanes, by a switch. The address of the database and a lifetime are variables. -/
def layered : Surroundings where
  files := [
    ("default.toml", "[jwt]\nsecret = \"a secret that is longer than 32 bytes\"\nissuer = \"a\"\n" ++
      "[server]\nhttp_port = 9000\n[password]\nmemory_kib = 4096\ntime_cost = 2.5\n"),
    ("production.toml", "[jwt]\nissuer = \"b\"\n[password]\nmemory_kib = \"8192\"\nparallelism = true\n")]
  environment := [("RUN_MODE", "production"), ("AUTH_DATABASE__URL", "postgres://localhost/auth"),
    ("AUTH_JWT__ACCESS_TTL_SECS", "+0120")]
  processors := 4

/-- The same surroundings with one more variable, for the issuer. -/
def layeredFurther : Surroundings :=
  { layered with environment := ("AUTH_JWT__ISSUER", "c") :: layered.environment }

/-- The same surroundings without the address of the database. -/
def layeredNowhere : Surroundings := { layered with environment := [("RUN_MODE", "production")] }

/-- The same surroundings with a port that needs more than 16 bits. -/
def layeredTooWide : Surroundings :=
  { layered with environment := ("AUTH_SERVER__HTTP_PORT", "70000") :: layered.environment }

/-- The file for the mode prevails over the default file, and a variable over both. The secret stands in
the section of the issuer and is not touched by that. Whole numbers, numerals, a fraction and a switch
are the numbers that they mean. Without an address nothing is loaded, nor with a port that is too
great. -/
theorem fields_give_way_one_by_one_layered :
    (∃ s s', load layered = .ok s ∧ load layeredFurther = .ok s'
      ∧ layered.Determines s ∧ s.objection? = none
      ∧ s.token.issuer = "b" ∧ s'.token.issuer = "c" ∧ s.token.secret = s'.token.secret
      ∧ s.httpPort = 9000 ∧ s.password = ⟨⟨8192, 3, 1⟩, 4⟩
      ∧ s.token.accessLifetime.nanoseconds = 120000000000)
    ∧ (∃ fault, load layeredNowhere = .error fault)
    ∧ ∃ fault, load layeredTooWide = .error fault := by
  have hlayered : layered.SetFields := by decide +kernel
  have hfurther : layeredFurther.SetFields :=
    ⟨by decide +kernel, by decide +kernel, hlayered.contents, by decide +kernel, by decide +kernel⟩
  have hnowhere : layeredNowhere.SetFields :=
    ⟨by decide +kernel, by decide +kernel, hlayered.contents, by decide +kernel, by decide +kernel⟩
  have htooWide : layeredTooWide.SetFields :=
    ⟨by decide +kernel, by decide +kernel, hlayered.contents, by decide +kernel, by decide +kernel⟩
  have hvalues : (load layered).toOption.map
      (fun s => (s.token.issuer, s.httpPort, s.password, s.token.accessLifetime.nanoseconds))
      = some ("b", 9000, ⟨⟨8192, 3, 1⟩, 4⟩, 120000000000) := by decide +kernel
  have hissuer' : (load layeredFurther).toOption.map (·.token.issuer) = some "c" := by
    decide +kernel
  have hsame : ∀ source : Source,
      layered.value? .secret source = layeredFurther.value? .secret source := by
    have hmode : layered.mode = layeredFurther.mode := by decide +kernel
    intro source
    cases source with
    | environment => decide +kernel
    | modeFile => exact congrArg (fileValue? layered.files · Field.secret) hmode
    | defaultFile => rfl
    | builtIn => rfl
  have hnoAddress : layeredNowhere.winner .url = none := by decide +kernel
  have hport : layeredTooWide.winner .httpPort = some (.text "70000") := by decide +kernel
  have hnumeral : (Scalar.text "70000").Denotes 70000 :=
    (layerNumber_eq_ok_iff none).mp (by decide +kernel)
  obtain ⟨s, hs, hvalues⟩ := Option.map_eq_some_iff.mp hvalues
  obtain ⟨s', hs', hissuer'⟩ := Option.map_eq_some_iff.mp hissuer'
  have hload := toOption_eq_some_iff.mp hs
  have hload' := toOption_eq_some_iff.mp hs'
  obtain ⟨hdetermined, hobjection⟩ := ((fields_give_way_one_by_one hlayered).1 s).mp hload
  obtain ⟨hissuer, hnumbers⟩ := Prod.mk.inj hvalues
  obtain ⟨hhttpPort, hnumbers⟩ := Prod.mk.inj hnumbers
  obtain ⟨hpassword, haccess⟩ := Prod.mk.inj hnumbers
  refine ⟨⟨s, s', hload, hload', hdetermined, hobjection, hissuer, hissuer', ?_, hhttpPort, hpassword,
    haccess⟩, ?_, ?_⟩
  · obtain ⟨-, -, hdepends⟩ := fields_give_way_one_by_one hlayered
    exact hdepends layeredFurther s s' .secret hfurther hload hload' hsame
  · exact (fields_give_way_one_by_one hnowhere).2.1.mpr (.inl (.inl hnoAddress))
  · refine (fields_give_way_one_by_one htooWide).2.1.mpr (.inr (.inl ⟨.httpPort, _, hport, ?_⟩))
    rintro n ⟨hn, hbits⟩
    rw [hn.unique hnumeral] at hbits
    exact absurd hbits (by decide)

end

end SessionAuth.Config
