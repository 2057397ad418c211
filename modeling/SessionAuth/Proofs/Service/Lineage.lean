import Mathlib.Data.List.Chain
import Mathlib.Data.List.Induction
import SessionAuth.Proofs.Database.Constraints
import SessionAuth.Proofs.Service.Effect

/-!
The lineage of sessions: which session has replaced which.

A row that has replaced another one points back to it. Two facts about single rows make up the
invariant, besides the uniqueness of identifiers and digests: who is pointed to has been there
before, belongs to the same user and is revoked; and nobody is pointed to twice. That a rotation
keeps the second one rests on the first: the row that it replaces is not revoked, and so nobody has
pointed to it yet.

From the two facts alone the table falls into chains (`Lineage.chains`). A run adds which chains there
are: one for every login that has been answered.
-/

set_option autoImplicit false

namespace SessionAuth

open Database (SessionRow NewSession Tables Marks Condition)
open Relational (Rotates)

/-! ## The invariant -/

/-- **The lineage of a table of sessions**, in the order of insertion. -/
structure Lineage (rows : List SessionRow) : Prop where
  ids : (rows.map (·.id)).Nodup
  digests : (rows.map (·.digest)).Nodup
  /-- Who is pointed to has been inserted earlier for the same user, and is revoked. -/
  back : ∀ before row behind, rows = before ++ row :: behind → ∀ p, row.rotatedFrom = some p →
    ∃ old ∈ before, old.id = p ∧ old.userId = row.userId ∧ old.revokedAt.isSome
  /-- Nobody is pointed to twice. -/
  single : (rows.filterMap (·.rotatedFrom)).Nodup

namespace Lineage

variable {rows : List SessionRow} {r : SessionRow}

theorem empty : Lineage [] := by
  refine ⟨List.nodup_nil, List.nodup_nil, fun before row behind h => ?_, List.nodup_nil⟩
  simp at h

/-- Who is pointed to is there and is revoked. -/
theorem pointed (h : Lineage rows) (hr : r ∈ rows) {p : SessionId} (hp : r.rotatedFrom = some p) :
    ∃ old ∈ rows, old.id = p ∧ old.userId = r.userId ∧ old.revokedAt.isSome := by
  obtain ⟨before, behind, rfl⟩ := List.append_of_mem hr
  obtain ⟨old, hold, hid⟩ := h.back before r behind rfl p hp
  exact ⟨old, List.mem_append_left _ hold, hid⟩

/-- Rows with one identifier are one row. -/
theorem eq_of_id (h : Lineage rows) {a b : SessionRow} (ha : a ∈ rows) (hb : b ∈ rows)
    (hid : a.id = b.id) : a = b := List.inj_on_of_nodup_map h.ids ha hb hid

/-- Nobody points to a row that is not revoked. -/
theorem not_pointed (h : Lineage rows) (hr : r ∈ rows) (hopen : r.revokedAt = none) :
    r.id ∉ rows.filterMap (·.rotatedFrom) := by
  intro hp
  obtain ⟨next, hnext, hid⟩ := List.mem_filterMap.mp hp
  obtain ⟨old, hold, hold', -, hrev⟩ := h.pointed hnext hid
  rw [h.eq_of_id hold hr hold', hopen] at hrev
  cases hrev

/-! ## What changes keep -/

/-- A revocation keeps the lineage. -/
theorem map (h : Lineage rows) {f : SessionRow → SessionRow} (hf : Marks f) :
    Lineage (rows.map f) := by
  refine ⟨?_, ?_, ?_, by rw [hf.filterMap_rotatedFrom]; exact h.single⟩
  · rw [List.map_map]
    refine (congrArg List.Nodup (List.map_congr_left fun r _ => hf.id r)).mpr h.ids
  · rw [List.map_map]
    refine (congrArg List.Nodup (List.map_congr_left fun r _ => hf.digest r)).mpr h.digests
  · intro before row behind hsplit p hp
    -- a marked row stands where the row itself stood, with the same rows before it
    obtain ⟨before', rest, rfl, rfl, hrest⟩ := List.map_eq_append_iff.mp hsplit
    obtain ⟨row', behind', rfl, rfl, rfl⟩ := List.map_eq_cons_iff.mp hrest
    rw [hf.rotatedFrom] at hp
    obtain ⟨old, hold, hid, huser, hrev⟩ := h.back before' row' behind' rfl p hp
    refine ⟨f old, List.mem_map_of_mem hold, ?_, ?_, hf.revoked old hrev⟩
    · rw [hf.id, hid]
    · rw [hf.userId, hf.userId, huser]

/-- A new row keeps the lineage if it points to nobody, or to a revoked row of its user that nobody has
pointed to yet. -/
theorem append (h : Lineage rows) (hid : ∀ a ∈ rows, a.id ≠ r.id)
    (hdigest : ∀ a ∈ rows, a.digest ≠ r.digest)
    (hback : ∀ p, r.rotatedFrom = some p →
      (∃ old ∈ rows, old.id = p ∧ old.userId = r.userId ∧ old.revokedAt.isSome)
        ∧ p ∉ rows.filterMap (·.rotatedFrom)) :
    Lineage (rows ++ [r]) := by
  refine ⟨Database.nodup_map_snoc h.ids hid, Database.nodup_map_snoc h.digests hdigest, ?_, ?_⟩
  -- the row in question is the new one, or it is one of the others and nothing before it is new
  · intro before row behind hsplit p hp
    rcases List.eq_nil_or_concat behind with rfl | ⟨behind', last, rfl⟩
    · obtain ⟨rfl, hrow⟩ := List.append_inj' hsplit rfl
      cases hrow
      exact (hback p hp).1
    · rw [List.concat_eq_append, ← List.cons_append, ← List.append_assoc] at hsplit
      exact h.back before row behind' (List.append_inj' hsplit rfl).1 p hp
  · rw [List.filterMap_append]
    cases hr : r.rotatedFrom with
    | none =>
      have hnil : [r].filterMap (·.rotatedFrom) = [] := by simp [hr]
      rw [hnil, List.append_nil]
      exact h.single
    | some p =>
      have hone : [r].filterMap (·.rotatedFrom) = [p] := by simp [hr]
      rw [hone]
      exact Database.nodup_snoc h.single (hback p hr).2

/-- A session that is opened keeps the lineage. -/
theorem insert {t t' : Tables} {n : NewSession} {now : Instant} (h : Lineage t.sessions)
    (hn : n.rotatedFrom = none) (hins : t.insertSession n now = .ok t') : Lineage t'.sessions := by
  obtain ⟨rfl, hid, hdigest⟩ := Database.insertSession_ok hins
  refine h.append hid hdigest fun p hp => ?_
  rw [show (n.row now).rotatedFrom = none from hn] at hp
  cases hp

/-- A session that is replaced keeps the lineage. -/
theorem rotate {t t' : Tables} {now expires : Instant} {oldSecret newSecret : String}
    {client : Client} {old : SessionRow} {rotated : RotatedSession} (h : Lineage t.sessions)
    (hrot : Rotates t now oldSecret newSecret expires client old rotated t') :
    Lineage t'.sessions := by
  have hold : old ∈ t.sessions := hrot.mem
  have hopen : old.revokedAt = none := hrot.revokedAt_eq
  obtain ⟨rfl, hid, hdigest⟩ := Database.insertSession_ok hrot.replaced
  have hmarks : Marks (SessionRow.revokedBy (·.id == old.id) now.towardStorageEpoch) :=
    Database.revokedBy_marks
  -- the new row points to the old one, which the same rotation has just revoked
  refine (h.map hmarks).append hid hdigest ?_
  rintro _ ⟨⟩
  refine ⟨⟨_, List.mem_map_of_mem hold, hmarks.id old, hmarks.userId old, ?_⟩, ?_⟩
  · exact Database.revokedBy_isSome (beq_self_eq_true old.id)
  · rw [hmarks.filterMap_rotatedFrom]
    exact h.not_pointed hold hopen

/-- **Every exchange keeps the lineage.** -/
theorem effect {t t' : Tables} {x : Exchange} (h : Lineage t.sessions) (hx : Effect t x t') :
    Lineage t'.sessions := by
  cases hx with
  | refused => exact h
  | registered hins =>
    rw [Database.insertUser_sessions hins]
    exact h
  | loggedIn hins => exact h.insert rfl hins
  | refreshed _ hrot => exact h.rotate hrot
  | lost _ hrot => exact h.rotate hrot
  | validated => exact h
  | loggedOut _ _ => exact h.map Database.revokedBy_marks
  | loggedOutAll => exact h.map Database.revokedBy_marks

/-! ## Chains -/

/-- The rows before the last one have a lineage of their own. -/
theorem init (h : Lineage (rows ++ [r])) : Lineage rows := by
  refine ⟨?_, ?_, ?_, ?_⟩
  · have hids := h.ids
    rw [List.map_append] at hids
    exact hids.of_append_left
  · have hdigests := h.digests
    rw [List.map_append] at hdigests
    exact hdigests.of_append_left
  · rintro before row behind rfl p hp
    exact h.back before row (behind ++ [r]) (by simp) p hp
  · have hsingle := h.single
    rw [List.filterMap_append] at hsingle
    exact hsingle.of_append_left

/-- Nobody but the last row points to whom it points to. -/
theorem last_alone (h : Lineage (rows ++ [r])) {p : SessionId} (hp : r.rotatedFrom = some p) :
    ∀ a ∈ rows, a.rotatedFrom ≠ some p := by
  intro a ha hap
  have hsingle := h.single
  have hone : [r].filterMap (·.rotatedFrom) = [p] := by simp [hp]
  rw [List.filterMap_append, hone] at hsingle
  have hmem : p ∈ rows.filterMap (·.rotatedFrom) := List.mem_filterMap.mpr ⟨a, ha, hap⟩
  exact List.disjoint_of_nodup_append hsingle hmem (List.mem_singleton_self p)

end Lineage

/-- **A chain of sessions**: the first one has replaced none, each of the others has replaced the one
before it for the same user, and all but the last one are revoked. -/
structure SessionChain (c : List SessionRow) : Prop where
  root : ∃ first, c.head? = some first ∧ first.rotatedFrom = none
  links : c.IsChain fun a b => b.rotatedFrom = some a.id ∧ b.userId = a.userId
  spent : ∀ r ∈ c.dropLast, r.revokedAt.isSome

namespace SessionChain

variable {c : List SessionRow} {r : SessionRow}

theorem single (h : r.rotatedFrom = none) : SessionChain [r] :=
  ⟨⟨r, rfl, h⟩, List.isChain_singleton r, by simp⟩

/-- A chain is prolonged behind its last session. -/
theorem snoc {old : SessionRow} (h : SessionChain (c ++ [old]))
    (hlink : r.rotatedFrom = some old.id ∧ r.userId = old.userId) (hold : old.revokedAt.isSome) :
    SessionChain (c ++ [old] ++ [r]) := by
  refine ⟨?_, ?_, ?_⟩
  · obtain ⟨first, hfirst, hroot⟩ := h.root
    exact ⟨first, by rw [List.head?_append, hfirst]; rfl, hroot⟩
  · refine h.links.append (List.isChain_singleton r) ?_
    intro a ha b hb
    rw [List.getLast?_append, List.getLast?_singleton] at ha
    cases ha
    cases hb
    exact hlink
  · rw [List.dropLast_concat]
    intro a ha
    rcases List.mem_append.mp ha with ha | ha
    · exact h.spent a (by rw [List.dropLast_concat]; exact ha)
    · rw [List.mem_singleton.mp ha]
      exact hold

end SessionChain

/-- **The sessions fall into chains**, one for every session that has replaced none, in this order. -/
theorem Lineage.chains {rows : List SessionRow} (h : Lineage rows) :
    ∃ chains : List (List SessionRow), chains.flatten.Perm rows
      ∧ (∀ c ∈ chains, SessionChain c)
      ∧ chains.filterMap List.head? = rows.filter (·.rotatedFrom.isNone) := by
  induction rows using List.reverseRecOn with
  | nil => exact ⟨[], .nil, by simp, rfl⟩
  | append_singleton rows r ih =>
    obtain ⟨chains, hperm, hchains, hheads⟩ := ih h.init
    cases hr : r.rotatedFrom with
    | none =>
      refine ⟨chains ++ [[r]], ?_, ?_, ?_⟩
      · rw [List.flatten_append]
        exact hperm.append_right [r]
      · intro c hc
        rcases List.mem_append.mp hc with hc | hc
        · exact hchains c hc
        · rw [List.mem_singleton.mp hc]
          exact SessionChain.single hr
      · rw [List.filterMap_append, List.filter_append, hheads]
        simp [hr]
    | some p =>
      -- the row that is pointed to stands in some chain, and it is the last one there: a row behind it
      -- would point to it as well
      obtain ⟨old, hold, hid, huser, hrev⟩ := h.back rows r [] rfl p hr
      obtain ⟨c, hc, holdc⟩ := List.mem_flatten.mp (hperm.mem_iff.mpr hold)
      obtain ⟨l₁, l₂, rfl⟩ := List.append_of_mem hc
      obtain ⟨c₁, c₂, rfl⟩ := List.append_of_mem holdc
      have hlast : c₂ = [] := by
        cases c₂ with
        | nil => rfl
        | cons next rest =>
          exfalso
          have hnext : next ∈ rows := hperm.mem_iff.mp (by simp)
          have hlink := (List.isChain_append_cons_cons.mp (hchains _ hc).links).2.1.1
          rw [hid] at hlink
          exact h.last_alone hr next hnext hlink
      subst hlast
      refine ⟨l₁ ++ (c₁ ++ [old] ++ [r]) :: l₂, ?_, ?_, ?_⟩
      · have hlater : ([r] ++ l₂.flatten).Perm (l₂.flatten ++ [r]) := List.perm_append_comm
        have hmove : (l₁ ++ (c₁ ++ [old] ++ [r]) :: l₂).flatten.Perm
            ((l₁ ++ (c₁ ++ [old]) :: l₂).flatten ++ [r]) := by
          simp only [List.flatten_append, List.flatten_cons, List.append_assoc]
          exact ((hlater.append_left _).append_left _).append_left _
        exact hmove.trans (hperm.append_right [r])
      · intro d hd
        rcases List.mem_append.mp hd with hd | hd
        · exact hchains d (List.mem_append_left _ hd)
        rcases List.mem_cons.mp hd with rfl | hd
        · refine (hchains _ hc).snoc ⟨?_, huser.symm⟩ hrev
          rw [hid, hr]
        · exact hchains d (List.mem_append_right _ (List.mem_cons_of_mem _ hd))
      · have hhead : (c₁ ++ [old] ++ [r]).head? = (c₁ ++ [old]).head? := by
          rw [List.head?_append_of_ne_nil _ (by simp)]
        have hnone : [r].filter (·.rotatedFrom.isNone) = [] := by simp [hr]
        rw [List.filter_append, hnone, List.append_nil, ← hheads, List.filterMap_append,
          List.filterMap_append, List.filterMap_cons, List.filterMap_cons, hhead]

/-! ## Runs -/

/-- The tokens of a login. -/
def Exchange.opened? : Exchange → Option IssuedTokens
  | ⟨.login _ _ _, .ok tokens⟩ => some tokens
  | _ => none

/-- The digests of the sessions that have replaced none. -/
def rootDigests (rows : List SessionRow) : List Bytes :=
  (rows.filter (·.rotatedFrom.isNone)).map (·.digest)

theorem rootDigests_map {f : SessionRow → SessionRow} (hf : Marks f) (rows : List SessionRow) :
    rootDigests (rows.map f) = rootDigests rows := by
  induction rows with
  | nil => rfl
  | cons r rest ih =>
    unfold rootDigests at *
    rw [List.map_cons, List.filter_cons, List.filter_cons, hf.rotatedFrom]
    split
    · rw [List.map_cons, List.map_cons, ih, hf.digest]
    · exact ih

theorem rootDigests_append (rows : List SessionRow) (r : SessionRow) :
    rootDigests (rows ++ [r])
      = rootDigests rows ++ if r.rotatedFrom.isNone then [r.digest] else [] := by
  unfold rootDigests
  rw [List.filter_append, List.map_append]
  cases hr : r.rotatedFrom <;> simp [hr]

/-- Only a login adds a session that has replaced none. -/
theorem rootDigests_effect {t t' : Tables} {x : Exchange} (hx : Effect t x t') :
    rootDigests t'.sessions = rootDigests t.sessions
      ++ ([x].filterMap Exchange.opened?).map (RefreshSecret.digest ·.refreshToken) := by
  have hrotates : ∀ {now expires : Instant} {a b : String} {client : Client} {old : SessionRow}
      {rotated : RotatedSession}, Rotates t now a b expires client old rotated t' →
      rootDigests t'.sessions = rootDigests t.sessions := by
    intro now expires a b client old rotated hrot
    rw [(Database.insertSession_ok hrot.replaced).1, rootDigests_append]
    show rootDigests (t.sessions.map _) ++ [] = _
    rw [List.append_nil]
    exact rootDigests_map Database.revokedBy_marks _
  cases hx with
  | @refused q e =>
    have hnone : Exchange.opened? ⟨q, .error e⟩ = none := by cases q <;> rfl
    rw [List.filterMap_cons_none hnone]
    exact (List.append_nil _).symm
  | registered hins =>
    rw [Database.insertUser_sessions hins]
    exact (List.append_nil _).symm
  | loggedIn hins =>
    rw [(Database.insertSession_ok hins).1, rootDigests_append]
    rfl
  | refreshed _ hrot => exact (hrotates hrot).trans (List.append_nil _).symm
  | lost _ hrot => exact (hrotates hrot).trans (List.append_nil _).symm
  | validated => exact (List.append_nil _).symm
  | loggedOut _ _ =>
    exact (rootDigests_map Database.revokedBy_marks _).trans (List.append_nil _).symm
  | loggedOutAll =>
    exact (rootDigests_map Database.revokedBy_marks _).trans (List.append_nil _).symm

/-- **The lineage of a run.** Whatever a service on empty tables has been asked to do, whatever its
clock and its random source did meanwhile, and whichever statements were refused or never answered:
its sessions have a lineage, and they fall into chains, one for every login that has been
answered. -/
theorem run_lineage (s : TableService) (pool : HashingPool) (l : List (Occasion Condition)) :
    Lineage (s.run l (.fresh pool)).2.tables.sessions
      ∧ ∃ chains : List (List SessionRow),
          chains.flatten.Perm (s.run l (.fresh pool)).2.tables.sessions
          ∧ (∀ c ∈ chains, SessionChain c)
          ∧ (chains.filterMap List.head?).map (·.digest)
              = ((s.run l (.fresh pool)).1.filterMap Exchange.opened?).map
                  (RefreshSecret.digest ·.refreshToken) := by
  have hrun := TableService.run_induction (s := s) (P := fun xs t => Lineage t.sessions
    ∧ rootDigests t.sessions
        = (xs.filterMap Exchange.opened?).map (RefreshSecret.digest ·.refreshToken))
    (fun xs t x t' h hx => ⟨h.1.effect hx, by
      rw [rootDigests_effect hx, h.2, List.filterMap_append, List.map_append]⟩)
    l [] (.fresh pool) ⟨Lineage.empty, rfl⟩
  rw [List.nil_append] at hrun
  obtain ⟨hlineage, hroots⟩ := hrun
  obtain ⟨chains, hperm, hchains, hheads⟩ := hlineage.chains
  refine ⟨hlineage, chains, hperm, hchains, ?_⟩
  rw [hheads]
  exact hroots

end SessionAuth
