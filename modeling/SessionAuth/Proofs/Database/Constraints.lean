import Mathlib.Data.List.Nodup
import SessionAuth.Proofs.Database.Tables

/-!
The constraints that the tables are declared with.

Identifiers, addresses and digests are unique, and what a session refers to is there. The database
checks the part of this that concerns the row to be inserted and refuses the statement otherwise, so
that the constraints hold of whatever it has ever been asked to do (`Constrained.run`).
-/

set_option autoImplicit false

namespace SessionAuth.Database

/-! ## Values that no two rows share -/

/-- A list whose last entry is new has no entry twice. -/
theorem nodup_snoc {α : Type} {l : List α} {a : α} (h : l.Nodup) (ha : a ∉ l) :
    (l ++ [a]).Nodup := by
  rw [← List.concat_eq_append, List.nodup_concat]
  exact ⟨ha, h⟩

/-- A value that no row has can be had by one more row. -/
theorem nodup_map_snoc {α β : Type} {f : α → β} {l : List α} {a : α} (h : (l.map f).Nodup)
    (ha : ∀ b ∈ l, f b ≠ f a) : ((l ++ [a]).map f).Nodup := by
  rw [List.map_append]
  refine nodup_snoc h fun hmem => ?_
  obtain ⟨b, hb, heq⟩ := List.mem_map.mp hmem
  exact ha b hb heq

/-- A row is found by a value that no other row has. -/
theorem find?_eq_some {α β : Type} [BEq β] [LawfulBEq β] {f : α → β} {l : List α} {a : α}
    (h : (l.map f).Nodup) (ha : a ∈ l) : l.find? (f · == f a) = some a := by
  cases hfind : l.find? (f · == f a) with
  | none => exact absurd (beq_self_eq_true (f a)) (List.find?_eq_none.mp hfind a ha)
  | some b =>
    rw [List.inj_on_of_nodup_map h (List.mem_of_find?_eq_some hfind) ha (eq_of_find? hfind)]

/-! ## The constraints -/

/-- **The tables meet their constraints.** -/
structure Tables.Constrained (t : Tables) : Prop where
  userIds : (t.users.map (·.id)).Nodup
  emails : (t.users.map (·.email)).Nodup
  ids : (t.sessions.map (·.id)).Nodup
  digests : (t.sessions.map (·.digest)).Nodup
  /-- The owner of a session is there. -/
  owners : ∀ s ∈ t.sessions, ∃ u ∈ t.users, u.id = s.userId
  /-- The session that another one has replaced is there. -/
  predecessors : ∀ s ∈ t.sessions, ∀ p, s.rotatedFrom = some p → ∃ r ∈ t.sessions, r.id = p

namespace Tables.Constrained

variable {t t' : Tables}

theorem empty : Constrained {} :=
  ⟨List.nodup_nil, List.nodup_nil, List.nodup_nil, List.nodup_nil, nofun, nofun⟩

theorem eq_of_id (h : t.Constrained) {a b : SessionRow} (ha : a ∈ t.sessions)
    (hb : b ∈ t.sessions) (hid : a.id = b.id) : a = b := List.inj_on_of_nodup_map h.ids ha hb hid

/-! ## What statements keep -/

theorem insertUser {u : UserRow} (h : t.Constrained) (hins : t.insertUser u = .ok t') :
    t'.Constrained := by
  obtain ⟨rfl, hid, hemail⟩ := insertUser_ok hins
  refine ⟨nodup_map_snoc h.userIds hid, nodup_map_snoc h.emails hemail, h.ids, h.digests, ?_,
    h.predecessors⟩
  intro s hs
  obtain ⟨u', hu', heq⟩ := h.owners s hs
  exact ⟨u', List.mem_append_left _ hu', heq⟩

/-- A row that refers to what is there is added, whether or not this is checked. -/
theorem added {s : NewSession} {now : Instant} (h : t.Constrained)
    (howner : ∃ u ∈ t.users, u.id = s.userId)
    (hback : ∀ p, s.rotatedFrom = some p → ∃ r ∈ t.sessions, r.id = p)
    (hins : t.insertSession s now = .ok t') : t'.Constrained := by
  obtain ⟨rfl, hid, hdigest⟩ := insertSession_ok hins
  refine ⟨h.userIds, h.emails, nodup_map_snoc h.ids hid, nodup_map_snoc h.digests hdigest, ?_, ?_⟩
  · intro r hr
    rcases List.mem_append.mp hr with hr | hr
    · exact h.owners r hr
    · rw [List.mem_singleton.mp hr]
      exact howner
  · intro r hr p hp
    -- whoever is pointed to was there before the insertion
    have hold : ∃ q ∈ t.sessions, q.id = p := by
      rcases List.mem_append.mp hr with hr | hr
      · exact h.predecessors r hr p hp
      · rw [List.mem_singleton.mp hr] at hp
        exact hback p hp
    obtain ⟨q, hq, hqp⟩ := hold
    exact ⟨q, List.mem_append_left _ hq, hqp⟩

theorem insertSession {s : NewSession} {now : Instant} (h : t.Constrained)
    (hrefs : t.checksReferences = true) (hins : t.insertSession s now = .ok t') :
    t'.Constrained := by
  obtain ⟨howner, hback⟩ := insertSession_refers hrefs hins
  exact h.added howner hback hins

/-- A change that only revokes keeps all that the constraints are about. -/
theorem marked {f : SessionRow → SessionRow} (h : t.Constrained) (hf : Marks f) :
    Constrained { t with sessions := t.sessions.map f } := by
  refine ⟨h.userIds, h.emails, ?_, ?_, ?_, ?_⟩
  · rw [List.map_map]
    exact (congrArg List.Nodup (List.map_congr_left fun r _ => hf.id r)).mpr h.ids
  · rw [List.map_map]
    exact (congrArg List.Nodup (List.map_congr_left fun r _ => hf.digest r)).mpr h.digests
  · intro _ hr
    obtain ⟨r, hr', rfl⟩ := List.mem_map.mp hr
    rw [hf.userId]
    exact h.owners r hr'
  · intro _ hr p hp
    obtain ⟨r, hr', rfl⟩ := List.mem_map.mp hr
    rw [hf.rotatedFrom] at hp
    obtain ⟨q, hq, hqp⟩ := h.predecessors r hr' p hp
    exact ⟨f q, List.mem_map_of_mem hq, (hf.id q).trans hqp⟩

theorem revoke {test : SessionRow → Bool} {moment : Instant} (h : t.Constrained) :
    (t.revoke test moment).2.Constrained := h.marked revokedBy_marks

/-- **Every statement keeps the constraints**, as long as references are checked. -/
theorem run {now : Instant} {s : Statement} {o : Outcome} (h : t.Constrained)
    (hrefs : t.checksReferences = true) (hrun : t.run now s = .ok (o, t')) : t'.Constrained := by
  cases s with
  | insertUser u => exact h.insertUser (inserted hrun)
  | insertSession s => exact h.insertSession hrefs (inserted hrun)
  | revokeById id moment =>
    obtain rfl := congrArg Prod.snd (Except.ok.inj hrun)
    exact h.revoke
  | revokeByDigest digest =>
    obtain rfl := congrArg Prod.snd (Except.ok.inj hrun)
    exact h.revoke
  | revokeByUser userId =>
    obtain rfl := congrArg Prod.snd (Except.ok.inj hrun)
    exact h.revoke
  | _ =>
    -- all other statements leave the tables alone
    obtain rfl := congrArg Prod.snd (Except.ok.inj hrun)
    exact h

end Tables.Constrained

end SessionAuth.Database
