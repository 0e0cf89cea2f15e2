import Entitlement.Proofs.Access.Decision
import Entitlement.Proofs.Access.Failures
import Entitlement.Proofs.Store.LoadedDatabase

/-!
# `Entitlement.Proofs.Store.StoreAgreement` — both kinds of stores lead to the same decisions

What a store has to answer about a data set can be said without a store (`Backend.Reflects`), and in whichever order
the entries come. A database that was filled with them answers so at any moment (`Serves.reflects`), and so does a
directory (`DataSet.reflects_directory`). Two such stores give the same rules and rows, and the same groups of a user
in some order. The order does not matter for the keys of the rules, only for the malformed list that is reported, so
a resolution has the same result over both or ends with a malformed list over both
(`Backend.Reflects.resolution_agrees`). With that the checks agree (`stores_agree`).
-/

namespace Entitlement

/-- The store answers what some entries say. The order of the groups of a user is not prescribed. -/
structure Backend.Reflects (b : Backend) (es : List Entry) : Prop where
  groups : ∀ u, ∃ gs, b.groups u = .ok gs ∧ gs.Nodup ∧
    ∀ g, g ∈ gs ↔ .group g true ∈ es ∧ .membership u g.id ∈ es
  rules : ∀ ids : Ascending RuleId, ids.size ≤ Sql.valueLimit → ∃ rs, b.rules ids = .ok rs ∧
    rs.Pairwise (fun r r' => compare r.id r'.id = .lt) ∧ ∀ r, r ∈ rs ↔ .rule r true ∈ es ∧ r.id ∈ ids
  primaryKey : ∃ key, b.primaryKey = .ok key ∧ key.getD defaultPrimaryKey = "uid"
  attributes : ∀ u, ∃ row?, b.attributes u "uid" = .ok row? ∧
    ∀ row, row? = some row ↔ ∃ name score, .user u name score ∈ es ∧ row = attributeRow u name score

/-! ## What both stores answer -/

/-- A database answers what its entries say, whatever it was asked before. -/
theorem Serves.reflects {s : Sql.Store} {c : Sql.Connection} {ds : DataSet} (h : Serves s c ds) :
    (s.backend c).Reflects ds.entries where
  groups u := by
    obtain ⟨gs, hgs, hascending, hmem⟩ := h.groupsOf u
    have hnodup : gs.Nodup := by
      apply hascending.imp
      intro g g' hlt heq
      rw [heq] at hlt
      exact Int.lt_irrefl _ hlt
    exact ⟨gs, hgs, hnodup, hmem⟩
  rules _ hsize := h.rulesAmong hsize
  primaryKey := ⟨some "uid", congrArg Except.ok h.primaryKey, rfl⟩
  attributes u := h.userRow u

namespace Held

variable {d : Directory} {es : List Entry}

theorem activeGroup?_eq_some_iff (h : Held d es) {k : GroupId} {g : Group} :
    d.activeGroup? k = some g ↔ .group g true ∈ es ∧ g.id = k := by
  rw [← h.groups]
  unfold Directory.activeGroup?
  cases d.groups.get? k with
  | none => simp
  | some s =>
    obtain ⟨group, active⟩ := s
    cases active <;> simp

theorem mem_memberships_iff (h : Held d es) {u : UserId} {k : GroupId} :
    (u, k) ∈ d.memberships ↔ .membership u k ∈ es := by
  rw [h.memberships, List.mem_filterMap]
  constructor
  · rintro ⟨e, he, hpair⟩
    cases e with
    | membership u' k' =>
      cases hpair
      exact he
    | rule | group | user => cases hpair
  · exact fun hmem => ⟨_, hmem, rfl⟩

/-- Entries that can stand together make a user a member of a group at most once. -/
theorem nodup_memberships (h : Held d es) (hes : es.Pairwise Entry.Compatible) : d.memberships.Nodup := by
  rw [h.memberships]
  refine List.Pairwise.filterMap Entry.membership? ?_ hes
  intro e e' hcompat m hm m' hm'
  cases e with
  | membership u k =>
    cases e' with
    | membership u' k' =>
      cases hm
      cases hm'
      exact hcompat
    | rule | group | user => cases hm'
  | rule | group | user => cases hm

/-- A directory answers what its entries say. -/
theorem reflects (h : Held d es) (hd : d.Built) (hkey : d.primaryKey = none) (hes : es.Pairwise Entry.Compatible) :
    d.backend.Reflects es where
  groups u := by
    refine ⟨d.groupsOf u, rfl, ?_, fun g => ?_⟩
    · apply (h.nodup_memberships hes).filterMap
      intro m m' g hm hm'
      -- a group is an active one under its own key only
      obtain ⟨huser, hg⟩ := Directory.groupFor_eq_some_iff.mp hm
      obtain ⟨huser', hg'⟩ := Directory.groupFor_eq_some_iff.mp hm'
      have hkeys := (h.activeGroup?_eq_some_iff.mp hg).2.symm.trans (h.activeGroup?_eq_some_iff.mp hg').2
      exact Prod.ext (huser.trans huser'.symm) hkeys
    · rw [Directory.mem_groupsOf, Directory.ActiveGroup]
      constructor
      · rintro ⟨k, hm, hg⟩
        obtain ⟨hgroup, rfl⟩ := h.activeGroup?_eq_some_iff.mp hg
        exact ⟨hgroup, h.mem_memberships_iff.mp hm⟩
      · rintro ⟨hgroup, hm⟩
        exact ⟨g.id, h.mem_memberships_iff.mpr hm, h.activeGroup?_eq_some_iff.mpr ⟨hgroup, rfl⟩⟩
  rules ids _ := by
    refine ⟨d.rulesAmong ids, rfl, hd.rulesAmong_ascending ids, fun r => ?_⟩
    rw [hd.mem_rulesAmong, Directory.activeRule?_eq_some_iff, h.rules, and_iff_left rfl, and_comm]
  primaryKey := ⟨none, congrArg Except.ok hkey, rfl⟩
  attributes u := ⟨d.rows.get? u, rfl, h.rows u⟩

end Held

namespace DataSet

/-- No entry declares a column that identifies users. -/
theorem primaryKey_directory (ds : DataSet) : ds.directory.primaryKey = none := by
  have hkey (es : List Entry) (d : Directory) (hd : d.primaryKey = none) :
      (es.foldl Entry.addToDirectory d).primaryKey = none := by
    induction es generalizing d with
    | nil => exact hd
    | cons e rest ih =>
      refine ih _ ?_
      cases e <;> exact hd
  exact hkey ds.entries {} rfl

theorem reflects_directory (ds : DataSet) : ds.directory.backend.Reflects ds.entries :=
  ds.held_directory.reflects ds.built_directory ds.primaryKey_directory ds.compatible

end DataSet

/-! ## Stores that answer the same -/

namespace Backend.Reflects

variable {b b' : Backend} {es es' : List Entry} {u : UserId} {mode : Condition.Mode}

/-- What a store answers says nothing about the order of the entries. -/
theorem of_perm (h : b.Reflects es) (hperm : es.Perm es') : b.Reflects es' where
  groups u := by
    simp only [← hperm.mem_iff]
    exact h.groups u
  rules ids hsize := by
    simp only [← hperm.mem_iff]
    exact h.rules ids hsize
  primaryKey := h.primaryKey
  attributes u := by
    simp only [← hperm.mem_iff]
    exact h.attributes u

/-- The groups of a user are the same, in some order. -/
theorem groups_perm (h : b.Reflects es) (h' : b'.Reflects es) (u : UserId) :
    ∃ gs gs', b.groups u = .ok gs ∧ b'.groups u = .ok gs' ∧ gs.Perm gs' := by
  obtain ⟨gs, hgs, hnodup, hmem⟩ := h.groups u
  obtain ⟨gs', hgs', hnodup', hmem'⟩ := h'.groups u
  refine ⟨gs, gs', hgs, hgs', (List.perm_ext_iff_of_nodup hnodup hnodup').mpr fun g => ?_⟩
  exact (hmem g).trans (hmem' g).symm

/-- The rules among a set of keys are the same. -/
theorem rules_eq (h : b.Reflects es) (h' : b'.Reflects es) {ids : Ascending RuleId}
    (hsize : ids.size ≤ Sql.valueLimit) : ∃ rs, b.rules ids = .ok rs ∧ b'.rules ids = .ok rs ∧
      (ids.isEmpty = true → rs = []) := by
  obtain ⟨rs, hrs, hascending, hmem⟩ := h.rules ids hsize
  obtain ⟨rs', hrs', hascending', hmem'⟩ := h'.rules ids hsize
  have hnodup {rs : List Rule} (hs : rs.Pairwise fun r r' => compare r.id r'.id = .lt) : rs.Nodup := by
    apply hs.imp
    intro r r' hlt heq
    have hself : compare r'.id r'.id = .eq := Std.ReflCmp.compare_self
    rw [heq, hself] at hlt
    cases hlt
  have hperm : rs.Perm rs' := (List.perm_ext_iff_of_nodup (hnodup hascending) (hnodup hascending')).mpr fun r =>
    (hmem r).trans (hmem' r).symm
  have heq : rs = rs' := by
    apply hperm.eq_of_pairwise ?_ hascending hascending'
    intro r r' _ _ hlt hgt
    have hne : compare r'.id r.id ≠ .lt := Std.OrientedCmp.not_lt_of_lt hlt
    exact absurd hgt hne
  refine ⟨rs, hrs, heq ▸ hrs', fun hempty => List.eq_nil_iff_forall_not_mem.mpr fun r hr => ?_⟩
  exact Ascending.not_mem_of_isEmpty hempty r.id ((hmem r).mp hr).2

/-- The attributes of a user are the same. -/
theorem attributes_eq (h : b.Reflects es) (h' : b'.Reflects es) (u : UserId) :
    ∃ row?, b.attributes u "uid" = .ok row? ∧ b'.attributes u "uid" = .ok row? := by
  obtain ⟨row?, hrow, hmem⟩ := h.attributes u
  obtain ⟨row?', hrow', hmem'⟩ := h'.attributes u
  have heq : row? = row?' := Option.ext fun row => (hmem row).trans (hmem' row).symm
  exact ⟨row?, hrow, heq ▸ hrow'⟩

theorem row_eq_attributes (h : b.Reflects es) (u : UserId) : b.row u = b.attributes u "uid" := by
  obtain ⟨key, hkey, huid⟩ := h.primaryKey
  rw [Backend.row, hkey, ← huid]
  rfl

/-- **Resolutions.** Over two stores with the same entries a resolution has the same result, or it ends with a
    malformed list over both. Which list that is depends on the order of the groups. -/
theorem resolution_agrees (h : b.Reflects es) (h' : b'.Reflects es) (mode : Condition.Mode) (u : UserId)
    (hsize : ∀ gs ids, b'.groups u = .ok gs → ruleIdsOfGroups gs = .ok ids → ids.size ≤ Sql.valueLimit) :
    (∃ res, b.resolution mode u = .ok res ∧ b'.resolution mode u = .ok res) ∨
      ∃ l l', b.resolution mode u = .error (.malformedList l) ∧
        b'.resolution mode u = .error (.malformedList l') := by
  obtain ⟨gs, gs', hgs, hgs', hperm⟩ := h.groups_perm h' u
  have hok (ids : Ascending RuleId) : ruleIdsOfGroups gs = .ok ids ↔ ruleIdsOfGroups gs' = .ok ids := by
    simp only [ruleIdsOfGroups_eq_ok_iff, hperm.mem_iff]
  cases hids : ruleIdsOfGroups gs with
  | error l =>
    cases hids' : ruleIdsOfGroups gs' with
    | error l' =>
      exact .inr ⟨l, l', resolution_malformed hgs hids, resolution_malformed hgs' hids'⟩
    | ok ids =>
      rw [(hok ids).mpr hids'] at hids
      cases hids
  | ok ids =>
    have hids' := (hok ids).mp hids
    obtain ⟨rs, hrs, hrs', hnone⟩ := h.rules_eq h' (hsize gs' ids hgs' hids')
    obtain ⟨row?, hrow, hrow'⟩ := h.attributes_eq h' u
    rw [← h.row_eq_attributes] at hrow
    rw [← h'.row_eq_attributes] at hrow'
    exact .inl ⟨resolveRules mode row? rs, resolution_ok hgs hids hrs hnone hrow,
      resolution_ok hgs' hids' hrs' hnone hrow'⟩

/-- **Checks.** Over two stores with the same entries a check decides the same, or it ends with a malformed list
    over both. -/
theorem check_agrees (h : b.Reflects es) (h' : b'.Reflects es) {c : Checker} (hc : c.resolver.mode = .realtime)
    (names : RequestedNames) (u : UserId) (r : Relation)
    (hsize : ∀ gs ids, b'.groups u = .ok gs → ruleIdsOfGroups gs = .ok ids → ids.size ≤ Sql.valueLimit) :
    (∃ a, c.fresh b (.check names u r) = .ok a ∧ c.fresh b' (.check names u r) = .ok a) ∨
      ∃ l l', c.fresh b (.check names u r) = .error (.malformedList l) ∧
        c.fresh b' (.check names u r) = .error (.malformedList l') := by
  rw [Checker.fresh_eq_reply hc, Checker.fresh_eq_reply hc, Checker.reply, Checker.reply, Checker.decision,
    Checker.decision]
  by_cases he : c.enabled = true
  · rw [if_pos he, if_pos he, Backend.granted, Backend.granted]
    rcases h.resolution_agrees h' c.resolver.substitution u hsize with ⟨res, hres, hres'⟩ | ⟨l, l', hl, hl'⟩
    · rw [hres, hres']
      exact .inl ⟨_, rfl, rfl⟩
    · rw [hl, hl']
      exact .inr ⟨l, l', rfl, rfl⟩
  · rw [if_neg he, if_neg he]
    exact .inl ⟨_, rfl, rfl⟩

end Backend.Reflects

/-! ## The stores agree -/

/-- The relational store that a data set fills, after some questions. -/
def DataSet.relational (ds : DataSet) (qs : List Query) : Except Sql.Error Backend := do
  let s ← Sql.Store.ofTables Sql.defaultTables
  let (s, c) := s.observeAll { database := ← ds.database } qs
  return s.backend c

theorem DataSet.exists_relational (ds : DataSet) (qs : List Query) :
    ∃ s c, ds.relational qs = .ok (Sql.Store.backend s c) ∧ Serves s c ds := by
  obtain ⟨db, hdb, hloaded⟩ := ds.exists_database
  have htables : Sql.Store.ofTables Sql.defaultTables = .ok { tables := Sql.defaultTables } := rfl
  refine ⟨_, _, ?_, (Serves.start hloaded).observeAll qs⟩
  rw [DataSet.relational, htables, hdb]
  rfl

/-- **The stores agree.** The entries of a data set are added, in whichever orders, to a database with the standard
    tables and to a directory. Both succeed, and whatever the database was asked before, it then gives the same rules
    among a set of keys, the same groups of a user (in ascending order of their keys) and the same row of a user as
    the directory. A fresh checker decides the same over both, or it meets a malformed list over both. A query can
    only be put with so many values, so the sets of keys have to be that small. -/
theorem stores_agree (ds ds' : DataSet) (hperm : ds.entries.Perm ds'.entries) (qs : List Query) :
    ∃ b, ds.relational qs = .ok b ∧
      (∀ ids : Ascending RuleId, ids.size ≤ Sql.valueLimit →
        ∃ rs, b.rules ids = .ok rs ∧ ds'.directory.backend.rules ids = .ok rs) ∧
      (∀ u, ∃ gs gs', b.groups u = .ok gs ∧ ds'.directory.backend.groups u = .ok gs' ∧ gs.Perm gs' ∧
        gs.Pairwise fun g g' => g.id.value < g'.id.value) ∧
      (∀ u, ∃ row?, b.attributes u "uid" = .ok row? ∧ ds'.directory.backend.attributes u "uid" = .ok row?) ∧
      ∀ (c : Checker) (names : RequestedNames) (u : UserId) (r : Relation), c.resolver.mode = .realtime →
        (∀ ids, ruleIdsOfGroups (ds'.directory.groupsOf u) = .ok ids → ids.size ≤ Sql.valueLimit) →
        (∃ a, c.fresh b (.check names u r) = .ok a ∧
          c.fresh ds'.directory.backend (.check names u r) = .ok a) ∨
        ∃ l l', c.fresh b (.check names u r) = .error (.malformedList l) ∧
          c.fresh ds'.directory.backend (.check names u r) = .error (.malformedList l') := by
  obtain ⟨s, c, hb, hserves⟩ := ds.exists_relational qs
  have h := hserves.reflects.of_perm hperm
  have h' := ds'.reflects_directory
  refine ⟨s.backend c, hb, fun ids hsize => ?_, fun u => ?_, fun u => h.attributes_eq h' u, ?_⟩
  · obtain ⟨rs, hrs, hrs', -⟩ := h.rules_eq h' hsize
    exact ⟨rs, hrs, hrs'⟩
  · obtain ⟨gs, gs', hgs, hgs', hgroups⟩ := h.groups_perm h' u
    obtain ⟨gs'', hgs'', hascending, -⟩ := hserves.groupsOf u
    obtain rfl : gs = gs'' := Except.ok.inj (hgs.symm.trans hgs'')
    exact ⟨gs, gs', hgs, hgs', hgroups, hascending⟩
  · intro c names u r hc hsize
    refine h.check_agrees h' hc names u r fun gs ids hgs hids => hsize ids ?_
    obtain rfl : ds'.directory.groupsOf u = gs := Except.ok.inj hgs
    exact hids

/-- A user who is a member of a group with two rules, of an inactive one, and of one that is missing. -/
private def payroll : DataSet where
  entries := [.rule ⟨⟨2⟩, "Pay", "score>=18"⟩ true, .rule ⟨⟨1⟩, "Read", ""⟩ true, .group ⟨⟨10⟩, "staff", "1, 2"⟩ true,
    .group ⟨⟨11⟩, "old", "1;2"⟩ false, .membership ⟨7⟩ ⟨10⟩, .membership ⟨7⟩ ⟨11⟩, .membership ⟨7⟩ ⟨12⟩,
    .user ⟨7⟩ "Ann" 20]
  compatible := by decide

/-- The same, added the other way round. -/
private def payrollBackwards : DataSet where
  entries := payroll.entries.reverse
  compatible := by decide

/-- The user may use both rules, as the database says as well. -/
theorem stores_agree_payroll : ∃ b, payroll.relational [.attributes ⟨7⟩ "title"] = .ok b ∧
    (∃ rs, b.rules (Ascending.ofList [⟨2⟩, ⟨3⟩]) = .ok rs ∧
      payrollBackwards.directory.backend.rules (Ascending.ofList [⟨2⟩, ⟨3⟩]) = .ok rs) ∧
    Checker.realtime.fresh b (.check (.delimited "read,pay") ⟨7⟩ .and) = .ok (.decision true) := by
  obtain ⟨b, hb, hrules, -, -, hcheck⟩ := stores_agree payroll payrollBackwards (List.reverse_perm _).symm
    [.attributes ⟨7⟩ "title"]
  have hdirectory : Checker.realtime.fresh payrollBackwards.directory.backend
      (.check (.delimited "read,pay") ⟨7⟩ .and) = .ok (.decision true) := by decide +kernel
  refine ⟨b, hb, hrules _ (by decide), ?_⟩
  have hkeys : ∀ ids, ruleIdsOfGroups (payrollBackwards.directory.groupsOf ⟨7⟩) = .ok ids →
      ids.size ≤ Sql.valueLimit := by
    have hids : ruleIdsOfGroups (payrollBackwards.directory.groupsOf ⟨7⟩) = .ok (Ascending.ofList [⟨1⟩, ⟨2⟩]) := by
      decide +kernel
    rintro ids h
    obtain rfl := Except.ok.inj (hids.symm.trans h)
    decide
  rcases hcheck .realtime (.delimited "read,pay") ⟨7⟩ .and rfl hkeys with ⟨a, ha, ha'⟩ | ⟨l, l', -, hl'⟩
  · obtain rfl := Except.ok.inj (ha'.symm.trans hdirectory)
    exact ha
  · rw [hdirectory] at hl'
    cases hl'

end Entitlement
