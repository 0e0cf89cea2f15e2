import Entitlement.Proofs.Collection.Elements
import Entitlement.Proofs.Collection.Keyed
import Entitlement.Proofs.Rule.ListedRules
import Entitlement.Store.Directory

/-!
# `Entitlement.Proofs.Store.DirectoryContent` — what a store in memory holds for a user

A directory comes about by additions only (`Directory.Built`), so every rule stands under its own key. The
groups of a user and the rules among a set of keys can then be said without their lists: the user's active groups
(`ActiveGroup`), the active rules that one of them lists (`Selected`), and the first active group with a
malformed list (`FirstMalformedGroup`).
-/

namespace Entitlement.Directory

open Attribute (Row)

/-- The directories that additions lead to. -/
inductive Built : Directory → Prop where
  | empty : Built {}
  | addRule {d : Directory} (r : Rule) (active : Bool) : Built d → Built (d.addRule r active)
  | addGroup {d : Directory} (g : Group) (active : Bool) : Built d → Built (d.addGroup g active)
  | addMembership {d : Directory} (u : UserId) (g : GroupId) : Built d → Built (d.addMembership u g)
  | addRow {d : Directory} (u : UserId) (row : Row) : Built d → Built (d.addRow u row)
  | setPrimaryKey {d : Directory} (key : String) : Built d → Built (d.setPrimaryKey key)

variable {d : Directory} {u : UserId}

/-! ## Rules -/

/-- A rule stands under its own key. -/
theorem Built.rule_id (hd : d.Built) : ∀ (k : RuleId) (s : Stored Rule), d.rules.get? k = some s →
    s.item.id = k := by
  induction hd with
  | empty => exact fun k s h => nomatch h
  | addRule r active _ ih => exact Keyed.forall_insert ih rfl
  | addGroup g active _ ih => exact ih
  | addMembership u g _ ih => exact ih
  | addRow u row _ ih => exact ih
  | setPrimaryKey key _ ih => exact ih

theorem activeRule?_eq_some_iff {k : RuleId} {r : Rule} :
    d.activeRule? k = some r ↔ d.rules.get? k = some ⟨r, true⟩ := by
  unfold activeRule?
  cases d.rules.get? k with
  | none => simp
  | some s =>
    obtain ⟨rule, active⟩ := s
    cases active <;> simp

theorem Built.activeRule_id (hd : d.Built) {k : RuleId} {r : Rule} (h : d.activeRule? k = some r) :
    r.id = k := hd.rule_id k ⟨r, true⟩ (activeRule?_eq_some_iff.mp h)

/-- The rules among a set of keys are the active rules with one of the keys. -/
theorem Built.mem_rulesAmong (hd : d.Built) {ids : Ascending RuleId} {r : Rule} :
    r ∈ d.rulesAmong ids ↔ r.id ∈ ids ∧ d.activeRule? r.id = some r := by
  rw [rulesAmong, List.mem_filterMap]
  constructor
  · rintro ⟨k, hk, hr⟩
    obtain rfl := hd.activeRule_id hr
    exact ⟨hk, hr⟩
  · rintro ⟨hk, hr⟩
    exact ⟨r.id, hk, hr⟩

/-- They come in ascending order of their keys. -/
theorem Built.rulesAmong_ascending (hd : d.Built) (ids : Ascending RuleId) :
    (d.rulesAmong ids).Pairwise fun r s => compare r.id s.id = .lt := by
  refine List.Pairwise.filterMap d.activeRule? ?_ ids.ordered
  intro k k' hlt r hr s hs
  rw [hd.activeRule_id hr, hd.activeRule_id hs]
  exact hlt

/-! ## Groups -/

/-- The group is an active one of the user. -/
def ActiveGroup (d : Directory) (u : UserId) (g : Group) : Prop :=
  ∃ k, (u, k) ∈ d.memberships ∧ d.activeGroup? k = some g

/-- The rule is an active one that an active group of the user lists. -/
def Selected (d : Directory) (u : UserId) (r : Rule) : Prop :=
  d.activeRule? r.id = some r ∧ ∃ g, d.ActiveGroup u g ∧ g.Lists r.id

/-- The group is the first active one of the user, in the order of the memberships, whose list is malformed. -/
def FirstMalformedGroup (d : Directory) (u : UserId) (g : Group) : Prop :=
  ∃ front k back, d.memberships = front ++ (u, k) :: back ∧ d.activeGroup? k = some g ∧ ¬ g.WellFormed ∧
    ∀ k' g', (u, k') ∈ front → d.activeGroup? k' = some g' → g'.WellFormed

/-- The active group that a membership stands for. -/
def groupFor (d : Directory) (u : UserId) (m : UserId × GroupId) : Option Group :=
  if m.1 = u then d.activeGroup? m.2 else none

theorem groupsOf_eq (d : Directory) (u : UserId) : d.groupsOf u = d.memberships.filterMap (d.groupFor u) :=
  rfl

theorem groupFor_eq_some_iff {m : UserId × GroupId} {g : Group} :
    d.groupFor u m = some g ↔ m.1 = u ∧ d.activeGroup? m.2 = some g := by
  unfold groupFor
  split
  · next h => exact (and_iff_right h).symm
  · next h => exact iff_of_false (fun hg => nomatch hg) fun hg => h hg.1

theorem mem_groupsOf {g : Group} : g ∈ d.groupsOf u ↔ d.ActiveGroup u g := by
  rw [groupsOf_eq, List.mem_filterMap]
  constructor
  · rintro ⟨⟨member, k⟩, hm, hg⟩
    obtain ⟨rfl, hactive⟩ := groupFor_eq_some_iff.mp hg
    exact ⟨k, hm, hactive⟩
  · rintro ⟨k, hm, hg⟩
    exact ⟨(u, k), hm, groupFor_eq_some_iff.mpr ⟨rfl, hg⟩⟩

/-- All lists of the user's active groups are well-formed, or there is a first one that is not. -/
theorem wellFormed_or_first (d : Directory) (u : UserId) :
    (∀ g, d.ActiveGroup u g → g.WellFormed) ∨ ∃ g, d.FirstMalformedGroup u g := by
  rcases forall_or_first (fun m => ∀ g, d.groupFor u m = some g → g.WellFormed) d.memberships with
    h | ⟨front, ⟨member, k⟩, back, hsplit, hfront, hm⟩
  · refine .inl fun g hg => ?_
    obtain ⟨k, hk, hg⟩ := hg
    exact h (u, k) hk g (groupFor_eq_some_iff.mpr ⟨rfl, hg⟩)
  · obtain ⟨g, hm⟩ := Classical.not_forall.mp hm
    obtain ⟨hg, hbad⟩ := Classical.not_imp.mp hm
    obtain ⟨rfl, hactive⟩ := groupFor_eq_some_iff.mp hg
    refine .inr ⟨g, front, k, back, hsplit, hactive, hbad, fun k' g' hk' hg' => ?_⟩
    exact hfront _ hk' g' (groupFor_eq_some_iff.mpr ⟨rfl, hg'⟩)

/-- The keys of the rules that the user's groups list, or the first malformed list among them. -/
theorem ruleIdsOfGroups_groupsOf_ok (h : ∀ g, d.ActiveGroup u g → g.WellFormed) :
    ∃ ids, ruleIdsOfGroups (d.groupsOf u) = .ok ids ∧
      ∀ id, id ∈ ids ↔ ∃ g, d.ActiveGroup u g ∧ g.Lists id := by
  obtain ⟨ids, hids, hmem⟩ := ruleIdsOfGroups_ok fun g hg => h g (mem_groupsOf.mp hg)
  refine ⟨ids, hids, fun id => ?_⟩
  rw [hmem]
  simp only [mem_groupsOf]

theorem ruleIdsOfGroups_groupsOf_error {g : Group} {segment : String} (h : d.FirstMalformedGroup u g)
    (hs : g.FirstMalformed segment) : ruleIdsOfGroups (d.groupsOf u) = .error ⟨g.id, segment⟩ := by
  obtain ⟨front, k, back, hsplit, hg, -, hfront⟩ := h
  have hgroup : d.groupFor u (u, k) = some g := groupFor_eq_some_iff.mpr ⟨rfl, hg⟩
  rw [groupsOf_eq, hsplit, List.filterMap_append, List.filterMap_cons_some hgroup]
  refine ruleIdsOfGroups_error (fun g' hg' => ?_) hs
  obtain ⟨⟨member, k'⟩, hk', hg'⟩ := List.mem_filterMap.mp hg'
  obtain ⟨rfl, hactive⟩ := groupFor_eq_some_iff.mp hg'
  exact hfront k' g' hk' hactive

end Entitlement.Directory
