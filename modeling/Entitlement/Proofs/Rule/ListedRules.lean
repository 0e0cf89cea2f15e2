import Entitlement.Proofs.Collection.Elements
import Entitlement.Rule.IdList

/-!
# `Entitlement.Proofs.Rule.ListedRules` — the rules that groups list

What a group's text says without reading it from left to right: which keys it lists (`Group.Lists`), whether it
is well-formed (`Group.WellFormed`), and which segment is reported when it is not (`Group.FirstMalformed`). The
keys of several groups are the union of what they list, and a malformed list is reported by the first group that
has one (`ruleIdsOfGroups_ok`, `ruleIdsOfGroups_error`). In which order the groups come therefore does not matter,
as long as there are keys (`ruleIdsOfGroups_eq_ok_iff`).
-/

namespace Entitlement

open Numeral (signedWithin? int64)

namespace Group

/-- The group's list has a segment that writes the key. -/
def Lists (g : Group) (id : RuleId) : Prop :=
  ∃ s ∈ segments g.rules.toList, signedWithin? int64 s = some id.value

/-- Every segment of the group's list writes a key. -/
def WellFormed (g : Group) : Prop :=
  ∀ s ∈ segments g.rules.toList, (signedWithin? int64 s).isSome

instance (g : Group) : Decidable g.WellFormed :=
  inferInstanceAs (Decidable (∀ s ∈ segments g.rules.toList, (signedWithin? int64 s).isSome))

/-- The segment is the first one of the group's list that writes no key. -/
def FirstMalformed (g : Group) (segment : String) : Prop :=
  ∃ front s back, segments g.rules.toList = front ++ s :: back ∧
    (∀ t ∈ front, (signedWithin? int64 t).isSome) ∧
    signedWithin? int64 s = none ∧ segment = String.ofList s

end Group

/-! ## One group -/

theorem RuleId.ofSegment_eq_ok_iff {s : List Char} {id : RuleId} :
    RuleId.ofSegment s = .ok id ↔ signedWithin? int64 s = some id.value := by
  obtain ⟨i⟩ := id
  unfold RuleId.ofSegment
  cases signedWithin? int64 s with
  | none => simp
  | some j =>
    rw [Except.ok.injEq, RuleId.mk.injEq, Option.some.injEq]

theorem RuleId.exists_ofSegment_iff {s : List Char} :
    (∃ id, RuleId.ofSegment s = .ok id) ↔ (signedWithin? int64 s).isSome := by
  rw [Option.isSome_iff_exists]
  constructor
  · rintro ⟨id, h⟩
    exact ⟨id.value, RuleId.ofSegment_eq_ok_iff.mp h⟩
  · rintro ⟨i, h⟩
    exact ⟨⟨i⟩, RuleId.ofSegment_eq_ok_iff.mpr h⟩

/-- When every segment is a key, the result has the keys that the segments write. -/
theorem parseIds_ok {list : String} (h : ∀ s ∈ segments list.toList, ∃ id, RuleId.ofSegment s = .ok id) :
    ∃ ids, parseIds list = .ok ids ∧ ∀ id, id ∈ ids ↔ ∃ s ∈ segments list.toList, RuleId.ofSegment s = .ok id := by
  obtain ⟨ids, hids, hmem⟩ := mapM_ok h
  refine ⟨Ascending.ofList ids, ?_, fun id => ?_⟩
  · rw [parseIds, hids]
    rfl
  · rw [Ascending.mem_ofList, hmem]

/-- Otherwise it is the first segment that is no key. -/
theorem parseIds_error {list : String} {front back : List (List Char)} {s : List Char}
    (hsplit : segments list.toList = front ++ s :: back) (hfront : ∀ t ∈ front, ∃ id, RuleId.ofSegment t = .ok id)
    (hs : ¬ ∃ id, RuleId.ofSegment s = .ok id) : parseIds list = .error (String.ofList s) := by
  have hread : RuleId.ofSegment s = .error (String.ofList s) := by
    rw [RuleId.exists_ofSegment_iff, Option.not_isSome_iff_eq_none] at hs
    rw [RuleId.ofSegment, hs]
  rw [parseIds, hsplit, mapM_error hfront hread]
  rfl

/-- A list is well-formed, or it has a first segment that is no key. -/
theorem Group.wellFormed_or_firstMalformed (g : Group) :
    g.WellFormed ∨ ∃ segment, g.FirstMalformed segment := by
  rcases forall_or_first (fun s => (signedWithin? int64 s).isSome) (segments g.rules.toList) with
    h | ⟨front, s, back, hsplit, hfront, hs⟩
  · exact .inl h
  · rw [Option.not_isSome_iff_eq_none] at hs
    exact .inr ⟨_, front, s, back, hsplit, hfront, hs, rfl⟩

/-- A well-formed list gives the keys it lists. -/
theorem Group.ruleIds_of_wellFormed {g : Group} (h : g.WellFormed) :
    ∃ ids, g.ruleIds = .ok ids ∧ ∀ id, id ∈ ids ↔ g.Lists id := by
  obtain ⟨ids, hids, hmem⟩ := parseIds_ok fun s hs => RuleId.exists_ofSegment_iff.mpr (h s hs)
  refine ⟨ids, ?_, fun id => ?_⟩
  · rw [Group.ruleIds, hids]
    rfl
  · rw [hmem, Group.Lists]
    simp only [RuleId.ofSegment_eq_ok_iff]

/-- A malformed list is reported by its first segment that is no key. -/
theorem Group.ruleIds_of_firstMalformed {g : Group} {segment : String} (h : g.FirstMalformed segment) :
    g.ruleIds = .error ⟨g.id, segment⟩ := by
  obtain ⟨front, s, back, hsplit, hfront, hs, rfl⟩ := h
  have hnot : ¬ ∃ id, RuleId.ofSegment s = .ok id := by
    rw [RuleId.exists_ofSegment_iff, hs]
    exact Bool.false_ne_true
  rw [Group.ruleIds, parseIds_error hsplit (fun t ht => RuleId.exists_ofSegment_iff.mpr (hfront t ht)) hnot]
  rfl

/-! ## Several groups -/

/-- The keys of several groups are read group by group and united. -/
theorem ruleIdsOfGroups_eq_mapM (gs : List Group) :
    ruleIdsOfGroups gs = (gs.mapM Group.ruleIds).map (List.foldr Ascending.union ∅) := by
  induction gs with
  | nil => rfl
  | cons g gs ih =>
    rw [ruleIdsOfGroups, ih, List.mapM_cons]
    cases g.ruleIds with
    | error e => rfl
    | ok ids =>
      cases gs.mapM Group.ruleIds with
      | error e => rfl
      | ok sets => rfl

theorem mem_foldr_union {sets : List (Ascending RuleId)} {id : RuleId} :
    id ∈ sets.foldr Ascending.union ∅ ↔ ∃ ids ∈ sets, id ∈ ids := by
  induction sets with
  | nil => simp
  | cons ids sets ih => simp [ih, or_comm]

/-- **Well-formed lists.** The keys are those that some group lists. -/
theorem ruleIdsOfGroups_ok {gs : List Group} (h : ∀ g ∈ gs, g.WellFormed) :
    ∃ ids, ruleIdsOfGroups gs = .ok ids ∧ ∀ id, id ∈ ids ↔ ∃ g ∈ gs, g.Lists id := by
  have hread (g : Group) (hg : g ∈ gs) := Group.ruleIds_of_wellFormed (h g hg)
  obtain ⟨sets, hsets, hmem⟩ := mapM_ok fun g hg => (hread g hg).imp fun _ hids => hids.1
  refine ⟨sets.foldr Ascending.union ∅, ?_, fun id => ?_⟩
  · rw [ruleIdsOfGroups_eq_mapM, hsets]
    rfl
  · rw [mem_foldr_union]
    constructor
    · rintro ⟨ids, hids, hid⟩
      -- the set that was read for `g` is the one its list describes
      obtain ⟨g, hg, hok⟩ := (hmem ids).mp hids
      obtain ⟨ids', hok', hlists⟩ := hread g hg
      rw [hok, Except.ok.injEq] at hok'
      subst hok'
      exact ⟨g, hg, (hlists id).mp hid⟩
    · rintro ⟨g, hg, hid⟩
      obtain ⟨ids, hok, hlists⟩ := hread g hg
      exact ⟨ids, (hmem ids).mpr ⟨g, hg, hok⟩, (hlists id).mpr hid⟩

/-- **A malformed list.** The error is that of the first group that has one. -/
theorem ruleIdsOfGroups_error {front back : List Group} {g : Group} {segment : String}
    (hfront : ∀ g' ∈ front, g'.WellFormed) (h : g.FirstMalformed segment) :
    ruleIdsOfGroups (front ++ g :: back) = .error ⟨g.id, segment⟩ := by
  have herror : (front ++ g :: back).mapM Group.ruleIds = .error ⟨g.id, segment⟩ := by
    refine mapM_error (fun g' hg' => ?_) (Group.ruleIds_of_firstMalformed h)
    obtain ⟨ids, hids, -⟩ := Group.ruleIds_of_wellFormed (hfront g' hg')
    exact ⟨ids, hids⟩
  rw [ruleIdsOfGroups_eq_mapM, herror]
  rfl

/-- There are keys exactly when all lists are well-formed. -/
theorem ruleIdsOfGroups_eq_ok_iff {gs : List Group} {ids : Ascending RuleId} :
    ruleIdsOfGroups gs = .ok ids ↔
      (∀ g ∈ gs, g.WellFormed) ∧ ∀ id, id ∈ ids ↔ ∃ g ∈ gs, g.Lists id := by
  rcases forall_or_first Group.WellFormed gs with h | ⟨front, g, back, rfl, hfront, hbad⟩
  · obtain ⟨ids', hids', hmem⟩ := ruleIdsOfGroups_ok h
    rw [hids', Except.ok.injEq, and_iff_right h]
    constructor
    · rintro rfl
      exact hmem
    · exact fun hmem' => Ascending.ext fun id => (hmem id).trans (hmem' id).symm
  · obtain ⟨segment, hs⟩ := g.wellFormed_or_firstMalformed.resolve_left hbad
    rw [ruleIdsOfGroups_error hfront hs]
    exact iff_of_false (fun h => nomatch h) fun h =>
      hbad (h.1 g (List.mem_append_right _ List.mem_cons_self))

end Entitlement
