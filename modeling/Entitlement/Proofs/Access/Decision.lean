import Entitlement.Proofs.Access.Coherence
import Entitlement.Proofs.Rule.Outcomes
import Entitlement.Proofs.Store.DirectoryContent

/-!
# `Entitlement.Proofs.Access.Decision` — what a check over a directory decides

The way from a user to a decision leads through memberships, lists of keys, rules, a row of attributes and
conditions. Its result is said here in one step: which rules a user is granted (`Grants`), which ones fail
(`Fails`), and with that the answers of `resolve` and `check` over a store in memory (`resolve_and_check`).
-/

namespace Entitlement

open Attribute (Row)
open Condition (evaluate Failure)
open Lookup (answer after)

namespace Backend

variable {b : Backend} {mode : Condition.Mode} {u : UserId} {gs : List Group}

/-- A malformed list ends the resolution. -/
theorem resolution_malformed {l : MalformedList} (hgroups : b.groups u = .ok gs)
    (hids : ruleIdsOfGroups gs = .error l) : b.resolution mode u = .error (.malformedList l) := by
  rw [resolution, hgroups]
  show (ruleIdsOfGroups gs).mapError AccessError.malformedList >>= _ = _
  rw [hids]
  rfl

/-- The resolution of a user whose questions are all answered. It does not matter that some of them are left out:
    without keys there are no rules, and without conditions the row counts for nothing. -/
theorem resolution_ok {ids : Ascending RuleId} {rules : List Rule} {row : Option Row} (hgroups : b.groups u = .ok gs)
    (hids : ruleIdsOfGroups gs = .ok ids) (hrules : b.rules ids = .ok rules) (hnone : ids.isEmpty = true → rules = [])
    (hrow : b.row u = .ok row) : b.resolution mode u = .ok (resolveRules mode row rules) := by
  rw [resolution, hgroups]
  show (ruleIdsOfGroups gs).mapError AccessError.malformedList >>= _ = _
  rw [hids]
  show (if ids.isEmpty then _ else (b.rules ids).mapError _ >>= _) = _
  by_cases hempty : ids.isEmpty = true
  · rw [if_pos hempty, hnone hempty]
    rfl
  · rw [if_neg hempty, hrules]
    show (if rules.any Rule.isConditional then _ else _) = _
    by_cases hcond : rules.any Rule.isConditional = true
    · rw [if_pos hcond, hrow]
      rfl
    · have hcond' := Bool.eq_false_iff.mpr hcond
      rw [if_neg hcond, resolveRules_of_unconditional hcond' row none]
      rfl

end Backend

namespace Directory

variable {d : Directory} {mode : Condition.Mode} {u : UserId}

/-! ## Granted and failing rules -/

/-- The user is granted the rule: it is selected, and it has no condition or one that is true of the user's
    attributes. -/
def Grants (d : Directory) (mode : Condition.Mode) (u : UserId) (r : Rule) : Prop :=
  d.Selected u r ∧
    (r.condition = "" ∨ ∃ row, d.rows.get? u = some row ∧ evaluate mode row r.condition = .ok true)

/-- The rule is selected and has a condition without a truth value for the user; without attributes that is
    every condition. -/
def Fails (d : Directory) (mode : Condition.Mode) (u : UserId) (r : Rule) (e : Failure) : Prop :=
  d.Selected u r ∧ r.condition ≠ "" ∧
    ((∃ row, d.rows.get? u = some row ∧ evaluate mode row r.condition = .error e) ∨
      (d.rows.get? u = none ∧ e = .missingAttributes r.condition))

/-- A resolution of a user: the lower-cased names of the granted rules, and the failing rules in ascending order
    of their keys. -/
structure IsResolution (d : Directory) (mode : Condition.Mode) (u : UserId) (res : Resolution) : Prop where
  granted : ∀ n, n ∈ res.granted ↔ ∃ r, d.Grants mode u r ∧ n = Text.lower r.name
  failures : ∃ fs : List (Rule × Failure),
    fs.Pairwise (fun p q => compare p.1.id q.1.id = .lt) ∧
    (∀ r e, (r, e) ∈ fs ↔ d.Fails mode u r e) ∧
    res.failures = fs.map fun p => ⟨p.1.name, p.2⟩

/-- The rules of selected keys resolve to what the user is granted and what fails. -/
theorem Built.isResolution (hd : d.Built) {ids : Ascending RuleId}
    (hids : ∀ id, id ∈ ids ↔ ∃ g, d.ActiveGroup u g ∧ g.Lists id) :
    d.IsResolution mode u (resolveRules mode (d.rows.get? u) (d.rulesAmong ids)) := by
  have hselected (r : Rule) : r ∈ d.rulesAmong ids ↔ d.Selected u r := by
    rw [hd.mem_rulesAmong, hids, Selected, and_comm]
  constructor
  case granted =>
    intro n
    rw [mem_granted_resolveRules]
    simp only [hselected, Rule.outcome_eq_true_iff, Grants, and_assoc]
  case failures =>
    refine ⟨(d.rulesAmong ids).filterMap fun r => (r.failure? mode (d.rows.get? u)).map (Prod.mk r),
      ?_, ?_, ?_⟩
    · refine List.Pairwise.filterMap _ ?_ (hd.rulesAmong_ascending ids)
      intro r r' hlt p hp q hq
      obtain ⟨e, -, rfl⟩ := Option.map_eq_some_iff.mp hp
      obtain ⟨e', -, rfl⟩ := Option.map_eq_some_iff.mp hq
      exact hlt
    · intro r e
      rw [List.mem_filterMap, Fails, ← hselected, ← Rule.outcome_eq_error_iff,
        ← Rule.failure?_eq_some_iff]
      constructor
      · rintro ⟨r', hr', hp⟩
        obtain ⟨e', he', hpair⟩ := Option.map_eq_some_iff.mp hp
        cases hpair
        exact ⟨hr', he'⟩
      · rintro ⟨hr, he⟩
        exact ⟨r, hr, by rw [he]; rfl⟩
    · rw [failures_resolveRules, List.map_filterMap]
      congr
      funext r
      rw [Option.map_map]
      rfl

/-! ## The answers of the store -/

/-- A store in memory never fails, so the resolution of a user only depends on the lists of its groups. -/
theorem backend_resolution (d : Directory) (mode : Condition.Mode) (u : UserId) :
    d.backend.resolution mode u =
      ((ruleIdsOfGroups (d.groupsOf u)).mapError AccessError.malformedList).map fun ids =>
        resolveRules mode (d.rows.get? u) (d.rulesAmong ids) := by
  cases hids : ruleIdsOfGroups (d.groupsOf u) with
  | error e => exact Backend.resolution_malformed rfl hids
  | ok ids =>
    refine Backend.resolution_ok rfl hids rfl (fun hempty => ?_) rfl
    rw [rulesAmong, List.isEmpty_iff.mp hempty]
    rfl

/-! ## Decisions -/

/-- The resolution of a user, by a resolver in realtime mode over the directory. -/
def resolve (d : Directory) (mode : Condition.Mode) (u : UserId) : Lookup Resolution :=
  Resolver.resolve ⟨.realtime, mode⟩ (.ofBackend d.backend) u

/-- A check, by a checker that is on and in realtime mode over the directory. -/
def check (d : Directory) (mode : Condition.Mode) (names : RequestedNames) (u : UserId) (r : Relation) :
    Lookup Bool :=
  Checker.check ⟨true, .realtime, mode⟩ (.ofBackend d.backend) names u r

theorem gives_resolve : Lookup.Gives d.backend mode (d.resolve mode u) (d.backend.resolution mode u) :=
  Resolver.gives_resolve rfl

theorem gives_check (names : RequestedNames) (r : Relation) :
    Lookup.Gives d.backend mode (d.check mode names u r)
      ((d.backend.granted mode u).map (r.satisfied · names.normalize)) :=
  Checker.gives_check (c := ⟨true, .realtime, mode⟩) (s := .ofBackend d.backend) rfl rfl rfl names u r

end Directory

/-- Whether the granted names are all or some of those requested. -/
def Relation.Holds (r : Relation) (granted : GrantedRules) (requested : List String) : Prop :=
  match r with
  | .or => ∃ n ∈ requested, n ∈ granted
  | .and => ∀ n ∈ requested, n ∈ granted

theorem Relation.satisfied_iff {r : Relation} {granted : GrantedRules} {requested : List String} :
    r.satisfied granted requested = true ↔ r.Holds granted requested := by
  cases r with
  | or => simp [Relation.satisfied, Relation.Holds]
  | and => simp [Relation.satisfied, Relation.Holds]

/-- **What a check decides.** Over a store in memory, with nothing remembered and nothing refused: when the lists
    of the user's active groups are all well-formed, the resolution is the one described, and a check asks
    whether any or all of the normalized names are granted. Otherwise both report the first malformed list. The
    check may come before the resolution or after it. -/
theorem resolve_and_check (d : Directory) (hd : d.Built) (mode : Condition.Mode) (u : UserId) (w : World)
    (hw : w.caches = {}) :
    ((∀ g, d.ActiveGroup u g → g.WellFormed) →
      ∃ res, answer (d.resolve mode u) w = .ok res ∧ d.IsResolution mode u res ∧
        ∀ (names : RequestedNames) (relation : Relation) (v : World),
          v = w ∨ v = after (d.resolve mode u) w →
            ∃ b, answer (d.check mode names u relation) v = .ok b ∧
              (b = true ↔ relation.Holds res.granted names.normalize)) ∧
    ((∃ g, d.ActiveGroup u g ∧ ¬ g.WellFormed) →
      ∃ g segment, d.FirstMalformedGroup u g ∧ g.FirstMalformed segment ∧
        answer (d.resolve mode u) w = .error (.malformedList ⟨g.id, segment⟩) ∧
        ∀ (names : RequestedNames) (relation : Relation) (v : World),
          v = w ∨ v = after (d.resolve mode u) w →
            answer (d.check mode names u relation) v = .error (.malformedList ⟨g.id, segment⟩)) := by
  -- nothing remembered is coherent, and so is what the resolution leaves behind
  have hcoherent : w.caches.Coherent d.backend mode := by
    rw [hw]
    exact Caches.coherent_empty d.backend mode
  obtain ⟨hresolve, hafter⟩ := d.gives_resolve w hcoherent
  have hcheck (names : RequestedNames) (relation : Relation) (v : World)
      (hv : v = w ∨ v = after (d.resolve mode u) w) :
      answer (d.check mode names u relation) v =
        (d.backend.granted mode u).map (relation.satisfied · names.normalize) := by
    have hv' : v.caches.Coherent d.backend mode := by
      rcases hv with rfl | rfl
      · exact hcoherent
      · exact hafter
    exact (d.gives_check names relation v hv').1
  constructor
  · intro hwf
    obtain ⟨ids, hids, hmem⟩ := d.ruleIdsOfGroups_groupsOf_ok hwf
    have hres : d.backend.resolution mode u =
        .ok (resolveRules mode (d.rows.get? u) (d.rulesAmong ids)) := by
      rw [d.backend_resolution, hids]
      rfl
    refine ⟨_, hresolve.trans hres, hd.isResolution hmem, fun names relation v hv => ?_⟩
    refine ⟨_, (hcheck names relation v hv).trans ?_, Relation.satisfied_iff⟩
    rw [Backend.granted, hres]
    rfl
  · rintro ⟨g', hg', hbad'⟩
    rcases d.wellFormed_or_first u with hwf | ⟨g, hg⟩
    · exact absurd (hwf g' hg') hbad'
    rcases g.wellFormed_or_firstMalformed with hwf | ⟨segment, hs⟩
    · obtain ⟨front, k, back, -, -, hbad, -⟩ := hg
      exact absurd hwf hbad
    have hres : d.backend.resolution mode u = .error (.malformedList ⟨g.id, segment⟩) := by
      rw [d.backend_resolution, d.ruleIdsOfGroups_groupsOf_error hg hs]
      rfl
    refine ⟨g, segment, hg, hs, hresolve.trans hres, fun names relation v hv => ?_⟩
    rw [hcheck names relation v hv, Backend.granted, hres]
    rfl

/-- Two rules, a group that lists both and one with a malformed list; user 7 is in the first, user 8 in both. -/
private def staff : Directory :=
  Directory.addRow (Directory.addMembership (Directory.addMembership (Directory.addMembership
    (Directory.addGroup (Directory.addGroup
      (Directory.addRule (Directory.addRule {} ⟨⟨1⟩, "Read", ""⟩ true) ⟨⟨2⟩, "Write", "age>=18"⟩ true)
      ⟨⟨10⟩, "all", " 2, 1,"⟩ true) ⟨⟨11⟩, "odd", "1;2"⟩ true)
    ⟨7⟩ ⟨10⟩) ⟨8⟩ ⟨10⟩) ⟨8⟩ ⟨11⟩) ⟨7⟩ (Keyed.ofList [("age", .integer 20)])

private theorem staff_built : staff.Built :=
  .addRow _ _ <| .addMembership _ _ <| .addMembership _ _ <| .addMembership _ _ <| .addGroup _ _ <|
    .addGroup _ _ <| .addRule _ _ <| .addRule _ _ .empty

/-- User 7 is granted both rules, and no question about user 8 is answered. -/
theorem resolve_and_check_staff :
    answer (staff.check .literal (.delimited "READ,write") ⟨7⟩ .and) {} = .ok true ∧
      ∃ e, ∀ relation,
        answer (staff.check .literal (.delimited "read") ⟨8⟩ relation) {} = .error (.malformedList e) := by
  constructor
  · have hwf : ∀ g, staff.ActiveGroup ⟨7⟩ g → g.WellFormed := by
      have h : ∀ g ∈ staff.groupsOf ⟨7⟩, g.WellFormed := by decide +kernel
      exact fun g hg => h g (Directory.mem_groupsOf.mpr hg)
    obtain ⟨res, -, hres, hcheck⟩ := (resolve_and_check staff staff_built .literal ⟨7⟩ {} rfl).1 hwf
    obtain ⟨b, hb, hiff⟩ := hcheck (.delimited "READ,write") .and {} (.inl rfl)
    have hgroup : staff.ActiveGroup ⟨7⟩ ⟨⟨10⟩, "all", " 2, 1,"⟩ := ⟨⟨10⟩, by decide, by decide⟩
    have hread : staff.Grants .literal ⟨7⟩ ⟨⟨1⟩, "Read", ""⟩ :=
      ⟨⟨by decide, _, hgroup, ['1'], by decide +kernel, by decide +kernel⟩, .inl rfl⟩
    have hwrite : staff.Grants .literal ⟨7⟩ ⟨⟨2⟩, "Write", "age>=18"⟩ :=
      ⟨⟨by decide, _, hgroup, ['2'], by decide +kernel, by decide +kernel⟩,
        .inr ⟨Keyed.ofList [("age", .integer 20)], by decide +kernel, rfl⟩⟩
    have hnames : (RequestedNames.delimited "READ,write").normalize =
        [Text.lower "Read", Text.lower "Write"] := by decide +kernel
    have hholds : Relation.and.Holds res.granted (RequestedNames.delimited "READ,write").normalize := by
      rw [hnames]
      refine List.forall_mem_cons.mpr ⟨(hres.granted _).mpr ⟨_, hread, rfl⟩, ?_⟩
      exact List.forall_mem_cons.mpr
        ⟨(hres.granted _).mpr ⟨_, hwrite, rfl⟩, fun n hn => absurd hn List.not_mem_nil⟩
    rw [hb, hiff.mpr hholds]
  · have hbad : ∃ g, staff.ActiveGroup ⟨8⟩ g ∧ ¬ g.WellFormed :=
      ⟨⟨⟨11⟩, "odd", "1;2"⟩, ⟨⟨11⟩, by decide, by decide⟩, by decide +kernel⟩
    obtain ⟨g, segment, -, -, -, hcheck⟩ :=
      (resolve_and_check staff staff_built .literal ⟨8⟩ {} rfl).2 hbad
    exact ⟨⟨g.id, segment⟩, fun relation => hcheck (.delimited "read") relation {} (.inl rfl)⟩

end Entitlement
