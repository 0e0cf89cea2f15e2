import Entitlement.Proofs.Access.Decision
import Entitlement.Proofs.Access.Effects
import Entitlement.Proofs.Text.Lowercase
import Mathlib.Data.List.Forall2

/-!
# `Entitlement.Proofs.Access.DelimitedNames` — requested and stored names in one spelling

Names that are requested in one text are lower-cased together and then taken apart at the commas. Names that are
granted are lower-cased one by one. Lower-casing looks at the characters around it, but not across a comma, and so
both ways give the same names (`normalize_joined`). A check on several names in whatever letter case therefore finds
each of them that is granted, in whatever letter case it is stored (`delimited_names_agree`).
-/

namespace Entitlement

open Lookup (answer)

/-- The request for several names, joined by commas. -/
def RequestedNames.joined (names : List String) : RequestedNames := .delimited (",".intercalate names)

section Joined

variable {names : List String} (hne : names ≠ []) (hcomma : ∀ n ∈ names, ',' ∉ n.toList)

include hne hcomma

/-- **Joined names are lower-cased one by one.** -/
theorem normalize_joined : (RequestedNames.joined names).normalize = names.map Text.lower := by
  have hparts : (Text.lowercase ([','].intercalate (names.map String.toList))).splitOn ',' =
      (names.map String.toList).map Text.lowercase := by
    refine Text.isBreak_comma.splitOn_lowercase_intercalate (fun h => hne (List.map_eq_nil_iff.mp h)) ?_
    exact List.forall_mem_map.mpr hcomma
  show ((Text.lowercase (",".intercalate names).toList).splitOn ',').map String.ofList = _
  rw [String.toList_intercalate]
  show ((Text.lowercase ([','].intercalate _)).splitOn ',').map String.ofList = _
  rw [hparts, List.map_map, List.map_map]
  rfl

/-- A check on all of the joined names is passed when the set of granted names has each of them in lower case. -/
theorem check_joined {c : Checker} {s : Services} {u : UserId} {w : World} {g : GrantedRules}
    (hg : answer (c.resolver.granted s u) w = .ok g) (hnames : ∀ n ∈ names, Text.lower n ∈ g) :
    answer (c.check s (.joined names) u .and) w = .ok true := by
  unfold Checker.check
  by_cases henabled : c.enabled = true
  · rw [if_pos henabled, Lookup.answer_map, hg]
    have hsatisfied : Relation.and.satisfied g (RequestedNames.joined names).normalize = true := by
      rw [Relation.satisfied_iff, normalize_joined hne hcomma]
      exact List.forall_mem_map.mpr hnames
    exact congrArg Except.ok hsatisfied
  · rw [if_neg henabled]
    rfl

end Joined

/-- A name that in lower case is a stored name, or is the stored name in lower case, has the key of the stored name. -/
theorem lower_eq_of_spelled {n stored : String} (h : Text.lower n = stored ∨ Text.lower n = Text.lower stored) :
    Text.lower n = Text.lower stored := by
  rcases h with rfl | h
  · exact (Text.lower_lower n).symm
  · exact h

namespace Directory

variable {d : Directory} {mode : Condition.Mode} {u : UserId}

/-- The granted rules of a user whose groups have well-formed lists. -/
theorem Built.granted_ok (hd : d.Built) (mode : Condition.Mode) (hwf : ∀ g, d.ActiveGroup u g → g.WellFormed) :
    ∃ g, d.backend.granted mode u = .ok g ∧ ∀ n, n ∈ g ↔ ∃ r, d.Grants mode u r ∧ n = Text.lower r.name := by
  obtain ⟨ids, hids, hmem⟩ := d.ruleIdsOfGroups_groupsOf_ok hwf
  refine ⟨_, ?_, (hd.isResolution hmem).granted⟩
  rw [Backend.granted, d.backend_resolution, hids]
  rfl

/-- What a resolver in realtime mode answers, if what it remembers is true of the directory. -/
theorem answer_granted {w : World} (hw : w.caches.Coherent d.backend mode) :
    answer (Resolver.granted ⟨.realtime, mode⟩ (.ofBackend d.backend) u) w = d.backend.granted mode u := by
  have hsettles := Resolver.settles_granted (r := ⟨.realtime, mode⟩) (s := .ofBackend d.backend) (u := u)
    (Backend.Impaired.refl d.backend) rfl
  exact (hsettles.gives rfl w hw).1

end Directory

/-- The set of several names has the keys under which they are granted one by one. -/
theorem GrantedRules.mem_ofNames {names : List String} {x : String} :
    x ∈ GrantedRules.ofNames names ↔ ∃ n ∈ names, x = Text.lower n := by
  have hfold (g : GrantedRules) : x ∈ names.foldl GrantedRules.grant g ↔ (∃ n ∈ names, x = Text.lower n) ∨ x ∈ g := by
    induction names generalizing g with
    | nil => simp
    | cons n names ih =>
      rw [List.foldl_cons, ih, GrantedRules.mem_grant, List.exists_mem_cons_iff, or_assoc, or_left_comm]
  rw [GrantedRules.ofNames, hfold]
  exact or_iff_left (Ascending.not_mem_empty x)

/-- **Requested and stored names meet in the same spelling.** Names without commas, joined by commas, normalize to the
    keys under which they are granted one by one, in order. A check on all of them is passed in any state of any
    checker when each of them, in lower case, is a granted name, or the lower-case form of one. In particular it is
    passed over a store in memory when each of them is so spelled as a rule that the user is granted, in whatever
    letter case either is written. -/
theorem delimited_names_agree (names : List String) (hne : names ≠ []) (hcomma : ∀ n ∈ names, ',' ∉ n.toList) :
    List.Forall₂ (fun name key => ∀ (g : GrantedRules) (x : String), x ∈ g.grant name ↔ x = key ∨ x ∈ g)
      names (RequestedNames.joined names).normalize ∧
    (∀ x, x ∈ GrantedRules.ofNames names ↔ x ∈ (RequestedNames.joined names).normalize) ∧
    (∀ (c : Checker) (s : Services) (u : UserId) (w : World) (g : GrantedRules),
      answer (c.resolver.granted s u) w = .ok g →
      (∀ n ∈ names, ∃ stored, Text.lower stored ∈ g ∧ (Text.lower n = stored ∨ Text.lower n = Text.lower stored)) →
      answer (c.check s (.joined names) u .and) w = .ok true) ∧
    ∀ d : Directory, d.Built → ∀ (mode : Condition.Mode) (u : UserId) (w : World),
      w.caches.Coherent d.backend mode → (∀ g, d.ActiveGroup u g → g.WellFormed) →
      (∀ n ∈ names, ∃ r, d.Grants mode u r ∧ (Text.lower n = r.name ∨ Text.lower n = Text.lower r.name)) →
      answer (d.check mode (.joined names) u .and) w = .ok true := by
  refine ⟨?_, fun x => ?_, fun c s u w g hg hnames => ?_, fun d hd mode u w hw hwf hnames => ?_⟩
  · rw [normalize_joined hne hcomma, List.forall₂_map_right_iff]
    exact List.forall₂_same.mpr fun n _ g x => GrantedRules.mem_grant
  · rw [normalize_joined hne hcomma, GrantedRules.mem_ofNames, List.mem_map]
    exact exists_congr fun n => and_congr_right fun _ => eq_comm
  · refine check_joined hne hcomma hg fun n hn => ?_
    obtain ⟨stored, hstored, hspelled⟩ := hnames n hn
    rwa [lower_eq_of_spelled hspelled]
  · obtain ⟨g, hg, hmem⟩ := hd.granted_ok mode hwf
    have hanswer : answer (Resolver.granted ⟨.realtime, mode⟩ (.ofBackend d.backend) u) w = .ok g :=
      (d.answer_granted hw).trans hg
    refine check_joined (c := ⟨true, .realtime, mode⟩) hne hcomma hanswer fun n hn => ?_
    obtain ⟨r, hr, hspelled⟩ := hnames n hn
    exact (hmem _).mpr ⟨r, hr, lower_eq_of_spelled hspelled⟩

/-- Two rules in capitals, in a group of user 7. -/
private def places : Directory :=
  Directory.addMembership (Directory.addGroup
    (Directory.addRule (Directory.addRule {} ⟨⟨1⟩, "ΟΔΟΣ", ""⟩ true) ⟨⟨2⟩, "İSTANBUL", ""⟩ true)
    ⟨⟨10⟩, "all", "1,2"⟩ true) ⟨7⟩ ⟨10⟩

private theorem places_built : places.Built :=
  .addMembership _ _ <| .addGroup _ _ <| .addRule _ _ <| .addRule _ _ .empty

/-- The last sigma of the first name stands in front of a comma, and the second name grows by a character. Both meet
    the stored names, remembered or read from the store. -/
theorem delimited_names_agree_places :
    List.Forall₂ (fun name key => ∀ (g : GrantedRules) (x : String), x ∈ g.grant name ↔ x = key ∨ x ∈ g)
      ["ΟδΟΣ", "İstanbul"] ["οδος", "i\u0307stanbul"] ∧
    answer (Checker.realtime.check (.ofBackend places.backend) (.joined ["ΟδΟΣ", "İstanbul"]) ⟨8⟩ .and)
      { caches := { granted := Keyed.ofList [(⟨8⟩, .ofNames ["οδος", "İSTANBUL"])] } } = .ok true ∧
    answer (places.check .literal (.joined ["ΟδΟΣ", "İstanbul"]) ⟨7⟩ .and) {} = .ok true := by
  obtain ⟨hkeys, -, hcheck, hstore⟩ := delimited_names_agree ["ΟδΟΣ", "İstanbul"] (by decide) (by decide +kernel)
  have hnormalize : (RequestedNames.joined ["ΟδΟΣ", "İstanbul"]).normalize = ["οδος", "i\u0307stanbul"] := by
    decide +kernel
  rw [hnormalize] at hkeys
  refine ⟨hkeys, ?_, ?_⟩
  · refine hcheck _ _ _ _ (.ofNames ["οδος", "İSTANBUL"]) rfl ?_
    have hstored (n : String) (hn : n ∈ ["οδος", "İSTANBUL"]) :
        Text.lower n ∈ GrantedRules.ofNames ["οδος", "İSTANBUL"] := GrantedRules.mem_ofNames.mpr ⟨n, hn, rfl⟩
    refine List.forall_mem_cons.mpr ⟨⟨"οδος", hstored _ (by decide), .inl (by decide +kernel)⟩, ?_⟩
    exact List.forall_mem_singleton.mpr ⟨"İSTANBUL", hstored _ (by decide), .inr (by decide +kernel)⟩
  · have hwf : ∀ g, places.ActiveGroup ⟨7⟩ g → g.WellFormed := by
      have h : ∀ g ∈ places.groupsOf ⟨7⟩, g.WellFormed := by decide +kernel
      exact fun g hg => h g (Directory.mem_groupsOf.mpr hg)
    have hgroup : places.ActiveGroup ⟨7⟩ ⟨⟨10⟩, "all", "1,2"⟩ := ⟨⟨10⟩, by decide, by decide⟩
    have hroad : places.Grants .literal ⟨7⟩ ⟨⟨1⟩, "ΟΔΟΣ", ""⟩ :=
      ⟨⟨by decide, _, hgroup, ['1'], by decide +kernel, by decide +kernel⟩, .inl rfl⟩
    have htown : places.Grants .literal ⟨7⟩ ⟨⟨2⟩, "İSTANBUL", ""⟩ :=
      ⟨⟨by decide, _, hgroup, ['2'], by decide +kernel, by decide +kernel⟩, .inl rfl⟩
    refine hstore places places_built .literal ⟨7⟩ {} (Caches.coherent_empty _ _) hwf ?_
    refine List.forall_mem_cons.mpr ⟨⟨_, hroad, .inr (by decide +kernel)⟩, ?_⟩
    exact List.forall_mem_singleton.mpr ⟨_, htown, .inr (by decide +kernel)⟩

end Entitlement
