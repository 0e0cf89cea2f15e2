import Entitlement.Proofs.Collection.Elements
import Entitlement.Proofs.Config.Fields
import Entitlement.Proofs.Config.SortedSources
import Entitlement.Proofs.Config.Violations

/-!
# `Entitlement.Proofs.Config.Stacking` — which source decides a field

Sources are sorted by their precedence and their layers laid over one another. What comes out can be said
without sorting: each field has the value of the source of highest precedence that sets it, of the later one
among equals (`Chosen`); the failure that is reported is that of the source of lowest precedence that fails,
of the earlier one among equals (`FirstFailure`); and of the violations of the resolved configuration the first
is the one that is reported. Each of these is unique, so it is all there is to say about the outcome
(`stack_outcome`).

In the sorted list a field is decided by the last source that sets it (`given_layered`) and the first failure is
reported (`layered_of_error`); that the sort is stable carries both back to the list as it is given.
-/

namespace Entitlement.Config

variable {α : Type}

/-! ## Layers laid over one another -/

namespace Contribution

/-- The source has a layer. -/
def Loads (c : Contribution) : Prop := ∃ l, c.outcome = .ok l

/-- The value that a source sets a field to, if it loads and does. -/
def given (f : Field α) (c : Contribution) : Option α :=
  match c.outcome with
  | .ok l => f.given l
  | .error _ => none

/-- The source with every section of its layer present. -/
def filled (c : Contribution) : Contribution := { c with outcome := c.outcome.map Layer.filled }

theorem not_loads_iff {c : Contribution} : ¬ c.Loads ↔ ∃ e, c.outcome = .error e := by
  unfold Loads
  cases c.outcome <;> simp

end Contribution

theorem layered_cons {base l : Layer} {c : Contribution} (hc : c.outcome = .ok l) (cs : List Contribution) :
    layered base (c :: cs) = layered (l.overlay base) cs := by
  rw [layered, hc]
  rfl

theorem layered_append (base : Layer) (front back : List Contribution) :
    layered base (front ++ back) = (layered base front).bind fun l => layered l back := by
  induction front generalizing base with
  | nil => rfl
  | cons c front ih =>
    cases hc : c.outcome with
    | ok l => rw [List.cons_append, layered_cons hc, layered_cons hc, ih]
    | error e =>
      rw [List.cons_append, layered, layered, hc]
      rfl

/-- When every source loads there is a layer. -/
theorem exists_layered {base : Layer} {cs : List Contribution} (h : ∀ c ∈ cs, c.Loads) :
    ∃ l, layered base cs = .ok l := by
  induction cs generalizing base with
  | nil => exact ⟨base, rfl⟩
  | cons c cs ih =>
    obtain ⟨⟨l, hl⟩, hcs⟩ := List.forall_mem_cons.mp h
    rw [layered_cons hl]
    exact ih hcs

/-- The first source that does not load is the error. -/
theorem layered_of_error {base : Layer} {front back : List Contribution} {c : Contribution} {e : Error}
    (hfront : ∀ d ∈ front, d.Loads) (hc : c.outcome = .error e) :
    layered base (front ++ c :: back) = .error e := by
  obtain ⟨l, hl⟩ : ∃ l, layered base front = .ok l := exists_layered hfront
  rw [layered_append, hl]
  show layered l (c :: back) = .error e
  rw [layered, hc]
  rfl

/-- **The last source that sets a field decides it**, and the layer below when none does. -/
theorem given_layered {base l : Layer} {cs : List Contribution} (h : layered base cs = .ok l) (f : Field α) :
    (∃ front c back v, cs = front ++ c :: back ∧ c.given f = some v ∧ f.given l = some v ∧
        ∀ d ∈ back, d.given f = none) ∨
      (∀ c ∈ cs, c.given f = none) ∧ f.given l = f.given base := by
  induction cs generalizing base with
  | nil =>
    obtain rfl : base = l := Except.ok.inj h
    exact .inr ⟨fun c hc => absurd hc List.not_mem_nil, rfl⟩
  | cons c cs ih =>
    cases hc : c.outcome with
    | error e =>
      rw [layered, hc] at h
      cases h
    | ok upper =>
      rw [layered_cons hc] at h
      rcases ih h with ⟨front, d, back, v, rfl, hd, hl, hback⟩ | ⟨hnone, hl⟩
      · exact .inl ⟨c :: front, d, back, v, rfl, hd, hl, hback⟩
      · have hgiven : c.given f = f.given upper := by rw [Contribution.given, hc]
        rw [f.given_overlay, ← hgiven] at hl
        cases hv : c.given f with
        | some v =>
          rw [hv, Option.some_or] at hl
          exact .inl ⟨[], c, cs, v, rfl, hv, hl, hnone⟩
        | none =>
          rw [hv, Option.none_or] at hl
          exact .inr ⟨List.forall_mem_cons.mpr ⟨hv, hnone⟩, hl⟩

/-- What lies above a base can be made without it. -/
theorem layered_eq_map (base : Layer) (cs : List Contribution) :
    layered base cs = (layered .absent cs).map (·.overlay base) := by
  induction cs generalizing base with
  | nil => rfl
  | cons c cs ih =>
    cases hc : c.outcome with
    | error e =>
      rw [layered, layered, hc]
      rfl
    | ok l =>
      rw [layered_cons hc, layered_cons hc, ih (l.overlay base), ih (l.overlay .absent), Layer.overlay_absent]
      cases layered .absent cs with
      | error e => rfl
      | ok upper => exact congrArg Except.ok (Layer.overlay_assoc upper l base).symm

/-- **Regrouping.** Consecutive sources may first be laid over one another, group by group. -/
theorem layered_groups (p : Nat) (groups : List (List Contribution)) (base : Layer) :
    layered base (groups.map fun g => ⟨p, layered .absent g⟩) = layered base groups.flatten := by
  induction groups generalizing base with
  | nil => rfl
  | cons g groups ih =>
    rw [List.map_cons, List.flatten_cons, layered_append, layered_eq_map base g]
    cases hg : layered .absent g with
    | error e => rfl
    | ok l =>
      rw [layered_cons rfl, ih]
      rfl

/-! ## The source that decides -/

/-- The value of a field: that of the source of highest precedence that sets it, of the later one among equals,
    and the default when none does. -/
def Chosen (cs : List Contribution) (f : Field α) (v : α) : Prop :=
  (∃ front c back, cs = front ++ c :: back ∧ c.given f = some v ∧
      (∀ d ∈ front, d.given f ≠ none → d.precedence ≤ c.precedence) ∧
      ∀ d ∈ back, d.given f ≠ none → d.precedence < c.precedence) ∨
    (∀ c ∈ cs, c.given f = none) ∧ v = f.value .defaults

/-- The configuration that sources make together, field by field. -/
def Resolves (cs : List Contribution) (s : Settings) : Prop :=
  ∀ (α : Type) (f : Field α), Chosen cs f (f.value s)

/-- The failure that is reported: that of the source of lowest precedence that fails, of the earlier one among
    equals. -/
def FirstFailure (cs : List Contribution) (e : Error) : Prop :=
  ∃ front c back, cs = front ++ c :: back ∧ c.outcome = .error e ∧
    (∀ d ∈ front, ¬ d.Loads → c.precedence < d.precedence) ∧
    ∀ d ∈ back, ¬ d.Loads → c.precedence ≤ d.precedence

/-- The last source in the sort that sets a field decides it. -/
theorem chosen_of_layered {cs : List Contribution} {l : Layer}
    (h : layered .absent (inPrecedence cs) = .ok l) (f : Field α) : Chosen cs f (f.value l.resolve) := by
  rw [f.value_resolve]
  rcases given_layered h f with ⟨front, c, back, v, hsort, hc, hl, hback⟩ | ⟨hnone, hl⟩
  · obtain ⟨front', back', rfl, -, hback'⟩ := exists_split_of_inPrecedence hsort
    refine .inl ⟨front', c, back', rfl, by rw [hl, hc]; rfl, ?_, ?_⟩
    · intro d hd hset
      rcases sides_of_inPrecedence hsort (List.mem_append_left _ hd) with ⟨-, hle⟩ | rfl | ⟨hd, -⟩
      · exact hle
      · exact Nat.le_refl _
      · exact absurd (hback d hd) hset
    · intro d hd hset
      have hne : d.precedence ≠ c.precedence := fun hp => hset (hback d (hback' d hd hp))
      rcases sides_of_inPrecedence hsort (List.mem_append_right _ (List.mem_cons_of_mem c hd)) with
        ⟨-, hle⟩ | rfl | ⟨hd, -⟩
      · omega
      · exact absurd rfl hne
      · exact absurd (hback d hd) hset
  · rw [hl, f.given_absent]
    exact .inr ⟨fun c hc => hnone c (mem_inPrecedence.mpr hc), rfl⟩

/-- **A field has one value.** -/
theorem Chosen.unique {cs : List Contribution} {f : Field α} {v v' : α} (h : Chosen cs f v)
    (h' : Chosen cs f v') : v = v' := by
  rcases h with ⟨front, c, back, rfl, hc, hfront, hback⟩ | ⟨hnone, rfl⟩
  · rcases h' with ⟨front', c', back', hsplit, hc', hfront', hback'⟩ | ⟨hnone', -⟩
    · have heq : c = c' := eq_of_selected (fun _ _ hlt hle => Nat.not_le_of_lt hlt hle) hsplit (by simp [hc])
        (by simp [hc']) hfront hback hfront' hback'
      rw [heq, hc'] at hc
      exact (Option.some.inj hc).symm
    · rw [hnone' c (by simp)] at hc
      cases hc
  · rcases h' with ⟨front', c', back', rfl, hc', -⟩ | ⟨-, rfl⟩
    · rw [hnone c' (by simp)] at hc'
      cases hc'
    · rfl

theorem Resolves.unique {cs : List Contribution} {s s' : Settings} (h : Resolves cs s) (h' : Resolves cs s') :
    s = s' := Settings.eq_of_fields fun α f => (h α f).unique (h' α f)

theorem FirstFailure.unique {cs : List Contribution} {e e' : Error} (h : FirstFailure cs e)
    (h' : FirstFailure cs e') : e = e' := by
  obtain ⟨front, c, back, rfl, hc, hfront, hback⟩ := h
  obtain ⟨front', c', back', hsplit, hc', hfront', hback'⟩ := h'
  have heq : c = c' := eq_of_selected (fun _ _ hle hlt => Nat.not_lt_of_le hle hlt) hsplit
    (Contribution.not_loads_iff.mpr ⟨e, hc⟩) (Contribution.not_loads_iff.mpr ⟨e', hc'⟩)
    hfront hback hfront' hback'
  rw [heq, hc'] at hc
  exact (Except.error.inj hc).symm

theorem FirstFailure.not_all_load {cs : List Contribution} {e : Error} (h : FirstFailure cs e) :
    ¬ ∀ c ∈ cs, c.Loads := by
  obtain ⟨front, c, back, rfl, hc, -⟩ := h
  intro hall
  exact Contribution.not_loads_iff.mpr ⟨e, hc⟩ (hall c (by simp))

/-- The first source in the sort that fails is the one that is reported. -/
theorem firstFailure_of_inPrecedence {cs front back : List Contribution} {c : Contribution} {e : Error}
    (hsort : inPrecedence cs = front ++ c :: back) (hfront : ∀ d ∈ front, d.Loads)
    (hc : c.outcome = .error e) : FirstFailure cs e := by
  obtain ⟨front', back', rfl, hfront', -⟩ := exists_split_of_inPrecedence hsort
  refine ⟨front', c, back', rfl, hc, ?_, ?_⟩
  · intro d hd hfails
    have hne : d.precedence ≠ c.precedence := fun hp => hfails (hfront d (hfront' d hd hp))
    rcases sides_of_inPrecedence hsort (List.mem_append_left _ hd) with ⟨hd, -⟩ | rfl | ⟨-, hle⟩
    · exact absurd (hfront d hd) hfails
    · exact absurd rfl hne
    · omega
  · intro d hd hfails
    rcases sides_of_inPrecedence hsort (List.mem_append_right _ (List.mem_cons_of_mem c hd)) with
      ⟨hd, -⟩ | rfl | ⟨-, hle⟩
    · exact absurd (hfront d hd) hfails
    · exact Nat.le_refl _
    · exact hle

/-! ## The stack -/

/-- The stack is the check of what the layers resolve to. -/
theorem stack_eq (cs : List Contribution) :
    stack cs = ((layered .absent (inPrecedence cs)).map Layer.resolve).bind fun s =>
      ((report s.violations).mapError Error.validation).map fun _ => s := by
  unfold stack
  cases layered .absent (inPrecedence cs) with
  | error e => rfl
  | ok l =>
    show ((l.resolve.validate.mapError Error.validation).bind fun _ => .ok l.resolve) =
      ((report l.resolve.violations).mapError Error.validation).map fun _ => l.resolve
    rw [Settings.validate_eq]
    cases report l.resolve.violations <;> rfl

/-- When every source loads, the outcome is that of the check of what they resolve to. -/
theorem stack_of_loads {cs : List Contribution} (h : ∀ c ∈ cs, c.Loads) :
    ∃ s, Resolves cs s ∧ stack cs = ((report s.violations).mapError .validation).map fun _ => s := by
  have hsorted : ∀ c ∈ inPrecedence cs, c.Loads := fun c hc => h c (mem_inPrecedence.mp hc)
  obtain ⟨l, hl⟩ : ∃ l, layered .absent (inPrecedence cs) = .ok l := exists_layered hsorted
  refine ⟨l.resolve, fun α f => chosen_of_layered hl f, ?_⟩
  rw [stack_eq, hl]
  rfl

/-- Otherwise it is the first failure. -/
theorem stack_of_failure {cs : List Contribution} (h : ¬ ∀ c ∈ cs, c.Loads) :
    ∃ e, FirstFailure cs e ∧ stack cs = .error e := by
  rcases forall_or_first Contribution.Loads (inPrecedence cs) with hall | ⟨front, c, back, hsort, hfront, hc⟩
  · exact absurd (fun c hc => hall c (mem_inPrecedence.mpr hc)) h
  · obtain ⟨e, he⟩ := Contribution.not_loads_iff.mp hc
    refine ⟨e, firstFailure_of_inPrecedence hsort hfront he, ?_⟩
    rw [stack, hsort, layered_of_error hfront he]
    rfl

theorem stack_eq_ok_iff {cs : List Contribution} {s : Settings} :
    stack cs = .ok s ↔ (∀ c ∈ cs, c.Loads) ∧ Resolves cs s ∧ s.violations = [] := by
  by_cases h : ∀ c ∈ cs, c.Loads
  · obtain ⟨s', hs', hstack⟩ := stack_of_loads h
    rw [hstack]
    cases hv : s'.violations with
    | nil =>
      constructor
      · intro hok
        obtain rfl : s' = s := Except.ok.inj hok
        exact ⟨h, hs', hv⟩
      · rintro ⟨-, hs, -⟩
        rw [hs'.unique hs]
        rfl
    | cons v vs =>
      refine ⟨nofun, ?_⟩
      rintro ⟨-, hs, hnil⟩
      rw [hs'.unique hs, hnil] at hv
      cases hv
  · obtain ⟨e, -, hstack⟩ := stack_of_failure h
    rw [hstack]
    exact ⟨nofun, fun hok => absurd hok.1 h⟩

theorem stack_eq_error_iff {cs : List Contribution} {e : Error} :
    stack cs = .error e ↔ FirstFailure cs e ∨
      (∀ c ∈ cs, c.Loads) ∧ ∃ s v, Resolves cs s ∧ s.violations.head? = some v ∧ e = .validation v := by
  by_cases h : ∀ c ∈ cs, c.Loads
  · obtain ⟨s', hs', hstack⟩ := stack_of_loads h
    rw [hstack]
    constructor
    · intro herror
      cases hv : s'.violations with
      | nil =>
        rw [hv] at herror
        cases herror
      | cons v vs =>
        rw [hv] at herror
        obtain rfl : Error.validation v = e := Except.error.inj herror
        exact .inr ⟨h, s', v, hs', by rw [hv]; rfl, rfl⟩
    · rintro (hfirst | ⟨-, s, v, hs, hhead, rfl⟩)
      · exact absurd h hfirst.not_all_load
      · obtain ⟨vs, hvs⟩ := List.head?_eq_some_iff.mp hhead
        rw [hs'.unique hs, hvs]
        rfl
  · obtain ⟨e', hfirst, hstack⟩ := stack_of_failure h
    rw [hstack]
    constructor
    · intro herror
      rw [← Except.error.inj herror]
      exact .inl hfirst
    · rintro (hfirst' | ⟨hall, -⟩)
      · rw [hfirst.unique hfirst']
      · exact absurd hall h

/-- A reordering that keeps the order among equals is not seen. -/
theorem stack_reorder {cs cs' : List Contribution}
    (h : ∀ p, cs'.filter (·.precedence = p) = cs.filter (·.precedence = p)) : stack cs' = stack cs := by
  rw [stack_eq, stack_eq, inPrecedence_congr h]

theorem inPrecedence_map_filled (cs : List Contribution) :
    inPrecedence (cs.map Contribution.filled) = (inPrecedence cs).map Contribution.filled := by
  symm
  exact List.map_mergeSort fun _ _ _ _ => rfl

/-- Layers that differ only in sections without fields resolve alike, over bases that do. -/
theorem layered_map_filled {base base' : Layer} (hbase : ∀ (α : Type) (f : Field α), f.given base = f.given base')
    (cs : List Contribution) :
    (layered base (cs.map Contribution.filled)).map Layer.resolve = (layered base' cs).map Layer.resolve := by
  induction cs generalizing base base' with
  | nil => exact congrArg Except.ok (Layer.resolve_congr hbase)
  | cons c cs ih =>
    rw [List.map_cons]
    cases hc : c.outcome with
    | error e =>
      rw [layered, layered, Contribution.filled, hc]
      rfl
    | ok l =>
      have hfilled : c.filled.outcome = .ok l.filled := by
        rw [Contribution.filled, hc]
        rfl
      rw [layered_cons hfilled, layered_cons hc]
      apply ih
      intro α f
      rw [f.given_overlay, f.given_overlay, f.given_filled, hbase]

/-- Whether a section without fields is present is not seen. -/
theorem stack_map_filled (cs : List Contribution) : stack (cs.map Contribution.filled) = stack cs := by
  rw [stack_eq, stack_eq, inPrecedence_map_filled, layered_map_filled fun _ _ => rfl]

/-- Sources that are laid over one another in groups beforehand make the same configuration. -/
theorem stack_groups {cs : List Contribution} {groups : List (List Contribution)}
    (h : groups.flatten = inPrecedence cs) (p : Nat) :
    stack (groups.map fun g => ⟨p, layered .absent g⟩) = stack cs := by
  -- sources of one precedence are already in order
  have hsort : inPrecedence (groups.map fun g => ⟨p, layered .absent g⟩) =
      groups.map fun g => ⟨p, layered .absent g⟩ := by
    apply List.mergeSort_of_pairwise
    apply List.pairwise_map.mpr
    exact List.pairwise_of_forall fun _ _ => by simp
  rw [stack_eq, stack_eq, hsort, layered_groups, h]

/-- **What sources make together.** It is a configuration exactly when every source loads and the configuration
    that they resolve to, of which there is one, has no violation; it is an error exactly when that is the first
    failure, or they all load and it is the first violation. Presence of sections without fields, grouping, and
    the order of sources of different precedence are not seen. -/
theorem stack_outcome (cs : List Contribution) :
    (∀ s, stack cs = .ok s ↔ (∀ c ∈ cs, c.Loads) ∧ Resolves cs s ∧ s.violations = []) ∧
      (∀ e, stack cs = .error e ↔ FirstFailure cs e ∨
        (∀ c ∈ cs, c.Loads) ∧ ∃ s v, Resolves cs s ∧ s.violations.head? = some v ∧ e = .validation v) ∧
      ((∀ c ∈ cs, c.Loads) → ∃ s, Resolves cs s ∧ ∀ s', Resolves cs s' → s' = s) ∧
      (∀ cs', cs'.map Contribution.filled = cs.map Contribution.filled → stack cs' = stack cs) ∧
      (∀ a b c : Layer, (a.overlay b).overlay c = a.overlay (b.overlay c)) ∧
      (∀ p (groups : List (List Contribution)), groups.flatten = inPrecedence cs →
        stack (groups.map fun g => ⟨p, layered .absent g⟩) = stack cs) ∧
      ∀ cs', (∀ p, cs'.filter (·.precedence = p) = cs.filter (·.precedence = p)) → stack cs' = stack cs := by
  refine ⟨fun s => stack_eq_ok_iff, fun e => stack_eq_error_iff, ?_, ?_, Layer.overlay_assoc, ?_, ?_⟩
  · intro h
    obtain ⟨s, hs, -⟩ := stack_of_loads h
    exact ⟨s, hs, fun s' hs' => hs'.unique hs⟩
  · intro cs' h
    rw [← stack_map_filled, h, stack_map_filled]
  · intro p groups h
    exact stack_groups h p
  · intro cs' h
    exact stack_reorder h

/-- A source that sets nothing but the name of the user table. -/
def Contribution.naming (precedence : Nat) (user : String) : Contribution :=
  ⟨precedence, .ok ⟨none, some ⟨none, none, none, some user⟩, none⟩⟩

/-- Two sources of one precedence, with one of a lower precedence between them. -/
def interleaved : List Contribution := [.naming 20 "member", .naming 10 "account", .naming 20 "people"]

/-- Sources that are given out of order, with their sections filled, in two groups, and in order. -/
theorem stack_outcome_interleaved :
    (∃ s, Resolves interleaved s ∧ ∀ s', Resolves interleaved s' → s' = s) ∧
      stack (interleaved.map Contribution.filled) = stack interleaved ∧
      stack ([[.naming 10 "account", .naming 20 "member"], [.naming 20 "people"]].map
        fun g => ⟨0, layered .absent g⟩) = stack interleaved ∧
      stack [.naming 10 "account", .naming 20 "member", .naming 20 "people"] = stack interleaved := by
  obtain ⟨-, -, hresolves, hfilled, -, hgroups, hreorder⟩ := stack_outcome interleaved
  refine ⟨hresolves ?_, hfilled _ rfl, hgroups 0 _ ?_, hreorder _ ?_⟩
  · intro c hc
    rw [interleaved, List.mem_cons, List.mem_cons, List.mem_singleton] at hc
    rcases hc with rfl | rfl | rfl
    · exact ⟨_, rfl⟩
    · exact ⟨_, rfl⟩
    · exact ⟨_, rfl⟩
  · simp [inPrecedence, interleaved, Contribution.naming, List.mergeSort, List.MergeSort.Internal.splitInTwo]
  · intro p
    by_cases hp : 10 = p
    · subst hp
      rfl
    · simp [interleaved, Contribution.naming, List.filter_cons, hp]

end Entitlement.Config
