import Entitlement.Proofs.Access.Effects
import Entitlement.Store.Directory

/-!
# `Entitlement.Proofs.Access.ComputeOnce` — what is known of a user is not asked again

Until a checker is made to forget a user, the granted rules that it gave once are given again without a question,
and the store answers for the user's groups and for its attributes at most once each, however the operations of
the checker are mixed and whichever of them fail (`computed_once`). Operations on other users leave the memory of a
user as it is. Behind each of these is a relation between worlds that every action of an operation obeys: the memory
of the user is the same (`Caches.SameOf`), its granted rules stay, and an answered question fills a place in the
memory that was empty (`Fills`).
-/

namespace Entitlement

/-- Two memories hold the same of a user. -/
structure Caches.SameOf (u : UserId) (c c' : Caches) : Prop where
  groups : c'.groups.get? u = c.groups.get? u
  attributes : c'.attributes.get? u = c.attributes.get? u
  granted : c'.granted.get? u = c.granted.get? u

/-! ## Counting answers -/

/-- The question is answered. -/
def Services.answers (s : Services) : Query → Bool
  | .groups u => (s.backend.groups u).isOk
  | .rules ids => (s.backend.rules ids).isOk
  | .primaryKey => s.backend.primaryKey.isOk
  | .attributes u column => (s.backend.attributes u column).isOk
  | .sessionRead _ => s.sessionRead.isOk
  | .sessionWrite _ => s.sessionWrite.isOk

theorem Services.Fails.not_answers {s : Services} {q : Query} {e : StoreError} (h : s.Fails q e) :
    s.answers q = false := by
  cases q <;> exact congrArg Except.isOk h

/-- The question is for the groups of a user. -/
def Query.isGroupsOf (u : UserId) : Query → Bool
  | .groups v => v = u
  | _ => false

/-- The question is for the attributes of a user, by whichever column. -/
def Query.isAttributesOf (u : UserId) : Query → Bool
  | .attributes v _ => v = u
  | _ => false

theorem Query.isGroupsOf_session {u : UserId} (q : Query) (hq : q.isSession = true) :
    q.isGroupsOf u = false := by
  cases q with
  | groups => cases hq
  | rules | primaryKey | attributes | sessionRead | sessionWrite => rfl

theorem Query.isAttributesOf_session {u : UserId} (q : Query) (hq : q.isSession = true) :
    q.isAttributesOf u = false := by
  cases q with
  | attributes => cases hq
  | groups | rules | primaryKey | sessionRead | sessionWrite => rfl

/-- How many of the step's questions of a kind were answered. -/
def Turn.answered (t : Turn) (kind : Query → Bool) : Nat :=
  t.questions.countP fun q => kind q && t.services.answers q

/-- A kind of questions, and whether the answer to them is remembered. -/
structure Place where
  kind : Query → Bool
  filled : Caches → Bool

/-- The place of the groups of a user. -/
def Place.groupsOf (u : UserId) : Place := ⟨Query.isGroupsOf u, fun c => (c.groups.get? u).isSome⟩

/-- The place of the attributes of a user. -/
def Place.attributesOf (u : UserId) : Place := ⟨Query.isAttributesOf u, fun c => (c.attributes.get? u).isSome⟩

/-- From one world to the next every answer of a kind fills its place. -/
def Fills (s : Services) (p : Place) (w w' : World) : Prop :=
  w'.queries.countP (fun q => p.kind q && s.answers q) + (p.filled w.caches).toNat ≤
    w.queries.countP (fun q => p.kind q && s.answers q) + (p.filled w'.caches).toNat

namespace Fills

variable {s : Services} {u v : UserId} {p : Place} {w w' w'' : World}

theorem refl (w : World) : Fills s p w w := Nat.le_refl _

theorem trans (h : Fills s p w w') (h' : Fills s p w' w'') : Fills s p w w'' := by
  unfold Fills at h h' ⊢
  omega

/-- Putting a question, and what is remembered with it. -/
theorem of_question {q : Query} {c : Caches}
    (h : (p.kind q && s.answers q).toNat + (p.filled w.caches).toNat ≤ (p.filled c).toNat) :
    Fills s p w { w with queries := w.queries ++ [q], caches := c } := by
  unfold Fills
  rw [List.countP_append, List.countP_singleton]
  cases hq : p.kind q && s.answers q with
  | true =>
    rw [hq] at h
    simp only [Bool.toNat_true] at h
    simp only [if_true]
    omega
  | false =>
    rw [hq] at h
    simp only [Bool.toNat_false] at h
    simp only [Bool.false_eq_true, if_false]
    omega

/-- A question that is of another kind, or not answered, and fills nothing. -/
theorem of_other {q : Query} {c : Caches} (hq : p.kind q = false ∨ s.answers q = false)
    (hc : p.filled c = p.filled w.caches) :
    Fills s p w { w with queries := w.queries ++ [q], caches := c } := by
  refine of_question ?_
  have hnot : (p.kind q && s.answers q) = false := by
    rcases hq with h | h
    · rw [h, Bool.false_and]
    · rw [h, Bool.and_false]
  rw [hnot, hc, Bool.toNat_false, Nat.zero_add]

end Fills

namespace Resolver.Fetch

variable {s : Services} {u v : UserId} {w w' : World}

theorem fills_groups (h : Fetch s v w w') : Fills s (.groupsOf u) w w' := by
  cases h with
  | failed hq he => exact .of_other (.inr he.not_answers) rfl
  | primaryKey => exact .of_other (.inl rfl) rfl
  | rules => exact .of_other (.inl rfl) rfl
  | groups habsent hgs =>
    by_cases hv : v = u
    · -- the user's own groups: one more answer, and a place that was empty
      subst hv
      refine .of_question ?_
      simp [Place.groupsOf, habsent, Bool.toNat_le]
    · refine .of_other (.inl (decide_eq_false hv)) ?_
      simp [Place.groupsOf, hv]
  | attributes habsent hrow => exact .of_other (.inl rfl) rfl

theorem fills_attributes (h : Fetch s v w w') : Fills s (.attributesOf u) w w' := by
  cases h with
  | failed hq he => exact .of_other (.inr he.not_answers) rfl
  | primaryKey => exact .of_other (.inl rfl) rfl
  | rules => exact .of_other (.inl rfl) rfl
  | groups habsent hgs => exact .of_other (.inl rfl) rfl
  | attributes habsent hrow =>
    by_cases hv : v = u
    · subst hv
      refine .of_question ?_
      simp [Place.attributesOf, habsent, Bool.toNat_le]
    · refine .of_other (.inl (decide_eq_false hv)) ?_
      simp [Place.attributesOf, hv]

theorem sameOf (h : Fetch s v w w') (hne : v ≠ u) : w.caches.SameOf u w'.caches := by
  cases h with
  | failed hq he => exact ⟨rfl, rfl, rfl⟩
  | primaryKey => exact ⟨rfl, rfl, rfl⟩
  | rules => exact ⟨rfl, rfl, rfl⟩
  | groups habsent hgs => exact ⟨by rw [Keyed.get?_insert, if_neg hne], rfl, rfl⟩
  | attributes habsent hrow => exact ⟨rfl, by rw [Keyed.get?_insert, if_neg hne], rfl⟩

end Resolver.Fetch

namespace Caches.SameOf

variable {u v : UserId} {c c' c'' : Caches}

theorem refl (c : Caches) : c.SameOf u c := ⟨rfl, rfl, rfl⟩

theorem trans (h : c.SameOf u c') (h' : c'.SameOf u c'') : c.SameOf u c'' :=
  ⟨h'.groups.trans h.groups, h'.attributes.trans h.attributes, h'.granted.trans h.granted⟩

/-- Forgetting one user is no loss for another. -/
theorem forget (c : Caches) (hne : v ≠ u) : c.SameOf u (c.forget v) where
  groups := by rw [Caches.forget, Keyed.get?_erase, if_neg hne]
  attributes := by rw [Caches.forget, Keyed.get?_erase, if_neg hne]
  granted := by rw [Caches.forget, Keyed.get?_erase, if_neg hne]

end Caches.SameOf

namespace Action

variable {c : Checker} {s : Services} {o : Operation} {u v : UserId} {w w' : World}

/-- What an operation on one user does leaves the memory of another as it is. -/
theorem sameOf (h : Action c s o w w') (ho : o.user? = some v) (hne : v ≠ u) :
    w.caches.SameOf u w'.caches := by
  cases h with
  | fetch hu h =>
    obtain rfl := Option.some.inj (ho.symm.trans hu)
    exact h.sameOf hne
  | session hc hq => exact .refl _
  | write hc hu habsent => exact .refl _
  | keep hu habsent hentry =>
    obtain rfl := Option.some.inj (ho.symm.trans hu)
    exact ⟨rfl, rfl, by rw [Keyed.get?_insert, if_neg hne]⟩
  | forget hforget =>
    subst hforget
    obtain rfl := Option.some.inj ho
    exact .forget _ hne
  | clear hclear =>
    subst hclear
    cases ho

/-- Granted rules stay in the memory as long as nothing makes it forget them. -/
theorem keeps_granted (h : Action c s o w w') (ho : ¬ o.Forgets u) {g : GrantedRules}
    (hg : w.caches.granted.get? u = some g) : w'.caches.granted.get? u = some g := by
  cases h with
  | fetch hu h =>
    cases h with
    | failed hq he => exact hg
    | primaryKey => exact hg
    | rules => exact hg
    | groups habsent hgs => exact hg
    | attributes habsent hrow => exact hg
  | session hc hq => exact hg
  | write hc hu habsent => exact hg
  | @keep v g' hu habsent hentry =>
    have hne : v ≠ u := by
      rintro rfl
      rw [hg] at habsent
      cases habsent
    rw [Keyed.get?_insert, if_neg hne, hg]
  | @forget v hforget =>
    have hne : v ≠ u := by
      rintro rfl
      exact ho (.inl hforget)
    rw [(Caches.SameOf.forget _ hne).granted, hg]
  | clear hclear => exact absurd (.inr hclear) ho

/-- Besides fetching, nothing that an operation does fills a place of the user or empties it, unless the user is
    forgotten. -/
theorem fills {p : Place} (hfetch : ∀ v w w', Resolver.Fetch s v w w' → Fills s p w w')
    (hsession : ∀ q : Query, q.isSession = true → p.kind q = false)
    (hfilled : ∀ c c' : Caches, c'.groups.get? u = c.groups.get? u →
      c'.attributes.get? u = c.attributes.get? u → p.filled c' = p.filled c)
    (h : Action c s o w w') (ho : ¬ o.Forgets u) : Fills s p w w' := by
  have hsame {w : World} {c : Caches} (hgroups : c.groups.get? u = w.caches.groups.get? u)
      (hattributes : c.attributes.get? u = w.caches.attributes.get? u) :
      Fills s p w { w with caches := c } := by
    unfold Fills
    rw [hfilled w.caches c hgroups hattributes]
  cases h with
  | fetch hu h => exact hfetch _ _ _ h
  | session hc hq => exact .of_other (.inl (hsession _ hq)) rfl
  | write hc hu habsent => exact .of_other (.inl (hsession _ rfl)) rfl
  | keep hu habsent hentry => exact hsame rfl rfl
  | @forget v hforget =>
    have hne : v ≠ u := by
      rintro rfl
      exact ho (.inl hforget)
    have hforgot := Caches.SameOf.forget w.caches hne
    exact hsame hforgot.groups hforgot.attributes
  | clear hclear => exact absurd (.inr hclear) ho

end Action

/-! ## Steps and runs -/

namespace Turn

variable {t : Turn} {u v : UserId}

/-- A step that is about one user leaves the memory of another as it is. -/
theorem sameOf (ht : t.operation.user? = some v) (hne : v ≠ u) : t.caches.SameOf u t.after.caches :=
  moves (t := t) (R := fun w w' => w.caches.SameOf u w'.caches) (fun w => .refl w.caches) .trans
    fun _ _ h => h.sameOf ht hne

theorem keeps_granted (ht : ¬ t.operation.Forgets u) {g : GrantedRules}
    (hg : t.caches.granted.get? u = some g) : t.after.caches.granted.get? u = some g :=
  moves (t := t) (R := fun w w' => w.caches.granted.get? u = some g → w'.caches.granted.get? u = some g)
    (fun _ h => h) (fun h h' hg => h' (h hg)) (fun _ _ h => h.keeps_granted ht) hg

theorem fills_groups (ht : ¬ t.operation.Forgets u) : Fills t.services (.groupsOf u) t.start t.after :=
  moves .refl .trans fun _ _ h =>
    h.fills (fun _ _ _ => Resolver.Fetch.fills_groups) Query.isGroupsOf_session
      (fun _ _ hgroups _ => congrArg Option.isSome hgroups) ht

theorem fills_attributes (ht : ¬ t.operation.Forgets u) : Fills t.services (.attributesOf u) t.start t.after :=
  moves .refl .trans fun _ _ h =>
    h.fills (fun _ _ _ => Resolver.Fetch.fills_attributes) Query.isAttributesOf_session
      (fun _ _ _ hattributes => congrArg Option.isSome hattributes) ht

/-- No place is filled twice, so linked steps that fill it are answered once. -/
theorem sum_answered_le_one {p : Place} {ts : List Turn} (hchain : ts.IsChain Linked)
    (hfills : ∀ t ∈ ts, Fills t.services p t.start t.after) :
    (ts.map fun t => t.answered p.kind).sum ≤ 1 := by
  refine sum_count_le (fun c => (p.filled c).toNat) hchain (fun t ht => ?_) fun c => Bool.toNat_le _
  have h : t.answered p.kind + (p.filled t.caches).toNat ≤ 0 + (p.filled t.after.caches).toNat := hfills t ht
  rw [Nat.zero_add] at h
  exact h

end Turn

/-- **What is known of a user is not asked again.** In a run of any checker, over services and a session store that
    may change and fail from step to step: the granted rules of a user that were given once are given again, without
    a question to anyone, until the user is forgotten; among steps that do not forget the user the store answers for
    its groups at most once and for its attributes at most once; and operations on other users leave its memory as it
    is. -/
theorem computed_once (c : Checker) (m : Caches) (events : List Event) (u : UserId) :
    (∀ t mid t' g, t :: mid ++ [t'] <:+: c.run m events →
      t.operation = .granted u → t.outcome = .ok (.granted g) →
      (∀ s ∈ mid, ¬ s.operation.Forgets u) → t'.operation = .granted u →
      t'.outcome = .ok (.granted g) ∧ t'.questions = []) ∧
    (∀ stretch, stretch <:+: c.run m events → (∀ t ∈ stretch, ¬ t.operation.Forgets u) →
      (stretch.map fun t => t.answered (Query.isGroupsOf u)).sum ≤ 1 ∧
      (stretch.map fun t => t.answered (Query.isAttributesOf u)).sum ≤ 1) ∧
    ∀ t ∈ c.run m events, ∀ v, t.operation.user? = some v → v ≠ u → t.caches.SameOf u t.after.caches := by
  have hchain := Checker.isChain_run c m events
  refine ⟨?_, ?_, ?_⟩
  · intro t mid t' g hinfix ht hg hmid ht'
    have hlinked := List.IsChain.infix hchain hinfix
    refine Turn.outcome_of_remembered ht' ?_
    exact Turn.lasts (p := fun c => c.granted.get? u = some g) hlinked
      (fun s hs hgranted => Turn.keeps_granted (hmid s hs) hgranted) (Turn.granted_of_outcome ht hg)
  · intro stretch hinfix hforgets
    have hlinked := List.IsChain.infix hchain hinfix
    exact ⟨Turn.sum_answered_le_one (p := .groupsOf u) hlinked fun t ht => Turn.fills_groups (hforgets t ht),
      Turn.sum_answered_le_one (p := .attributesOf u) hlinked fun t ht => Turn.fills_attributes (hforgets t ht)⟩
  · exact fun t _ v hv hne => Turn.sameOf hv hne

/-- A user in one group, which lists a rule without a condition. -/
private def subscriber : Directory :=
  Directory.addMembership (Directory.addGroup (Directory.addRule {} ⟨⟨1⟩, "Read", ""⟩ true)
    ⟨⟨10⟩, "all", "1"⟩ true) ⟨7⟩ ⟨10⟩

/-- The granted rules of the user, a check of another one, and the granted rules again, with everything refused. -/
private def refusedLater : List Event :=
  [⟨.ofBackend subscriber.backend, ∅, .granted ⟨7⟩⟩,
    ⟨.ofBackend subscriber.backend, ∅, .check (.delimited "read") ⟨8⟩ .or⟩,
    ⟨(Services.ofBackend subscriber.backend).refusing fun _ => true, ∅, .granted ⟨7⟩⟩]

/-- The last step is not asked anything, and in the whole run the groups of the user are fetched once. -/
theorem computed_once_refused :
    (∀ t ∈ (Checker.realtime.run {} refusedLater).getLast?,
      t.outcome = .ok (.granted (GrantedRules.ofNames ["Read"])) ∧ t.questions = []) ∧
    ((Checker.realtime.run {} refusedLater).map fun t => t.answered (Query.isGroupsOf ⟨7⟩)).sum ≤ 1 := by
  have h := computed_once Checker.realtime {} refusedLater ⟨7⟩
  constructor
  · intro t ht
    obtain rfl := Option.mem_some.mp ht
    exact h.1 _ [_] _ (GrantedRules.ofNames ["Read"]) ⟨[], [], rfl⟩ rfl (by decide +kernel) (by decide) rfl
  · exact (h.2.1 _ List.infix_rfl (by decide)).1

end Entitlement
