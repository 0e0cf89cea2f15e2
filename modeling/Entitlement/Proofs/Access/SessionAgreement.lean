import Entitlement.Proofs.Access.Effects
import Entitlement.Store.Directory

/-!
# `Entitlement.Proofs.Access.SessionAgreement` — checkers that share a session store agree

Any number of checkers work over one session store, each with a memory of its own; their stores, and what fails,
may differ from step to step (`Cluster`). An entry of the session store is written once and never changes, so it
only grows (`Keyed.Extends`), and whatever a checker in session mode remembers is an entry (`Caches.BackedBy`).
All granted rules that such checkers give to a user are therefore the same set, the user's entry
(`session_agreement`). A checker in realtime mode does the same whatever the session store holds
(`Lookup.IgnoresSessions`).
-/

namespace Entitlement

/-! ## Several checkers -/

/-- The memories of a number of checkers, and the session store that they share. -/
structure Cluster (ι : Type) where
  caches : ι → Caches
  sessions : SessionStore

/-- An operation of one of the checkers, and its services at that moment. -/
structure Call (ι : Type) where
  caller : ι
  services : Services
  operation : Operation

namespace Cluster

variable {ι : Type} [DecidableEq ι]

/-- Nothing is remembered yet. -/
def start (sessions : SessionStore) : Cluster ι := ⟨fun _ => {}, sessions⟩

/-- The step that a call makes. -/
def turn (checkers : ι → Checker) (w : Cluster ι) (k : Call ι) : Turn :=
  ⟨checkers k.caller, k.services, k.operation, w.caches k.caller, w.sessions⟩

/-- The checkers after a call. -/
def next (checkers : ι → Checker) (w : Cluster ι) (k : Call ι) : Cluster ι where
  caches := Function.update w.caches k.caller (w.turn checkers k).after.caches
  sessions := (w.turn checkers k).after.sessions

/-- The steps of a number of calls. -/
def run (checkers : ι → Checker) : Cluster ι → List (Call ι) → List Turn
  | _, [] => []
  | w, k :: rest => w.turn checkers k :: run checkers (w.next checkers k) rest

end Cluster

/-! ## Growing session stores -/

/-- The second map has every entry of the first. -/
def Keyed.Extends {κ α : Type} [DecidableEq κ] (m m' : Keyed κ α) : Prop :=
  ∀ k v, m.get? k = some v → m'.get? k = some v

namespace Keyed.Extends

variable {κ α : Type} [DecidableEq κ] {m m' m'' : Keyed κ α}

theorem refl (m : Keyed κ α) : m.Extends m := fun _ _ h => h

theorem trans (h : m.Extends m') (h' : m'.Extends m'') : m.Extends m'' := fun k v hv => h' k v (h k v hv)

/-- A new entry takes the place of none. -/
theorem insert {k : κ} (habsent : m.get? k = none) (v : α) : m.Extends (m.insert k v) := by
  intro k' v' hv
  have hne : k ≠ k' := by
    rintro rfl
    rw [habsent] at hv
    cases hv
  rw [get?_insert, if_neg hne, hv]

end Keyed.Extends

/-- All granted rules in the memory are entries of the session store. -/
def Caches.BackedBy (c : Caches) (σ : SessionStore) : Prop :=
  ∀ u g, c.granted.get? u = some g → σ.get? (sessionKey u) = some g

theorem Caches.BackedBy.mono {c : Caches} {σ σ' : SessionStore} (h : c.BackedBy σ) (hσ : σ.Extends σ') :
    c.BackedBy σ' := fun u g hg => hσ (sessionKey u) g (h u g hg)

namespace Action

variable {c : Checker} {s : Services} {o : Operation} {u : UserId} {w w' : World}

/-- An operation adds entries to the session store at most. -/
theorem extends_sessions (h : Action c s o w w') : w.sessions.Extends w'.sessions := by
  cases h with
  | fetch hu h =>
    rw [h.sameGrants.sessions]
    exact .refl _
  | write hc hu habsent => exact .insert habsent _
  | session hc hq => exact .refl _
  | keep hu habsent hentry => exact .refl _
  | forget ho => exact .refl _
  | clear ho => exact .refl _

/-- In session mode only entries of the session store are remembered. -/
theorem backed (h : Action c s o w w') (hc : c.resolver.mode = .session)
    (hw : w.caches.BackedBy w.sessions) : w'.caches.BackedBy w'.sessions := by
  cases h with
  | fetch hu h =>
    unfold Caches.BackedBy
    rw [h.sameGrants.granted, h.sameGrants.sessions]
    exact hw
  | write hc hu habsent => exact hw.mono (.insert habsent _)
  | session hc hq => exact hw
  | keep hu habsent hentry => exact Keyed.forall_insert hw (hentry hc)
  | forget ho => exact Keyed.forall_erase hw _
  | clear ho => exact fun u g hg => nomatch hg

/-- Only operations on a user write its entry. -/
theorem entry_eq (h : Action c s o w w') (ho : o.user? ≠ some u) :
    w'.sessions.get? (sessionKey u) = w.sessions.get? (sessionKey u) := by
  cases h with
  | fetch hu h => rw [h.sameGrants.sessions]
  | @write v g hc hu habsent =>
    have hne : sessionKey v ≠ sessionKey u := fun hkey => ho (sessionKey_injective hkey ▸ hu)
    rw [Keyed.get?_insert, if_neg hne]
  | session hc hq => rfl
  | keep hu habsent hentry => rfl
  | forget ho => rfl
  | clear ho => rfl

/-- In realtime mode nothing is asked of the session store. -/
theorem not_isSession (h : Action c s o w w') (hc : c.resolver.mode = .realtime)
    (hw : ∀ q ∈ w.queries, q.isSession = false) : ∀ q ∈ w'.queries, q.isSession = false := by
  have hmode : ¬ c.resolver.mode = .session := fun h => by rw [hc] at h; cases h
  have hasked {q : Query} (hq : q.isSession = false) : ∀ q' ∈ w.queries ++ [q], q'.isSession = false :=
    List.forall_mem_append.mpr ⟨hw, List.forall_mem_singleton.mpr hq⟩
  cases h with
  | fetch hu h =>
    cases h with
    | failed hq he => exact hasked hq
    | primaryKey => exact hasked rfl
    | rules => exact hasked rfl
    | groups habsent hgs => exact hasked rfl
    | attributes habsent hrow => exact hasked rfl
  | session hc hq => exact absurd hc hmode
  | write hc hu habsent => exact absurd hc hmode
  | keep hu habsent hentry => exact hw
  | forget ho => exact hw
  | clear ho => exact hw

end Action

/-! ## Realtime mode -/

/-- The world with another session store. -/
def World.withSessions (w : World) (σ : SessionStore) : World := { w with sessions := σ }

namespace Lookup

variable {α : Type} {s : Services} {u : UserId}

/-- The operation gives and does the same whatever the session store holds, and leaves it as it is. -/
structure IgnoresSessions (x : Lookup α) : Prop where
  answer_withSessions : ∀ w σ, answer x (w.withSessions σ) = answer x w
  after_withSessions : ∀ w σ, after x (w.withSessions σ) = (after x w).withSessions σ

theorem ignoresSessions_compositional : Compositional fun _ x => IgnoresSessions x where
  pure _ := ⟨fun _ _ => rfl, fun _ _ => rfl⟩
  throw _ := ⟨fun _ _ => rfl, fun _ _ => rfl⟩
  bind {_ _ x f} hx hf := by
    -- both worlds take the same branch
    have hrun (w : World) (σ : SessionStore) : (x >>= f).run.run (w.withSessions σ) =
        (answer (x >>= f) w, (after (x >>= f) w).withSessions σ) := by
      unfold answer after
      cases h : answer x w with
      | ok a =>
        rw [run_bind_of_ok ((hx.answer_withSessions w σ).trans h), hx.after_withSessions, run_bind_of_ok h]
        exact Prod.ext ((hf a).answer_withSessions _ σ) ((hf a).after_withSessions _ σ)
      | error e =>
        rw [run_bind_of_error ((hx.answer_withSessions w σ).trans h), hx.after_withSessions, run_bind_of_error h]
    constructor
    · intro w σ
      have hanswer := congrArg Prod.fst (hrun w σ)
      exact hanswer
    · intro w σ
      have hafter := congrArg Prod.snd (hrun w σ)
      exact hafter

theorem ignoresSessions_ask (q : Query) (a : Except StoreError α) : IgnoresSessions (ask q a) := by
  cases a with
  | ok v => exact ⟨fun _ _ => rfl, fun _ _ => rfl⟩
  | error e => exact ⟨fun _ _ => rfl, fun _ _ => rfl⟩

theorem ignoresSessions_remembered (f : Caches → α) : IgnoresSessions (remembered f) :=
  ⟨fun _ _ => rfl, fun _ _ => rfl⟩

theorem ignoresSessions_remember (f : Caches → Caches) : IgnoresSessions (remember f) :=
  ⟨fun _ _ => rfl, fun _ _ => rfl⟩

theorem ignoresSessions_groups : IgnoresSessions (Resolver.groups s u) := by
  have hΦ := ignoresSessions_compositional
  refine hΦ.bind (ignoresSessions_remembered _) fun found => ?_
  cases found with
  | some gs => exact hΦ.pure gs
  | none =>
    refine hΦ.bind (ignoresSessions_ask _ _) fun gs => ?_
    exact hΦ.bind (ignoresSessions_remember _) fun _ => hΦ.pure gs

theorem ignoresSessions_attributes : IgnoresSessions (Resolver.attributes s u) := by
  have hΦ := ignoresSessions_compositional
  refine hΦ.bind (ignoresSessions_remembered _) fun found => ?_
  cases found with
  | some row => exact hΦ.pure row
  | none =>
    refine hΦ.bind (ignoresSessions_ask _ _) fun key => ?_
    refine hΦ.bind (ignoresSessions_ask _ _) fun row => ?_
    exact hΦ.bind (ignoresSessions_remember _) fun _ => hΦ.pure row

/-- **Realtime mode.** No operation depends on the session store or changes it. -/
theorem ignoresSessions_perform {c : Checker} (hc : c.resolver.mode = .realtime) (o : Operation) :
    IgnoresSessions (c.perform s o) := by
  have hΦ := ignoresSessions_compositional
  have hmode : ¬ c.resolver.mode = .session := fun h => by rw [hc] at h; cases h
  have hresolve (u : UserId) : IgnoresSessions (c.resolver.resolve s u) :=
    hΦ.resolve c.resolver ignoresSessions_groups (fun ids => ignoresSessions_ask _ _) ignoresSessions_attributes
  have hgranted (u : UserId) : IgnoresSessions (c.resolver.granted s u) := by
    refine hΦ.granted (ignoresSessions_remembered _) ?_ fun g => ignoresSessions_remember _
    exact hΦ.load (hresolve u) (fun h => absurd h hmode) fun h => absurd h hmode
  exact hΦ.perform (fun u _ => hgranted u) (fun u _ => hresolve u) (fun u _ => ignoresSessions_groups)
    (fun u _ => ignoresSessions_attributes) (fun u _ => ignoresSessions_remember _)
    fun _ => ignoresSessions_remember _

end Lookup

/-! ## Steps and runs -/

namespace Turn

variable {t : Turn} {u : UserId}

theorem extends_sessions (t : Turn) : t.sessions.Extends t.after.sessions :=
  moves (t := t) (R := fun w w' => w.sessions.Extends w'.sessions) (fun w => .refl w.sessions) .trans
    fun _ _ => Action.extends_sessions

theorem backed (ht : t.checker.resolver.mode = .session) (h : t.caches.BackedBy t.sessions) :
    t.after.caches.BackedBy t.after.sessions :=
  moves (t := t) (R := fun w w' => w.caches.BackedBy w.sessions → w'.caches.BackedBy w'.sessions) (fun _ h => h)
    (fun h h' hw => h' (h hw)) (fun _ _ h => h.backed ht) h

/-- Only operations on a user write its entry. -/
theorem entry_eq (ht : t.operation.user? ≠ some u) :
    t.after.sessions.get? (sessionKey u) = t.sessions.get? (sessionKey u) :=
  moves (t := t) (R := fun w w' => w'.sessions.get? (sessionKey u) = w.sessions.get? (sessionKey u))
    (fun _ => rfl) (fun h h' => h'.trans h) fun _ _ h => h.entry_eq ht

/-- A step in realtime mode asks nothing of the session store. -/
theorem not_isSession (ht : t.checker.resolver.mode = .realtime) : ∀ q ∈ t.questions, q.isSession = false :=
  moves (t := t) (R := fun w w' => (∀ q ∈ w.queries, q.isSession = false) → ∀ q ∈ w'.queries, q.isSession = false)
    (fun _ h => h) (fun h h' hw => h' (h hw)) (fun _ _ h => h.not_isSession ht) fun _ hq => nomatch hq

/-- The step over another session store. -/
def withSessions (t : Turn) (σ : SessionStore) : Turn := { t with sessions := σ }

theorem outcome_withSessions (ht : t.checker.resolver.mode = .realtime) (σ : SessionStore) :
    (t.withSessions σ).outcome = t.outcome :=
  (Lookup.ignoresSessions_perform ht t.operation).answer_withSessions t.start σ

theorem after_withSessions (ht : t.checker.resolver.mode = .realtime) (σ : SessionStore) :
    (t.withSessions σ).after = t.after.withSessions σ :=
  (Lookup.ignoresSessions_perform ht t.operation).after_withSessions t.start σ

end Turn

namespace Cluster

variable {ι : Type} [DecidableEq ι] {checkers : ι → Checker} {w : Cluster ι} {calls : List (Call ι)}

/-- The checkers after a number of calls. -/
def final (checkers : ι → Checker) (w : Cluster ι) (calls : List (Call ι)) : Cluster ι :=
  calls.foldl (next checkers) w

/-- What the checkers in session mode remember are entries of the session store. -/
def Sound (checkers : ι → Checker) (w : Cluster ι) : Prop :=
  ∀ i, (checkers i).resolver.mode = .session → (w.caches i).BackedBy w.sessions

omit [DecidableEq ι] in
theorem sound_start (checkers : ι → Checker) (σ : SessionStore) : (start σ).Sound checkers :=
  fun _ _ _ _ h => nomatch h

/-- A call adds entries to the session store, and the caller remembers entries. -/
theorem Sound.next (hw : w.Sound checkers) (k : Call ι) : (w.next checkers k).Sound checkers := by
  intro i hi
  show (Function.update w.caches k.caller (w.turn checkers k).after.caches i).BackedBy
    (w.turn checkers k).after.sessions
  by_cases hk : i = k.caller
  · subst hk
    rw [Function.update_self]
    exact Turn.backed (t := w.turn checkers k) hi (hw k.caller hi)
  · rw [Function.update_of_ne hk]
    exact (hw i hi).mono (w.turn checkers k).extends_sessions

theorem Sound.final (hw : w.Sound checkers) (calls : List (Call ι)) : (w.final checkers calls).Sound checkers := by
  induction calls generalizing w with
  | nil => exact hw
  | cons k rest ih => exact ih (hw.next k)

theorem extends_final (w : Cluster ι) (calls : List (Call ι)) :
    w.sessions.Extends (w.final checkers calls).sessions := by
  induction calls generalizing w with
  | nil => exact .refl _
  | cons k rest ih => exact (w.turn checkers k).extends_sessions.trans (ih (w.next checkers k))

/-- Every step is made by the checkers as the calls before it left them. -/
theorem exists_of_mem_run {t : Turn} (ht : t ∈ run checkers w calls) :
    ∃ front k back, calls = front ++ k :: back ∧ t = (w.final checkers front).turn checkers k := by
  induction calls generalizing w with
  | nil => exact absurd ht List.not_mem_nil
  | cons k rest ih =>
    rcases List.mem_cons.mp ht with rfl | ht
    · exact ⟨[], k, rest, rfl, rfl⟩
    · obtain ⟨front, k', back, rfl, rfl⟩ := ih ht
      exact ⟨k :: front, k', back, rfl, rfl⟩

/-- What the session store holds behind a step it still holds in the end. -/
theorem after_extends_final {t : Turn} (ht : t ∈ run checkers w calls) :
    t.after.sessions.Extends (w.final checkers calls).sessions := by
  obtain ⟨front, k, back, rfl, rfl⟩ := exists_of_mem_run ht
  have hfinal : w.final checkers (front ++ k :: back) =
      ((w.final checkers front).next checkers k).final checkers back := List.foldl_append
  rw [hfinal]
  exact extends_final ((w.final checkers front).next checkers k) back

/-- What the session store holds behind a step it still holds in front of every later one. -/
theorem pairwise_run (w : Cluster ι) (calls : List (Call ι)) :
    (run checkers w calls).Pairwise fun t t' => t.after.sessions.Extends t'.sessions := by
  induction calls generalizing w with
  | nil => exact .nil
  | cons k rest ih =>
    refine List.pairwise_cons.mpr ⟨fun t' ht' => ?_, ih (w.next checkers k)⟩
    obtain ⟨front, k', back, rfl, rfl⟩ := exists_of_mem_run ht'
    exact extends_final (w.next checkers k) front

end Cluster

/-- **Session agreement.** Any number of checkers share a session store, which may hold entries already, and nobody
    else writes to it. For every user there is one set of granted rules: all that checkers in session mode give to
    the user are this set, which is then the user's entry, and whatever entry the user has is this set. Entries are
    never changed or removed, different users have different ones, and only operations on a user write the user's.
    A step in realtime mode asks nothing of the session store and leaves it alone, and it would be the same over any
    other one. -/
theorem session_agreement {ι : Type} [DecidableEq ι] (checkers : ι → Checker) (σ : SessionStore)
    (calls : List (Call ι)) :
    (∀ u, ∃ g₀, ∀ t ∈ Cluster.run checkers (.start σ) calls,
      (∀ g, t.checker.resolver.mode = .session → t.operation = .granted u → t.outcome = .ok (.granted g) →
        g = g₀ ∧ t.after.sessions.get? (sessionKey u) = some g₀) ∧
      (∀ g, t.sessions.get? (sessionKey u) = some g →
        g = g₀ ∧ t.after.sessions.get? (sessionKey u) = some g₀) ∧
      ∀ g, t.after.sessions.get? (sessionKey u) = some g → g = g₀) ∧
    ((Cluster.run checkers (.start σ) calls).Pairwise fun t t' => t.after.sessions.Extends t'.sessions) ∧
    (∀ u v, sessionKey u = sessionKey v → u = v) ∧
    (∀ t ∈ Cluster.run checkers (.start σ) calls, ∀ u, t.operation.user? ≠ some u →
      t.after.sessions.get? (sessionKey u) = t.sessions.get? (sessionKey u)) ∧
    ∀ t ∈ Cluster.run checkers (.start σ) calls, t.checker.resolver.mode = .realtime →
      t.after.sessions = t.sessions ∧ (∀ q ∈ t.questions, q.isSession = false) ∧
      ∀ σ', (t.withSessions σ').outcome = t.outcome ∧ (t.withSessions σ').after.caches = t.after.caches := by
  refine ⟨fun u => ?_, Cluster.pairwise_run (.start σ) calls, fun u v => sessionKey_injective,
    fun t _ u hu => Turn.entry_eq hu, fun t _ ht => ?_⟩
  · -- the set is the entry that the user has in the end
    let entry := (Cluster.final checkers (.start σ) calls).sessions.get? (sessionKey u)
    refine ⟨entry.getD ∅, fun t ht => ?_⟩
    have hafter : ∀ g, t.after.sessions.get? (sessionKey u) = some g → g = entry.getD ∅ := by
      intro g hg
      have hentry : entry = some g := Cluster.after_extends_final ht (sessionKey u) g hg
      rw [hentry]
      rfl
    refine ⟨fun g hmode ho hg => ?_, fun g hg => ?_, hafter⟩
    · obtain ⟨front, k, back, -, rfl⟩ := Cluster.exists_of_mem_run ht
      have hsound := (Cluster.sound_start checkers σ).final front k.caller hmode
      have hg' := Turn.backed hmode hsound u g (Turn.granted_of_outcome ho hg)
      exact ⟨hafter g hg', hafter g hg' ▸ hg'⟩
    · have hg' := t.extends_sessions (sessionKey u) g hg
      exact ⟨hafter g hg', hafter g hg' ▸ hg'⟩
  · refine ⟨congrArg World.sessions (Turn.after_withSessions ht t.sessions), Turn.not_isSession ht, fun σ' => ?_⟩
    rw [Turn.after_withSessions ht σ']
    exact ⟨Turn.outcome_withSessions ht σ', rfl⟩

/-- A user in one group, which lists a rule without a condition. -/
private def member : Directory :=
  Directory.addMembership (Directory.addGroup (Directory.addRule {} ⟨⟨1⟩, "Read", ""⟩ true)
    ⟨⟨10⟩, "all", "1"⟩ true) ⟨7⟩ ⟨10⟩

/-- Two checkers in session mode and one in realtime mode. -/
private def three (i : Fin 3) : Checker := ⟨true, ⟨if i = 2 then .realtime else .session, .literal⟩⟩

/-- Each of them is asked for the granted rules of the user, the second and the third over an empty store. -/
private def inTurn : List (Call (Fin 3)) :=
  [⟨0, .ofBackend member.backend, .granted ⟨7⟩⟩, ⟨1, .ofBackend (Directory.backend {}), .granted ⟨7⟩⟩,
    ⟨2, .ofBackend (Directory.backend {}), .granted ⟨7⟩⟩]

/-- The second checker gives what the first one found, and the third what its own store says. -/
theorem session_agreement_three :
    (Cluster.run three (.start ∅) inTurn).map Turn.outcome =
        [.ok (.granted (.ofNames ["Read"])), .ok (.granted (.ofNames ["Read"])), .ok (.granted ∅)] ∧
      ∀ t ∈ (Cluster.run three (.start ∅) inTurn).take 2,
        t.after.sessions.get? (sessionKey ⟨7⟩) = some (.ofNames ["Read"]) := by
  obtain ⟨g₀, h⟩ := (session_agreement three ∅ inTurn).1 ⟨7⟩
  have hsteps : ∀ t ∈ (Cluster.run three (.start ∅) inTurn).take 2, t.checker.resolver.mode = .session ∧
      t.operation = .granted ⟨7⟩ ∧ t.outcome = .ok (.granted (.ofNames ["Read"])) := by decide +kernel
  refine ⟨by decide +kernel, fun t ht => ?_⟩
  obtain ⟨hmode, ho, hg⟩ := hsteps t ht
  have hentry := (h t (List.mem_of_mem_take ht)).1 (.ofNames ["Read"]) hmode ho hg
  rw [hentry.1]
  exact hentry.2

end Entitlement
