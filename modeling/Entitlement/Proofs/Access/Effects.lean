import Entitlement.Proofs.Access.Run
import Mathlib.Logic.Relation

/-!
# `Entitlement.Proofs.Access.Effects` — what an operation may do to the world

Facts about all operations are put together from facts about their parts. A property that holds of a sequence
when it holds of the parts (`Compositional`) holds of a resolution, of the granted rules and of every operation of
a checker as soon as it holds of what these are made of. Most such properties say that an operation moves the
world along a relation that is reflexive and transitive (`Moves`).

What an operation can do is said once, as a list of actions with the conditions under which they happen
(`Action`): a question, an answer that is remembered where nothing was, a new entry of the session store, granted
rules that are remembered, and forgetting. Every operation is a sequence of actions (`Actions.perform`), so what
every action obeys holds between the worlds around every step of a run (`Turn.moves`).
-/

namespace Entitlement

open Attribute (Row)

/-- The user that an operation is about; clearing the memory is about none. -/
def Operation.user? : Operation → Option UserId
  | .granted u | .resolve u | .groups u | .attributes u | .check _ u _ | .checkText _ u _ | .invalidate u => some u
  | .clear => none

/-- The operation makes the checker forget a user. -/
def Operation.Forgets (u : UserId) (o : Operation) : Prop := o = .invalidate u ∨ o = .clear

instance (u : UserId) (o : Operation) : Decidable (o.Forgets u) :=
  inferInstanceAs (Decidable (o = .invalidate u ∨ o = .clear))

namespace Lookup

variable {s : Services} {u : UserId} {α β : Type}

/-! ## Compositional properties -/

/-- A property of operations that holds of sequences when it holds of their parts. -/
structure Compositional (Φ : ∀ α : Type, Lookup α → Prop) : Prop where
  pure : ∀ {α : Type} (a : α), Φ α (pure a)
  throw : ∀ {α : Type} (e : AccessError), Φ α (throw e)
  bind : ∀ {α β : Type} {x : Lookup α} {f : α → Lookup β}, Φ α x → (∀ a, Φ β (f a)) → Φ β (x >>= f)

/-- The operation moves every world along a relation. -/
def Moves (R : World → World → Prop) (x : Lookup α) : Prop := ∀ w, R w (after x w)

/-- **Sequencing.** What a sequence shows is shown by its second part behind the first, or by the error of the
    first. -/
theorem bind_cases {x : Lookup α} {f : α → Lookup β} {w : World} {Q : Except AccessError β → World → Prop}
    (hok : ∀ a, answer x w = .ok a → Q (answer (f a) (after x w)) (after (f a) (after x w)))
    (herror : ∀ e, answer x w = .error e → Q (.error e) (after x w)) :
    Q (answer (x >>= f) w) (after (x >>= f) w) := by
  cases h : answer x w with
  | ok a =>
    have hrun := run_bind_of_ok (f := f) h
    unfold answer after at hok ⊢
    rw [hrun]
    exact hok a h
  | error e =>
    have hrun := run_bind_of_error (f := f) h
    unfold answer after at herror ⊢
    rw [hrun]
    exact herror e h

theorem answer_map {x : Lookup α} {f : α → β} {w : World} :
    answer (do return f (← x)) w = (answer x w).map f := by
  refine bind_cases (Q := fun r _ => r = (answer x w).map f) (fun a ha => ?_) fun e he => ?_
  · rw [ha]
    rfl
  · rw [he]
    rfl

theorem after_map {x : Lookup α} {f : α → β} {w : World} : after (do return f (← x)) w = after x w :=
  bind_cases (Q := fun _ w' => w' = after x w) (fun _ _ => rfl) fun _ _ => rfl

/-- Along a reflexive and transitive relation operations move when their parts do. -/
theorem Moves.compositional {R : World → World → Prop} (hrefl : ∀ w, R w w)
    (htrans : ∀ {w₁ w₂ w₃}, R w₁ w₂ → R w₂ w₃ → R w₁ w₃) : Compositional fun _ x => Moves R x where
  pure _ w := hrefl w
  throw _ w := hrefl w
  bind {_ _ x _} hx hf w :=
    bind_cases (Q := fun _ w' => R w w') (fun a _ => htrans (hx w) (hf a (after x w))) fun _ _ => hx w

/-- What moves the world in steps moves it along every reflexive and transitive relation that the steps obey. -/
theorem Moves.of_steps {X R : World → World → Prop} {x : Lookup α} (hx : Moves (Relation.ReflTransGen X) x)
    (hrefl : ∀ w, R w w) (htrans : ∀ {w₁ w₂ w₃}, R w₁ w₂ → R w₂ w₃ → R w₁ w₃)
    (hstep : ∀ w w', X w w' → R w w') : Moves R x := by
  intro w
  have hsteps := hx w
  generalize after x w = w' at hsteps ⊢
  induction hsteps with
  | refl => exact hrefl w
  | tail _ hlast ih => exact htrans ih (hstep _ _ hlast)

namespace Compositional

variable {Φ : ∀ α : Type, Lookup α → Prop}

theorem map (hΦ : Compositional Φ) {x : Lookup α} (hx : Φ α x) (g : α → β) : Φ β (do return g (← x)) :=
  hΦ.bind hx fun a => hΦ.pure (g a)

/-- A resolution is made of fetching groups, rules and attributes. -/
theorem resolve (hΦ : Compositional Φ) (r : Resolver) (hgroups : Φ _ (Resolver.groups s u))
    (hrules : ∀ ids, Φ _ (ask (.rules ids) (s.backend.rules ids))) (hattributes : Φ _ (Resolver.attributes s u)) :
    Φ _ (r.resolve s u) := by
  refine hΦ.bind hgroups fun gs => ?_
  cases ruleIdsOfGroups gs with
  | error e => exact hΦ.throw (.malformedList e)
  | ok ids =>
    show Φ _ (if ids.isEmpty then _ else _)
    by_cases hempty : ids.isEmpty = true
    · rw [if_pos hempty]
      exact hΦ.pure Resolution.nothing
    · rw [if_neg hempty]
      refine hΦ.bind (hrules ids) fun rules => ?_
      by_cases hcond : rules.any Rule.isConditional = true
      · simp only [if_pos hcond]
        exact hΦ.bind hattributes fun row => hΦ.pure (resolveRules _ row rules)
      · simp only [if_neg hcond]
        exact hΦ.pure (resolveRules _ none rules)

/-- Granted rules are loaded by a resolution, and in session mode by reading and writing the session store. -/
theorem load (hΦ : Compositional Φ) {r : Resolver} (hresolve : Φ _ (r.resolve s u))
    (hread : r.mode = .session → Φ _ (Resolver.sessionGranted s u))
    (hwrite : r.mode = .session → ∀ g, Φ _ (Resolver.writeSession s u g)) : Φ _ (r.load s u) := by
  unfold Resolver.load
  cases hr : r.mode with
  | realtime => exact hΦ.map hresolve Resolution.granted
  | session =>
    refine hΦ.bind (hread hr) fun found => ?_
    cases found with
    | some g => exact hΦ.pure g
    | none => exact hΦ.bind hresolve fun res => hΦ.bind (hwrite hr res.granted) fun _ => hΦ.pure res.granted

theorem granted (hΦ : Compositional Φ) {r : Resolver} (hrecall : Φ _ (remembered (·.granted.get? u)))
    (hload : Φ _ (r.load s u))
    (hkeep : ∀ g, Φ _ (remember fun c => { c with granted := c.granted.insert u g })) :
    Φ _ (r.granted s u) := by
  refine hΦ.bind hrecall fun found => ?_
  cases found with
  | some g => exact hΦ.pure g
  | none => exact hΦ.bind hload fun g => hΦ.bind (hkeep g) fun _ => hΦ.pure g

/-- Every operation of a checker is made of operations of its resolver. -/
theorem perform (hΦ : Compositional Φ) {c : Checker} {o : Operation}
    (hgranted : ∀ u, o.user? = some u → Φ _ (c.resolver.granted s u))
    (hresolve : ∀ u, o.user? = some u → Φ _ (c.resolver.resolve s u))
    (hgroups : ∀ u, o.user? = some u → Φ _ (Resolver.groups s u))
    (hattributes : ∀ u, o.user? = some u → Φ _ (Resolver.attributes s u))
    (hinvalidate : ∀ u, o = .invalidate u → Φ _ (Resolver.invalidate u))
    (hclear : o = .clear → Φ _ Resolver.clear) : Φ _ (c.perform s o) := by
  have hcheck (names : RequestedNames) (u : UserId) (r : Relation) (hu : o.user? = some u) :
      Φ _ (c.check s names u r) := by
    unfold Checker.check
    by_cases he : c.enabled = true
    · rw [if_pos he]
      exact hΦ.map (hgranted u hu) _
    · rw [if_neg he]
      exact hΦ.pure true
  cases o with
  | granted u => exact hΦ.map (hgranted u rfl) Answer.granted
  | resolve u => exact hΦ.map (hresolve u rfl) Answer.resolution
  | groups u => exact hΦ.map (hgroups u rfl) Answer.groups
  | attributes u => exact hΦ.map (hattributes u rfl) Answer.attributes
  | check names u r => exact hΦ.map (hcheck names u r rfl) Answer.decision
  | checkText names u relation =>
    refine hΦ.map ?_ Answer.decision
    unfold Checker.checkText
    by_cases he : c.enabled = true
    · rw [if_pos he]
      cases Relation.parse? relation with
      | none => exact hΦ.throw (.invalidRelation relation)
      | some r => exact hcheck names u r rfl
    · rw [if_neg he]
      exact hΦ.pure true
  | invalidate u => exact hΦ.bind (hinvalidate u rfl) fun _ => hΦ.pure Answer.done
  | clear => exact hΦ.bind (hclear rfl) fun _ => hΦ.pure Answer.done

end Compositional

end Lookup

/-! ## Fetching -/

/-- The question is put to the session store. -/
def Query.isSession : Query → Bool
  | .sessionRead _ | .sessionWrite _ => true
  | .groups _ | .rules _ | .primaryKey | .attributes _ _ => false

namespace Resolver

open Lookup

/-- One thing that is done when a user is resolved. Answers about the user are remembered when they come, and
    they are only asked for when nothing is remembered. -/
inductive Fetch (s : Services) (u : UserId) : World → World → Prop where
  | failed {w : World} {q : Query} {e : StoreError} (hq : q.isSession = false) (he : s.Fails q e) :
    Fetch s u w { w with queries := w.queries ++ [q] }
  | primaryKey {w : World} : Fetch s u w { w with queries := w.queries ++ [.primaryKey] }
  | rules {w : World} {ids : Ascending RuleId} : Fetch s u w { w with queries := w.queries ++ [.rules ids] }
  | groups {w : World} {gs : List Group} (habsent : w.caches.groups.get? u = none)
    (hgs : s.backend.groups u = .ok gs) :
    Fetch s u w { w with
      queries := w.queries ++ [.groups u]
      caches := { w.caches with groups := w.caches.groups.insert u gs } }
  | attributes {w : World} {key : String} {row : Option Row} (habsent : w.caches.attributes.get? u = none)
    (hrow : s.backend.attributes u key = .ok row) :
    Fetch s u w { w with
      queries := w.queries ++ [.attributes u key]
      caches := { w.caches with attributes := w.caches.attributes.insert u row } }

/-- Any number of such things, one after the other. -/
abbrev Fetches (s : Services) (u : UserId) : World → World → Prop := Relation.ReflTransGen (Fetch s u)

variable {s : Services} {u : UserId} {w w' : World}

theorem fetches_compositional (s : Services) (u : UserId) : Compositional fun _ x => Moves (Fetches s u) x :=
  Moves.compositional (fun _ => .refl) Relation.ReflTransGen.trans

theorem fetches_groups : Moves (Fetches s u) (groups s u) := by
  intro w
  rw [groups, after, run_bind_remembered]
  cases hm : w.caches.groups.get? u with
  | some gs => exact .refl
  | none =>
    show Fetches s u w (after (ask (.groups u) (s.backend.groups u) >>= _) w)
    cases hanswer : s.backend.groups u with
    | ok gs => exact .single (.groups hm hanswer)
    | error e => exact .single (.failed (q := .groups u) rfl hanswer)

theorem fetches_attributes : Moves (Fetches s u) (attributes s u) := by
  intro w
  rw [attributes, after, run_bind_remembered]
  cases hm : w.caches.attributes.get? u with
  | some row => exact .refl
  | none =>
    -- first the column is asked for, then the attributes
    refine .head .primaryKey ?_
    show Fetches s u { w with queries := w.queries ++ [.primaryKey] }
      (after (ask .primaryKey s.backend.primaryKey >>= _) w)
    cases s.backend.primaryKey with
    | error e => exact .refl
    | ok key =>
      show Fetches s u _ (after (ask (.attributes u (key.getD defaultPrimaryKey))
        (s.backend.attributes u (key.getD defaultPrimaryKey)) >>= _) _)
      cases hanswer : s.backend.attributes u (key.getD defaultPrimaryKey) with
      | ok row => exact .single (.attributes hm hanswer)
      | error e => exact .single (.failed (q := .attributes u (key.getD defaultPrimaryKey)) rfl hanswer)

/-- **Resolution.** What a resolution does, it does in such steps. -/
theorem fetches_resolve (r : Resolver) : Moves (Fetches s u) (r.resolve s u) := by
  refine (fetches_compositional s u).resolve r fetches_groups (fun ids w => ?_) fetches_attributes
  cases s.backend.rules ids with
  | ok rules => exact .single .rules
  | error e => exact .single .rules

/-- The granted rules in the memory and in the session store stay as they are. -/
structure SameGrants (w w' : World) : Prop where
  granted : w'.caches.granted = w.caches.granted
  sessions : w'.sessions = w.sessions

theorem SameGrants.trans {w₁ w₂ w₃ : World} (h : SameGrants w₁ w₂) (h' : SameGrants w₂ w₃) : SameGrants w₁ w₃ :=
  ⟨h'.granted.trans h.granted, h'.sessions.trans h.sessions⟩

theorem Fetch.sameGrants (h : Fetch s u w w') : SameGrants w w' := by
  cases h with
  | failed hq he => exact ⟨rfl, rfl⟩
  | primaryKey => exact ⟨rfl, rfl⟩
  | rules => exact ⟨rfl, rfl⟩
  | groups habsent hgs => exact ⟨rfl, rfl⟩
  | attributes habsent hrow => exact ⟨rfl, rfl⟩

/-- A resolution leaves the granted rules alone, in the memory and in the session store. -/
theorem sameGrants_resolve (r : Resolver) : Moves SameGrants (r.resolve s u) :=
  (fetches_resolve r).of_steps (fun _ => ⟨rfl, rfl⟩) SameGrants.trans fun _ _ => Fetch.sameGrants

/-! ## The session store -/

theorem after_sessionGranted (s : Services) (u : UserId) (w : World) :
    after (sessionGranted s u) w = { w with queries := w.queries ++ [.sessionRead (sessionKey u)] } := by
  unfold sessionGranted
  cases s.sessionRead with
  | ok _ => rfl
  | error e => rfl

theorem eq_of_sessionGranted {found : Option GrantedRules} (h : answer (sessionGranted s u) w = .ok found) :
    found = w.sessions.get? (sessionKey u) := by
  unfold sessionGranted at h
  cases hread : s.sessionRead with
  | ok _ =>
    rw [hread] at h
    exact (Except.ok.inj h).symm
  | error e =>
    rw [hread] at h
    cases h

/-- What writing granted rules to the session store gives and does. -/
inductive WriteStep (u : UserId) (g : GrantedRules) (w : World) : Except AccessError Unit → World → Prop where
  | failed {e : StoreError} :
    WriteStep u g w (.error (.store e)) { w with queries := w.queries ++ [.sessionWrite (sessionKey u)] }
  | written :
    WriteStep u g w (.ok ()) { w with
      queries := w.queries ++ [.sessionWrite (sessionKey u)]
      sessions := w.sessions.insert (sessionKey u) g }

theorem writeStep_after (s : Services) (u : UserId) (g : GrantedRules) (w : World) :
    WriteStep u g w (answer (writeSession s u g) w) (after (writeSession s u g) w) := by
  unfold writeSession
  cases s.sessionWrite with
  | ok _ => exact .written
  | error e => exact .failed

/-- Granted rules that are remembered are given without any question. -/
theorem granted_of_remembered {r : Resolver} {g : GrantedRules} (h : w.caches.granted.get? u = some g) :
    (r.granted s u).run.run w = (.ok g, w) := by
  rw [granted, run_bind_remembered, h]
  rfl

/-- Granted rules that are not remembered are loaded, and then they are. -/
theorem granted_of_absent {r : Resolver} (h : w.caches.granted.get? u = none) :
    (r.granted s u).run.run w =
      (do
        let g ← r.load s u
        remember fun c => { c with granted := c.granted.insert u g }
        return g : Lookup GrantedRules).run.run w := by
  rw [granted, run_bind_remembered, h]

/-- Granted rules that are given are remembered. -/
theorem get?_granted_of_ok {r : Resolver} {g : GrantedRules} (h : answer (r.granted s u) w = .ok g) :
    (after (r.granted s u) w).caches.granted.get? u = some g := by
  cases hm : w.caches.granted.get? u with
  | some g' =>
    have hrun := granted_of_remembered (s := s) (r := r) hm
    unfold answer at h
    unfold after
    rw [hrun] at h ⊢
    obtain rfl : g' = g := Except.ok.inj h
    exact hm
  | none =>
    have hrun := granted_of_absent (s := s) (r := r) hm
    have hanswer : answer (r.granted s u) w = _ := congrArg Prod.fst hrun
    have hafter : after (r.granted s u) w = _ := congrArg Prod.snd hrun
    rw [hanswer] at h
    rw [hafter]
    revert h
    refine bind_cases (Q := fun a w' => a = .ok g → w'.caches.granted.get? u = some g) ?_ ?_
    · intro g' _ h
      obtain rfl : g' = g := Except.ok.inj h
      exact (Keyed.get?_insert _ _ _ _).trans (if_pos rfl)
    · intro e _ h
      cases h

end Resolver

/-! ## Everything that an operation does -/

open Lookup

/-- One thing that an operation of a checker does. The session store is only used in session mode; it is
    written where it has no entry, and what is remembered in session mode is an entry of it. -/
inductive Action (c : Checker) (s : Services) (o : Operation) : World → World → Prop where
  | fetch {w w' : World} {u : UserId} (hu : o.user? = some u) (h : Resolver.Fetch s u w w') : Action c s o w w'
  | session {w : World} {q : Query} (hc : c.resolver.mode = .session) (hq : q.isSession = true) :
    Action c s o w { w with queries := w.queries ++ [q] }
  | write {w : World} {u : UserId} {g : GrantedRules} (hc : c.resolver.mode = .session) (hu : o.user? = some u)
    (habsent : w.sessions.get? (sessionKey u) = none) :
    Action c s o w { w with
      queries := w.queries ++ [.sessionWrite (sessionKey u)]
      sessions := w.sessions.insert (sessionKey u) g }
  | keep {w : World} {u : UserId} {g : GrantedRules} (hu : o.user? = some u)
    (habsent : w.caches.granted.get? u = none)
    (hentry : c.resolver.mode = .session → w.sessions.get? (sessionKey u) = some g) :
    Action c s o w { w with caches := { w.caches with granted := w.caches.granted.insert u g } }
  | forget {w : World} {u : UserId} (ho : o = .invalidate u) : Action c s o w { w with caches := w.caches.forget u }
  | clear {w : World} (ho : o = .clear) : Action c s o w { w with caches := {} }

/-- Any number of such things, one after the other. -/
abbrev Actions (c : Checker) (s : Services) (o : Operation) : World → World → Prop :=
  Relation.ReflTransGen (Action c s o)

namespace Actions

variable {c : Checker} {s : Services} {o : Operation} {u : UserId} {w w' : World}

theorem of_fetches (hu : o.user? = some u) (h : Resolver.Fetches s u w w') : Actions c s o w w' :=
  Relation.ReflTransGen.mono (fun _ _ => Action.fetch hu) _ _ h

/-- What finding granted rules that are not remembered gives and does. -/
structure Loads (c : Checker) (s : Services) (o : Operation) (u : UserId) (w : World)
    (a : Except AccessError GrantedRules) (w' : World) : Prop where
  actions : Actions c s o w w'
  granted : w'.caches.granted = w.caches.granted
  entry : c.resolver.mode = .session → ∀ g, a = .ok g → w'.sessions.get? (sessionKey u) = some g

theorem loads (hu : o.user? = some u) (w : World) :
    Loads c s o u w (answer (c.resolver.load s u) w) (after (c.resolver.load s u) w) := by
  have hresolve := Resolver.sameGrants_resolve (s := s) (u := u) c.resolver
  have hfetches (w : World) : Actions c s o w (after (c.resolver.resolve s u) w) :=
    of_fetches hu (Resolver.fetches_resolve c.resolver w)
  unfold Resolver.load
  cases hc : c.resolver.mode with
  | realtime =>
    have hloads (a : Except AccessError GrantedRules) : Loads c s o u w a (after (c.resolver.resolve s u) w) :=
      ⟨hfetches w, (hresolve w).granted, fun h => by rw [hc] at h; cases h⟩
    exact bind_cases (fun res _ => hloads _) fun e _ => hloads _
  | session =>
    have hread : Action c s o w (after (Resolver.sessionGranted s u) w) := by
      rw [Resolver.after_sessionGranted]
      exact .session hc rfl
    have hsame : Resolver.SameGrants w (after (Resolver.sessionGranted s u) w) := by
      rw [Resolver.after_sessionGranted]
      exact ⟨rfl, rfl⟩
    refine bind_cases (fun found hfound => ?_) fun e _ => ⟨.single hread, hsame.granted, fun _ g h => nomatch h⟩
    have hfound := Resolver.eq_of_sessionGranted hfound
    generalize after (Resolver.sessionGranted s u) w = w₁ at hread hsame ⊢
    cases found with
    | some g =>
      refine ⟨.single hread, hsame.granted, fun _ g' h => ?_⟩
      obtain rfl : g = g' := Except.ok.inj h
      exact (congrArg (·.get? (sessionKey u)) hsame.sessions).trans hfound.symm
    | none =>
      -- the rules are computed and then written, as the session store has no entry yet
      have hcomputed : Actions c s o w (after (c.resolver.resolve s u) w₁) := .head hread (hfetches w₁)
      have hsame := hsame.trans (hresolve w₁)
      refine bind_cases (fun res _ => ?_) fun e _ => ⟨hcomputed, hsame.granted, fun _ g h => nomatch h⟩
      generalize after (c.resolver.resolve s u) w₁ = w₂ at hcomputed hsame ⊢
      have habsent : w₂.sessions.get? (sessionKey u) = none := by
        rw [hsame.sessions]
        exact hfound.symm
      have hwrite := Resolver.writeStep_after s u res.granted w₂
      refine bind_cases (fun _ hanswer => ?_) fun e herror => ?_
      · rw [hanswer] at hwrite
        generalize after (Resolver.writeSession s u res.granted) w₂ = w₃ at hwrite ⊢
        cases hwrite with
        | written =>
          refine ⟨hcomputed.tail (.write hc hu habsent), hsame.granted, fun _ g h => ?_⟩
          obtain rfl : res.granted = g := Except.ok.inj h
          exact (Keyed.get?_insert _ _ _ _).trans (if_pos rfl)
      · rw [herror] at hwrite
        generalize after (Resolver.writeSession s u res.granted) w₂ = w₃ at hwrite ⊢
        cases hwrite with
        | failed => exact ⟨hcomputed.tail (.session hc rfl), hsame.granted, fun _ g h => nomatch h⟩

theorem granted (hu : o.user? = some u) : Moves (Actions c s o) (c.resolver.granted s u) := by
  intro w
  cases hm : w.caches.granted.get? u with
  | some g =>
    have hafter : after (c.resolver.granted s u) w = w := congrArg Prod.snd (Resolver.granted_of_remembered hm)
    rw [hafter]
  | none =>
    have hload := loads (c := c) (s := s) hu w
    have hafter : after (c.resolver.granted s u) w = _ := congrArg Prod.snd (Resolver.granted_of_absent hm)
    rw [hafter]
    refine bind_cases (Q := fun _ w' => Actions c s o w w') (fun g hg => ?_) fun _ _ => hload.actions
    refine hload.actions.tail (.keep hu ?_ fun hc => hload.entry hc g hg)
    rw [hload.granted, hm]

/-- **Every operation.** What an operation of a checker does, it does in such steps. -/
theorem perform (c : Checker) : Moves (Actions c s o) (c.perform s o) := by
  have hactions : Compositional fun _ x => Moves (Actions c s o) x :=
    Moves.compositional (fun _ => .refl) Relation.ReflTransGen.trans
  refine hactions.perform (fun u => granted) ?_ ?_ ?_ ?_ ?_
  · exact fun u hu w => of_fetches hu (Resolver.fetches_resolve c.resolver w)
  · exact fun u hu w => of_fetches hu (Resolver.fetches_groups w)
  · exact fun u hu w => of_fetches hu (Resolver.fetches_attributes w)
  · exact fun u ho w => .single (.forget ho)
  · exact fun ho w => .single (.clear ho)

end Actions

/-! ## Steps of a run -/

namespace Turn

variable {t : Turn} {u : UserId} {g : GrantedRules}

/-- What every action of an operation obeys holds between the worlds around a step. -/
theorem moves {R : World → World → Prop} (hrefl : ∀ w, R w w)
    (htrans : ∀ {w₁ w₂ w₃}, R w₁ w₂ → R w₂ w₃ → R w₁ w₃)
    (haction : ∀ w w', Action t.checker t.services t.operation w w' → R w w') : R t.start t.after :=
  (Actions.perform t.checker).of_steps hrefl htrans haction t.start

theorem perform_granted (ho : t.operation = .granted u) :
    t.checker.perform t.services t.operation =
      do return .granted (← t.checker.resolver.granted t.services u) := by
  rw [ho]
  rfl

/-- Granted rules that a step finds in the memory it gives without a question. -/
theorem outcome_of_remembered (ho : t.operation = .granted u) (hg : t.caches.granted.get? u = some g) :
    t.outcome = .ok (.granted g) ∧ t.questions = [] := by
  have hrun : (t.checker.resolver.granted t.services u).run.run t.start = (.ok g, t.start) :=
    Resolver.granted_of_remembered hg
  unfold outcome questions after
  rw [perform_granted ho, answer_map, after_map]
  unfold Lookup.answer Lookup.after
  rw [hrun]
  exact ⟨rfl, rfl⟩

/-- Granted rules that a step gives are remembered behind it. -/
theorem granted_of_outcome (ho : t.operation = .granted u) (h : t.outcome = .ok (.granted g)) :
    t.after.caches.granted.get? u = some g := by
  unfold outcome at h
  unfold after
  rw [perform_granted ho, answer_map] at h
  rw [perform_granted ho, after_map]
  refine Resolver.get?_granted_of_ok ?_
  cases hanswer : answer (t.checker.resolver.granted t.services u) t.start with
  | ok g' =>
    rw [hanswer] at h
    exact congrArg Except.ok (Answer.granted.inj (Except.ok.inj h))
  | error e =>
    rw [hanswer] at h
    cases h

end Turn

end Entitlement
