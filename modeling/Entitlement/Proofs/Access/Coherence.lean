import Entitlement.Access.Checker
import Entitlement.Proofs.Collection.Keyed

/-!
# `Entitlement.Proofs.Access.Coherence` — remembered answers are the store's answers

What a checker would answer without a memory is a plain computation over the answers of the store
(`Backend.resolution`, `Checker.reply`). A memory is coherent when everything in it is such an answer
(`Caches.Coherent`). The services that an operation meets may be the store with some of its answers failing
(`Backend.Impaired`); from a coherent memory an operation then gives the answer without a memory or the error of
a question that failed, and it leaves a coherent memory behind either way (`Lookup.Settles`). The operations are
put together from a few steps, and so are these facts about them: `Settles.bind` for the steps, and one lemma for
each operation in realtime mode. Where nothing fails, what is left of them is that the operation gives the
answer (`Lookup.Gives`).
-/

namespace Entitlement

open Attribute (Row)

/-! ## Answers without a memory -/

namespace Backend

/-- The attributes of a user, if it has any. -/
def row (b : Backend) (u : UserId) : Except StoreError (Option Row) := do
  b.attributes u ((← b.primaryKey).getD defaultPrimaryKey)

/-- The whole resolution of a user. -/
def resolution (b : Backend) (mode : Condition.Mode) (u : UserId) : Except AccessError Resolution := do
  let gs ← (b.groups u).mapError .store
  let ids ← (ruleIdsOfGroups gs).mapError .malformedList
  if ids.isEmpty then return .nothing
  let rules ← (b.rules ids).mapError .store
  let row ← if rules.any Rule.isConditional then (b.row u).mapError .store else pure none
  return resolveRules mode row rules

/-- The granted rules of a user. -/
def granted (b : Backend) (mode : Condition.Mode) (u : UserId) : Except AccessError GrantedRules :=
  (b.resolution mode u).map Resolution.granted

end Backend

/-- Everything remembered is an answer of the store. -/
structure Caches.Coherent (b : Backend) (mode : Condition.Mode) (c : Caches) : Prop where
  groups : ∀ u gs, c.groups.get? u = some gs → b.groups u = .ok gs
  attributes : ∀ u row, c.attributes.get? u = some row → b.row u = .ok row
  granted : ∀ u g, c.granted.get? u = some g → b.granted mode u = .ok g

theorem Caches.coherent_empty (b : Backend) (mode : Condition.Mode) : Caches.Coherent b mode {} where
  groups _ _ h := nomatch h
  attributes _ _ h := nomatch h
  granted _ _ h := nomatch h

/-! ## Failing questions -/

/-- The services answer a question with an error. -/
def Services.Fails (s : Services) : Query → StoreError → Prop
  | .groups u, e => s.backend.groups u = .error e
  | .rules ids, e => s.backend.rules ids = .error e
  | .primaryKey, e => s.backend.primaryKey = .error e
  | .attributes u column, e => s.backend.attributes u column = .error e
  | .sessionRead _, e => s.sessionRead = .error e
  | .sessionWrite _, e => s.sessionWrite = .error e

/-- An answer is the given one, or it has become an error. -/
def FailsOrIs {α : Type} (answer given : Except StoreError α) : Prop := answer = given ∨ ∃ e, answer = .error e

/-- The second store answers every question as the first does, or with an error. -/
structure Backend.Impaired (b b' : Backend) : Prop where
  groups : ∀ u, FailsOrIs (b'.groups u) (b.groups u)
  rules : ∀ ids, FailsOrIs (b'.rules ids) (b.rules ids)
  primaryKey : FailsOrIs b'.primaryKey b.primaryKey
  attributes : ∀ u column, FailsOrIs (b'.attributes u column) (b.attributes u column)

theorem Backend.Impaired.refl (b : Backend) : b.Impaired b where
  groups _ := .inl rfl
  rules _ := .inl rfl
  primaryKey := .inl rfl
  attributes _ _ := .inl rfl

theorem Refusals.failsOrIs_guard {α : Type} (r : Refusals) (t : Target) (answer : Except StoreError α) :
    FailsOrIs (r.guard t answer) answer := by
  unfold Refusals.guard
  by_cases h : r t = true
  · rw [if_pos h]
    exact .inr ⟨t.refusal, rfl⟩
  · rw [if_neg h]
    exact .inl rfl

/-- Refusing questions impairs a store. -/
theorem Backend.impaired_refusing (b : Backend) (r : Refusals) : b.Impaired (b.refusing r) where
  groups _ := r.failsOrIs_guard .groups _
  rules _ := r.failsOrIs_guard .rules _
  primaryKey := r.failsOrIs_guard .primaryKey _
  attributes _ _ := r.failsOrIs_guard .attributes _

/-! ## Steps -/

namespace Lookup

variable {b : Backend} {mode : Condition.Mode} {s : Services} {α β : Type}

/-- What an operation gives in a world. -/
def answer (x : Lookup α) (w : World) : Except AccessError α := (x.run.run w).1

/-- The world after an operation. -/
def after (x : Lookup α) (w : World) : World := (x.run.run w).2

/-- From every coherent memory the operation gives the answer, and it leaves a coherent memory behind. -/
def Gives (b : Backend) (mode : Condition.Mode) (x : Lookup α) (a : Except AccessError α) : Prop :=
  ∀ w : World, w.caches.Coherent b mode → answer x w = a ∧ (after x w).caches.Coherent b mode

/-- Where the error of an operation comes from: an error of the store is the answer to a question that was put.
    Configurations are read before there is an operation. -/
def Explains (s : Services) (w : World) : AccessError → Prop
  | .store e => ∃ q ∈ w.queries, s.Fails q e
  | .malformedList _ | .invalidRelation _ => True
  | .configuration _ => False

/-- How an operation ends whose answer over the store would be `a`: with that answer, or with an error of the
    store if the services differ from it. What is remembered stays coherent in any case. -/
structure Ends (b : Backend) (mode : Condition.Mode) (s : Services) (x : Lookup α) (a : Except AccessError α)
    (w : World) : Prop where
  answer : Lookup.answer x w = a ∨ s.backend ≠ b ∧ ∃ e, Lookup.answer x w = .error (.store e)
  explained : ∀ e, Lookup.answer x w = .error e → Explains s (Lookup.after x w) e
  coherent : (Lookup.after x w).caches.Coherent b mode

/-- From every coherent memory the operation ends as `Ends` says. -/
def Settles (b : Backend) (mode : Condition.Mode) (s : Services) (x : Lookup α) (a : Except AccessError α) :
    Prop := ∀ w : World, w.caches.Coherent b mode → Ends b mode s x a w

theorem Settles.gives {x : Lookup α} {a : Except AccessError α} (h : Settles b mode s x a)
    (hs : s.backend = b) : Gives b mode x a := by
  intro w hw
  have hends := h w hw
  exact ⟨hends.answer.resolve_right fun hne => hne.1 hs, hends.coherent⟩

theorem run_bind_of_ok {x : Lookup α} {f : α → Lookup β} {w : World} {a : α}
    (h : answer x w = .ok a) : (x >>= f).run.run w = (f a).run.run (after x w) := by
  unfold answer at h
  unfold after
  rw [ExceptT.run_bind, StateT.run_bind]
  generalize x.run.run w = p at h ⊢
  obtain ⟨r, w'⟩ := p
  obtain rfl : r = .ok a := h
  rfl

theorem run_bind_of_error {x : Lookup α} {f : α → Lookup β} {w : World} {e : AccessError}
    (h : answer x w = .error e) : (x >>= f).run.run w = (.error e, after x w) := by
  unfold answer at h
  unfold after
  rw [ExceptT.run_bind, StateT.run_bind]
  generalize x.run.run w = p at h ⊢
  obtain ⟨r, w'⟩ := p
  obtain rfl : r = .error e := h
  rfl

/-- What is remembered is read without a question. -/
theorem run_bind_remembered (f : Caches → β) (k : β → Lookup α) (w : World) :
    (remembered f >>= k).run.run w = (k (f w.caches)).run.run w := rfl

theorem Settles.pure (a : α) : Settles b mode s (pure a) (.ok a) := by
  intro w hw
  exact ⟨.inl rfl, fun e he => (nomatch he), hw⟩

theorem Settles.throw {e : AccessError} (he : ∀ w, Explains s w e) :
    Settles b mode s (throw e : Lookup α) (.error e) := by
  intro w hw
  exact ⟨.inl rfl, fun f hf => Except.error.inj hf ▸ he w, hw⟩

/-- A question whose answer is the store's, or fails. -/
theorem Settles.ask {q : Query} {a a' : Except StoreError α} (h : FailsOrIs a' a)
    (hs : s.backend = b → a' = a) (hfails : ∀ e, a' = .error e → s.Fails q e) :
    Settles b mode s (ask q a') (a.mapError .store) := by
  intro w hw
  cases a' with
  | ok v =>
    obtain rfl : a = .ok v := by
      rcases h with h | ⟨e, he⟩
      · exact h.symm
      · cases he
    exact ⟨.inl rfl, fun e he => (nomatch he), hw⟩
  | error e =>
    refine ⟨?_, ?_, hw⟩
    · by_cases hb : s.backend = b
      · rw [← hs hb]
        exact .inl rfl
      · exact .inr ⟨hb, e, rfl⟩
    · intro f hf
      obtain rfl : AccessError.store e = f := Except.error.inj hf
      exact ⟨q, List.mem_append_right _ List.mem_cons_self, hfails e rfl⟩

theorem Settles.remember {f : Caches → Caches}
    (h : ∀ c : Caches, c.Coherent b mode → (f c).Coherent b mode) :
    Settles b mode s (remember f) (.ok ()) := by
  intro w hw
  exact ⟨.inl rfl, fun e he => (nomatch he), h w.caches hw⟩

theorem Settles.remembered {f : Caches → β} {k : β → Lookup α} {a : Except AccessError α}
    (h : ∀ c : Caches, c.Coherent b mode → Settles b mode s (k (f c)) a) :
    Settles b mode s (remembered f >>= k) a := by
  intro w hw
  have hends := h w.caches hw w hw
  exact ⟨hends.answer, hends.explained, hends.coherent⟩

/-- **Sequencing.** Operations in sequence settle on what their answers give in sequence. -/
theorem Settles.bind {x : Lookup α} {ax : Except AccessError α} {f : α → Lookup β}
    {af : α → Except AccessError β} (hx : Settles b mode s x ax)
    (hf : ∀ a, ax = .ok a → Settles b mode s (f a) (af a)) :
    Settles b mode s (x >>= f) (ax >>= af) := by
  intro w hw
  have hends := hx w hw
  cases hanswer : Lookup.answer x w with
  | ok a =>
    -- the first part has given the store's answer, and the second goes on from a coherent memory
    obtain rfl : ax = .ok a := by
      rcases hends.answer with h | ⟨-, e, he⟩
      · rw [← h, hanswer]
      · rw [hanswer] at he
        cases he
    have hrun := run_bind_of_ok (f := f) hanswer
    have hrest := hf a rfl (Lookup.after x w) hends.coherent
    constructor
    · unfold Lookup.answer
      rw [hrun]
      exact hrest.answer
    · unfold Lookup.answer Lookup.after
      rw [hrun]
      exact hrest.explained
    · unfold Lookup.after
      rw [hrun]
      exact hrest.coherent
  | error e =>
    have hrun := run_bind_of_error (f := f) hanswer
    constructor
    · unfold Lookup.answer
      rw [hrun]
      rcases hends.answer with h | ⟨hne, e', he'⟩
      · rw [← h, hanswer]
        exact .inl rfl
      · rw [hanswer] at he'
        exact .inr ⟨hne, e', congrArg Except.error (Except.error.inj he')⟩
    · unfold Lookup.answer Lookup.after
      rw [hrun]
      intro e' he'
      refine hends.explained e' ?_
      rw [hanswer, Except.error.inj he']
    · unfold Lookup.after
      rw [hrun]
      exact hends.coherent

theorem Settles.map {x : Lookup α} {ax : Except AccessError α} (hx : Settles b mode s x ax) (g : α → β) :
    Settles b mode s (do return g (← x)) (ax.map g) := by
  have hax : ax.map g = ax >>= fun a => .ok (g a) := by
    cases ax with
    | ok a => rfl
    | error e => rfl
  rw [hax]
  exact hx.bind fun a _ => Settles.pure (g a)

/-- An answer may be remembered before it is given. -/
theorem Settles.keep {x : Lookup α} {ax : Except AccessError α} {f : α → Caches → Caches}
    (hx : Settles b mode s x ax)
    (hf : ∀ a, ax = .ok a → ∀ c : Caches, c.Coherent b mode → (f a c).Coherent b mode) :
    Settles b mode s (do let a ← x; Lookup.remember (f a); return a) ax := by
  have h : Settles b mode s (do let a ← x; Lookup.remember (f a); return a) (ax >>= fun a => .ok a) :=
    hx.bind fun a ha => (Settles.remember (hf a ha)).bind fun _ _ => Settles.pure a
  have hax : (ax >>= fun a => .ok a) = ax := by
    cases ax with
    | ok a => rfl
    | error e => rfl
  rw [hax] at h
  exact h

end Lookup

/-! ## Remembering -/

namespace Caches.Coherent

variable {b : Backend} {mode : Condition.Mode} {c : Caches} {u : UserId}

theorem insert_groups (hc : c.Coherent b mode) {gs : List Group} (h : b.groups u = .ok gs) :
    Caches.Coherent b mode { c with groups := c.groups.insert u gs } where
  groups := Keyed.forall_insert hc.groups h
  attributes := hc.attributes
  granted := hc.granted

theorem insert_attributes (hc : c.Coherent b mode) {row : Option Row} (h : b.row u = .ok row) :
    Caches.Coherent b mode { c with attributes := c.attributes.insert u row } where
  groups := hc.groups
  attributes := Keyed.forall_insert hc.attributes h
  granted := hc.granted

theorem insert_granted (hc : c.Coherent b mode) {g : GrantedRules} (h : b.granted mode u = .ok g) :
    Caches.Coherent b mode { c with granted := c.granted.insert u g } where
  groups := hc.groups
  attributes := hc.attributes
  granted := Keyed.forall_insert hc.granted h

/-- Forgetting a user leaves nothing that was not there. -/
theorem forget (hc : c.Coherent b mode) (u : UserId) : (c.forget u).Coherent b mode where
  groups := Keyed.forall_erase hc.groups u
  attributes := Keyed.forall_erase hc.attributes u
  granted := Keyed.forall_erase hc.granted u

end Caches.Coherent

/-! ## Operations -/

namespace Resolver

open Lookup

variable {b : Backend} {mode : Condition.Mode} {s : Services} {u : UserId}

theorem mapError_eq_ok {ε ε' α : Type} {f : ε → ε'} {x : Except ε α} {a : α}
    (h : x.mapError f = .ok a) : x = .ok a := by
  cases x with
  | ok a' => exact congrArg Except.ok (Except.ok.inj h)
  | error e => cases h

theorem settles_groups (hs : b.Impaired s.backend) :
    Settles b mode s (groups s u) ((b.groups u).mapError .store) := by
  refine Settles.remembered fun c hc => ?_
  cases hm : c.groups.get? u with
  | some gs =>
    rw [hc.groups u gs hm]
    exact Settles.pure gs
  | none =>
    have hask : Settles b mode s (ask (.groups u) (s.backend.groups u)) ((b.groups u).mapError .store) :=
      Settles.ask (hs.groups u) (fun h => by rw [h]) fun e he => he
    exact hask.keep fun gs hgs c' hc' => hc'.insert_groups (mapError_eq_ok hgs)

theorem settles_attributes (hs : b.Impaired s.backend) :
    Settles b mode s (attributes s u) ((b.row u).mapError .store) := by
  -- the two questions of the resolver, with their errors translated one by one
  have hrow : (b.row u).mapError AccessError.store =
      b.primaryKey.mapError AccessError.store >>= fun key =>
        (b.attributes u (key.getD defaultPrimaryKey)).mapError AccessError.store := by
    unfold Backend.row
    cases b.primaryKey with
    | ok key => rfl
    | error e => rfl
  refine Settles.remembered fun c hc => ?_
  cases hm : c.attributes.get? u with
  | some row =>
    rw [hc.attributes u row hm]
    exact Settles.pure row
  | none =>
    rw [hrow]
    have hkey : Settles b mode s (ask .primaryKey s.backend.primaryKey) (b.primaryKey.mapError .store) :=
      Settles.ask hs.primaryKey (fun h => by rw [h]) fun e he => he
    refine hkey.bind fun key hkey => ?_
    have hask : Settles b mode s (ask (.attributes u (key.getD defaultPrimaryKey))
        (s.backend.attributes u (key.getD defaultPrimaryKey)))
        ((b.attributes u (key.getD defaultPrimaryKey)).mapError .store) :=
      Settles.ask (hs.attributes u _) (fun h => by rw [h]) fun e he => he
    refine hask.keep fun row hr c' hc' => hc'.insert_attributes ?_
    rw [Backend.row, mapError_eq_ok hkey]
    exact mapError_eq_ok hr

/-- **Resolution.** A resolver settles on what the answers of the store give without a memory. -/
theorem settles_resolve {r : Resolver} (hs : b.Impaired s.backend) :
    Settles b mode s (r.resolve s u) (b.resolution r.substitution u) := by
  refine (settles_groups hs).bind fun gs _ => ?_
  cases ruleIdsOfGroups gs with
  | error e => exact Settles.throw fun _ => trivial
  | ok ids =>
    show Settles b mode s (if ids.isEmpty then _ else _) (if ids.isEmpty then _ else _)
    by_cases hempty : ids.isEmpty = true
    · rw [if_pos hempty, if_pos hempty]
      exact Settles.pure Resolution.nothing
    · rw [if_neg hempty, if_neg hempty]
      have hask : Settles b mode s (ask (.rules ids) (s.backend.rules ids)) ((b.rules ids).mapError .store) :=
        Settles.ask (hs.rules ids) (fun h => by rw [h]) fun e he => he
      refine hask.bind fun rules _ => ?_
      by_cases hcond : rules.any Rule.isConditional = true
      · simp only [if_pos hcond]
        exact (settles_attributes hs).bind fun row _ => Settles.pure (resolveRules _ row rules)
      · simp only [if_neg hcond]
        exact Settles.pure (resolveRules _ none rules)

theorem gives_resolve {r : Resolver} (hs : s.backend = b) :
    Gives b mode (r.resolve s u) (b.resolution r.substitution u) :=
  (settles_resolve (hs ▸ Backend.Impaired.refl b)).gives hs

/-- The granted rules, when the session store is not used. -/
theorem settles_granted {r : Resolver} (hs : b.Impaired s.backend) (hr : r.mode = .realtime) :
    Settles b r.substitution s (r.granted s u) (b.granted r.substitution u) := by
  have hload : Settles b r.substitution s (r.load s u) (b.granted r.substitution u) := by
    unfold Resolver.load
    rw [hr]
    exact (settles_resolve hs).map Resolution.granted
  refine Settles.remembered fun c hc => ?_
  cases hm : c.granted.get? u with
  | some g =>
    rw [hc.granted u g hm]
    exact Settles.pure g
  | none => exact hload.keep fun g hg c' hc' => hc'.insert_granted hg

end Resolver

namespace Checker

open Lookup

variable {b : Backend} {s : Services} {c : Checker}

/-- The decision of a checker that is on. -/
theorem settles_check (hs : b.Impaired s.backend) (he : c.enabled = true) (hr : c.resolver.mode = .realtime)
    (names : RequestedNames) (u : UserId) (r : Relation) :
    Settles b c.resolver.substitution s (c.check s names u r)
      ((b.granted c.resolver.substitution u).map (r.satisfied · names.normalize)) := by
  unfold Checker.check
  rw [if_pos he]
  exact (Resolver.settles_granted hs hr).map (r.satisfied · names.normalize)

theorem gives_check (hs : s.backend = b) (he : c.enabled = true) (hr : c.resolver.mode = .realtime)
    (names : RequestedNames) (u : UserId) (r : Relation) :
    Gives b c.resolver.substitution (c.check s names u r)
      ((b.granted c.resolver.substitution u).map (r.satisfied · names.normalize)) :=
  (settles_check (hs ▸ Backend.Impaired.refl b) he hr names u r).gives hs

/-- The decision of a check without a memory. -/
def decision (c : Checker) (b : Backend) (names : RequestedNames) (u : UserId) (r : Relation) :
    Except AccessError Bool :=
  if c.enabled then (b.granted c.resolver.substitution u).map (r.satisfied · names.normalize) else .ok true

/-- The same with the relation as a word. -/
def decisionByWord (c : Checker) (b : Backend) (names : RequestedNames) (u : UserId) (relation : String) :
    Except AccessError Bool :=
  if c.enabled then
    match Relation.parse? relation with
    | some r => c.decision b names u r
    | none => .error (.invalidRelation relation)
  else .ok true

/-- The answer of a checker in realtime mode without a memory. -/
def reply (c : Checker) (b : Backend) : Operation → Except AccessError Answer
  | .granted u => (b.granted c.resolver.substitution u).map .granted
  | .resolve u => (b.resolution c.resolver.substitution u).map .resolution
  | .groups u => ((b.groups u).mapError .store).map .groups
  | .attributes u => ((b.row u).mapError .store).map .attributes
  | .check names u r => (c.decision b names u r).map .decision
  | .checkText names u relation => (c.decisionByWord b names u relation).map .decision
  | .invalidate _ | .clear => .ok .done

theorem settles_decision (hs : b.Impaired s.backend) (hr : c.resolver.mode = .realtime)
    (names : RequestedNames) (u : UserId) (r : Relation) :
    Settles b c.resolver.substitution s (c.check s names u r) (c.decision b names u r) := by
  unfold decision
  by_cases he : c.enabled = true
  · rw [if_pos he]
    exact settles_check hs he hr names u r
  · unfold Checker.check
    rw [if_neg he, if_neg he]
    exact Settles.pure true

theorem settles_decisionByWord (hs : b.Impaired s.backend) (hr : c.resolver.mode = .realtime)
    (names : RequestedNames) (u : UserId) (relation : String) :
    Settles b c.resolver.substitution s (c.checkText s names u relation)
      (c.decisionByWord b names u relation) := by
  unfold Checker.checkText decisionByWord
  by_cases he : c.enabled = true
  · rw [if_pos he, if_pos he]
    cases Relation.parse? relation with
    | none => exact Settles.throw fun _ => trivial
    | some r => exact settles_decision hs hr names u r
  · rw [if_neg he, if_neg he]
    exact Settles.pure true

/-- **Every operation.** In realtime mode a checker settles on what it answers without a memory. -/
theorem settles_perform (hs : b.Impaired s.backend) (hr : c.resolver.mode = .realtime) (o : Operation) :
    Settles b c.resolver.substitution s (c.perform s o) (c.reply b o) := by
  cases o with
  | granted u => exact (Resolver.settles_granted hs hr).map Answer.granted
  | resolve u => exact (Resolver.settles_resolve hs).map Answer.resolution
  | groups u => exact (Resolver.settles_groups hs).map Answer.groups
  | attributes u => exact (Resolver.settles_attributes hs).map Answer.attributes
  | check names u r => exact (settles_decision hs hr names u r).map Answer.decision
  | checkText names u relation => exact (settles_decisionByWord hs hr names u relation).map Answer.decision
  | invalidate u =>
    exact (Settles.remember fun m hm => hm.forget u).bind fun _ _ => Settles.pure Answer.done
  | clear =>
    exact (Settles.remember fun _ _ => Caches.coherent_empty b _).bind fun _ _ => Settles.pure Answer.done

end Checker

end Entitlement
