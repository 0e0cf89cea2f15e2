import Entitlement.Proofs.Access.Effects
import Entitlement.Store.Directory

/-!
# `Entitlement.Proofs.Access.FailedResolution` — a resolution that fails publishes nothing

Finding the granted rules of a user may break off at seven places: at one of the six questions, and at a malformed
list. Wherever it does, and whatever was remembered before, no granted rules are remembered or written to the session
store, and nothing is remembered but answers that the store has just given about this user
(`no_trace_of_failure`).

A step that is not the last one must leave no trace whether it fails or not (`Gathered`), while the last one only has
to leave none when it fails (`Breaks`). Remembering the granted rules and writing the session entry come last, and
this is what the argument rests on.
-/

namespace Entitlement

/-- The second map is the first, or it has one value more, under a key that had none. -/
def Keyed.SameOrFilled {κ α : Type} [DecidableEq κ] (k : κ) (p : α → Prop) (m m' : Keyed κ α) : Prop :=
  m' = m ∨ m.get? k = none ∧ ∃ v, p v ∧ m' = m.insert k v

namespace Keyed.SameOrFilled

variable {κ α : Type} [DecidableEq κ] {k : κ} {p q r : α → Prop} {m m' m'' : Keyed κ α}

theorem trans (h : SameOrFilled k p m m') (h' : SameOrFilled k q m' m'') (hp : ∀ v, p v → r v)
    (hq : ∀ v, q v → r v) : SameOrFilled k r m m'' := by
  rcases h with rfl | ⟨habsent, v, hv, rfl⟩
  · rcases h' with rfl | ⟨habsent, v, hv, rfl⟩
    · exact .inl rfl
    · exact .inr ⟨habsent, v, hq v hv, rfl⟩
  · rcases h' with rfl | ⟨habsent', -⟩
    · exact .inr ⟨habsent, v, hp v hv, rfl⟩
    · -- a value that has come is not asked for again
      rw [get?_insert, if_pos rfl] at habsent'
      cases habsent'

theorem get?_of_ne (h : SameOrFilled k p m m') {k' : κ} (hne : k' ≠ k) : m'.get? k' = m.get? k' := by
  rcases h with rfl | ⟨-, v, -, rfl⟩
  · rfl
  · rw [get?_insert, if_neg fun h => hne h.symm]

theorem get?_self (h : SameOrFilled k p m m') :
    m'.get? k = m.get? k ∨ m.get? k = none ∧ ∃ v, p v ∧ m'.get? k = some v := by
  rcases h with rfl | ⟨habsent, v, hv, rfl⟩
  · exact .inl rfl
  · exact .inr ⟨habsent, v, hv, by rw [get?_insert, if_pos rfl]⟩

end Keyed.SameOrFilled

namespace Resolver

open Lookup
open Keyed (SameOrFilled)

variable {s : Services} {u : UserId} {w w' w'' : World} {asked asked' : List Query} {α β : Type}

/-! ## What may be left behind -/

/-- The questions `asked` were put, and nothing has changed but that answers to them which are about the user are
    now remembered where nothing was. -/
structure Gathered (s : Services) (u : UserId) (asked : List Query) (w w' : World) : Prop where
  queries : w'.queries = w.queries ++ asked
  granted : w'.caches.granted = w.caches.granted
  sessions : w'.sessions = w.sessions
  groups : SameOrFilled u (fun gs => .groups u ∈ asked ∧ s.backend.groups u = .ok gs)
    w.caches.groups w'.caches.groups
  attributes : SameOrFilled u
    (fun row => ∃ column, .attributes u column ∈ asked ∧ s.backend.attributes u column = .ok row)
    w.caches.attributes w'.caches.attributes

namespace Gathered

theorem refl (w : World) : Gathered s u [] w w where
  queries := (List.append_nil _).symm
  granted := rfl
  sessions := rfl
  groups := .inl rfl
  attributes := .inl rfl

theorem trans (h : Gathered s u asked w w') (h' : Gathered s u asked' w' w'') :
    Gathered s u (asked ++ asked') w w'' where
  queries := by rw [h'.queries, h.queries, List.append_assoc]
  granted := h'.granted.trans h.granted
  sessions := h'.sessions.trans h.sessions
  groups := h.groups.trans h'.groups (fun _ hgs => ⟨List.mem_append_left _ hgs.1, hgs.2⟩)
    fun _ hgs => ⟨List.mem_append_right _ hgs.1, hgs.2⟩
  attributes := h.attributes.trans h'.attributes
    (fun _ ⟨column, hrow⟩ => ⟨column, List.mem_append_left _ hrow.1, hrow.2⟩)
    fun _ ⟨column, hrow⟩ => ⟨column, List.mem_append_right _ hrow.1, hrow.2⟩

/-- Putting a question and remembering nothing. -/
theorem question (w : World) (q : Query) : Gathered s u [q] w { w with queries := w.queries ++ [q] } :=
  ⟨rfl, rfl, rfl, .inl rfl, .inl rfl⟩

end Gathered

theorem Fetch.gathered (h : Fetch s u w w') : ∃ asked, Gathered s u asked w w' := by
  cases h with
  | failed hq he => exact ⟨_, .question w _⟩
  | primaryKey => exact ⟨_, .question w _⟩
  | rules => exact ⟨_, .question w _⟩
  | groups habsent hgs =>
    exact ⟨[.groups u], rfl, rfl, rfl, .inr ⟨habsent, _, ⟨List.mem_cons_self, hgs⟩, rfl⟩, .inl rfl⟩
  | attributes habsent hrow =>
    exact ⟨[.attributes u _], rfl, rfl, rfl, .inl rfl, .inr ⟨habsent, _, ⟨_, List.mem_cons_self, hrow⟩, rfl⟩⟩

/-- The operation leaves nothing else behind, whether it fails or not. -/
abbrev Gathers (s : Services) (u : UserId) (x : Lookup α) : Prop :=
  Moves (fun w w' => ∃ asked, Gathered s u asked w w') x

theorem gathers_of_fetches {x : Lookup α} (h : Moves (Fetches s u) x) : Gathers s u x :=
  h.of_steps (fun w => ⟨[], .refl w⟩) (fun ⟨_, h⟩ ⟨_, h'⟩ => ⟨_, h.trans h'⟩) fun _ _ => Fetch.gathered

theorem gathers_ask {q : Query} {answer : Except StoreError α} : Gathers s u (ask q answer) := by
  intro w
  cases answer with
  | ok a => exact ⟨[q], .question w q⟩
  | error e => exact ⟨[q], .question w q⟩

/-! ## Where it breaks off -/

/-- The error is that of the last question, or it is a malformed list. -/
def BreaksAt (s : Services) (asked : List Query) (e : AccessError) : Prop :=
  (∃ q f, e = .store f ∧ asked.getLast? = some q ∧ s.Fails q f) ∨ ∃ l, e = .malformedList l

theorem BreaksAt.append_left {e : AccessError} (h : BreaksAt s asked' e) : BreaksAt s (asked ++ asked') e := by
  rcases h with ⟨q, f, he, hlast, hfails⟩ | h
  · refine .inl ⟨q, f, he, ?_, hfails⟩
    rw [List.getLast?_append, hlast]
    rfl
  · exact .inr h

/-- When the operation fails, it breaks off at a question or a malformed list and has left nothing else behind. -/
def Breaks (s : Services) (u : UserId) (x : Lookup α) : Prop :=
  ∀ w e, answer x w = .error e → ∃ asked, Gathered s u asked w (after x w) ∧ BreaksAt s asked e

namespace Breaks

theorem pure (a : α) : Breaks s u (pure a) := by
  intro w e h
  cases h

theorem ask {q : Query} {answer : Except StoreError α} (hfails : ∀ f, answer = .error f → s.Fails q f) :
    Breaks s u (ask q answer) := by
  intro w e h
  cases answer with
  | ok a => cases h
  | error f => exact ⟨[q], .question w q, .inl ⟨q, f, (Except.error.inj h).symm, rfl, hfails f rfl⟩⟩

/-- **Sequencing.** The first part may leave something behind as long as it is gathered. -/
theorem bind {x : Lookup α} {f : α → Lookup β} (hx : Breaks s u x) (hgathers : Gathers s u x)
    (hf : ∀ a, Breaks s u (f a)) : Breaks s u (x >>= f) := by
  intro w e
  refine bind_cases
    (Q := fun a w' => a = .error e → ∃ asked, Gathered s u asked w w' ∧ BreaksAt s asked e) ?_ ?_
  · intro a _ herror
    obtain ⟨asked, hgathered⟩ := hgathers w
    obtain ⟨asked', hgathered', hbreaks⟩ := hf a (after x w) e herror
    exact ⟨asked ++ asked', hgathered.trans hgathered', hbreaks.append_left⟩
  · intro e' herror he
    exact hx w e (herror.trans (congrArg Except.error (Except.error.inj he)))

/-- The first part may do anything when it succeeds, if what follows cannot fail. -/
theorem bind_of_succeeds {x : Lookup α} {f : α → Lookup β} (hx : Breaks s u x)
    (hf : ∀ a w, ∃ b, answer (f a) w = .ok b) : Breaks s u (x >>= f) := by
  intro w e
  refine bind_cases
    (Q := fun a w' => a = .error e → ∃ asked, Gathered s u asked w w' ∧ BreaksAt s asked e) ?_ ?_
  · intro a _ herror
    obtain ⟨b, hb⟩ := hf a (after x w)
    rw [hb] at herror
    cases herror
  · intro e' herror he
    exact hx w e (herror.trans (congrArg Except.error (Except.error.inj he)))

theorem map {x : Lookup α} {g : α → β} (hx : Breaks s u x) : Breaks s u (do return g (← x)) :=
  hx.bind_of_succeeds fun a _ => ⟨g a, rfl⟩

theorem remembered {f : Caches → β} {k : β → Lookup α} (h : ∀ b, Breaks s u (k b)) :
    Breaks s u (Lookup.remembered f >>= k) :=
  fun w e => h (f w.caches) w e

end Breaks

/-! ## Operations -/

theorem breaks_groups : Breaks s u (groups s u) := by
  refine .remembered fun found => ?_
  cases found with
  | some gs => exact .pure gs
  | none =>
    have hask : Breaks s u (ask (.groups u) (s.backend.groups u)) := .ask fun _ hf => hf
    exact hask.bind_of_succeeds fun gs _ => ⟨gs, rfl⟩

theorem breaks_attributes : Breaks s u (attributes s u) := by
  refine .remembered fun found => ?_
  cases found with
  | some row => exact .pure row
  | none =>
    have hkey : Breaks s u (ask .primaryKey s.backend.primaryKey) := .ask fun _ hf => hf
    refine hkey.bind gathers_ask fun key => ?_
    have hask : Breaks s u (ask (.attributes u (key.getD defaultPrimaryKey))
        (s.backend.attributes u (key.getD defaultPrimaryKey))) := .ask fun _ hf => hf
    exact hask.bind_of_succeeds fun row _ => ⟨row, rfl⟩

theorem breaks_resolve (r : Resolver) : Breaks s u (r.resolve s u) := by
  refine breaks_groups.bind (gathers_of_fetches fetches_groups) fun gs => ?_
  cases ruleIdsOfGroups gs with
  | error l =>
    intro w e h
    exact ⟨[], .refl w, .inr ⟨l, (Except.error.inj h).symm⟩⟩
  | ok ids =>
    show Breaks s u (if ids.isEmpty then _ else _)
    by_cases hempty : ids.isEmpty = true
    · rw [if_pos hempty]
      exact .pure Resolution.nothing
    · rw [if_neg hempty]
      have hask : Breaks s u (ask (.rules ids) (s.backend.rules ids)) := .ask fun _ hf => hf
      refine hask.bind gathers_ask fun rules => ?_
      by_cases hcond : rules.any Rule.isConditional = true
      · simp only [if_pos hcond]
        exact breaks_attributes.map
      · simp only [if_neg hcond]
        exact .pure (resolveRules _ none rules)

theorem breaks_sessionGranted : Breaks s u (sessionGranted s u) := by
  have hask : Breaks s u (ask (.sessionRead (sessionKey u)) s.sessionRead) := .ask fun _ hf => hf
  exact hask.bind_of_succeeds fun _ w => ⟨w.sessions.get? (sessionKey u), rfl⟩

theorem gathers_sessionGranted : Gathers s u (sessionGranted s u) := by
  intro w
  rw [after_sessionGranted]
  exact ⟨_, .question w _⟩

theorem breaks_writeSession (g : GrantedRules) : Breaks s u (writeSession s u g) := by
  have hask : Breaks s u (ask (.sessionWrite (sessionKey u)) s.sessionWrite) := .ask fun _ hf => hf
  exact hask.bind_of_succeeds fun _ _ => ⟨(), rfl⟩

theorem breaks_load (r : Resolver) : Breaks s u (r.load s u) := by
  unfold Resolver.load
  cases r.mode with
  | realtime => exact (breaks_resolve r).map
  | session =>
    refine breaks_sessionGranted.bind gathers_sessionGranted fun found => ?_
    cases found with
    | some g => exact .pure g
    | none =>
      -- the session store is written when there is nothing left that could fail
      refine (breaks_resolve r).bind (gathers_of_fetches (fetches_resolve r)) fun res => ?_
      exact (breaks_writeSession res.granted).map

theorem breaks_granted (r : Resolver) : Breaks s u (r.granted s u) := by
  refine .remembered fun found => ?_
  cases found with
  | some g => exact .pure g
  | none => exact (breaks_load r).bind_of_succeeds fun g _ => ⟨g, rfl⟩

end Resolver

open Lookup (answer after)

/-- **A failed resolution leaves no trace.** When finding the granted rules of a user fails, in whichever mode and
    whatever is remembered, the granted rules remembered of all users and the whole session store are as before, and so
    are the groups and attributes remembered of other users. The groups and the attributes of the user are as before,
    or they were not remembered and now are what the store answered to a question of this call. The call broke off at
    its last question, which failed, or at a malformed list. -/
theorem no_trace_of_failure (r : Resolver) (s : Services) (u : UserId) (w w' : World) (e : AccessError)
    (h : (r.granted s u).run.run w = (.error e, w')) :
    w'.caches.granted = w.caches.granted ∧ w'.sessions = w.sessions ∧
    ∃ asked, w'.queries = w.queries ++ asked ∧
      ((∃ q f, e = .store f ∧ asked.getLast? = some q ∧ s.Fails q f) ∨ ∃ l, e = .malformedList l) ∧
      (∀ v, v ≠ u → w'.caches.groups.get? v = w.caches.groups.get? v ∧
        w'.caches.attributes.get? v = w.caches.attributes.get? v) ∧
      (w'.caches.groups.get? u = w.caches.groups.get? u ∨
        w.caches.groups.get? u = none ∧ ∃ gs, (.groups u ∈ asked ∧ s.backend.groups u = .ok gs) ∧
          w'.caches.groups.get? u = some gs) ∧
      (w'.caches.attributes.get? u = w.caches.attributes.get? u ∨
        w.caches.attributes.get? u = none ∧ ∃ row,
          (∃ column, .attributes u column ∈ asked ∧ s.backend.attributes u column = .ok row) ∧
          w'.caches.attributes.get? u = some row) := by
  have hanswer : answer (r.granted s u) w = .error e := congrArg Prod.fst h
  have hafter : after (r.granted s u) w = w' := congrArg Prod.snd h
  obtain ⟨asked, hgathered, hbreaks⟩ := r.breaks_granted w e hanswer
  rw [hafter] at hgathered
  refine ⟨hgathered.granted, hgathered.sessions, asked, hgathered.queries, hbreaks, fun v hv => ?_, ?_, ?_⟩
  · exact ⟨hgathered.groups.get?_of_ne hv, hgathered.attributes.get?_of_ne hv⟩
  · exact hgathered.groups.get?_self
  · exact hgathered.attributes.get?_self

/-- A user in one group with a list of rules, the first of which has a condition. -/
private def clerk (list : String) : Directory :=
  Directory.addRow (Directory.addMembership (Directory.addGroup (Directory.addRule {} ⟨⟨1⟩, "Read", "age>=18"⟩ true)
    ⟨⟨10⟩, "all", list⟩ true) ⟨7⟩ ⟨10⟩) ⟨7⟩ (Keyed.ofList [("age", .integer 20)])

/-- Each of the six questions refused, and a list that cannot be read. -/
private def breakingOff : List Services :=
  [.sessionRead, .groups, .rules, .primaryKey, .attributes, .sessionWrite].map
    (fun t => (Services.ofBackend (clerk "1").backend).refusing (· == t)) ++
    [.ofBackend (clerk "1,x").backend]

/-- Another user is known to the memory and to the session store. -/
private def occupied : World where
  caches := ⟨Keyed.ofList [(⟨8⟩, [])], Keyed.ofList [(⟨8⟩, none)], Keyed.ofList [(⟨8⟩, ∅)]⟩
  sessions := Keyed.ofList [(sessionKey ⟨8⟩, ∅)]

private def inSession : Resolver := ⟨.session, .literal⟩

/-- The call fails at each of the seven places, when the session is written even with a complete resolution in hand,
    and the granted rules in the memory and in the session store are the other user's alone. -/
theorem no_trace_of_failure_seven :
    breakingOff.map (fun s => answer (inSession.granted s ⟨7⟩) occupied) =
        [Target.sessionRead, .groups, .rules, .primaryKey, .attributes, .sessionWrite].map
          (fun t => .error (.store t.refusal)) ++ [.error (.malformedList ⟨⟨10⟩, "x"⟩)] ∧
      ∀ s ∈ breakingOff, (after (inSession.granted s ⟨7⟩) occupied).caches.granted = occupied.caches.granted ∧
        (after (inSession.granted s ⟨7⟩) occupied).sessions = occupied.sessions := by
  have hfails : ∀ s ∈ breakingOff, (answer (inSession.granted s ⟨7⟩) occupied).isOk = false := by decide +kernel
  refine ⟨by decide +kernel, fun s hs => ?_⟩
  cases herror : answer (inSession.granted s ⟨7⟩) occupied with
  | ok g =>
    have hs := hfails s hs
    rw [herror] at hs
    cases hs
  | error e =>
    have h := no_trace_of_failure inSession s ⟨7⟩ occupied _ e (Prod.ext herror rfl)
    exact ⟨h.1, h.2.1⟩

end Entitlement
