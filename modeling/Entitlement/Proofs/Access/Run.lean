import Entitlement.Proofs.Access.Coherence
import Mathlib.Algebra.GroupWithZero.Nat
import Mathlib.Data.List.Chain

/-!
# `Entitlement.Proofs.Access.Run` — one operation after the other

A run of a checker is a list of steps. From one step to the next only its memory is handed on: the data behind
the services, what they refuse and what the session store holds may all be different at every step (`Event`). A
step that was made is a `Turn`; its outcome, the world after it and the questions it put follow from the
operation itself. What every step keeps of the memory holds at every step of a run (`exists_of_mem_run`), and
neighbouring steps are linked by the memory (`isChain_run`). Along linked steps a fact about the memory lasts as
long as every step keeps it (`Turn.lasts`), and what every step counts adds up to no more than the last memory
allows (`Turn.sum_count_le`).
-/

namespace Entitlement

/-- What is asked of a checker, and the stores as they are at that moment. -/
structure Event where
  services : Services
  sessions : SessionStore
  operation : Operation

/-- A step of a run, with the memory and the session store that it found. -/
structure Turn where
  checker : Checker
  services : Services
  operation : Operation
  caches : Caches
  sessions : SessionStore

namespace Turn

/-- The world in front of the step. No question has been put in it. -/
def start (t : Turn) : World := { caches := t.caches, sessions := t.sessions }

/-- What the step gave. -/
def outcome (t : Turn) : Except AccessError Answer :=
  Lookup.answer (t.checker.perform t.services t.operation) t.start

/-- The world behind the step. -/
def after (t : Turn) : World := Lookup.after (t.checker.perform t.services t.operation) t.start

/-- The questions that the step put, oldest first. -/
def questions (t : Turn) : List Query := t.after.queries

/-- The second step finds the memory that the first one left. -/
def Linked (t t' : Turn) : Prop := t'.caches = t.after.caches

/-- What holds of the memory behind a step holds in front of a later one, if all steps between them keep it. -/
theorem lasts {p : Caches → Prop} {t t' : Turn} {mid : List Turn} (hchain : (t :: mid ++ [t']).IsChain Linked)
    (hmid : ∀ s ∈ mid, p s.caches → p s.after.caches) (ht : p t.after.caches) : p t'.caches := by
  induction mid generalizing t with
  | nil =>
    have hlink : t'.caches = t.after.caches := (List.isChain_cons_cons.mp hchain).1
    rw [hlink]
    exact ht
  | cons s mid ih =>
    obtain ⟨hlink, hrest⟩ := List.isChain_cons_cons.mp hchain
    have hs : p s.after.caches := by
      refine hmid s List.mem_cons_self ?_
      rw [hlink]
      exact ht
    exact ih hrest (fun s' hs' => hmid s' (List.mem_cons_of_mem s hs')) hs

/-- What the steps count, together with a level of the memory in front of them, is within a bound on the level, if
    every step raises the level by what it counts. -/
theorem sum_count_le {count : Turn → Nat} (level : Caches → Nat) {bound : Nat} {ts : List Turn}
    (hchain : ts.IsChain Linked) (hstep : ∀ t ∈ ts, count t + level t.caches ≤ level t.after.caches)
    (hbound : ∀ c, level c ≤ bound) : (ts.map count).sum ≤ bound := by
  have hlevel : ∀ t ts', (t :: ts').IsChain Linked →
      (∀ s ∈ t :: ts', count s + level s.caches ≤ level s.after.caches) →
      ((t :: ts').map count).sum + level t.caches ≤ bound := by
    intro t ts' hchain hstep
    have ht := hstep t List.mem_cons_self
    rw [List.map_cons, List.sum_cons]
    induction ts' generalizing t with
    | nil =>
      have := hbound t.after.caches
      rw [List.map_nil, List.sum_nil]
      omega
    | cons t' ts' ih =>
      obtain ⟨hlink, hrest⟩ := List.isChain_cons_cons.mp hchain
      have hstep' := fun s hs => hstep s (List.mem_cons_of_mem t hs)
      have htail := ih t' hrest hstep' (hstep' t' List.mem_cons_self)
      rw [hlink] at htail
      rw [List.map_cons, List.sum_cons]
      omega
  cases ts with
  | nil => exact Nat.zero_le bound
  | cons t ts' => exact Nat.le_trans (Nat.le_add_right _ _) (hlevel t ts' hchain hstep)

end Turn

namespace Checker

/-- The step that an event makes when some things are remembered. -/
def turn (c : Checker) (m : Caches) (e : Event) : Turn := ⟨c, e.services, e.operation, m, e.sessions⟩

/-- The steps of a run that begins with some things remembered. -/
def run (c : Checker) : Caches → List Event → List Turn
  | _, [] => []
  | m, e :: rest => c.turn m e :: c.run (c.turn m e).after.caches rest

variable {c : Checker} {m : Caches} {events : List Event}

/-- **Invariants of runs.** What every event keeps of the memory holds of it at every step. -/
theorem exists_of_mem_run {p : Caches → Prop}
    (hstep : ∀ e ∈ events, ∀ m, p m → p (c.turn m e).after.caches) (hm : p m) {t : Turn}
    (ht : t ∈ c.run m events) : ∃ e ∈ events, ∃ m', p m' ∧ t = c.turn m' e := by
  induction events generalizing m with
  | nil => exact absurd ht List.not_mem_nil
  | cons e rest ih =>
    rcases List.mem_cons.mp ht with rfl | ht
    · exact ⟨e, List.mem_cons_self, m, hm, rfl⟩
    · have hrest : ∀ e' ∈ rest, ∀ m, p m → p (c.turn m e').after.caches := fun e' he' =>
        hstep e' (List.mem_cons_of_mem e he')
      obtain ⟨e', he', m', hm', rfl⟩ := ih hrest (hstep e List.mem_cons_self m hm) ht
      exact ⟨e', List.mem_cons_of_mem e he', m', hm', rfl⟩

/-- Every step remembers what the step before it left. -/
theorem isChain_run (c : Checker) (m : Caches) (events : List Event) :
    (c.run m events).IsChain Turn.Linked := by
  induction events generalizing m with
  | nil => exact .nil
  | cons e rest ih =>
    cases rest with
    | nil => exact .singleton _
    | cons e' rest => exact .cons_cons rfl (ih (c.turn m e).after.caches)

end Checker

end Entitlement
