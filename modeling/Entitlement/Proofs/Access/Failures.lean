import Entitlement.Proofs.Access.Run
import Entitlement.Store.Directory

/-!
# `Entitlement.Proofs.Access.Failures` — a failing store never turns into an answer

A checker in realtime mode over a store whose data stay the same, but whose questions may fail at any step: every
answer that it gives is the answer of a fresh checker with nothing failing, and every error is the error of a
question that failed just then, or one that the fresh checker gives as well (`answers_of_run`). Coherence of the
memory is the invariant. Steps that fail half way keep it, because only answers of the store are remembered.
-/

namespace Entitlement

open Lookup (Explains)

/-- The answer of a fresh checker over a store with nothing failing. -/
def Checker.fresh (c : Checker) (b : Backend) (o : Operation) : Except AccessError Answer :=
  Lookup.answer (c.perform (.ofBackend b) o) {}

theorem Checker.fresh_eq_reply {c : Checker} (hc : c.resolver.mode = .realtime) (b : Backend) (o : Operation) :
    c.fresh b o = c.reply b o := by
  have hs : b.Impaired (Services.ofBackend b).backend := Backend.Impaired.refl b
  have hgives := (Checker.settles_perform hs hc o).gives rfl
  exact (hgives {} (Caches.coherent_empty b _)).1

/-- A store in memory that is marked unavailable fails every question, and is the directory otherwise. -/
theorem MemoryStore.impaired (s : MemoryStore) : s.directory.backend.Impaired s.backend := by
  unfold MemoryStore.backend
  by_cases h : s.unavailable = true
  · rw [if_pos h]
    exact ⟨fun _ => .inr ⟨_, rfl⟩, fun _ => .inr ⟨_, rfl⟩, .inr ⟨_, rfl⟩, fun _ _ => .inr ⟨_, rfl⟩⟩
  · rw [if_neg h]
    exact Backend.Impaired.refl _

/-! ## Steps and runs -/

namespace Checker

variable {b : Backend} {c : Checker} {e : Event} {m : Caches}

/-- A step over the store, some of whose questions fail, ends with the answer of a fresh checker or with an error
    of the store, and what it remembers is coherent if what it found was. -/
theorem ends_turn (hc : c.resolver.mode = .realtime) (he : b.Impaired e.services.backend)
    (hm : m.Coherent b c.resolver.substitution) :
    Lookup.Ends b c.resolver.substitution e.services (c.perform e.services e.operation)
      (c.fresh b e.operation) (c.turn m e).start := by
  rw [fresh_eq_reply hc]
  exact settles_perform he hc e.operation (c.turn m e).start hm

end Checker

/-- **Failures never turn into answers.** A run begins with nothing remembered, and at every step some questions
    to the store may fail. Every answer is that of a fresh checker over the store with nothing failing. Every
    error is that of a question which was put and failed at this step, or a malformed list or an unreadable
    relation that the fresh checker reports too. A step at which nothing fails ends as for the fresh checker. -/
theorem answers_of_run (b : Backend) (c : Checker) (hc : c.resolver.mode = .realtime) (events : List Event)
    (hevents : ∀ e ∈ events, b.Impaired e.services.backend) :
    ∀ t ∈ c.run {} events,
      (∀ a, t.outcome = .ok a → c.fresh b t.operation = .ok a) ∧
      (∀ e, t.outcome = .error e →
        (∃ f, e = .store f ∧ ∃ q ∈ t.questions, t.services.Fails q f) ∨
        (∃ l, e = .malformedList l ∧ c.fresh b t.operation = .error e) ∨
        (∃ word, e = .invalidRelation word ∧ c.fresh b t.operation = .error e)) ∧
      (t.services.backend = b → t.outcome = c.fresh b t.operation) := by
  intro t ht
  -- coherence is the invariant, and what a step shows follows from it
  have hstep : ∀ e ∈ events, ∀ m : Caches, m.Coherent b c.resolver.substitution →
      (c.turn m e).after.caches.Coherent b c.resolver.substitution := by
    intro e he m hm
    exact (Checker.ends_turn hc (hevents e he) hm).coherent
  obtain ⟨e, he, m, hm, rfl⟩ := Checker.exists_of_mem_run hstep (Caches.coherent_empty b _) ht
  have hends := Checker.ends_turn hc (hevents e he) hm
  have hanswer : (c.turn m e).outcome = c.fresh b e.operation ∨
      e.services.backend ≠ b ∧ ∃ f, (c.turn m e).outcome = .error (.store f) := hends.answer
  have hexplained : ∀ f, (c.turn m e).outcome = .error f → Explains e.services (c.turn m e).after f :=
    hends.explained
  refine ⟨?_, ?_, ?_⟩
  · intro a ha
    rcases hanswer with h | ⟨-, f, hf⟩
    · exact h.symm.trans ha
    · rw [hf] at ha
      cases ha
  · intro f hf
    have hfresh (hne : ∀ g, f ≠ .store g) : c.fresh b e.operation = .error f := by
      rcases hanswer with h | ⟨-, g, hg⟩
      · exact h.symm.trans hf
      · rw [hg] at hf
        exact absurd (Except.error.inj hf).symm (hne g)
    have hf' := hexplained f hf
    cases f with
    | store g => exact .inl ⟨g, rfl, hf'⟩
    | malformedList l => exact .inr (.inl ⟨l, rfl, hfresh fun g hg => nomatch hg⟩)
    | invalidRelation word => exact .inr (.inr ⟨word, rfl, hfresh fun g hg => nomatch hg⟩)
    | configuration text => exact hf'.elim
  · intro hb
    exact hanswer.resolve_right fun hne => hne.1 hb

/-- A user in one group, which lists a rule with a condition. -/
private def reader : Directory :=
  Directory.addRow (Directory.addMembership (Directory.addGroup (Directory.addRule {}
    ⟨⟨1⟩, "Read", "age>=18"⟩ true) ⟨⟨10⟩, "all", "1"⟩ true) ⟨7⟩ ⟨10⟩) ⟨7⟩ (Keyed.ofList [("age", .integer 20)])

/-- The store that holds them, marked unavailable. -/
private def shutReader : MemoryStore := { directory := reader, unavailable := true }

/-- Three checks: the attributes cannot be fetched, all can be, and the store is unavailable. -/
private def flaky : List Event :=
  [reader.backend.refusing fun t => t == .attributes, reader.backend, shutReader.backend].map fun b =>
    ⟨⟨b, .ok (), .ok ()⟩, ∅, .check (.delimited "read") ⟨7⟩ .or⟩

/-- The first check fails, and the second and the third are the fresh checker's. -/
theorem answers_of_run_flaky :
    (Checker.realtime.run {} flaky).map Turn.outcome =
        [.error (.store Target.attributes.refusal), .ok (.decision true), .ok (.decision true)] ∧
      ∀ t ∈ Checker.realtime.run {} flaky, ∀ a, t.outcome = .ok a →
        Checker.realtime.fresh reader.backend t.operation = .ok a := by
  have hevents : ∀ e ∈ flaky, reader.backend.Impaired e.services.backend := by
    rw [flaky, List.forall_mem_map, List.forall_mem_cons, List.forall_mem_cons, List.forall_mem_singleton]
    exact ⟨reader.backend.impaired_refusing _, Backend.Impaired.refl _, shutReader.impaired⟩
  refine ⟨by decide +kernel, fun t ht => ?_⟩
  exact (answers_of_run reader.backend Checker.realtime rfl flaky hevents t ht).1

end Entitlement
