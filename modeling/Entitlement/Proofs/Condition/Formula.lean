import Entitlement.Condition.Substitution
import Entitlement.Proofs.Collection.Elements
import Entitlement.Proofs.Condition.Reduction

/-!
# `Entitlement.Proofs.Condition.Formula` — conditions as comparisons joined by `&&` and `||`

A condition that its author means as a disjunction of conjunctions is written down by `render`; its intended
truth value is `holds`. Both leave open what the left operands are (`α`) and which text stands for them, so
that the same formula can be rendered with attribute names and with the values pasted over them.

## Contents
- **The formulas.** `Word`, `Comparison`, `Conjunction`, `Disjunction` and `Formula`, which may have a bare
  operand at either end; each with `render` and `holds`.
- **Links.** A disjunction read from left to right: a first comparison, then comparisons each with the
  combinator in front of it. The scanner and the walk read a condition in this way, so inductions run over
  the list of links.
- **Rendered texts.** They hold no spacing of their own and end in a word.
-/

namespace Entitlement.Condition

/-! ## The formulas -/

/-- The operators that compare two operands. -/
inductive Comparator where
  | ge
  | gt
  | le
  | lt
  | eq
  | ne
  deriving DecidableEq

/-- The operator that a comparator is. -/
def Comparator.operator : Comparator → Operator
  | .ge => .ge
  | .gt => .gt
  | .le => .le
  | .lt => .lt
  | .eq => .eq
  | .ne => .ne

/-- A text that is not empty and holds neither spacing nor operator characters. -/
structure Word where
  text : List Char
  ne_nil : text ≠ []
  plain : ∀ c ∈ text, isSpacing c = false ∧ isOperatorChar c = false

/-- Whether a text is a word. -/
def isWord (s : List Char) : Bool := s ≠ [] && s.all fun c => !isSpacing c && !isOperatorChar c

/-- A text as a word. -/
def Word.ofString (s : String) (h : isWord s.toList = true) : Word where
  text := s.toList
  ne_nil := of_decide_eq_true (Bool.and_eq_true_iff.mp h).1
  plain c hc := by
    have hplain := List.all_eq_true.mp (Bool.and_eq_true_iff.mp h).2 c hc
    rw [Bool.and_eq_true_iff, Bool.not_eq_true', Bool.not_eq_true'] at hplain
    exact hplain

theorem Word.isOperatorChar_eq_false (w : Word) : ∀ c ∈ w.text, isOperatorChar c = false :=
  fun c hc => (w.plain c hc).2

/-- A comparison of something with a word. -/
structure Comparison (α : Type) where
  left : α
  comparator : Comparator
  right : Word

/-- One comparison or more, all of which have to hold. -/
structure Conjunction (α : Type) where
  head : Comparison α
  tail : List (Comparison α)

/-- One conjunction or more, any of which suffices. -/
structure Disjunction (α : Type) where
  head : Conjunction α
  tail : List (Conjunction α)

/-- The comparisons of a conjunction. -/
def Conjunction.comparisons {α : Type} (k : Conjunction α) : List (Comparison α) := k.head :: k.tail

/-- The conjunctions of a disjunction. -/
def Disjunction.conjunctions {α : Type} (d : Disjunction α) : List (Conjunction α) := d.head :: d.tail

/-- All the comparisons of a disjunction. -/
def Disjunction.comparisons {α : Type} (d : Disjunction α) : List (Comparison α) :=
  d.conjunctions.flatMap Conjunction.comparisons

section Written

variable {α : Type} (text : α → List Char)

/-- A comparison as it is written. -/
def Comparison.render (c : Comparison α) : List Char :=
  text c.left ++ (c.comparator.operator.symbol ++ c.right.text)

/-- A conjunction as it is written. -/
def Conjunction.render (k : Conjunction α) : List Char :=
  k.head.render text ++ k.tail.flatMap fun c => Operator.and.symbol ++ c.render text

/-- A disjunction as it is written. -/
def Disjunction.render (d : Disjunction α) : List Char :=
  d.head.render text ++ d.tail.flatMap fun k => Operator.or.symbol ++ k.render text

/-- Whether a comparison is true. -/
def Comparison.holds (c : Comparison α) : Bool :=
  c.comparator.operator.holds (text c.left) c.right.text

/-- Whether all comparisons of a conjunction are true. -/
def Conjunction.holds (k : Conjunction α) : Bool := k.comparisons.all (·.holds text)

/-- Whether some conjunction is true. -/
def Disjunction.holds (d : Disjunction α) : Bool := d.conjunctions.any (·.holds text)

theorem Disjunction.holds_iff {d : Disjunction α} :
    d.holds text = true ↔ ∃ k ∈ d.conjunctions, ∀ c ∈ k.comparisons, c.holds text = true := by
  rw [Disjunction.holds, List.any_eq_true]
  constructor
  · rintro ⟨k, hk, h⟩
    exact ⟨k, hk, List.all_eq_true.mp h⟩
  · rintro ⟨k, hk, h⟩
    exact ⟨k, hk, List.all_eq_true.mpr h⟩

/-! ## Links -/

/-- A comparison with the combinator in front of it. -/
abbrev Link (α : Type) := Combinator × Comparison α

/-- A link as it is written. -/
def Link.render (l : Link α) : List Char := l.1.operator.symbol ++ l.2.render text

/-- A link's truth value, with its combinator. -/
def Link.value (l : Link α) : Combinator × Bool := (l.1, l.2.holds text)

variable {text}

/-- The comparisons behind the first one of a conjunction. -/
def Conjunction.links (k : Conjunction α) : List (Link α) := k.tail.map fun c => (.and, c)

/-- The comparisons behind the first one of a disjunction. -/
def Disjunction.links (d : Disjunction α) : List (Link α) :=
  d.head.links ++ d.tail.flatMap fun k => (.or, k.head) :: k.links

/-- The first comparison of a disjunction. -/
def Disjunction.first (d : Disjunction α) : Comparison α := d.head.head

theorem Conjunction.render_eq (k : Conjunction α) :
    k.render text = k.head.render text ++ k.links.flatMap (Link.render text) := by
  rw [Conjunction.render, Conjunction.links, List.flatMap_map]
  rfl

theorem Disjunction.render_eq (d : Disjunction α) :
    d.render text = d.first.render text ++ d.links.flatMap (Link.render text) := by
  have hk (k : Conjunction α) : Operator.or.symbol ++ k.render text =
      ((.or, k.head) :: k.links).flatMap (Link.render text) := by
    rw [k.render_eq, List.flatMap_cons, ← List.append_assoc]
    rfl
  rw [Disjunction.render, Disjunction.links, List.flatMap_append, List.flatMap_assoc, d.head.render_eq,
    List.append_assoc]
  simp only [hk]
  rfl

/-- The comparison of a link is one of the disjunction's. -/
theorem Disjunction.mem_comparisons_of_link {d : Disjunction α} {l : Link α} (h : l ∈ d.links) :
    l.2 ∈ d.comparisons := by
  have htail {k : Conjunction α} (hl : l ∈ k.links) : l.2 ∈ k.comparisons := by
    obtain ⟨c, hc, rfl⟩ := List.mem_map.mp hl
    exact List.mem_cons_of_mem _ hc
  rw [Disjunction.links, List.mem_append, List.mem_flatMap] at h
  rcases h with h | ⟨k, hk, h⟩
  · exact List.mem_flatMap.mpr ⟨d.head, List.mem_cons_self, htail h⟩
  · refine List.mem_flatMap.mpr ⟨k, List.mem_cons_of_mem _ hk, ?_⟩
    rcases List.mem_cons.mp h with rfl | h
    · exact List.mem_cons_self
    · exact htail h

theorem Disjunction.first_mem_comparisons (d : Disjunction α) : d.first ∈ d.comparisons :=
  List.mem_flatMap.mpr ⟨d.head, List.mem_cons_self, List.mem_cons_self⟩

/-- What is written only depends on the texts of the left operands. -/
theorem Disjunction.render_congr {text' : α → List Char} {d : Disjunction α}
    (h : ∀ c ∈ d.comparisons, text c.left = text' c.left) : d.render text = d.render text' := by
  have hcomparison {c : Comparison α} (hc : c ∈ d.comparisons) : c.render text = c.render text' := by
    unfold Comparison.render
    rw [h c hc]
  have hlink {l : Link α} (hl : l ∈ d.links) : Link.render text l = Link.render text' l := by
    unfold Link.render
    rw [hcomparison (d.mem_comparisons_of_link hl)]
  have hlinks : d.links.flatMap (Link.render text) = d.links.flatMap (Link.render text') := by
    rw [List.flatMap_def, List.map_congr_left fun _ hl => hlink hl, ← List.flatMap_def]
  rw [d.render_eq, d.render_eq, hcomparison d.first_mem_comparisons, hlinks]

end Written

/-! ## Bare operands -/

/-- A disjunction, with or without a bare operand in front of it and behind it. -/
structure Formula (α : Type) where
  front : Option Word
  body : Disjunction α
  back : Option Word

namespace Formula

variable {α : Type} (text : α → List Char)

/-- A formula as it is written. -/
def render (f : Formula α) : List Char :=
  (f.front.elim [] fun w => w.text ++ Operator.or.symbol) ++
    (f.body.render text ++ f.back.elim [] fun w => Operator.or.symbol ++ w.text)

/-- Whether some conjunction or some bare operand is true. -/
def holds (f : Formula α) : Bool :=
  f.front.any (fun w => truthy w.text) || (f.body.holds text || f.back.any fun w => truthy w.text)

/-- The comparisons with a combinator in front of them. -/
def links (f : Formula α) : List (Link α) :=
  f.front.elim f.body.links fun _ => (.or, f.body.first) :: f.body.links

end Formula

/-! ## No spacing -/

section Rendered

variable {α : Type} {text : α → List Char}

theorem isSpacing_symbol {o : Comparator} : ∀ c ∈ o.operator.symbol, isSpacing c = false := by
  cases o <;> exact forall_mem_of_all (by decide)

theorem isSpacing_combinator {k : Combinator} : ∀ c ∈ k.operator.symbol, isSpacing c = false := by
  cases k <;> exact forall_mem_of_all (by decide)

theorem isSpacing_comparison {c : Comparison α} (hc : ∀ x ∈ text c.left, isSpacing x = false) :
    ∀ x ∈ c.render text, isSpacing x = false := by
  intro x hx
  rw [Comparison.render, List.mem_append, List.mem_append] at hx
  rcases hx with hx | hx | hx
  · exact hc x hx
  · exact isSpacing_symbol x hx
  · exact (c.right.plain x hx).1

/-- A disjunction over operands without spacing is written without spacing. -/
theorem isSpacing_disjunction {d : Disjunction α}
    (hd : ∀ c ∈ d.comparisons, ∀ x ∈ text c.left, isSpacing x = false) :
    ∀ x ∈ d.render text, isSpacing x = false := by
  intro x hx
  rw [d.render_eq, List.mem_append, List.mem_flatMap] at hx
  rcases hx with hx | ⟨l, hl, hx⟩
  · exact isSpacing_comparison (hd d.first d.first_mem_comparisons) x hx
  · rcases List.mem_append.mp hx with hx | hx
    · exact isSpacing_combinator x hx
    · exact isSpacing_comparison (hd l.2 (d.mem_comparisons_of_link hl)) x hx

theorem isSpacing_formula {f : Formula α}
    (hf : ∀ c ∈ f.body.comparisons, ∀ x ∈ text c.left, isSpacing x = false) :
    ∀ x ∈ f.render text, isSpacing x = false := by
  have hor : ∀ x ∈ Operator.or.symbol, isSpacing x = false := forall_mem_of_all (by decide)
  have hword (w : Word) : ∀ x ∈ w.text, isSpacing x = false := fun x hx => (w.plain x hx).1
  intro x hx
  rw [Formula.render, List.mem_append, List.mem_append] at hx
  rcases hx with hx | hx | hx
  · cases hw : f.front with
    | none =>
      rw [hw] at hx
      exact absurd hx List.not_mem_nil
    | some w =>
      rw [hw] at hx
      rcases List.mem_append.mp hx with hx | hx
      · exact hword w x hx
      · exact hor x hx
  · exact isSpacing_disjunction hf x hx
  · cases hw : f.back with
    | none =>
      rw [hw] at hx
      exact absurd hx List.not_mem_nil
    | some w =>
      rw [hw] at hx
      rcases List.mem_append.mp hx with hx | hx
      · exact hor x hx
      · exact hword w x hx

/-! ## The end of a condition -/

/-- The text ends in a word. -/
def EndsInWord (s : List Char) : Prop := ∃ (front : List Char) (w : Word), s = front ++ w.text

theorem EndsInWord.append_left {s : List Char} (h : EndsInWord s) (front : List Char) :
    EndsInWord (front ++ s) := by
  obtain ⟨front', w, rfl⟩ := h
  exact ⟨front ++ front', w, (List.append_assoc _ _ _).symm⟩

/-- A text that ends in a word does not end in an operator. -/
theorem EndsInWord.getLast? {s : List Char} (h : EndsInWord s) :
    s.getLast?.any isOperatorChar = false := by
  obtain ⟨front, w, rfl⟩ := h
  rw [List.getLast?_append, List.getLast?_eq_some_getLast w.ne_nil, Option.some_or]
  exact w.isOperatorChar_eq_false _ (List.getLast_mem w.ne_nil)

theorem EndsInWord.ne_nil {s : List Char} (h : EndsInWord s) : s ≠ [] := by
  obtain ⟨front, w, rfl⟩ := h
  exact List.append_ne_nil_of_right_ne_nil front w.ne_nil

theorem endsInWord_comparison (c : Comparison α) : EndsInWord (c.render text) :=
  ⟨text c.left ++ c.comparator.operator.symbol, c.right, (List.append_assoc _ _ _).symm⟩

theorem EndsInWord.append_links {s : List Char} (h : EndsInWord s) (links : List (Link α)) :
    EndsInWord (s ++ links.flatMap (Link.render text)) := by
  induction links generalizing s with
  | nil =>
    rw [List.flatMap_nil, List.append_nil]
    exact h
  | cons l links ih =>
    rw [List.flatMap_cons, ← List.append_assoc]
    exact ih (((endsInWord_comparison l.2).append_left _).append_left s)

theorem endsInWord_disjunction (d : Disjunction α) : EndsInWord (d.render text) := by
  rw [d.render_eq]
  exact (endsInWord_comparison d.first).append_links d.links

theorem endsInWord_formula (f : Formula α) : EndsInWord (f.render text) := by
  refine EndsInWord.append_left ?_ _
  cases f.back with
  | none =>
    rw [Option.elim_none, List.append_nil]
    exact endsInWord_disjunction f.body
  | some w =>
    rw [Option.elim_some, ← List.append_assoc]
    exact ⟨_, w, rfl⟩

end Rendered

end Entitlement.Condition
