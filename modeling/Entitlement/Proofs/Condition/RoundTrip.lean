import Entitlement.Proofs.Condition.Scanning
import Mathlib.Data.List.Chain

/-!
# `Entitlement.Proofs.Condition.RoundTrip` — scanning what was written

Tokens that are written one after the other are scanned again as they were, as long as no symbol is made at an
edge or inside an operand. Operands may hold `=`, `&` and `|`, each between two characters that belong to no
operator (`Enclosed`); then no operator begins in them, whatever stands behind them (`Enclosed.inert`), and an
operand that is not empty closes the operator in front of it. The induction of `scan_written` alternates the two
equations of `scan` for operators and operands.
-/

namespace Entitlement.Condition

open Tokens

/-! ## Operators -/

/-- The operators that a scan can find in a text that does not end in one: those that compare or combine, and the
    symbols without an operation. -/
def scanned : List Operator :=
  [.ge, .gt, .le, .lt, .eq, .ne, .and, .or] ++
    ["=>", "><", "=<", "<&", "&=", "=|", "|!", "!"].map fun symbol => .unsupported symbol.toList

theorem scannable_of_mem_scanned {o : Operator} (ho : o ∈ scanned) : o.Scannable := by
  have hall : ∀ o ∈ scanned, o = .ofSymbol o.symbol ∧
      (o.symbol.length = 2 ∧ isSymbolWindow o.symbol = true ∨
        o.symbol.length = 1 ∧ o.symbol.all isSingle = true) := by decide
  obtain ⟨heq, hsymbol⟩ := hall o ho
  rw [heq]
  rcases hsymbol with ⟨hlen, hw⟩ | ⟨hlen, hs⟩
  · obtain ⟨a, b, hab⟩ := List.length_eq_two.mp hlen
    rw [hab] at hw ⊢
    exact .pair hw
  · obtain ⟨c, hc⟩ := List.length_eq_one_iff.mp hlen
    rw [hc] at hs ⊢
    exact .single (by simpa using hs)

theorem symbol_ne_nil_of_mem_scanned {o : Operator} (ho : o ∈ scanned) : o.symbol ≠ [] := by
  have hall : ∀ o ∈ scanned, o.symbol ≠ [] := by decide
  exact hall o ho

/-! ## Operands -/

/-- An operand neither begins nor ends with an operator character, and inside it operator characters are `=`, `&`
    or `|` and never neighbours. -/
structure Enclosed (s : List Char) : Prop where
  head : s.head?.any isOperatorChar = false
  last : s.getLast?.any isOperatorChar = false
  swallowed : ∀ c ∈ s, isOperatorChar c = true → c = '=' ∨ c = '&' ∨ c = '|'
  apart : s.IsChain fun a b => isOperatorChar a = false ∨ isOperatorChar b = false

theorem enclosed_iff {s : List Char} :
    Enclosed s ↔ s.head?.any isOperatorChar = false ∧ s.getLast?.any isOperatorChar = false ∧
      s.all (fun c => !isOperatorChar c || (c == '=' || c == '&' || c == '|')) = true ∧
      s.IsChain fun a b => isOperatorChar a = false ∨ isOperatorChar b = false := by
  have hswallowed : s.all (fun c => !isOperatorChar c || (c == '=' || c == '&' || c == '|')) = true ↔
      ∀ c ∈ s, isOperatorChar c = true → c = '=' ∨ c = '&' ∨ c = '|' := by
    simp only [List.all_eq_true, Bool.or_eq_true, Bool.not_eq_true', ← Bool.not_eq_true, beq_iff_eq, or_assoc,
      ← imp_iff_not_or]
  rw [hswallowed]
  exact ⟨fun h => ⟨h.head, h.last, h.swallowed, h.apart⟩, fun h => ⟨h.1, h.2.1, h.2.2.1, h.2.2.2⟩⟩

instance (s : List Char) : Decidable (Enclosed s) := decidable_of_iff _ enclosed_iff.symm

/-- No operator begins in such an operand, whatever stands behind it. -/
theorem Enclosed.inert {s : List Char} (h : Enclosed s) (rest : List Char) : Inert rest s := by
  obtain ⟨-, hlast, hswallowed, hapart⟩ := h
  induction s with
  | nil => trivial
  | cons c s ih =>
    have hwindow : isSymbolWindow (window (c :: (s ++ rest))) = false := by
      cases hc : isOperatorChar c with
      | false => exact not_symbol_of_mem (c := c) (by simp [window]) hc
      | true =>
        -- the character is not the last one, and its neighbour belongs to no operator
        cases s with
        | nil => simp [hc] at hlast
        | cons d s =>
          have hd : isOperatorChar d = false := by
            rw [List.isChain_cons_cons, hc] at hapart
            simpa using hapart.1
          exact not_symbol_of_mem (c := d) (by simp [window]) hd
    have hsingle : isSingle c = false := by
      rw [Bool.eq_false_iff]
      intro hs
      rcases hswallowed c List.mem_cons_self (isOperatorChar_of_isSingle hs) with rfl | rfl | rfl <;>
        exact absurd hs (by decide)
    refine ⟨hwindow, hsingle, ih ?_ ?_ ?_⟩
    · cases s with
      | nil => rfl
      | cons d s => simpa using hlast
    · intro x hx
      exact hswallowed x (List.mem_cons_of_mem c hx)
    · exact hapart.tail

/-- An operator is closed by an operand that is not empty. -/
theorem Enclosed.closed {s : List Char} (h : Enclosed s) (hne : s ≠ []) {o : Operator} (ho : o.symbol ≠ [])
    (rest : List Char) : o.Closed (s ++ rest) := by
  obtain ⟨c, s, rfl⟩ := List.exists_cons_of_ne_nil hne
  have hc : isOperatorChar c = false := by simpa using h.head
  exact Operator.closed_of_plain ho hc

/-! ## Tokens -/

/-- Operators, each with an operand behind it. -/
theorem scan_written {es : List (Operator × List Char)} (hoperators : ∀ e ∈ es, e.1 ∈ scanned)
    (hoperands : ∀ e ∈ es, e.2 ≠ [] ∧ Enclosed e.2) :
    scan false (es.flatMap fun e => e.1.symbol ++ e.2) = ⟨[], es⟩ := by
  induction es with
  | nil => rfl
  | cons e es ih =>
    obtain ⟨o, s⟩ := e
    have ho : o ∈ scanned := hoperators (o, s) List.mem_cons_self
    obtain ⟨hne, hs⟩ := hoperands (o, s) List.mem_cons_self
    have ih := ih (fun e he => hoperators e (List.mem_cons_of_mem _ he))
      fun e he => hoperands e (List.mem_cons_of_mem _ he)
    rw [List.flatMap_cons, List.append_assoc,
      scan_operator (scannable_of_mem_scanned ho) (hs.closed hne (symbol_ne_nil_of_mem_scanned ho) _),
      scan_inert (hs.inert _), ih]
    simp [pushOperand, pushOperator]

/-- **Scanning undoes writing.** Operators between operands that are not empty, the first one excepted, and hold
    operator characters only where they are swallowed, are found again as they were written. -/
theorem tokenize_render_eq_self (t : Tokens) (hoperators : ∀ o ∈ t.operators, o ∈ scanned)
    (hfirst : Enclosed t.first) (hrest : ∀ e ∈ t.rest, e.2 ≠ [] ∧ Enclosed e.2) : tokenize t.render = t := by
  have hscan : scan false (t.rest.flatMap fun e => e.1.symbol ++ e.2) = ⟨[], t.rest⟩ :=
    scan_written (fun e he => hoperators e.1 (List.mem_map_of_mem he)) hrest
  rw [tokenize, render, scan_inert (hfirst.inert _), hscan]
  simp [pushOperand]

/-- Nothing stands in front of the first operator, and each kind of swallowed character occurs. -/
theorem tokenize_render_eq_self_swallowed :
    tokenize "=>a=b|c&&x&y!z=1".toList =
      ⟨[], [(.unsupported "=>".toList, "a=b|c".toList), (.and, "x&y".toList),
        (.unsupported "!".toList, "z=1".toList)]⟩ :=
  tokenize_render_eq_self
    ⟨[], [(.unsupported "=>".toList, "a=b|c".toList), (.and, "x&y".toList),
      (.unsupported "!".toList, "z=1".toList)]⟩
    (by decide) (by decide) (by decide)

end Entitlement.Condition
