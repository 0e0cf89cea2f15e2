import Entitlement.Condition.Tokens

/-!
# `Entitlement.Proofs.Condition.Scanning` — where the scanner cuts a text

A text that writes operands and operators one after the other is not always cut at the same places again: a
window of two characters may begin in one of them and end in the next. This module says when it is.

* An operand is found again when no operator begins inside it, the character behind it included (`Inert`);
  texts without operator characters are the simplest case (`inert_of_plain`).
* An operator is found again when its last character and the one behind it are not scanned as a symbol of
  their own (`Operator.Closed`).

`scan_inert` and `scan_operator` turn the two conditions into equations of `scan`; a text of any length is
scanned by alternating them. `scan_pair` is the one step that also holds where windows overlap.
-/

namespace Entitlement.Condition

open Tokens

/-! ## Windows -/

theorem isOperatorChar_iff {c : Char} : isOperatorChar c = true ↔ c ∈ alphabet := by
  simp [isOperatorChar]

/-- A window with a character outside the alphabet is not a symbol. -/
theorem not_symbol_of_mem {w : List Char} {c : Char} (hc : c ∈ w) (h : isOperatorChar c = false) :
    isSymbolWindow w = false := by
  rw [Bool.eq_false_iff]
  intro hw
  have hin : c ∈ alphabet := (occursIn_iff.mp hw).subset hc
  rw [isOperatorChar_iff.mpr hin] at h
  exact absurd h (by decide)

/-- The characters that are operators by themselves belong to the alphabet. -/
theorem isOperatorChar_of_isSingle {c : Char} (h : isSingle c = true) : isOperatorChar c = true := by
  simp only [isSingle, Bool.or_eq_true, beq_iff_eq] at h
  rcases h with (rfl | rfl) | rfl <;> decide

theorem isSingle_of_plain {c : Char} (h : isOperatorChar c = false) : isSingle c = false := by
  rw [Bool.eq_false_iff]
  intro hs
  rw [isOperatorChar_of_isSingle hs] at h
  exact absurd h (by decide)

/-! ## Operands -/

/-- No operator begins inside `s` when `rest` stands behind it. -/
def Inert (rest : List Char) : List Char → Prop
  | [] => True
  | c :: s =>
    isSymbolWindow (window (c :: (s ++ rest))) = false ∧ isSingle c = false ∧ Inert rest s

instance decidableInert (rest : List Char) : ∀ s, Decidable (Inert rest s)
  | [] => inferInstanceAs (Decidable True)
  | c :: s =>
    have := decidableInert rest s
    inferInstanceAs (Decidable (isSymbolWindow (window (c :: (s ++ rest))) = false ∧
      isSingle c = false ∧ Inert rest s))

/-- A text without operator characters is inert, whatever stands behind it. -/
theorem inert_of_plain {rest : List Char} :
    ∀ {s : List Char}, (∀ c ∈ s, isOperatorChar c = false) → Inert rest s
  | [], _ => trivial
  | c :: s, h => by
    have hc : isOperatorChar c = false := h c (by simp)
    have hw : c ∈ window (c :: (s ++ rest)) := by simp [window]
    exact ⟨not_symbol_of_mem hw hc, isSingle_of_plain hc,
      inert_of_plain fun x hx => h x (List.mem_cons_of_mem c hx)⟩

/-- Only the first character of what stands behind a text matters. -/
theorem inert_append_right {front rest : List Char} (hf : front ≠ []) :
    ∀ {s : List Char}, Inert (front ++ rest) s ↔ Inert front s
  | [] => Iff.rfl
  | c :: s => by
    have hw : window (c :: (s ++ (front ++ rest))) = window (c :: (s ++ front)) := by
      obtain ⟨a, as, rfl⟩ := List.exists_cons_of_ne_nil hf
      cases s <;> rfl
    rw [Inert, Inert, hw, inert_append_right hf]

/-- The tokens with a text in front of the first operand. -/
def Tokens.pushOperand (s : List Char) (t : Tokens) : Tokens := ⟨s ++ t.first, t.rest⟩

/-- **Operands.** A text in which no operator begins goes into the first operand as it is. -/
theorem scan_inert {rest : List Char} :
    ∀ {s : List Char}, Inert rest s → scan false (s ++ rest) = (scan false rest).pushOperand s
  | [], _ => rfl
  | c :: s, ⟨hw, hs, h⟩ => by
    rw [List.cons_append, scan, hw, hs]
    simp only [Bool.false_eq_true, ↓reduceIte, scan_inert h]
    rfl

/-- A text that the first operand begins with has no operator in it. -/
theorem inert_of_prefix_first {rest : List Char} :
    ∀ {s : List Char}, s <+: (scan false (s ++ rest)).first → Inert rest s
  | [], _ => trivial
  | c :: s, h => by
    have hnil : ¬ c :: s <+: [] := fun h => List.cons_ne_nil c s (List.prefix_nil.mp h)
    -- an operator at `c` would leave the first operand empty
    rw [List.cons_append, scan] at h
    by_cases hw : isSymbolWindow (window (c :: (s ++ rest))) = true
    · rw [if_pos hw] at h
      exact absurd h hnil
    by_cases hs : isSingle c = true
    · rw [if_neg hw, if_neg (by decide), if_pos hs] at h
      exact absurd h hnil
    rw [if_neg hw, if_neg (by decide), if_neg hs] at h
    exact ⟨Bool.eq_false_iff.mpr hw, Bool.eq_false_iff.mpr hs,
      inert_of_prefix_first (List.cons_prefix_cons.mp h).2⟩

/-- A whole text in which no operator begins is a single operand. -/
theorem scan_inert_nil {s : List Char} (h : Inert [] s) : scan false s = ⟨s, []⟩ := by
  have e := scan_inert h
  rw [List.append_nil] at e
  rw [e]
  simp [pushOperand, scan]

/-! ## Operators -/

/-- The operators that the scanner knows: the symbols of two characters in the alphabet, and the single
    characters. -/
inductive Operator.Scannable : Operator → Prop where
  | pair {a b : Char} : isSymbolWindow [a, b] = true → Scannable (.ofSymbol [a, b])
  | single {c : Char} : isSingle c = true → Scannable (.ofSymbol [c])

/-- The last character of an operator and the first one behind it are not scanned as a symbol. -/
def Operator.Closed (o : Operator) (rest : List Char) : Prop :=
  isSymbolWindow (window (o.symbol.getLast?.toList ++ rest)) = false

/-- An operator is closed by any character outside the alphabet. -/
theorem Operator.closed_of_plain {o : Operator} (ho : o.symbol ≠ []) {c : Char} {rest : List Char}
    (h : isOperatorChar c = false) : o.Closed (c :: rest) := by
  have hl : o.symbol.getLast?.toList = [o.symbol.getLast ho] := by
    rw [List.getLast?_eq_some_getLast ho]
    rfl
  have hc : c ∈ window (o.symbol.getLast?.toList ++ c :: rest) := by
    rw [hl]
    simp [window]
  exact not_symbol_of_mem hc h

/-- A symbol of two characters is an operator, also where it begins inside the symbol before it. -/
theorem scan_pair {closing : Bool} {a b : Char} {rest : List Char} (h : isSymbolWindow [a, b] = true) :
    scan closing (a :: b :: rest) = (scan true (b :: rest)).pushOperator (.ofSymbol [a, b]) := by
  have hw : window (a :: b :: rest) = [a, b] := rfl
  rw [scan, hw, h]
  rfl

/-- The second character of a symbol is passed over, unless it begins another one. -/
theorem scan_closing {b : Char} {rest : List Char} (h : isSymbolWindow (window (b :: rest)) = false) :
    scan true (b :: rest) = scan false rest := by
  rw [scan, h]
  rfl

/-- Where two symbols touch at a pair that is a symbol too, that pair is an operator of its own between them. -/
theorem scan_overlap {a b c d : Char} {rest : List Char} (hab : isSymbolWindow [a, b] = true)
    (hbc : isSymbolWindow [b, c] = true) (hcd : isSymbolWindow [c, d] = true) :
    scan false (a :: b :: c :: d :: rest) =
      ((scan false (c :: d :: rest)).pushOperator (.ofSymbol [b, c])).pushOperator
        (.ofSymbol [a, b]) := by
  rw [scan_pair hab, scan_pair hbc, scan_pair hcd, scan_pair hcd]

/-- **Operators.** A closed operator is scanned as such, and the scanner starts afresh behind it. -/
theorem scan_operator {o : Operator} {rest : List Char} (ho : o.Scannable) (hc : o.Closed rest) :
    scan false (o.symbol ++ rest) = (scan false rest).pushOperator o := by
  cases ho with
  | @pair a b hab =>
    have hb : isSymbolWindow (window (b :: rest)) = false := by
      simpa [Operator.Closed] using hc
    rw [Operator.symbol_ofSymbol]
    exact (scan_pair hab).trans (congrArg (pushOperator _) (scan_closing hb))
  | @single c hs =>
    have hw : isSymbolWindow (window (c :: rest)) = false := by
      simpa [Operator.Closed] using hc
    rw [Operator.symbol_ofSymbol, List.singleton_append, scan, hw, hs]
    rfl

end Entitlement.Condition
