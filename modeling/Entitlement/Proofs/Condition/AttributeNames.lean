import Entitlement.Proofs.Collection.Keyed
import Entitlement.Proofs.Condition.Formula
import Entitlement.Proofs.Condition.Pasting

/-!
# `Entitlement.Proofs.Condition.AttributeNames` — pasting values into a disjunction over attribute names

Operators hold no identifier characters, so a pass for a name made of identifier characters never reads across
one. A disjunction whose right operands are free of the names is therefore substituted left operand by left
operand (`substitute_disjunction`), and a left operand that is a name becomes the text of its value as long as
no other name and no value interferes (`substitute_name`).
-/

namespace Entitlement.Condition

open Attribute (Row Value)
open Text (isIdentifierChar)

/-! ## Identifier characters -/

/-- Operators hold no identifier characters. -/
theorem isIdentifierChar_of_isOperatorChar {c : Char} (h : isOperatorChar c = true) :
    isIdentifierChar c = false := by
  have hall : ∀ x ∈ alphabet, isIdentifierChar x = false := forall_mem_of_all (by decide)
  exact hall c (by simpa [isOperatorChar] using h)

theorem isSpacing_of_isIdentifierChar {c : Char} (h : isIdentifierChar c = true) : isSpacing c = false :=
  isSpacing_of_class (by decide) h

theorem isOperatorChar_comparator {o : Comparator} : ∀ c ∈ o.operator.symbol, isOperatorChar c = true := by
  cases o <;> exact List.all_eq_true.mp (by decide)

theorem isOperatorChar_combinator {k : Combinator} : ∀ c ∈ k.operator.symbol, isOperatorChar c = true := by
  cases k <;> exact List.all_eq_true.mp (by decide)

/-! ## One pass over a disjunction -/

section OnePass

variable {α : Type} {mode : Mode} {name value : List Char} {text : α → List Char}

/-- Operator characters cut a pass for a name made of identifier characters. -/
theorem replace_append_operator (hname : ∀ c ∈ name, isIdentifierChar c = true) {symbol : List Char}
    (hne : symbol ≠ []) (hsymbol : ∀ c ∈ symbol, isOperatorChar c = true) (s rest : List Char) :
    replace mode name value (s ++ (symbol ++ rest)) =
      replace mode name value s ++ (symbol ++ replace mode name value rest) := by
  refine replace_append_stretch hne (fun c hc => ?_) s rest
  have hi : isIdentifierChar c = false := isIdentifierChar_of_isOperatorChar (hsymbol c hc)
  exact ⟨not_mem_of_isIdentifierChar hname hi, hi⟩

theorem replace_comparison (hname : ∀ c ∈ name, isIdentifierChar c = true) {c : Comparison α}
    (hc : ¬ name <:+: c.right.text) :
    replace mode name value (c.render text) = c.render fun a => replace mode name value (text a) := by
  have hne : c.comparator.operator.symbol ≠ [] := by
    cases c.comparator <;> decide
  rw [Comparison.render, replace_append_operator hname hne isOperatorChar_comparator,
    replace_of_absent hc]
  rfl

/-- The induction is on the links behind the text `s`: the combinator of the first one ends what a pass reads
    of `s`, and its comparison is the text in front of the others. -/
theorem replace_append_links (hname : ∀ c ∈ name, isIdentifierChar c = true) {links : List (Link α)}
    (hl : ∀ l ∈ links, ¬ name <:+: l.2.right.text) (s : List Char) :
    replace mode name value (s ++ links.flatMap (Link.render text)) =
      replace mode name value s ++
        links.flatMap (Link.render fun a => replace mode name value (text a)) := by
  induction links generalizing s with
  | nil => simp only [List.flatMap_nil, List.append_nil]
  | cons l links ih =>
    have hne : l.1.operator.symbol ≠ [] := by
      cases l.1 <;> decide
    have ih := ih (fun m hm => hl m (List.mem_cons_of_mem l hm)) (l.2.render text)
    rw [List.flatMap_cons, Link.render, List.append_assoc,
      replace_append_operator hname hne isOperatorChar_combinator, ih,
      replace_comparison hname (hl l List.mem_cons_self), List.flatMap_cons, Link.render,
      List.append_assoc]

/-- A pass goes through a disjunction left operand by left operand. -/
theorem replace_disjunction (hname : ∀ c ∈ name, isIdentifierChar c = true) {d : Disjunction α}
    (hd : ∀ c ∈ d.comparisons, ¬ name <:+: c.right.text) :
    replace mode name value (d.render text) = d.render fun a => replace mode name value (text a) := by
  rw [d.render_eq, replace_append_links hname fun l hl => hd l.2 (d.mem_comparisons_of_link hl),
    replace_comparison hname (hd d.first d.first_mem_comparisons), d.render_eq]

end OnePass

/-! ## All passes -/

/-- **Substitution goes through a disjunction** left operand by left operand. -/
theorem substitute_disjunction {α : Type} {mode : Mode} {row : Row} {text : α → List Char}
    {d : Disjunction α} (hname : ∀ n ∈ row.keys, ∀ c ∈ n.toList, isIdentifierChar c = true)
    (hd : ∀ n ∈ row.keys, ∀ c ∈ d.comparisons, ¬ n.toList <:+: c.right.text) :
    substitute mode row (d.render text) = d.render fun a => substitute mode row (text a) := by
  have hpaste (es : List (String × Value)) (hes : ∀ e ∈ es, e.1 ∈ row.keys) (text : α → List Char) :
      pasteEntries mode es (d.render text) = d.render fun a => pasteEntries mode es (text a) := by
    induction es generalizing text with
    | nil => rfl
    | cons e es ih =>
      have he : e.1 ∈ row.keys := hes e List.mem_cons_self
      rw [pasteEntries_cons, replace_disjunction (hname e.1 he) (hd e.1 he)]
      exact ih (fun e' he' => hes e' (List.mem_cons_of_mem e he')) _
  exact hpaste row.entries (fun e he => List.mem_map_of_mem he) text

/-- **A name becomes the text of its value**, when the other passes leave the name and that text alone. -/
theorem substitute_name_of_fixed {mode : Mode} {row : Row} {name : String} {value : Value}
    (hget : row.get? name = some value) (hne : name ≠ "")
    (hname : ∀ e ∈ row.entries, e.1 ≠ name → replace mode e.1.toList e.2.text name.toList = name.toList)
    (hvalue : ∀ e ∈ row.entries, e.1 ≠ name → replace mode e.1.toList e.2.text value.text = value.text) :
    substitute mode row name.toList = value.text := by
  obtain ⟨front, back, hentries, hfront, hback⟩ := Keyed.exists_split hget
  -- keys do not repeat, so the passes in front of the name's own and those behind it are for other names
  have hbefore : pasteEntries mode front name.toList = name.toList := by
    refine pasteEntries_of_fixed fun e he => hname e ?_ ?_
    · exact hentries ▸ List.mem_append_left _ he
    · exact fun h => hfront (h ▸ List.mem_map_of_mem he)
  have hafter : pasteEntries mode back value.text = value.text := by
    refine pasteEntries_of_fixed fun e he => hvalue e ?_ ?_
    · exact hentries ▸ List.mem_append_right _ (List.mem_cons_of_mem _ he)
    · exact fun h => hback (h ▸ List.mem_map_of_mem he)
  have hown : replace mode name.toList value.text name.toList = value.text :=
    replace_name fun h => hne (String.toList_inj.mp h)
  rw [substitute_eq_pasteEntries, hentries, pasteEntries_append, hbefore, pasteEntries_cons, hown,
    hafter]

/-- In particular when no other name occurs in either of them. -/
theorem substitute_name {mode : Mode} {row : Row} {name : String} {value : Value}
    (hget : row.get? name = some value) (hne : name ≠ "")
    (hnames : ∀ n ∈ row.keys, n ≠ name → ¬ n.toList <:+: name.toList)
    (hvalues : ∀ n ∈ row.keys, n ≠ name → ¬ n.toList <:+: value.text) :
    substitute mode row name.toList = value.text := by
  have hkey {e : String × Value} (he : e ∈ row.entries) : e.1 ∈ row.keys := List.mem_map_of_mem he
  apply substitute_name_of_fixed hget hne
  · exact fun e he h => replace_of_absent (hnames e.1 (hkey he) h)
  · exact fun e he h => replace_of_absent (hvalues e.1 (hkey he) h)

end Entitlement.Condition
