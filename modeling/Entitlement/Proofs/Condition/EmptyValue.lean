import Entitlement.Proofs.Condition.AttributeNames
import Entitlement.Proofs.Condition.FormulaTruth
import Entitlement.Proofs.Condition.OperandCount
import Entitlement.Proofs.Condition.Spacing

/-!
# `Entitlement.Proofs.Condition.EmptyValue` — disjunctions in which values may be empty

A disjunction over attribute names is evaluated as it reads, empty values included, as long as no empty value
stands between `&&` and `==` or between `||` and `!=`. There the scanner finds one operator more, which takes two
operands and brings only one, so the walk over the operators runs out of operands (`evaluate_attributes`).
-/

namespace Entitlement.Condition

open Attribute (Row Value)
open Text (isIdentifierChar)

/-! ## Operands run out -/

section Clashes

variable {α : Type} {text : α → List Char}

/-- A link brings an operand for each operator; a comparison needs two, a combinator none. At a clash there are
    two comparisons. -/
theorem comparisons_link (text : α → List Char) (l : Link α) :
    2 * (comparisons ((l.tokens text).map Prod.fst)).length =
      (l.tokens text).length + if l.clashes text then 1 else 0 := by
  obtain ⟨k, c⟩ := l
  unfold Link.tokens
  cases Link.clashes text (k, c) with
  | true => cases k <;> cases c.comparator <;> rfl
  | false => cases k <;> cases c.comparator <;> rfl

theorem comparisons_links (text : α → List Char) (links : List (Link α)) :
    2 * (comparisons ((links.flatMap (Link.tokens text)).map Prod.fst)).length =
      (links.flatMap (Link.tokens text)).length + links.countP (Link.clashes text) := by
  induction links with
  | nil => rfl
  | cons l links ih =>
    have hl := comparisons_link text l
    rw [List.flatMap_cons, List.map_append, comparisons_append, List.length_append, List.length_append,
      List.countP_cons]
    omega

/-- A disjunction by itself, as a formula without bare operands. -/
def Disjunction.formula (d : Disjunction α) : Formula α := ⟨none, d, none⟩

theorem Disjunction.render_formula (d : Disjunction α) : d.formula.render text = d.render text :=
  List.append_nil _

theorem Disjunction.holds_formula (d : Disjunction α) : d.formula.holds text = d.holds text :=
  Bool.or_false _

theorem Disjunction.tokens_formula (d : Disjunction α) :
    d.formula.tokens text = ⟨text d.first.left,
      (d.first.comparator.operator, d.first.right.text) :: d.links.flatMap (Link.tokens text)⟩ :=
  congrArg (fun rest => (⟨_, _ :: rest⟩ : Tokens)) (List.append_nil _)

/-- **A clash leaves a comparison without an operand.** -/
theorem truth?_of_clash {d : Disjunction α} {l : Link α} (hl : l ∈ d.links) (hc : l.clashes text = true) :
    ∃ o, (d.formula.tokens text).truth? = .error o := by
  apply exists_truth?_eq_error_iff.mpr
  have hlinks := comparisons_links text d.links
  have hclash : 0 < d.links.countP (Link.clashes text) := List.countP_pos_iff.mpr ⟨l, hl, hc⟩
  have hcount := length_comparisons_add_combinators (d.formula.tokens text).operators
  have hoperators : (d.formula.tokens text).operators =
      d.first.comparator.operator :: (d.links.flatMap (Link.tokens text)).map Prod.fst := by
    rw [d.tokens_formula]
    rfl
  rw [hoperators, comparisons_cons_of_comparison (isCombinator_operator _), List.length_cons, List.length_cons,
    List.length_map] at hcount
  rw [hoperators, comparisons_cons_of_comparison (isCombinator_operator _), List.length_cons]
  omega

/-- The evaluation of a disjunction over any operands, empty ones included. -/
theorem evaluateText_disjunction {d : Disjunction α}
    (hd : ∀ c ∈ d.comparisons, ∀ x ∈ text c.left, isOperatorChar x = false) :
    ((∀ l ∈ d.links, l.clashes text = false) → evaluateText (d.render text) = .ok (d.holds text)) ∧
      ((∃ l ∈ d.links, l.clashes text = true) →
        ∃ o, evaluateText (d.render text) =
          .error (.missingOperand o (String.ofList (d.render text)))) := by
  rw [← d.render_formula, ← d.holds_formula]
  constructor
  · intro hc
    exact Formula.evaluateText_formula hd hc
  · rintro ⟨l, hl, hc⟩
    obtain ⟨o, ho⟩ := truth?_of_clash hl hc
    refine ⟨o, ?_⟩
    rw [evaluateText, (endsInWord_formula d.formula).getLast?, Formula.tokenize_render hd]
    simp only [Bool.false_eq_true, ↓reduceIte, if_neg (Formula.tokens_rest_ne_nil _), ho]

end Clashes

/-! ## Disjunctions over attribute names -/

/-- The text that stands for an attribute name; nothing for a name without a value. -/
def valueText (row : Row) (name : String) : List Char := (row.get? name).elim [] Value.text

/-- The names of a row stand for themselves in a disjunction: they are identifiers, do not occur in each other,
    in right operands or in values, and no value holds operator characters. Values may be empty. -/
structure Separate (row : Row) (d : Disjunction String) : Prop where
  lefts : ∀ c ∈ d.comparisons, c.left ∈ row.keys
  identifiers : ∀ n ∈ row.keys, ∀ c ∈ n.toList, isIdentifierChar c = true
  names : ∀ n ∈ row.keys, ∀ m ∈ row.keys, n ≠ m → ¬ n.toList <:+: m.toList
  rights : ∀ n ∈ row.keys, ∀ c ∈ d.comparisons, ¬ n.toList <:+: c.right.text
  values : ∀ n ∈ row.keys, ∀ v ∈ row.values, ¬ n.toList <:+: v.text
  plain : ∀ v ∈ row.values, ∀ c ∈ v.text, isOperatorChar c = false

namespace Separate

variable {mode : Mode} {row : Row} {d : Disjunction String}

theorem ne_empty (h : Separate row d) {n : String} (hn : n ∈ row.keys) : n ≠ "" := by
  rintro rfl
  exact h.rights "" hn d.first d.first_mem_comparisons List.nil_infix

theorem isOperatorChar_valueText (h : Separate row d) (n : String) :
    ∀ c ∈ valueText row n, isOperatorChar c = false := by
  unfold valueText
  cases hv : row.get? n with
  | none => exact fun c hc => absurd hc List.not_mem_nil
  | some v => exact h.plain v (Keyed.mem_values_of_get? hv)

/-- Every left operand becomes the text of its value. -/
theorem substitute_render (h : Separate row d) :
    substitute mode row (d.render String.toList) = d.render (valueText row) := by
  rw [substitute_disjunction h.identifiers h.rights]
  refine d.render_congr fun c hc => ?_
  have hkey : c.left ∈ row.keys := h.lefts c hc
  obtain ⟨v, hv⟩ := Option.isSome_iff_exists.mp (Keyed.mem_keys_iff.mp hkey)
  have hmem := Keyed.mem_values_of_get? hv
  rw [valueText, hv]
  exact substitute_name hv (h.ne_empty hkey) (fun n hn hne => h.names n hn c.left hkey hne)
    (fun n hn _ => h.values n hn v hmem)

end Separate

/-- **Empty values.** A disjunction over the names of a row is true when it holds of the values, except that it
    has no truth value at all when an empty value lets `&&` and `==`, or `||` and `!=`, touch. -/
theorem evaluate_attributes (mode : Mode) (row : Row) (d : Disjunction String) (condition : String)
    (h : Separate row d) (hspaced : Spaced (d.render String.toList) condition.toList) :
    ((∀ l ∈ d.links, l.clashes (valueText row) = false) →
        evaluate mode row condition = .ok (d.holds (valueText row))) ∧
      ((∃ l ∈ d.links, l.clashes (valueText row) = true) →
        ∃ o, evaluate mode row condition =
          .error (.missingOperand o (String.ofList (d.render (valueText row))))) := by
  have hspacing : ∀ c ∈ d.render String.toList, isSpacing c = false :=
    isSpacing_disjunction fun c hc x hx =>
      isSpacing_of_isIdentifierChar (h.identifiers c.left (h.lefts c hc) x hx)
  rw [evaluate_of_spaced hspaced hspacing (endsInWord_disjunction d).ne_nil, h.substitute_render]
  exact evaluateText_disjunction fun c _ => h.isOperatorChar_valueText c.left

/-- `id==1||name`, and a comparison of the name with `abc`. -/
private def idOrName (o : Comparator) : Disjunction String :=
  ⟨⟨⟨"id", .eq, .ofString "1" (by decide)⟩, []⟩, [⟨⟨"name", o, .ofString "abc" (by decide)⟩, []⟩]⟩

private theorem separate_idOrName {o : Comparator} (ho : o = .lt ∨ o = .ne) :
    Separate (Keyed.ofList [("id", .integer 1), ("name", .null)]) (idOrName o) where
  lefts := by rcases ho with rfl | rfl <;> decide
  identifiers n hn := by
    have h : ∀ n ∈ ["id", "name"], n.toList.all isIdentifierChar = true := by decide
    exact List.all_eq_true.mp (h n hn)
  names := by
    simp only [← occursIn_iff]
    decide
  rights := by
    simp only [← occursIn_iff]
    rcases ho with rfl | rfl <;> decide
  values := by
    simp only [← occursIn_iff]
    decide +kernel
  plain v hv := by
    have h : ∀ v ∈ [Value.integer 1, Value.null], v.text.all (fun c => !isOperatorChar c) = true := by
      decide +kernel
    exact forall_mem_of_all (h v hv)

/-- With an empty name, `<` is compared behind `||` and `!=` is not. -/
theorem evaluate_attributes_empty_name :
    evaluate .literal (Keyed.ofList [("id", .integer 1), ("name", .null)]) "id==1 || name<abc" =
        .ok true ∧
      ∃ o, evaluate .literal (Keyed.ofList [("id", .integer 1), ("name", .null)])
        "id==1 || name!=abc" = .error (.missingOperand o "1==1||!=abc") := by
  constructor
  · have h := (evaluate_attributes .literal _ (idOrName .lt) "id==1 || name<abc"
      (separate_idOrName (.inl rfl)) (spaced_of_stripSpaces (by decide +kernel))).1 (by decide +kernel)
    rw [h]
    exact congrArg Except.ok (by decide +kernel)
  · exact (evaluate_attributes .literal _ (idOrName .ne) "id==1 || name!=abc"
      (separate_idOrName (.inr rfl)) (spaced_of_stripSpaces (by decide +kernel))).2
      ⟨_, List.mem_cons_self, by decide +kernel⟩

end Entitlement.Condition
