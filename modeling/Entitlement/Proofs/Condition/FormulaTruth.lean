import Entitlement.Condition.Evaluation
import Entitlement.Proofs.Condition.Formula
import Entitlement.Proofs.Condition.Reduction
import Entitlement.Proofs.Condition.Scanning

/-!
# `Entitlement.Proofs.Condition.FormulaTruth` — what the evaluation makes of a written formula

The operands of a formula hold no operator characters, but a left operand may be empty. Then the combinator in
front of it and the comparator behind it touch, and at two of the twelve possible seams they read as a third
operator between two more operands (`Link.clashes`).

* **Tokens.** `tokenize_render` gives the tokens of every formula, those of clashes included.
* **Truth.** Without a clash operands and operators stay in step and the reduction is the intended truth value
  (`truth?_tokens`); `evaluateText_formula` puts scanner and reduction together.
-/

namespace Entitlement.Condition

open Tokens

section Written

variable {α : Type} {text : α → List Char}

/-! ## Tokens -/

/-- An operator in front of a word is closed by it. -/
theorem Word.closed (w : Word) {o : Operator} (ho : o.symbol ≠ []) (rest : List Char) :
    o.Closed (w.text ++ rest) := by
  obtain ⟨c, s, hs⟩ := List.exists_cons_of_ne_nil w.ne_nil
  have hc : isOperatorChar c = false := w.isOperatorChar_eq_false c (by rw [hs]; exact List.mem_cons_self)
  rw [hs]
  exact Operator.closed_of_plain ho hc

theorem Comparator.scannable (o : Comparator) : o.operator.Scannable := by
  cases o with
  | ge => exact .pair (a := '>') (b := '=') (by decide)
  | gt => exact .single (c := '>') (by decide)
  | le => exact .pair (a := '<') (b := '=') (by decide)
  | lt => exact .single (c := '<') (by decide)
  | eq => exact .pair (a := '=') (b := '=') (by decide)
  | ne => exact .pair (a := '!') (b := '=') (by decide)

theorem Comparator.symbol_ne_nil (o : Comparator) : o.operator.symbol ≠ [] := by
  cases o <;> decide

theorem Combinator.scannable (k : Combinator) : k.operator.Scannable := by
  cases k with
  | and => exact .pair (a := '&') (b := '&') (by decide)
  | or => exact .pair (a := '|') (b := '|') (by decide)

theorem Combinator.symbol_ne_nil (k : Combinator) : k.operator.symbol ≠ [] := by
  cases k <;> decide

/-- Whether the last character of a combinator and the first one of a comparator are scanned as a symbol. -/
def Combinator.fuses : Combinator → Comparator → Bool
  | .and, .eq => true
  | .or, .ne => true
  | _, _ => false

/-- The symbol that is scanned at the seam of a combinator and a comparator; it stands for no operation. -/
def Combinator.seam : Combinator → Operator
  | .and => .unsupported ['&', '=']
  | .or => .unsupported ['|', '!']

/-- Whether nothing stands between a link's combinator and a comparator that it fuses with. -/
def Link.clashes (text : α → List Char) (l : Link α) : Bool :=
  (text l.2.left).isEmpty && l.1.fuses l.2.comparator

/-- The operators of a link, each with the operand behind it. -/
def Link.tokens (text : α → List Char) (l : Link α) : List (Operator × List Char) :=
  if l.clashes text then
    [(l.1.operator, []), (l.1.seam, []), (l.2.comparator.operator, l.2.right.text)]
  else [(l.1.operator, text l.2.left), (l.2.comparator.operator, l.2.right.text)]

/-- What stands behind an operand: nothing, or an operator that ends the operand. -/
def Ended (rest : List Char) : Prop := (scan false rest).first = []

theorem scan_ended {rest : List Char} (h : Ended rest) : scan false rest = ⟨[], (scan false rest).rest⟩ := by
  rw [← h]

/-- A comparator and the word behind it. -/
theorem scan_comparator {rest : List Char} (h : Ended rest) (o : Comparator) (w : Word) :
    scan false (o.operator.symbol ++ (w.text ++ rest)) =
      ⟨[], (o.operator, w.text) :: (scan false rest).rest⟩ := by
  rw [scan_operator o.scannable (w.closed o.symbol_ne_nil rest),
    scan_inert (inert_of_plain w.isOperatorChar_eq_false), scan_ended h]
  simp [pushOperator, pushOperand]

/-- A comparison whose left operand may be empty. -/
theorem scan_comparison {rest : List Char} (h : Ended rest) {c : Comparison α}
    (hc : ∀ x ∈ text c.left, isOperatorChar x = false) :
    scan false (c.render text ++ rest) =
      ⟨text c.left, (c.comparator.operator, c.right.text) :: (scan false rest).rest⟩ := by
  rw [Comparison.render, List.append_assoc, List.append_assoc, scan_inert (inert_of_plain hc),
    scan_comparator h]
  simp [pushOperand]

/-- A combinator is closed by a comparison, unless it clashes with it. -/
theorem Link.closed {l : Link α} (hl : ∀ x ∈ text l.2.left, isOperatorChar x = false)
    (hc : l.clashes text = false) (rest : List Char) :
    l.1.operator.Closed (l.2.render text ++ rest) := by
  obtain ⟨k, c⟩ := l
  rw [Comparison.render]
  cases ht : text c.left with
  | nil =>
    have hf : k.fuses c.comparator = false := by
      simpa [Link.clashes, ht] using hc
    cases k <;> cases ho : c.comparator <;> rw [ho] at hf <;> first | rfl | cases hf
  | cons x s =>
    have hx : isOperatorChar x = false := hl x (by rw [ht]; exact List.mem_cons_self)
    exact Operator.closed_of_plain k.symbol_ne_nil hx

/-- At a clash the seam is scanned as an operator between two empty operands. -/
theorem scan_clash {rest : List Char} (h : Ended rest) {l : Link α} (hc : l.clashes text = true) :
    scan false (l.render text ++ rest) = ⟨[], l.tokens text ++ (scan false rest).rest⟩ := by
  obtain ⟨k, c⟩ := l
  obtain ⟨hl, hf⟩ := Bool.and_eq_true_iff.mp hc
  have hl : text c.left = [] := List.isEmpty_iff.mp hl
  have hcomp := scan_comparator h c.comparator c.right
  rw [Link.tokens, if_pos hc, Link.render, Comparison.render, hl, List.nil_append, List.append_assoc,
    List.append_assoc]
  -- only one comparator fuses with each combinator; there three symbols overlap
  cases k with
  | and =>
    cases ho : c.comparator <;> rw [ho] at hf hcomp <;> cases hf
    refine (scan_overlap (a := '&') (b := '&') (by decide) (by decide) (by decide)).trans ?_
    exact congrArg (fun t : Tokens => (t.pushOperator (Combinator.seam .and)).pushOperator .and) hcomp
  | or =>
    cases ho : c.comparator <;> rw [ho] at hf hcomp <;> cases hf
    refine (scan_overlap (a := '|') (b := '|') (by decide) (by decide) (by decide)).trans ?_
    exact congrArg (fun t : Tokens => (t.pushOperator (Combinator.seam .or)).pushOperator .or) hcomp

/-- A link. -/
theorem scan_link {rest : List Char} (h : Ended rest) {l : Link α}
    (hl : ∀ x ∈ text l.2.left, isOperatorChar x = false) :
    scan false (l.render text ++ rest) = ⟨[], l.tokens text ++ (scan false rest).rest⟩ := by
  cases hc : l.clashes text with
  | true => exact scan_clash h hc
  | false =>
    rw [Link.tokens, hc, Link.render, List.append_assoc,
      scan_operator l.1.scannable (Link.closed hl hc rest), scan_comparison h hl]
    rfl

/-- **Tokens of links.** -/
theorem scan_links {rest : List Char} (h : Ended rest) {links : List (Link α)}
    (hl : ∀ l ∈ links, ∀ x ∈ text l.2.left, isOperatorChar x = false) :
    scan false (links.flatMap (Link.render text) ++ rest) =
      ⟨[], links.flatMap (Link.tokens text) ++ (scan false rest).rest⟩ := by
  induction links with
  | nil => exact scan_ended h
  | cons l links ih =>
    have ih := ih fun m hm => hl m (List.mem_cons_of_mem _ hm)
    have hrest : Ended (links.flatMap (Link.render text) ++ rest) := by
      rw [Ended, ih]
    rw [List.flatMap_cons, List.append_assoc, scan_link hrest (hl l List.mem_cons_self), ih,
      List.flatMap_cons, List.append_assoc]

/-! ## Truth -/

/-- The tokens of a bare operand behind a formula. -/
def closingTokens : Option Word → List (Operator × List Char)
  | none => []
  | some w => [(.or, w.text)]

/-- The truth value of a bare operand behind a formula, with its combinator. -/
def closingValues : Option Word → List (Combinator × Bool)
  | none => []
  | some w => [(.or, truthy w.text)]

theorem isCombinator_operator (o : Comparator) : o.operator.isCombinator = false := by
  cases o <;> rfl

/-- A comparison takes its two operands and leaves its truth value. -/
theorem walk?_comparator (c : Comparison α) {leading : Bool} (operands : List (List Char))
    (results : List Bool) (combinators : List Combinator) (os : List Operator) :
    walk? leading ⟨text c.left :: c.right.text :: operands, results, combinators⟩
        (c.comparator.operator :: os) =
      walk? false ⟨operands, results ++ [c.holds text], combinators⟩ os := by
  rw [walk?_comparison (isCombinator_operator c.comparator)]
  rfl

/-- The walk over the tokens of links and of a bare operand behind them uses up all operands. Two or more of
    them are left at every `||` but the last, so only the operand at the end is taken for a value. -/
theorem walk?_links {links : List (Link α)} (hl : ∀ l ∈ links, l.clashes text = false)
    (back : Option Word) (results : List Bool) (combinators : List Combinator) :
    walk? false
        ⟨(links.flatMap (Link.tokens text) ++ closingTokens back).map Prod.snd, results, combinators⟩
        ((links.flatMap (Link.tokens text) ++ closingTokens back).map Prod.fst) =
      .ok ⟨[], results ++ (links.map (Link.value text) ++ closingValues back).map Prod.snd,
        combinators ++ (links.map (Link.value text) ++ closingValues back).map Prod.fst⟩ := by
  induction links generalizing results combinators with
  | nil =>
    cases back with
    | none => simp [closingTokens, closingValues, walk?]
    | some w => simp [closingTokens, closingValues, walk?, Walk.meetOr, Walk.takeBare]
  | cons l links ih =>
    have ih := ih fun m hm => hl m (List.mem_cons_of_mem _ hm)
    obtain ⟨k, c⟩ := l
    have htokens : Link.tokens text (k, c) =
        [(k.operator, text c.left), (c.comparator.operator, c.right.text)] := by
      rw [Link.tokens, hl (k, c) List.mem_cons_self]
      rfl
    rw [List.flatMap_cons, htokens]
    simp only [List.cons_append, List.nil_append, List.map_cons]
    rw [walk?_combinator (by simp), walk?_comparator, ih]
    simp [Link.value]

/-- A conjunction read from left to right. -/
theorem joined_conjunction (k : Conjunction α) (vs : List (Combinator × Bool)) :
    joined (k.head.holds text) (k.links.map (Link.value text) ++ vs) = joined (k.holds text) vs := by
  obtain ⟨c, cs⟩ := k
  rw [Conjunction.holds, Conjunction.comparisons, List.all_cons]
  -- the value in front is the conjunction of all that was read before
  generalize c.holds text = v
  induction cs generalizing v with
  | nil => simp [Conjunction.links]
  | cons c' cs ih =>
    rw [List.all_cons, ← Bool.and_assoc, ← ih]
    rfl

theorem joined_closing (v : Bool) (back : Option Word) :
    joined v (closingValues back) = (v || back.any fun w => truthy w.text) := by
  cases back <;> simp [closingValues, joined]

/-- A disjunction and a bare operand behind it, read from left to right. -/
theorem joined_links (d : Disjunction α) (back : Option Word) :
    joined (d.first.holds text) (d.links.map (Link.value text) ++ closingValues back) =
      (d.holds text || back.any fun w => truthy w.text) := by
  obtain ⟨k, ks⟩ := d
  induction ks generalizing k with
  | nil =>
    rw [Disjunction.links, List.flatMap_nil, List.append_nil, Disjunction.first, joined_conjunction,
      joined_closing, Disjunction.holds, Disjunction.conjunctions, List.any_cons, List.any_nil,
      Bool.or_false]
  | cons k' ks ih =>
    have hlinks : (Disjunction.mk k (k' :: ks)).links =
        k.links ++ (.or, k'.head) :: (Disjunction.mk k' ks).links := by
      rw [Disjunction.links, List.flatMap_cons]
      rfl
    have hvalue : Link.value text (.or, k'.head) = (.or, k'.head.holds text) := rfl
    rw [hlinks, List.map_append, List.append_assoc, Disjunction.first, joined_conjunction, List.map_cons,
      List.cons_append, hvalue, joined]
    have ih := ih k'
    rw [Disjunction.first] at ih
    rw [ih, ← Bool.or_assoc]
    rfl

end Written

/-! ## Formulas -/

namespace Formula

variable {α : Type} {text : α → List Char}

/-- What the scanner makes of a formula. -/
def tokens (text : α → List Char) (f : Formula α) : Tokens where
  first := f.front.elim (text f.body.first.left) Word.text
  rest :=
    f.front.elim [(f.body.first.comparator.operator, f.body.first.right.text)]
        (fun _ => Link.tokens text (.or, f.body.first)) ++
      (f.body.links.flatMap (Link.tokens text) ++ closingTokens f.back)

theorem scan_closing_tokens (back : Option Word) :
    scan false (back.elim [] fun w => Operator.or.symbol ++ w.text) = ⟨[], closingTokens back⟩ := by
  cases back with
  | none => rfl
  | some w =>
    have hword := scan_inert_nil (inert_of_plain w.isOperatorChar_eq_false)
    have hclosed := w.closed (o := .or) (by decide) []
    rw [List.append_nil] at hclosed
    have hscan := scan_operator (Combinator.scannable .or) hclosed
    rw [hword] at hscan
    exact hscan

/-- **The tokens of a formula**, clashes included. -/
theorem tokenize_render {f : Formula α} (hf : ∀ c ∈ f.body.comparisons, ∀ x ∈ text c.left,
    isOperatorChar x = false) : tokenize (f.render text) = f.tokens text := by
  obtain ⟨front, d, back⟩ := f
  -- from the end of the formula: an operand is only found when what stands behind it is known to end it
  have hback := scan_closing_tokens back
  have hlinks : scan false (d.links.flatMap (Link.render text) ++
      back.elim [] fun w => Operator.or.symbol ++ w.text) =
      ⟨[], d.links.flatMap (Link.tokens text) ++ closingTokens back⟩ := by
    rw [scan_links (by rw [Ended, hback]) (fun l hl => hf l.2 (d.mem_comparisons_of_link hl)), hback]
  have hended : Ended (d.links.flatMap (Link.render text) ++
      back.elim [] fun w => Operator.or.symbol ++ w.text) := by
    rw [Ended, hlinks]
  have hfirst := hf d.first d.first_mem_comparisons
  rw [tokenize, render, d.render_eq, List.append_assoc]
  cases front with
  | none =>
    rw [Option.elim_none, List.nil_append, scan_comparison hended hfirst, hlinks]
    rfl
  | some w =>
    have hlink := scan_link hended (l := (.or, d.first)) hfirst
    rw [Link.render, List.append_assoc, hlinks] at hlink
    rw [Option.elim_some, List.append_assoc, scan_inert (inert_of_plain w.isOperatorChar_eq_false)]
    refine (congrArg (pushOperand w.text) hlink).trans ?_
    simp [pushOperand, tokens]

/-- The combined walk over links and a bare operand, with the values taken before it. -/
theorem truth_of_walk (v : Bool) (vs : List (Combinator × Bool)) :
    (Except.ok ⟨[], v :: vs.map Prod.snd, vs.map Prod.fst⟩ : Except Operator Walk).map
        (fun w => combine w.combinators w.results) = .ok (joined v vs) := by
  rw [← combine_joined]
  rfl

/-- **The truth value of a formula without clashes.** -/
theorem truth?_tokens {f : Formula α} (hf : ∀ l ∈ f.links, l.clashes text = false) :
    (f.tokens text).truth? = .ok (f.holds text) := by
  obtain ⟨front, d, back⟩ := f
  have hj := @joined_links α text d back
  cases front with
  | none =>
    have hwalk : walk? true ⟨((⟨none, d, back⟩ : Formula α).tokens text).operands, [], []⟩
        ((⟨none, d, back⟩ : Formula α).tokens text).operators =
        .ok ⟨[], d.first.holds text :: (d.links.map (Link.value text) ++ closingValues back).map Prod.snd,
          (d.links.map (Link.value text) ++ closingValues back).map Prod.fst⟩ :=
      (walk?_comparator d.first _ _ _ _).trans (walk?_links hf back _ _)
    rw [Tokens.truth?, hwalk, truth_of_walk, hj]
    rfl
  | some w =>
    have hfirst : Link.tokens text (.or, d.first) =
        [(.or, text d.first.left), (d.first.comparator.operator, d.first.right.text)] := by
      rw [Link.tokens, hf (.or, d.first) List.mem_cons_self]
      rfl
    have hrest : ∀ l ∈ d.links, l.clashes text = false := fun l hl => hf l (List.mem_cons_of_mem _ hl)
    -- the bare operand is the first value, and the two operands behind it stay in the queue
    have hwalk : walk? true ⟨((⟨some w, d, back⟩ : Formula α).tokens text).operands, [], []⟩
        ((⟨some w, d, back⟩ : Formula α).tokens text).operators =
        .ok ⟨[], truthy w.text :: (((.or, d.first.holds text) ::
            (d.links.map (Link.value text) ++ closingValues back)).map Prod.snd),
          ((.or, d.first.holds text) ::
            (d.links.map (Link.value text) ++ closingValues back)).map Prod.fst⟩ := by
      rw [Tokens.operands, Tokens.operators, tokens, Option.elim_some, Option.elim_some, hfirst]
      exact (walk?_comparator d.first _ _ _ _).trans (walk?_links hrest back _ _)
    rw [Tokens.truth?, hwalk, truth_of_walk, joined, hj]
    rfl

theorem tokens_rest_ne_nil (f : Formula α) : (f.tokens text).rest ≠ [] := by
  obtain ⟨front, d, back⟩ := f
  cases front with
  | none => exact List.cons_ne_nil _ _
  | some w =>
    rw [Formula.tokens, Option.elim_some, Link.tokens]
    split <;> exact List.cons_ne_nil _ _

/-- The evaluation of a formula in which nothing is left to be replaced. -/
theorem evaluateText_formula {f : Formula α}
    (hf : ∀ c ∈ f.body.comparisons, ∀ x ∈ text c.left, isOperatorChar x = false)
    (hc : ∀ l ∈ f.links, l.clashes text = false) :
    evaluateText (f.render text) = .ok (f.holds text) := by
  rw [evaluateText, (endsInWord_formula f).getLast?]
  simp only [Bool.false_eq_true, ↓reduceIte]
  rw [Formula.tokenize_render hf, if_neg f.tokens_rest_ne_nil, Formula.truth?_tokens hc]

end Formula

end Entitlement.Condition
