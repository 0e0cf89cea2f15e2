import Entitlement.Proofs.Condition.Positions
import Entitlement.Proofs.Condition.RoundTrip

/-!
# `Entitlement.Proofs.Condition.Roles` — what becomes of each character

Every character of a text goes into an operator or into an operand, and none goes into both
(`mem_place_iff_not_mem_gap`). Inside the text the roles are the expected ones: the second character of a pair is
no operator by itself, a `=`, `&` or `|` outside all pairs stays in an operand, and the operators are the listed
ones.

The last character is the exception, and the only one. The window is one character short there, and every
character of the alphabet occurs in the alphabet; so an operator character at the end of the text is an operator by
itself, also when a pair has just been closed with it or when it would have been swallowed anywhere else.
`tokenize_roles` states each rule as an equivalence with the position that decides it.
-/

namespace Entitlement.Condition

open Tokens

/-! ## Places and gaps are apart -/

section Apart

variable {start n : Nat} {ps : List Place} {p : Place} {g : Nat × Nat}

/-- A stretch begins where the first one does, or behind an operator. -/
theorem start_of_gap (hg : g ∈ gaps n start ps) : g.1 = start ∨ ∃ p ∈ ps, g.1 = p.stop := by
  induction ps generalizing start with
  | nil =>
    rw [gaps, List.mem_singleton] at hg
    exact .inl (congrArg Prod.fst hg)
  | cons p ps ih =>
    rcases List.mem_cons.mp hg with rfl | hg
    · exact .inl rfl
    · rcases ih hg with h | ⟨q, hq, h⟩
      · exact .inr ⟨p, List.mem_cons_self, h⟩
      · exact .inr ⟨q, List.mem_cons_of_mem p hq, h⟩

/-- **Operators and the stretches between them.** When later operators begin and end later, every stretch ends
    in front of an operator or begins behind it. -/
theorem apart_of_gap (hps : ps.Pairwise fun p q => p.start ≤ q.start ∧ p.stop ≤ q.stop) (hp : p ∈ ps)
    (hg : g ∈ gaps n start ps) : g.2 ≤ p.start ∨ p.stop ≤ g.1 := by
  induction ps generalizing start with
  | nil => exact absurd hp List.not_mem_nil
  | cons q ps ih =>
    obtain ⟨hfront, hrest⟩ := List.pairwise_cons.mp hps
    rcases List.mem_cons.mp hg with rfl | hg
    · rcases List.mem_cons.mp hp with rfl | hp
      · exact .inl (Nat.le_refl _)
      · exact .inl (hfront p hp).1
    · rcases List.mem_cons.mp hp with rfl | hp
      · rcases start_of_gap hg with h | ⟨r, hr, h⟩
        · exact .inr (Nat.le_of_eq h.symm)
        · exact .inr (h ▸ (hfront r hr).2)
      · exact ih hrest hp hg

end Apart

/-! ## The operators of a text -/

/-- The operator characters that are no operator by themselves, except at the end of a text. -/
def Swallowed (c : Char) : Prop := c = '=' ∨ c = '&' ∨ c = '|'

/-- The character at a position is one of a pair. -/
def Paired (s : List Char) (i : Nat) : Prop := PairAt s i ∨ ∃ j, j + 1 = i ∧ PairAt s j

theorem isOperatorChar_cases {c : Char} : isOperatorChar c = true ↔ isSingle c = true ∨ Swallowed c := by
  constructor
  · intro hc
    have hall : ∀ x ∈ alphabet, (isSingle x || (x == '=' || (x == '&' || x == '|'))) = true :=
      List.all_eq_true.mp (by decide)
    simpa [Swallowed] using hall c (isOperatorChar_iff.mp hc)
  · rintro (hs | rfl | rfl | rfl)
    · exact isOperatorChar_of_isSingle hs
    all_goals decide

/-- The listed operators are all that the scanner knows. -/
theorem Operator.Scannable.mem_scanned {o : Operator} (h : o.Scannable) : o ∈ scanned := by
  cases h with
  | @pair a b hab =>
    have hall : ∀ x ∈ alphabet, ∀ y ∈ alphabet, isSymbolWindow [x, y] = true → ofSymbol [x, y] ∈ scanned := by
      have hwindows : alphabet.all (fun x => alphabet.all fun y =>
          !isSymbolWindow [x, y] || decide (ofSymbol [x, y] ∈ scanned)) = true := by decide
      intro x hx y hy hxy
      have h := List.all_eq_true.mp (List.all_eq_true.mp hwindows x hx) y hy
      simpa [hxy] using h
    have hin : [a, b] <:+: alphabet := occursIn_iff.mp hab
    exact hall a (hin.subset (by simp)) b (hin.subset (by simp)) hab
  | @single c hs =>
    rcases isSingle_iff.mp hs with rfl | rfl | rfl <;> decide

/-- The swallowed characters are on no list of operators. -/
theorem ofSymbol_swallowed {c : Char} (hc : Swallowed c) :
    Operator.ofSymbol [c] = .unsupported [c] ∧ Operator.unsupported [c] ∉ scanned := by
  rcases hc with rfl | rfl | rfl <;> decide

section Places

variable {s : List Char} {i : Nat}

theorem exists_endsAt {c : Char} (hlast : s.getLast? = some c) (hc : isOperatorChar c = true) :
    ∃ i, EndsAt s i c := by
  have hpos : 0 < s.length := by
    rw [List.length_pos_iff]
    rintro rfl
    cases hlast
  rw [List.getLast?_eq_getElem?] at hlast
  exact ⟨s.length - 1, hlast, Nat.sub_add_cancel hpos, hc⟩

theorem pairAt_of_mem_places {a b : Char} (h : ⟨i, [a, b]⟩ ∈ places s) : PairAt s i := by
  rcases mem_places.mp h with h | ⟨c, hc, -⟩
  · cases h with
    | pair ha hb hab => exact ⟨a, b, ha, hb, hab⟩
  · cases hc

theorem mem_places_of_endsAt {c : Char} (h : EndsAt s i c) : ⟨i, [c]⟩ ∈ places s :=
  mem_places.mpr (.inr ⟨c, rfl, h⟩)

/-- An operator has one character or two. -/
theorem length_symbol {p : Place} (hp : p ∈ places s) : p.symbol.length = 1 ∨ p.symbol.length = 2 := by
  obtain ⟨start, symbol⟩ := p
  rcases mem_places.mp hp with h | ⟨c, rfl, -⟩
  · cases h with
    | pair => exact .inr rfl
    | single => exact .inl rfl
  · exact .inl rfl

/-- Later operators begin and end later. -/
theorem pairwise_stop_places (s : List Char) :
    (places s).Pairwise fun p q => p.start ≤ q.start ∧ p.stop ≤ q.stop := by
  refine (pairwise_places s).imp_of_mem ?_
  intro p q hp hq hpq
  have hlen := length_symbol hp
  have hlen' := length_symbol hq
  unfold Place.stop
  omega

/-- **Operator or operand.** A position belongs to an operator exactly when it lies in no operand. -/
theorem mem_place_iff_not_mem_gap (hi : i < s.length) :
    (∃ p ∈ places s, p.start ≤ i ∧ i < p.stop) ↔ ¬ ∃ g ∈ gaps s.length 0 (places s), g.1 ≤ i ∧ i < g.2 := by
  constructor
  · rintro ⟨p, hp, hfront, hback⟩ ⟨g, hg, hfront', hback'⟩
    have hapart := apart_of_gap (pairwise_stop_places s) hp hg
    omega
  · exact (exists_place_or_gap (Nat.zero_le i) hi).resolve_right

/-- **The second character of a pair** is an operator by itself only at the end of the text, and always there. -/
theorem second_of_pair {a b : Char} (h : ⟨i, [a, b]⟩ ∈ places s) :
    (∃ c, ⟨i + 1, [c]⟩ ∈ places s) ↔ i + 2 = s.length := by
  have hpair := pairAt_of_mem_places h
  constructor
  · rintro ⟨c, hc⟩
    rcases mem_places.mp hc with hc | ⟨d, -, hend⟩
    · cases hc with
      | single _ _ hclose _ => exact absurd hpair (hclose i rfl)
    · exact hend.2.1
  · intro hend
    obtain ⟨d, c, -, hget, hsymbol⟩ := hpair
    have hc : isOperatorChar c = true := isOperatorChar_iff.mpr (hsymbol.subset (by simp))
    exact ⟨c, mem_places_of_endsAt ⟨hget, hend, hc⟩⟩

/-- **A swallowed character** outside all pairs is an operator only at the end of the text, and always there. -/
theorem swallowed_in_place {c : Char} (hget : s[i]? = some c) (hc : Swallowed c) (hpaired : ¬ Paired s i) :
    (∃ p ∈ places s, p.start ≤ i ∧ i < p.stop) ↔ i + 1 = s.length := by
  constructor
  · rintro ⟨⟨start, symbol⟩, hp, hfront, hback⟩
    have hfront : start ≤ i := hfront
    have hback : i < start + symbol.length := hback
    rcases mem_places.mp hp with h | ⟨d, rfl, hend⟩
    · cases h with
      | @pair a b ha hb hab =>
        have hpair : PairAt s start := ⟨a, b, ha, hb, hab⟩
        have hback : i < start + 2 := hback
        obtain rfl | hsecond : start = i ∨ start + 1 = i := by omega
        · exact absurd (.inl hpair) hpaired
        · exact absurd (.inr ⟨start, hsecond, hpair⟩) hpaired
      | @single d hd _ _ hs =>
        have hback : i < start + 1 := hback
        obtain rfl : start = i := by omega
        obtain rfl : d = c := Option.some.inj (hd.symm.trans hget)
        rcases hc with rfl | rfl | rfl <;> exact absurd hs (by decide)
    · have hback : i < start + 1 := hback
      have hend := hend.2.1
      omega
  · intro hend
    refine ⟨⟨i, [c]⟩, mem_places_of_endsAt ⟨hget, hend, isOperatorChar_cases.mpr (.inr hc)⟩, Nat.le_refl i, ?_⟩
    exact Nat.lt_succ_self i

/-- **The operators off the list** are the swallowed characters, each as the last character of the text. -/
theorem operator_not_scanned_iff {o : Operator} :
    (∃ p ∈ places s, p.operator = o) ∧ o ∉ scanned ↔
      ∃ c, s.getLast? = some c ∧ Swallowed c ∧ o = .unsupported [c] := by
  constructor
  · rintro ⟨⟨⟨start, symbol⟩, hp, rfl⟩, ho⟩
    rcases mem_places.mp hp with h | ⟨c, rfl, hend⟩
    · cases h with
      | pair ha hb hab => exact absurd (Operator.Scannable.pair (occursIn_iff.mpr hab)).mem_scanned ho
      | single hget _ _ hs => exact absurd (Operator.Scannable.single (isSingle_iff.mpr hs)).mem_scanned ho
    · rcases isOperatorChar_cases.mp hend.2.2 with hs | hc
      · exact absurd (Operator.Scannable.single hs).mem_scanned ho
      · exact ⟨c, getLast?_of_endsAt hend, hc, (ofSymbol_swallowed hc).1⟩
  · rintro ⟨c, hlast, hc, rfl⟩
    obtain ⟨i, hend⟩ := exists_endsAt hlast (isOperatorChar_cases.mpr (.inr hc))
    obtain ⟨hoperator, ho⟩ := ofSymbol_swallowed hc
    exact ⟨⟨⟨i, [c]⟩, mem_places_of_endsAt hend, hoperator⟩, ho⟩

end Places

/-- **The role of each character.** In any text, also one that ends in an operator character, the operators stand
    where `SymbolAt` says, and one more stands at the end when the last character is an operator character; the
    operands are the stretches between them, and a position lies in an operator or in an operand and never in
    both. The second character of a pair is an operator by itself, and a `=`, `&` or `|` outside all pairs is not
    in an operand, exactly when it is the last character of the text; and the operators off the list are exactly
    a `=`, `&` or `|` at the end. -/
theorem tokenize_roles (s : List Char) :
    ∃ ps : List Place,
      (tokenize s).operators = ps.map Place.operator ∧
      (tokenize s).operands = (gaps s.length 0 ps).map (fun g => s.extract g.1 g.2) ∧
      ps.Pairwise (fun p q => p.start < q.start) ∧
      (∀ i w, ⟨i, w⟩ ∈ ps ↔ SymbolAt s i w ∨ ∃ c, w = [c] ∧ EndsAt s i c) ∧
      (∀ i < s.length, (∃ p ∈ ps, p.start ≤ i ∧ i < p.stop) ↔
        ¬ ∃ g ∈ gaps s.length 0 ps, g.1 ≤ i ∧ i < g.2) ∧
      (∀ i a b, ⟨i, [a, b]⟩ ∈ ps → ((∃ c, ⟨i + 1, [c]⟩ ∈ ps) ↔ i + 2 = s.length)) ∧
      (∀ i c, s[i]? = some c → Swallowed c → ¬ Paired s i →
        ((∃ g ∈ gaps s.length 0 ps, g.1 ≤ i ∧ i < g.2) ↔ i + 1 ≠ s.length)) ∧
      (∀ o, o ∈ (tokenize s).operators ∧ o ∉ scanned ↔
        ∃ c, s.getLast? = some c ∧ Swallowed c ∧ o = .unsupported [c]) := by
  have hoperators : (tokenize s).operators = (places s).map Place.operator := by
    rw [tokenize_eq_cut, operators_cut]
  refine ⟨places s, hoperators, ?_, pairwise_places s, fun i w => mem_places, ?_, ?_, ?_, ?_⟩
  · rw [tokenize_eq_cut, operands_cut]
  · intro i hi
    exact mem_place_iff_not_mem_gap hi
  · intro i a b h
    exact second_of_pair h
  · intro i c hget hc hpaired
    rw [← not_iff_not, ← mem_place_iff_not_mem_gap (lt_of_getElem? hget), swallowed_in_place hget hc hpaired,
      ne_eq, Classical.not_not]
  · intro o
    rw [hoperators, List.mem_map, operator_not_scanned_iff]

/-- The `=` at the end closes a pair and is an operator once more, while the `&` stays in its operand. -/
theorem tokenize_roles_at_end :
    ∃ ps : List Place,
      (tokenize "a&b<=".toList).operators = ps.map Place.operator ∧
      ⟨3, "<=".toList⟩ ∈ ps ∧ (∃ c, ⟨4, [c]⟩ ∈ ps) ∧ (∃ g ∈ gaps 5 0 ps, g.1 ≤ 1 ∧ 1 < g.2) ∧
      .unsupported ['='] ∈ (tokenize "a&b<=".toList).operators ∧ .unsupported ['='] ∉ scanned := by
  obtain ⟨ps, hoperators, -, -, hmem, -, hsecond, hswallowed, hlist⟩ := tokenize_roles "a&b<=".toList
  have hpair : ⟨3, "<=".toList⟩ ∈ ps := (hmem 3 _).mpr (.inl (.pair rfl rfl (occursIn_iff.mp (by decide))))
  have hpaired : ¬ Paired "a&b<=".toList 1 := by
    rintro (⟨a, b, ha, hb, hab⟩ | ⟨j, hj, a, b, ha, hb, hab⟩)
    · cases ha
      cases hb
      exact absurd (occursIn_iff.mpr hab) (by decide)
    · obtain rfl : j = 0 := by omega
      cases ha
      cases hb
      exact absurd (occursIn_iff.mpr hab) (by decide)
  have hlast := (hlist (.unsupported ['='])).mpr ⟨'=', rfl, .inl rfl, rfl⟩
  exact ⟨ps, hoperators, hpair, (hsecond 3 _ _ hpair).mpr rfl,
    (hswallowed 1 '&' rfl (.inr (.inl rfl)) hpaired).mpr (by decide), hlast⟩

end Entitlement.Condition
