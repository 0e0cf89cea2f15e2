import Entitlement.Proofs.Condition.Scanning
import Mathlib.Data.List.Infix
import Mathlib.Data.List.Range

/-!
# `Entitlement.Proofs.Condition.Positions` — what the scanner emits, position by position

The scanner carries a flag from one character to the next. The flag is never stale: it says whether the window
at the position before is a symbol, so what the scanner does at a position can be read off three neighbouring
characters (`place?`, `scan_step`). The operators of a text therefore stand at positions that are known without
a scan, and the operands are what lies between them (`scan_eq_cut`).

* **Cutting.** `cut` takes a text apart at given places. Where the symbols are what stands there and none of them
  overlap, writing the parts one after the other gives the text back (`render_cut`); no position is ever outside
  both the places and the gaps between them (`exists_place_or_gap`).
* **Places.** `places` lists the operators of a text with their positions. `SymbolAt` says which they are, except
  that a text that ends in an operator character ends in an operator of that one character (`mem_places`).
-/

namespace Entitlement.Condition

open Tokens

/-! ## Cutting -/

/-- An operator where it stands in a text. -/
structure Place where
  start : Nat
  symbol : List Char
  deriving DecidableEq

namespace Place

/-- The position behind the operator. -/
def stop (p : Place) : Nat := p.start + p.symbol.length

/-- The operator itself. -/
def operator (p : Place) : Operator := .ofSymbol p.symbol

/-- The symbol is what the text has at that position. -/
def In (s : List Char) (p : Place) : Prop := s.drop p.start = p.symbol ++ s.drop p.stop

end Place

/-- The stretches between places, from a position to the end of a text of length `n`. A stretch whose end is not
    behind its beginning is empty. -/
def gaps (n : Nat) : Nat → List Place → List (Nat × Nat)
  | start, [] => [(start, n)]
  | start, p :: ps => (start, p.start) :: gaps n p.stop ps

/-- The tokens of a text when operators stand at the given places, from a position on. -/
def cut (s : List Char) : Nat → List Place → Tokens
  | start, [] => ⟨s.drop start, []⟩
  | start, p :: ps =>
    ⟨s.extract start p.start, (p.operator, (cut s p.stop ps).first) :: (cut s p.stop ps).rest⟩

section Cutting

variable {s : List Char} {start : Nat} {ps : List Place}

theorem operators_cut : (cut s start ps).operators = ps.map Place.operator := by
  induction ps generalizing start with
  | nil => rfl
  | cons p ps ih => exact congrArg (p.operator :: ·) ih

/-- The operands are what lies in the gaps. -/
theorem operands_cut : (cut s start ps).operands = (gaps s.length start ps).map fun g => s.extract g.1 g.2 := by
  induction ps generalizing start with
  | nil =>
    show [s.drop start] = [s.extract start s.length]
    rw [List.extract, ← List.length_drop, List.take_length]
  | cons p ps ih => exact congrArg (s.extract start p.start :: ·) ih

/-- **No position is lost.** -/
theorem exists_place_or_gap {n i : Nat} (hstart : start ≤ i) (hi : i < n) :
    (∃ p ∈ ps, p.start ≤ i ∧ i < p.stop) ∨ ∃ g ∈ gaps n start ps, g.1 ≤ i ∧ i < g.2 := by
  induction ps generalizing start with
  | nil => exact .inr ⟨(start, n), List.mem_cons_self, hstart, hi⟩
  | cons p ps ih =>
    by_cases hfront : i < p.start
    · exact .inr ⟨(start, p.start), List.mem_cons_self, hstart, hfront⟩
    by_cases hinside : i < p.stop
    · exact .inl ⟨p, List.mem_cons_self, Nat.le_of_not_lt hfront, hinside⟩
    rcases ih (Nat.le_of_not_lt hinside) with ⟨q, hq, h⟩ | ⟨g, hg, h⟩
    · exact .inl ⟨q, List.mem_cons_of_mem p hq, h⟩
    · exact .inr ⟨g, List.mem_cons_of_mem _ hg, h⟩

/-- **Nothing changes when nothing overlaps.** -/
theorem render_cut (hin : ∀ p ∈ ps, p.In s) (hstart : ∀ p ∈ ps, start ≤ p.start)
    (hapart : ps.Pairwise fun p q => p.stop ≤ q.start) : (cut s start ps).render = s.drop start := by
  induction ps generalizing start with
  | nil => simp [cut, render]
  | cons p ps ih =>
    obtain ⟨hfront, hapart⟩ := List.pairwise_cons.mp hapart
    have hrest : (cut s p.stop ps).render = s.drop p.stop :=
      ih (fun q hq => hin q (List.mem_cons_of_mem p hq)) hfront hapart
    have hle : start ≤ p.start := hstart p List.mem_cons_self
    have hsplit : s.drop start = s.extract start p.start ++ s.drop p.start := by
      have hdrop : s.drop p.start = (s.drop start).drop (p.start - start) := by
        rw [List.drop_drop, Nat.add_sub_cancel' hle]
      rw [hdrop]
      exact (List.take_append_drop _ _).symm
    rw [hsplit, hin p List.mem_cons_self, ← hrest]
    simp [cut, render, Place.operator]

/-- A character in front of all places belongs to the first operand. -/
theorem cut_of_drop {c : Char} {rest : List Char} (hdrop : s.drop start = c :: rest)
    (hps : ∀ p ∈ ps, start + 1 ≤ p.start) : cut s start ps = (cut s (start + 1) ps).pushChar c := by
  have hrest : s.drop (start + 1) = rest := by
    rw [← List.drop_drop, hdrop]
    rfl
  cases ps with
  | nil => simp [cut, pushChar, hdrop, hrest]
  | cons p ps =>
    have hle : start + 1 ≤ p.start := hps p List.mem_cons_self
    have hsub : p.start - start = p.start - (start + 1) + 1 := by omega
    simp [cut, pushChar, List.extract, hdrop, hrest, hsub]

end Cutting

/-! ## One position -/

/-- Whether the window at a position is a symbol. -/
def windowAt (s : List Char) (i : Nat) : Bool := isSymbolWindow (window (s.drop i))

/-- Whether the window at the position before is a symbol. -/
def closesAt (s : List Char) : Nat → Bool
  | 0 => false
  | i + 1 => windowAt s i

/-- The operator at a position, if there is one. -/
def place? (s : List Char) (i : Nat) : Option Place :=
  if windowAt s i then some ⟨i, window (s.drop i)⟩
  else if closesAt s i then none
  else (s[i]?.filter isSingle).map fun c => ⟨i, [c]⟩

/-- Where the text begins that belongs to no window before a position. -/
def unclaimed (s : List Char) (i : Nat) : Nat := if closesAt s i then i + 1 else i

section OnePosition

variable {s : List Char} {i : Nat} {p : Place}

theorem place?_eq_some_iff :
    place? s i = some p ↔ p.start = i ∧
      (windowAt s i = true ∧ p.symbol = window (s.drop i) ∨
        windowAt s i = false ∧ closesAt s i = false ∧
          ∃ c, s[i]? = some c ∧ isSingle c = true ∧ p.symbol = [c]) := by
  obtain ⟨start, symbol⟩ := p
  unfold place?
  cases windowAt s i with
  | true =>
    constructor
    · intro h
      obtain ⟨rfl, rfl⟩ := Place.mk.inj (Option.some.inj h)
      exact ⟨rfl, .inl ⟨rfl, rfl⟩⟩
    · rintro ⟨rfl, ⟨-, hsymbol⟩ | ⟨hw, -⟩⟩
      · rw [if_pos rfl, ← hsymbol]
      · cases hw
  | false =>
    cases closesAt s i with
    | true => simp
    | false =>
      simp only [Bool.false_eq_true, ↓reduceIte, Option.map_eq_some_iff, Option.filter_eq_some_iff]
      constructor
      · rintro ⟨c, ⟨hget, hs⟩, h⟩
        obtain ⟨rfl, rfl⟩ := Place.mk.inj h
        exact ⟨rfl, .inr ⟨trivial, trivial, c, hget, hs, rfl⟩⟩
      · rintro ⟨rfl, ⟨hw, -⟩ | ⟨-, -, c, hget, hs, rfl⟩⟩
        · exact absurd hw id
        · exact ⟨c, ⟨hget, hs⟩, rfl⟩

theorem start_of_place? (h : place? s i = some p) : p.start = i := (place?_eq_some_iff.mp h).1

theorem windowAt_of_place?_none (h : place? s i = none) : windowAt s i = false := by
  rw [Bool.eq_false_iff]
  intro hw
  rw [place?, if_pos hw] at h
  cases h

/-- The operator at a position is written there. -/
theorem in_of_place? (h : place? s i = some p) : p.In s := by
  obtain ⟨hstart, hsymbol⟩ := place?_eq_some_iff.mp h
  rw [Place.In, Place.stop, hstart]
  rcases hsymbol with ⟨-, hsymbol⟩ | ⟨-, -, c, hget, -, hsymbol⟩
  · rw [hsymbol, window, ← List.drop_drop, List.length_take]
    by_cases hlen : 2 ≤ (s.drop i).length
    · rw [Nat.min_eq_left hlen, List.take_append_drop]
    · have hle : (s.drop i).length ≤ 2 := by omega
      rw [Nat.min_eq_right hle, List.drop_length, List.append_nil, List.take_of_length_le hle]
  · obtain ⟨hi, hget⟩ := List.getElem?_eq_some_iff.mp hget
    rw [hsymbol, List.drop_eq_getElem_cons hi, hget]
    rfl

theorem lt_stop_of_place? (h : place? s i = some p) (hi : i < s.length) : i < p.stop := by
  obtain ⟨hstart, hsymbol⟩ := place?_eq_some_iff.mp h
  have hpos : 0 < p.symbol.length := by
    rcases hsymbol with ⟨-, hsymbol⟩ | ⟨-, -, c, -, -, hsymbol⟩
    · rw [hsymbol, window, List.length_take, List.length_drop]
      omega
    · rw [hsymbol]
      exact Nat.one_pos
  rw [Place.stop, hstart]
  omega

/-- Behind an operator, the text that belongs to no window begins where the operator ends. -/
theorem stop_of_place? (h : place? s i = some p) (hi : i + 1 < s.length) : p.stop = unclaimed s (i + 1) := by
  obtain ⟨hstart, hsymbol⟩ := place?_eq_some_iff.mp h
  rw [Place.stop, hstart, unclaimed, closesAt]
  rcases hsymbol with ⟨hw, hsymbol⟩ | ⟨hw, -, c, -, -, hsymbol⟩
  · have hlen : (window (s.drop i)).length = 2 := by
      rw [window, List.length_take, List.length_drop]
      omega
    rw [hsymbol, hlen, hw]
    rfl
  · rw [hsymbol, hw]
    rfl

/-- So the rest of the text is cut alike from either position. At the end of the text a window is one character
    short, and there the two differ, but nothing is left to be cut. -/
theorem cut_stop_of_place? (h : place? s i = some p) {ps : List Place} (hi : i < s.length)
    (hps : i + 1 = s.length → ps = []) : cut s p.stop ps = cut s (unclaimed s (i + 1)) ps := by
  by_cases hmore : i + 1 < s.length
  · rw [stop_of_place? h hmore]
  · have hstop : s.length ≤ p.stop := by
      have hlt := lt_stop_of_place? h hi
      omega
    have hunclaimed : s.length ≤ unclaimed s (i + 1) := by
      unfold unclaimed
      split <;> omega
    rw [hps (by omega)]
    simp [cut, List.drop_eq_nil_iff.mpr hstop, List.drop_eq_nil_iff.mpr hunclaimed]

/-- **One step.** The scanner emits the operator at its position, passes over the second character of a window,
    or takes the character into the operand. -/
theorem scan_step {c : Char} {rest : List Char} (hdrop : s.drop i = c :: rest) :
    scan (closesAt s i) (c :: rest) =
      (place? s i).elim
        (if closesAt s i then scan (closesAt s (i + 1)) rest else (scan (closesAt s (i + 1)) rest).pushChar c)
        fun p => (scan (closesAt s (i + 1)) rest).pushOperator p.operator := by
  have hget : s[i]? = some c := by
    rw [← List.head?_drop, hdrop]
    rfl
  have hnext : closesAt s (i + 1) = isSymbolWindow (window (c :: rest)) := by
    rw [closesAt, windowAt, hdrop]
  rw [scan, place?, windowAt, hdrop, hnext, hget]
  cases isSymbolWindow (window (c :: rest)) with
  | true => rfl
  | false =>
    cases closesAt s i with
    | true => rfl
    | false => cases hs : isSingle c <;> simp [Option.filter, hs, Place.operator]

end OnePosition

/-! ## All positions -/

/-- The operators at `n` positions from `i` on. -/
def placesFrom (s : List Char) (i n : Nat) : List Place := (List.range' i n).filterMap (place? s)

/-- The operators of a text, each where it stands. -/
def places (s : List Char) : List Place := placesFrom s 0 s.length

example : places "a>==b=c!d".toList = [⟨1, ">=".toList⟩, ⟨2, "==".toList⟩, ⟨7, "!".toList⟩] := by decide

section AllPositions

variable {s : List Char} {i n : Nat} {p : Place}

theorem placesFrom_succ (s : List Char) (i n : Nat) :
    placesFrom s i (n + 1) = (place? s i).toList ++ placesFrom s (i + 1) n := by
  unfold placesFrom
  rw [List.range'_succ, List.filterMap_cons]
  cases place? s i <;> rfl

theorem mem_placesFrom : p ∈ placesFrom s i n ↔ i ≤ p.start ∧ p.start < i + n ∧ place? s p.start = some p := by
  unfold placesFrom
  simp only [List.mem_filterMap, List.mem_range'_1]
  constructor
  · rintro ⟨j, ⟨hij, hjn⟩, hj⟩
    have hstart : p.start = j := start_of_place? hj
    rw [hstart]
    exact ⟨hij, hjn, hj⟩
  · rintro ⟨hi, hn, hp⟩
    exact ⟨p.start, ⟨hi, hn⟩, hp⟩

theorem pairwise_places (s : List Char) : (places s).Pairwise fun p q => p.start < q.start := by
  unfold places placesFrom
  rw [List.pairwise_filterMap]
  refine List.Pairwise.imp ?_ (List.pairwise_lt_range' 1)
  intro i j hij p hp q hq
  rw [start_of_place? hp, start_of_place? hq]
  exact hij

/-- **The scanner cuts a text at its places.** The induction is on the text that is still to be scanned; the flag
    at its first character is the one of that position. -/
theorem scan_eq_cut {rest : List Char} (hdrop : s.drop i = rest) :
    scan (closesAt s i) rest = cut s (unclaimed s i) (placesFrom s i rest.length) := by
  induction rest generalizing i with
  | nil =>
    have hnil : s.drop (unclaimed s i) = [] := by
      have hle : s.length ≤ i := List.drop_eq_nil_iff.mp hdrop
      rw [List.drop_eq_nil_iff, unclaimed]
      split <;> omega
    show (⟨[], []⟩ : Tokens) = ⟨s.drop (unclaimed s i), []⟩
    rw [hnil]
  | cons c rest ih =>
    have hrest : s.drop (i + 1) = rest := by
      rw [← List.drop_drop, hdrop]
      rfl
    have hlen : s.length = i + (rest.length + 1) := by
      have h := congrArg List.length hdrop
      rw [List.length_drop, List.length_cons] at h
      omega
    rw [scan_step hdrop, ih hrest, List.length_cons, placesFrom_succ]
    cases hp : place? s i with
    | some p =>
      have hfront : s.extract (unclaimed s i) p.start = [] := by
        have hle : p.start - unclaimed s i = 0 := by
          rw [start_of_place? hp, unclaimed]
          split <;> omega
        rw [List.extract, hle, List.take_zero]
      have hback : cut s p.stop (placesFrom s (i + 1) rest.length) =
          cut s (unclaimed s (i + 1)) (placesFrom s (i + 1) rest.length) := by
        apply cut_stop_of_place? hp (by omega)
        intro hend
        have hzero : rest.length = 0 := by omega
        rw [hzero]
        rfl
      simp only [Option.elim_some, Option.toList_some, List.singleton_append, cut, hfront, hback]
      rfl
    | none =>
      have hnext : unclaimed s (i + 1) = i + 1 := by
        rw [unclaimed, closesAt, windowAt_of_place?_none hp]
        rfl
      rw [hnext]
      simp only [Option.elim_none, Option.toList_none, List.nil_append]
      cases hc : closesAt s i with
      | true =>
        rw [unclaimed, hc]
        rfl
      | false =>
        have hps : ∀ p ∈ placesFrom s (i + 1) rest.length, i + 1 ≤ p.start := by
          intro p hp
          exact (mem_placesFrom.mp hp).1
        rw [unclaimed, hc]
        exact (cut_of_drop hdrop hps).symm

theorem tokenize_eq_cut (s : List Char) : tokenize s = cut s 0 (places s) :=
  scan_eq_cut (s := s) (i := 0) rfl

end AllPositions

/-! ## Which operators there are -/

/-- The characters at a position and behind it are neighbours in the alphabet. -/
def PairAt (s : List Char) (i : Nat) : Prop :=
  ∃ a b, s[i]? = some a ∧ s[i + 1]? = some b ∧ [a, b] <:+: alphabet

/-- The symbol of the operator at a position: a pair of characters that are neighbours in the alphabet, or one of
    the characters `>`, `<` and `!` where no pair begins at the position or just before it. -/
inductive SymbolAt (s : List Char) (i : Nat) : List Char → Prop where
  | pair {a b : Char} : s[i]? = some a → s[i + 1]? = some b → [a, b] <:+: alphabet → SymbolAt s i [a, b]
  | single {c : Char} : s[i]? = some c → ¬ PairAt s i → (∀ j, j + 1 = i → ¬ PairAt s j) →
      c = '>' ∨ c = '<' ∨ c = '!' → SymbolAt s i [c]

/-- The text ends at a position, in an operator character. -/
def EndsAt (s : List Char) (i : Nat) (c : Char) : Prop :=
  s[i]? = some c ∧ i + 1 = s.length ∧ isOperatorChar c = true

section AnyEnd

variable {s : List Char} {i : Nat}

theorem isSingle_iff {c : Char} : isSingle c = true ↔ c = '>' ∨ c = '<' ∨ c = '!' := by
  simp [isSingle, or_assoc]

theorem lt_of_getElem? {c : Char} (h : s[i]? = some c) : i < s.length := (List.getElem?_eq_some_iff.mp h).1

theorem window_drop {a b : Char} (ha : s[i]? = some a) (hb : s[i + 1]? = some b) :
    window (s.drop i) = [a, b] := by
  obtain ⟨hi, ha⟩ := List.getElem?_eq_some_iff.mp ha
  obtain ⟨hnext, hb⟩ := List.getElem?_eq_some_iff.mp hb
  rw [List.drop_eq_getElem_cons hi, List.drop_eq_getElem_cons hnext, ha, hb]
  rfl

/-- At the end of the text the window is one character short. -/
theorem window_drop_end {c : Char} (hget : s[i]? = some c) (hend : i + 1 = s.length) :
    window (s.drop i) = [c] := by
  obtain ⟨hi, hget⟩ := List.getElem?_eq_some_iff.mp hget
  rw [List.drop_eq_getElem_cons hi, List.drop_eq_nil_iff.mpr (Nat.le_of_eq hend.symm), hget]
  rfl

theorem isSymbolWindow_singleton {c : Char} : isSymbolWindow [c] = true ↔ isOperatorChar c = true := by
  rw [isSymbolWindow, occursIn_iff, List.singleton_infix_iff, isOperatorChar_iff]

/-- A window that is a symbol has two characters, or one at the end of the text. -/
theorem windowAt_iff (hi : i < s.length) : windowAt s i = true ↔ PairAt s i ∨ ∃ c, EndsAt s i c := by
  have hget : s[i]? = some s[i] := List.getElem?_eq_getElem hi
  by_cases hnext : i + 1 < s.length
  · have hgetNext : s[i + 1]? = some s[i + 1] := List.getElem?_eq_getElem hnext
    have hno : ¬ ∃ c, EndsAt s i c := fun ⟨_, hc⟩ => Nat.ne_of_lt hnext hc.2.1
    rw [windowAt, window_drop hget hgetNext, isSymbolWindow, occursIn_iff]
    simp [hno, PairAt, hget, hgetNext]
  · have hend : i + 1 = s.length := by omega
    have hno : ¬ PairAt s i := fun ⟨_, _, _, hb, _⟩ => hnext (lt_of_getElem? hb)
    rw [windowAt, window_drop_end hget hend, isSymbolWindow_singleton]
    simp [hno, EndsAt, hget, hend]

/-- Only a pair closes behind its position. -/
theorem closesAt_iff (hi : i < s.length) : closesAt s i = true ↔ ∃ j, j + 1 = i ∧ PairAt s j := by
  cases i with
  | zero => simp [closesAt]
  | succ j =>
    have hno : ¬ ∃ c, EndsAt s j c := fun ⟨_, hc⟩ => Nat.ne_of_lt hi hc.2.1
    rw [closesAt, windowAt_iff (Nat.lt_of_succ_lt hi)]
    simp [hno]

theorem place?_of_pair {a b : Char} (ha : s[i]? = some a) (hb : s[i + 1]? = some b) (hab : [a, b] <:+: alphabet) :
    place? s i = some ⟨i, [a, b]⟩ := by
  have hw : windowAt s i = true := (windowAt_iff (lt_of_getElem? ha)).mpr (.inl ⟨a, b, ha, hb, hab⟩)
  exact place?_eq_some_iff.mpr ⟨rfl, .inl ⟨hw, (window_drop ha hb).symm⟩⟩

theorem place?_of_end {c : Char} (h : EndsAt s i c) : place? s i = some ⟨i, [c]⟩ := by
  have hw : windowAt s i = true := (windowAt_iff (lt_of_getElem? h.1)).mpr (.inr ⟨c, h⟩)
  exact place?_eq_some_iff.mpr ⟨rfl, .inl ⟨hw, (window_drop_end h.1 h.2.1).symm⟩⟩

theorem place?_of_single {c : Char} (hget : s[i]? = some c) (hpair : ¬ PairAt s i)
    (hclose : ∀ j, j + 1 = i → ¬ PairAt s j) (hs : isSingle c = true) : place? s i = some ⟨i, [c]⟩ := by
  have hi : i < s.length := lt_of_getElem? hget
  by_cases hend : i + 1 = s.length
  · exact place?_of_end ⟨hget, hend, isOperatorChar_of_isSingle hs⟩
  have hw : windowAt s i = false := by
    rw [Bool.eq_false_iff, ne_eq, windowAt_iff hi]
    rintro (h | ⟨d, h⟩)
    · exact hpair h
    · exact hend h.2.1
  have hc : closesAt s i = false := by
    rw [Bool.eq_false_iff, ne_eq, closesAt_iff hi]
    rintro ⟨j, hj, h⟩
    exact hclose j hj h
  exact place?_eq_some_iff.mpr ⟨rfl, .inr ⟨hw, hc, c, hget, hs, rfl⟩⟩

theorem symbolAt_or_endsAt_of_place? {w : List Char} (hi : i < s.length) (h : place? s i = some ⟨i, w⟩) :
    SymbolAt s i w ∨ ∃ c, w = [c] ∧ EndsAt s i c := by
  rcases (place?_eq_some_iff.mp h).2 with ⟨hw, hsymbol⟩ | ⟨hw, hc, c, hget, hs, hsymbol⟩
  · rcases (windowAt_iff hi).mp hw with ⟨a, b, ha, hb, hab⟩ | ⟨c, hend⟩
    · obtain rfl : w = [a, b] := hsymbol.trans (window_drop ha hb)
      exact .inl (.pair ha hb hab)
    · exact .inr ⟨c, hsymbol.trans (window_drop_end hend.1 hend.2.1), hend⟩
  · obtain rfl : w = [c] := hsymbol
    rw [Bool.eq_false_iff, ne_eq, windowAt_iff hi, not_or] at hw
    rw [Bool.eq_false_iff, ne_eq, closesAt_iff hi] at hc
    exact .inl (.single hget hw.1 (fun j hj hpair => hc ⟨j, hj, hpair⟩) (isSingle_iff.mp hs))

/-- **The operator at a position.** The last character of a text is an operator by itself whenever it is an
    operator character, whatever stands in front of it. -/
theorem mem_places {w : List Char} :
    ⟨i, w⟩ ∈ places s ↔ SymbolAt s i w ∨ ∃ c, w = [c] ∧ EndsAt s i c := by
  rw [places, mem_placesFrom, Nat.zero_add]
  constructor
  · rintro ⟨-, hi, h⟩
    exact symbolAt_or_endsAt_of_place? hi h
  · rintro (h | ⟨c, rfl, hend⟩)
    · cases h with
      | pair ha hb hab => exact ⟨Nat.zero_le i, lt_of_getElem? ha, place?_of_pair ha hb hab⟩
      | single hget hpair hclose hs =>
        exact ⟨Nat.zero_le i, lt_of_getElem? hget, place?_of_single hget hpair hclose (isSingle_iff.mpr hs)⟩
    · exact ⟨Nat.zero_le i, lt_of_getElem? hend.1, place?_of_end hend⟩

theorem getLast?_of_endsAt {c : Char} (h : EndsAt s i c) : s.getLast? = some c := by
  have hindex : s.length - 1 = i := by
    have hend := h.2.1
    omega
  rw [List.getLast?_eq_getElem?, hindex]
  exact h.1

/-- The operators of a text that does not end in an operator character. -/
theorem mem_places_iff (hlast : s.getLast?.any isOperatorChar = false) {w : List Char} :
    ⟨i, w⟩ ∈ places s ↔ SymbolAt s i w := by
  have hno : ¬ ∃ c, w = [c] ∧ EndsAt s i c := by
    rintro ⟨c, -, hend⟩
    rw [getLast?_of_endsAt hend, Option.any_some, hend.2.2] at hlast
    cases hlast
  rw [mem_places, or_iff_left hno]

end AnyEnd

/-- **The scanner by position.** In a text that does not end in an operator character the operators stand where
    `SymbolAt` says, each operand is what lies between the end of one operator and the beginning of the next, and
    every position belongs to one of them. When no two operators overlap, the tokens are written as the text. -/
theorem tokenize_by_position (s : List Char) (hlast : s.getLast?.any isOperatorChar = false) :
    ∃ ps : List Place,
      ps.Pairwise (fun p q => p.start < q.start) ∧
      (∀ i w, ⟨i, w⟩ ∈ ps ↔ SymbolAt s i w) ∧
      (tokenize s).operators = ps.map Place.operator ∧
      (tokenize s).operands = (gaps s.length 0 ps).map (fun g => s.extract g.1 g.2) ∧
      (tokenize s).operands.length = ps.length + 1 ∧
      (∀ i < s.length, (∃ p ∈ ps, p.start ≤ i ∧ i < p.stop) ∨
        ∃ g ∈ gaps s.length 0 ps, g.1 ≤ i ∧ i < g.2) ∧
      (ps.Pairwise (fun p q => p.stop ≤ q.start) → (tokenize s).render = s) := by
  have hoperators : (tokenize s).operators = (places s).map Place.operator := by
    rw [tokenize_eq_cut, operators_cut]
  refine ⟨places s, pairwise_places s, fun i w => mem_places_iff hlast, hoperators, ?_, ?_, ?_, ?_⟩
  · rw [tokenize_eq_cut, operands_cut]
  · rw [length_operands, hoperators, List.length_map]
  · intro i hi
    exact exists_place_or_gap (Nat.zero_le i) hi
  · intro hapart
    have hin : ∀ p ∈ places s, p.In s := fun p hp => in_of_place? (mem_placesFrom.mp hp).2.2
    rw [tokenize_eq_cut, render_cut hin (fun p _ => Nat.zero_le p.start) hapart, List.drop_zero]

/-- Three overlapping pairs, one character that stays in its operand, and one that is an operator by itself. -/
theorem tokenize_by_position_overlapping :
    "a&&==b=c!d".toList.getLast?.any isOperatorChar = false ∧
      ∃ ps : List Place, ⟨2, "&=".toList⟩ ∈ ps ∧ ⟨8, "!".toList⟩ ∈ ps ∧
        (tokenize "a&&==b=c!d".toList).operators = ps.map Place.operator ∧
        (gaps 10 0 ps).map (fun g => "a&&==b=c!d".toList.extract g.1 g.2) =
          ["a".toList, [], [], "b=c".toList, "d".toList] := by
  have hlast : "a&&==b=c!d".toList.getLast?.any isOperatorChar = false := by decide
  obtain ⟨ps, -, hmem, hoperators, hoperands, -⟩ := tokenize_by_position "a&&==b=c!d".toList hlast
  have hpair : SymbolAt "a&&==b=c!d".toList 2 "&=".toList := (mem_places_iff hlast).mp (by decide)
  have hsingle : SymbolAt "a&&==b=c!d".toList 8 "!".toList := (mem_places_iff hlast).mp (by decide)
  exact ⟨hlast, ps, (hmem 2 _).mpr hpair, (hmem 8 _).mpr hsingle, hoperators, hoperands.symm.trans (by decide)⟩

end Entitlement.Condition
