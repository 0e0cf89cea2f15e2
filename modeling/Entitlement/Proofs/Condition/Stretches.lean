import Entitlement.Proofs.Condition.AttributeNames
import Entitlement.Proofs.Condition.Outcome
import Entitlement.Proofs.Condition.Scanning

/-!
# `Entitlement.Proofs.Condition.Stretches` — substitution between the operators

Operator characters cut a text into stretches. When neither the names of a row nor the texts of its values hold
operator characters, and none of them is empty, every pass of a substitution works on each stretch by itself:
it moves no operator character, makes none, and never empties a stretch (`Stretchwise`). The scanner looks at
nothing else to find the operators, so substituting and scanning can change places (`tokenize_substitute`), and
whether a condition has a truth value is decided before its names are replaced.

The argument about the scanner is made once, for any map of texts that works stretch by stretch; passes are
such maps, and so is one behind the other.
-/

namespace Entitlement.Condition

open Attribute (Row Value)
open Text (isIdentifierChar)
open Tokens

/-! ## Maps of stretches -/

/-- A map of texts that keeps the operator characters and maps what stands between them, neither with an
    operator character in it nor to nothing. -/
structure Stretchwise (g : List Char → List Char) : Prop where
  cut : ∀ {s c rest}, isOperatorChar c = true → g (s ++ c :: rest) = g s ++ c :: g rest
  plain : ∀ {s}, (∀ c ∈ s, isOperatorChar c = false) → ∀ c ∈ g s, isOperatorChar c = false
  eq_nil_iff : ∀ {s}, (∀ c ∈ s, isOperatorChar c = false) → (g s = [] ↔ s = [])

namespace Stretchwise

variable {f g : List Char → List Char}

theorem id : Stretchwise fun s => s where
  cut _ := rfl
  plain h := h
  eq_nil_iff _ := Iff.rfl

theorem comp (hf : Stretchwise f) (hg : Stretchwise g) : Stretchwise fun s => f (g s) where
  cut hc := by rw [hg.cut hc, hf.cut hc]
  plain h := hf.plain (hg.plain h)
  eq_nil_iff h := (hf.eq_nil_iff (hg.plain h)).trans (hg.eq_nil_iff h)

theorem nil (hg : Stretchwise g) : g [] = [] :=
  (hg.eq_nil_iff fun _ hc => absurd hc List.not_mem_nil).mpr rfl

theorem cons (hg : Stretchwise g) {c : Char} (hc : isOperatorChar c = true) (s : List Char) :
    g (c :: s) = c :: g s := by
  have h : g ([] ++ c :: s) = g [] ++ c :: g s := hg.cut hc
  rw [hg.nil] at h
  exact h

theorem ne_nil (hg : Stretchwise g) {s : List Char} (h : s ≠ []) : g s ≠ [] := by
  induction s using cut_induction (p := isOperatorChar) with
  | stretch s hs => exact fun hnil => h ((hg.eq_nil_iff hs).mp hnil)
  | cut s c rest hs hc ih =>
    rw [hg.cut hc]
    simp

/-- A text that begins with no operator character is mapped to one that begins with none. -/
theorem exists_cons (hg : Stretchwise g) {x : Char} (hx : isOperatorChar x = false) (s : List Char) :
    ∃ y t, g (x :: s) = y :: t ∧ isOperatorChar y = false := by
  have hstretch {front : List Char} (hne : front ≠ []) (hplain : ∀ c ∈ front, isOperatorChar c = false) :
      ∃ y t, g front = y :: t ∧ isOperatorChar y = false := by
    obtain ⟨y, t, hy⟩ := List.exists_cons_of_ne_nil (hg.ne_nil hne)
    exact ⟨y, t, hy, hg.plain hplain y (by rw [hy]; exact List.mem_cons_self)⟩
  generalize hs : x :: s = xs
  induction xs using cut_induction (p := isOperatorChar) with
  | stretch front hfront =>
    apply hstretch _ hfront
    rw [← hs]
    simp
  | cut front c rest hfront hc _ =>
    have hne : front ≠ [] := by
      rintro rfl
      obtain ⟨rfl, -⟩ := List.cons.inj hs
      simp [hx] at hc
    obtain ⟨y, t, ht, hy⟩ := hstretch hne hfront
    exact ⟨y, t ++ c :: g rest, by rw [hg.cut hc, ht]; rfl, hy⟩

/-- The last character is an operator character before and after, or neither. -/
theorem getLast? (hg : Stretchwise g) (s : List Char) :
    (g s).getLast?.any isOperatorChar = s.getLast?.any isOperatorChar := by
  have hplain {s : List Char} (h : ∀ c ∈ s, isOperatorChar c = false) :
      s.getLast?.any isOperatorChar = false := by
    rw [Option.any_eq_false]
    intro c hc
    simp [h c (List.mem_of_getLast? hc)]
  induction s using cut_induction (p := isOperatorChar) with
  | stretch s hs => rw [hplain hs, hplain (hg.plain hs)]
  | cut s c rest hs hc ih =>
    rw [hg.cut hc]
    by_cases hrest : rest = []
    · simp [hrest, hg.nil, hc]
    · rw [List.append_cons, List.getLast?_append_of_ne_nil _ (hg.ne_nil hrest), List.append_cons,
        List.getLast?_append_of_ne_nil _ hrest, ih]

end Stretchwise

/-! ## The scanner -/

/-- Tokens with each operand mapped on its own. -/
def Tokens.mapOperands (g : List Char → List Char) (t : Tokens) : Tokens :=
  ⟨g t.first, t.rest.map fun e => (e.1, g e.2)⟩

section Mapped

variable {g : List Char → List Char}

@[simp] theorem operators_mapOperands (t : Tokens) : (t.mapOperands g).operators = t.operators := by
  simp [mapOperands, operators]

@[simp] theorem operands_mapOperands (t : Tokens) : (t.mapOperands g).operands = t.operands.map g := by
  simp [mapOperands, operands]

theorem mapOperands_pushOperator (hg : Stretchwise g) (o : Operator) (t : Tokens) :
    (t.pushOperator o).mapOperands g = (t.mapOperands g).pushOperator o := by
  simp [mapOperands, pushOperator, hg.nil]

theorem mapOperands_pushChar (hg : Stretchwise g) {c : Char} (hc : isOperatorChar c = true) (t : Tokens) :
    (t.pushChar c).mapOperands g = (t.mapOperands g).pushChar c := by
  simp [mapOperands, pushChar, hg.cons hc]

/-- The text is empty or begins with an operator character. -/
def Headed (s : List Char) : Prop := ∀ c ∈ s.head?, isOperatorChar c = true

/-- Behind an operator character, the window of the scanner is the same before and after. Either both windows
    are the same and the text goes on with an operator character or ends, or neither window is a symbol. -/
theorem window_stretchwise (hg : Stretchwise g) (c : Char) (s : List Char) :
    (window (c :: g s) = window (c :: s) ∧ Headed s) ∨
      (isSymbolWindow (window (c :: g s)) = false ∧ isSymbolWindow (window (c :: s)) = false) := by
  cases s with
  | nil =>
    left
    simp [hg.nil, Headed]
  | cons x s =>
    cases hx : isOperatorChar x with
    | true =>
      left
      simp [hg.cons hx, Headed, hx, window]
    | false =>
      right
      obtain ⟨y, t, ht, hy⟩ := hg.exists_cons hx s
      rw [ht]
      exact ⟨not_symbol_of_mem (c := y) (by simp [window]) hy,
        not_symbol_of_mem (c := x) (by simp [window]) hx⟩

/-- One step of the scanner at an operator character. -/
theorem scan_cons_stretchwise (hg : Stretchwise g) {c : Char} (hc : isOperatorChar c = true) {s : List Char}
    (hfalse : scan false (g s) = (scan false s).mapOperands g)
    (htrue : Headed s → scan true (g s) = (scan true s).mapOperands g) (closing : Bool) :
    scan closing (c :: g s) = (scan closing (c :: s)).mapOperands g := by
  -- where no symbol begins, the step does not look behind the character
  have hstep (hw : isSymbolWindow (window (c :: g s)) = false) (hw' : isSymbolWindow (window (c :: s)) = false) :
      scan closing (c :: g s) = (scan closing (c :: s)).mapOperands g := by
    rw [scan, scan, hw, hw']
    simp only [Bool.false_eq_true, ↓reduceIte, hfalse]
    cases closing with
    | true => rfl
    | false =>
      cases isSingle c with
      | true => exact (mapOperands_pushOperator hg _ _).symm
      | false => exact (mapOperands_pushChar hg hc _).symm
  rcases window_stretchwise hg c s with ⟨hw, hs⟩ | ⟨hw, hw'⟩
  · cases hsymbol : isSymbolWindow (window (c :: s)) with
    | false => exact hstep (by rw [hw, hsymbol]) hsymbol
    | true =>
      rw [scan, scan, hw, hsymbol, htrue hs]
      exact (mapOperands_pushOperator hg _ _).symm
  · exact hstep hw hw'

/-- The first operand of a text that begins with an operator character begins with it, or is empty. -/
theorem headed_first_scan {c : Char} (hc : isOperatorChar c = true) (rest : List Char) :
    Headed (scan false (c :: rest)).first := by
  rw [scan]
  simp only [Bool.false_eq_true, ↓reduceIte]
  split
  · simp [Headed, pushOperator]
  · split
    · simp [Headed, pushOperator]
    · simp [Headed, pushChar, hc]

theorem mapOperands_pushOperand (hg : Stretchwise g) {t : Tokens} (ht : Headed t.first) (s : List Char) :
    (t.pushOperand s).mapOperands g = (t.mapOperands g).pushOperand (g s) := by
  have hfirst : g (s ++ t.first) = g s ++ g t.first := by
    cases hf : t.first with
    | nil => simp [hg.nil]
    | cons c f =>
      have hc : isOperatorChar c = true := ht c (by simp [hf])
      rw [hg.cut hc, hg.cons hc]
  simp [mapOperands, pushOperand, hfirst]

/-- **Scanning and mapping change places.** The induction is over the cuts at operator characters; what is
    known of the text behind one has to cover both states of the scanner, since the character may close a
    symbol. -/
theorem scan_stretchwise (hg : Stretchwise g) (s : List Char) :
    scan false (g s) = (scan false s).mapOperands g ∧
      (Headed s → scan true (g s) = (scan true s).mapOperands g) := by
  induction s using cut_induction (p := isOperatorChar) with
  | stretch s hs =>
    constructor
    · rw [scan_inert_nil (inert_of_plain hs), scan_inert_nil (inert_of_plain (hg.plain hs))]
      rfl
    · intro hhead
      cases s with
      | nil => simp [hg.nil, scan, mapOperands]
      | cons x s =>
        have hx := hs x List.mem_cons_self
        simp [Headed, hx] at hhead
  | cut s c rest hs hc ih =>
    have hcons := scan_cons_stretchwise hg hc ih.1 ih.2
    rw [hg.cut hc]
    constructor
    · rw [scan_inert (inert_of_plain hs), scan_inert (inert_of_plain (hg.plain hs)), hcons,
        mapOperands_pushOperand hg (headed_first_scan hc rest)]
    · intro hhead
      cases s with
      | nil =>
        rw [hg.nil]
        exact hcons true
      | cons x s =>
        have hx := hs x List.mem_cons_self
        simp [Headed, hx] at hhead

theorem tokenize_stretchwise (hg : Stretchwise g) (s : List Char) :
    tokenize (g s) = (tokenize s).mapOperands g := (scan_stretchwise hg s).1

end Mapped

/-! ## Causes of failure -/

/-- Why a condition has no truth value, apart from the text that is carried along. -/
inductive Cause where
  | empty
  | danglingOperator
  | missingOperand (operator : Operator)
  | noOperator
  | missingAttributes
  deriving DecidableEq

/-- The cause of a failure. -/
def Failure.cause : Failure → Cause
  | .empty => .empty
  | .danglingOperator _ => .danglingOperator
  | .missingOperand o _ => .missingOperand o
  | .noOperator _ => .noOperator
  | .missingAttributes _ => .missingAttributes

/-- The cause when there is no truth value. -/
def cause? : Except Failure Bool → Option Cause
  | .ok _ => none
  | .error f => some f.cause

/-- Where the walk over tokens stops is seen from their operators alone. -/
theorem truth?_eq_error_of_operators {t t' : Tokens} (h : t.operators = t'.operators) {o : Operator} :
    t.truth? = .error o ↔ t'.truth? = .error o := by
  rw [truth?_eq_error_iff, truth?_eq_error_iff, t.length_operands, t'.length_operands, h]

/-- A map of stretches keeps the cause of a failure. -/
theorem cause?_stretchwise {g : List Char → List Char} (hg : Stretchwise g) (s : List Char) :
    cause? (evaluateText (g s)) = cause? (evaluateText s) := by
  have hlast := hg.getLast? s
  by_cases hd : s.getLast?.any isOperatorChar = true
  · rw [evaluateText_of_dangling hd, evaluateText_of_dangling (hlast.trans hd)]
    rfl
  have hd' : ¬ (g s).getLast?.any isOperatorChar = true := by rwa [hlast]
  have hoperators : (tokenize (g s)).operators = (tokenize s).operators := by
    rw [tokenize_stretchwise hg, operators_mapOperands]
  have hrest : (tokenize (g s)).rest = [] ↔ (tokenize s).rest = [] := by
    rw [rest_eq_nil_iff, rest_eq_nil_iff, hoperators]
  by_cases hnone : (tokenize s).rest = []
  · rw [evaluateText_of_no_operator hd hnone, evaluateText_of_no_operator hd' (hrest.mpr hnone)]
    rfl
  · rw [evaluateText_of_operators hd hnone, evaluateText_of_operators hd' (mt hrest.mp hnone)]
    have hstop {o : Operator} := truth?_eq_error_of_operators hoperators (o := o)
    cases htruth : (tokenize s).truth? with
    | error o =>
      rw [hstop.mpr htruth]
      rfl
    | ok b =>
      cases htruth' : (tokenize (g s)).truth? with
      | ok b' => rfl
      | error o =>
        rw [hstop, htruth] at htruth'
        cases htruth'

/-! ## Substitution -/

section Passes

variable {mode : Mode} {name text : List Char}

/-- What a pass writes comes from the text, the name or the value. -/
theorem mem_replaceFrom {skip : Nat} {before : Option Char} {s : List Char} {c : Char}
    (h : c ∈ replaceFrom mode name text skip before s) : c ∈ s ∨ c ∈ name ∨ c ∈ text := by
  induction s generalizing skip before with
  | nil => simp [replaceFrom] at h
  | cons x rest ih =>
    cases skip with
    | succ k =>
      rcases ih h with h | h
      · exact .inl (List.mem_cons_of_mem x h)
      · exact .inr h
    | zero =>
      have hrest {skip : Nat} (h : c ∈ replaceFrom mode name text skip (some x) rest) :
          c ∈ x :: rest ∨ c ∈ name ∨ c ∈ text := (ih h).imp_left (List.mem_cons_of_mem x)
      rw [replaceFrom_cons] at h
      split at h
      · rcases List.mem_append.mp h with h | h
        · split at h
          · exact .inr (.inr h)
          · exact .inr (.inl h)
        · exact hrest h
      · rcases List.mem_cons.mp h with rfl | h
        · exact .inl List.mem_cons_self
        · exact hrest h

/-- A pass for a name and a value without operator characters, neither of them empty. -/
theorem stretchwise_replace (hname : ∀ c ∈ name, isOperatorChar c = false) (hne : name ≠ [])
    (htext : ∀ c ∈ text, isOperatorChar c = false) (hvalue : text ≠ []) :
    Stretchwise (replace mode name text) where
  cut {s c rest} hc := by
    apply replace_append_cons _ (isIdentifierChar_of_isOperatorChar hc)
    intro hmem
    simp [hname c hmem] at hc
  plain {s} hs c hc := by
    rw [replace, if_neg hne] at hc
    rcases mem_replaceFrom hc with h | h | h
    · exact hs c h
    · exact hname c h
    · exact htext c h
  eq_nil_iff {s} hs := by
    cases s with
    | nil => simp
    | cons x rest =>
      rw [replace, if_neg hne, replaceFrom_cons]
      split
      · split <;> simp [hne, hvalue]
      · simp

end Passes

/-- No name and no value of the row is empty or holds an operator character. -/
structure OperatorFree (row : Row) : Prop where
  names : ∀ n ∈ row.keys, n ≠ "" ∧ ∀ c ∈ n.toList, isOperatorChar c = false
  values : ∀ v ∈ row.values, v.text ≠ [] ∧ ∀ c ∈ v.text, isOperatorChar c = false

theorem operatorFree_iff {row : Row} :
    OperatorFree row ↔
      (∀ n ∈ row.keys, n ≠ "" ∧ n.toList.all (fun c => !isOperatorChar c) = true) ∧
        ∀ v ∈ row.values, v.text ≠ [] ∧ v.text.all (fun c => !isOperatorChar c) = true := by
  simp only [List.all_eq_true, Bool.not_eq_true']
  exact ⟨fun h => ⟨h.names, h.values⟩, fun h => ⟨h.1, h.2⟩⟩

instance (row : Row) : Decidable (OperatorFree row) := decidable_of_iff _ operatorFree_iff.symm

/-- The passes of such a row work stretch by stretch. -/
theorem OperatorFree.stretchwise {row : Row} (h : OperatorFree row) (mode : Mode) :
    Stretchwise (substitute mode row) := by
  have hpaste (es : List (String × Value)) (hes : ∀ e ∈ es, e ∈ row.entries) :
      Stretchwise (pasteEntries mode es) := by
    induction es with
    | nil => exact Stretchwise.id
    | cons e es ih =>
      have he : e ∈ row.entries := hes e List.mem_cons_self
      obtain ⟨hne, hname⟩ := h.names e.1 (List.mem_map_of_mem he)
      obtain ⟨hvalue, htext⟩ := h.values e.2 (List.mem_map_of_mem he)
      have hempty : e.1.toList ≠ [] := fun hnil => hne (String.toList_inj.mp hnil)
      exact (ih fun e' he' => hes e' (List.mem_cons_of_mem e he')).comp
        (stretchwise_replace hname hempty htext hvalue)
  exact hpaste row.entries fun _ he => he

/-- **Substitution and scanning.** With names and values that are not empty and hold no operator characters,
    the tokens of a substituted text are the tokens of the text, each operand substituted on its own. Which
    values the names have, or which names there are, therefore does not matter for whether a condition has a
    truth value, nor for the cause when it has none. -/
theorem tokenize_substitute (mode : Mode) (row : Row) (h : OperatorFree row) (s : List Char) :
    (tokenize (substitute mode row s)).operators = (tokenize s).operators ∧
      (tokenize (substitute mode row s)).operands = (tokenize s).operands.map (substitute mode row) ∧
      ∀ (mode' : Mode) (row' : Row), OperatorFree row' → ∀ condition : String,
        cause? (evaluate mode row condition) = cause? (evaluate mode' row' condition) := by
  have hg := h.stretchwise mode
  rw [tokenize_stretchwise hg, operators_mapOperands, operands_mapOperands]
  refine ⟨rfl, rfl, ?_⟩
  intro mode' row' h' condition
  unfold evaluate
  by_cases hs : stripSpaces condition.toList = []
  · simp [hs]
  · simp [hs, cause?_stretchwise hg, cause?_stretchwise (h'.stretchwise mode')]

/-- One name stands in the other, and the first value holds the first name again. -/
theorem tokenize_substitute_overlapping_names :
    (tokenize (substitute .literal (Keyed.ofList [("id", .string "user id"), ("uid", .integer 5)])
        "uid>=id&&x=id".toList)).operators = [.ge, .and] ∧
      (tokenize (substitute .literal (Keyed.ofList [("id", .string "user id"), ("uid", .integer 5)])
        "uid>=id&&x=id".toList)).operands = ["uuser id".toList, "user id".toList, "x=user id".toList] ∧
      cause? (evaluate .literal (Keyed.ofList [("id", .string "user id"), ("uid", .integer 5)]) "id < 1 < 2") =
        some (.missingOperand .lt) := by
  obtain ⟨hoperators, hoperands, hcause⟩ :=
    tokenize_substitute .literal (Keyed.ofList [("id", .string "user id"), ("uid", .integer 5)])
      (by decide +kernel) "uid>=id&&x=id".toList
  refine ⟨hoperators.trans (by decide), hoperands.trans (by decide +kernel), ?_⟩
  have hother := hcause .wordBoundary (Keyed.ofList [("name", .boolean true)]) (by decide +kernel) "id < 1 < 2"
  exact hother.trans (by decide +kernel)

end Entitlement.Condition
