import Entitlement.Condition.Evaluation
import Entitlement.Proofs.Condition.WholeWords

/-!
# `Entitlement.Proofs.Condition.ModeAgreement` — when the two modes of substitution agree

The modes differ only where a name stands inside a longer run of identifier characters: there literal mode
replaces it and word-boundary mode does not (`replace_literal_eq`). Whether it does can be seen in the condition
and in the values before anything is replaced, because the passes make no runs of their own: every run of what a
pass writes is a run of the text or one of the value (`mem_runs_replace`). This is the invariant that carries the
agreement of one pass through all passes of a row (`evaluate_mode_agreement`).
-/

namespace Entitlement.Condition

open Attribute (Row Value)
open Text (isIdentifierChar)

/-! ## Runs -/

/-- The maximal runs of identifier characters of a text. -/
def runs (s : List Char) : List (List Char) := (pieces s).filter fun piece => piece.all isIdentifierChar

example : runs "uid==1&&id".toList = ["uid".toList, ['1'], "id".toList] := by decide

/-- Identifier characters only are a single run. -/
theorem runs_run {s : List Char} (hne : s ≠ []) (hs : ∀ c ∈ s, isIdentifierChar c = true) : runs s = [s] := by
  have hall : s.all isIdentifierChar = true := List.all_eq_true.mpr hs
  simp [runs, pieces_run hne hs, hall]

/-- A character between the runs belongs to none of them. -/
theorem runs_append_cons {c : Char} (hc : isIdentifierChar c = false) (s rest : List Char) :
    runs (s ++ c :: rest) = runs s ++ runs rest := by
  simp [runs, pieces_append_cons hc, hc]

/-- Where a name occurs inside a run of the text, it is the whole run. -/
def OccursWhole (name s : List Char) : Prop := ∀ r ∈ runs s, name <:+: r → r = name

theorem occursWhole_append_cons {name : List Char} {c : Char} (hc : isIdentifierChar c = false)
    {s rest : List Char} :
    OccursWhole name (s ++ c :: rest) ↔ OccursWhole name s ∧ OccursWhole name rest := by
  unfold OccursWhole
  rw [runs_append_cons hc]
  exact List.forall_mem_append

/-! ## One pass -/

section OnePass

variable {name text : List Char}

/-- **One pass.** The modes agree on a text in whose runs the name only occurs whole. -/
theorem replace_literal_eq (hne : name ≠ []) (hname : ∀ c ∈ name, isIdentifierChar c = true) {s : List Char}
    (h : OccursWhole name s) : replace .literal name text s = replace .wordBoundary name text s := by
  induction s using run_induction with
  | nil => rw [replace_nil, replace_nil]
  | run s hnil hs =>
    have hwhole : name <:+: s → s = name := by
      rw [OccursWhole, runs_run hnil hs] at h
      exact h s List.mem_cons_self
    by_cases hin : name <:+: s
    · rw [hwhole hin, replace_name hne, replace_name hne]
    · rw [replace_of_absent hin, replace_of_absent hin]
  | cut s c rest hc ihs ih =>
    obtain ⟨hfront, hback⟩ := (occursWhole_append_cons hc).mp h
    rw [replace_append_between hname hc, replace_append_between hname hc, ihs hfront, ih hback]

/-- **No new runs.** A value is pasted over a whole run, so it keeps its own runs and joins none. -/
theorem mem_runs_replace (hne : name ≠ []) (hname : ∀ c ∈ name, isIdentifierChar c = true) {s r : List Char}
    (hr : r ∈ runs (replace .wordBoundary name text s)) : r ∈ runs s ∨ r ∈ runs text := by
  induction s using run_induction with
  | nil =>
    rw [replace_nil] at hr
    exact .inl hr
  | run s hnil hs =>
    by_cases heq : s = name
    · rw [heq, replace_name hne] at hr
      exact .inr hr
    · rw [replace_run hne hs heq] at hr
      exact .inl hr
  | cut s c rest hc ihs ih =>
    rw [replace_append_between hname hc, runs_append_cons hc] at hr
    rw [runs_append_cons hc]
    rcases List.mem_append.mp hr with hr | hr
    · exact (ihs hr).imp_left (List.mem_append_left _)
    · exact (ih hr).imp_left (List.mem_append_right _)

end OnePass

/-! ## All passes -/

/-- The names of the row are identifier characters throughout, and in the runs of the text and of the values
    they only occur whole. -/
structure Unambiguous (row : Row) (s : List Char) : Prop where
  names : ∀ n ∈ row.keys, n ≠ "" ∧ ∀ c ∈ n.toList, isIdentifierChar c = true
  text : ∀ n ∈ row.keys, OccursWhole n.toList s
  values : ∀ n ∈ row.keys, ∀ v ∈ row.values, OccursWhole n.toList v.text

/-- The check of one name in one text. -/
def occursWhole (name s : List Char) : Bool := (runs s).all fun r => !occursIn name r || r == name

theorem occursWhole_iff {name s : List Char} : occursWhole name s = true ↔ OccursWhole name s := by
  simp only [occursWhole, OccursWhole, List.all_eq_true, Bool.or_eq_true, Bool.not_eq_true', ← Bool.not_eq_true,
    occursIn_iff, beq_iff_eq, or_iff_not_imp_left, not_not]

/-- The check of a row and a text. -/
def unambiguous (row : Row) (s : List Char) : Bool :=
  row.keys.all fun n => n != "" && n.toList.all isIdentifierChar && occursWhole n.toList s &&
    row.values.all fun v => occursWhole n.toList v.text

theorem unambiguous_iff {row : Row} {s : List Char} : unambiguous row s = true ↔ Unambiguous row s := by
  simp only [unambiguous, Bool.and_eq_true, List.all_eq_true, bne_iff_ne, occursWhole_iff]
  constructor
  · intro h
    exact ⟨fun n hn => (h n hn).1.1, fun n hn => (h n hn).1.2, fun n hn => (h n hn).2⟩
  · intro h n hn
    exact ⟨⟨h.names n hn, h.text n hn⟩, h.values n hn⟩

instance (row : Row) (s : List Char) : Decidable (Unambiguous row s) := decidable_of_iff _ unambiguous_iff

namespace Unambiguous

variable {row : Row} {s : List Char}

/-- The induction is over the passes. A pass leaves behind a text whose runs come from the condition or from
    a value, and in those every name of the row occurs whole. -/
theorem pasteEntries_eq {es : List (String × Value)}
    (hnames : ∀ e ∈ es, e.1 ≠ "" ∧ ∀ c ∈ e.1.toList, isIdentifierChar c = true)
    (hvalues : ∀ e ∈ es, ∀ e' ∈ es, OccursWhole e.1.toList e'.2.text)
    (htext : ∀ e ∈ es, OccursWhole e.1.toList s) :
    pasteEntries .literal es s = pasteEntries .wordBoundary es s := by
  induction es generalizing s with
  | nil => rfl
  | cons e es ih =>
    obtain ⟨hempty, hname⟩ := hnames e List.mem_cons_self
    have hne : e.1.toList ≠ [] := fun hnil => hempty (String.toList_inj.mp hnil)
    rw [pasteEntries_cons, pasteEntries_cons, replace_literal_eq hne hname (htext e List.mem_cons_self)]
    apply ih
    · intro e' he'
      exact hnames e' (List.mem_cons_of_mem e he')
    · intro e' he' e'' he''
      exact hvalues e' (List.mem_cons_of_mem e he') e'' (List.mem_cons_of_mem e he'')
    · intro e' he' r hr
      rcases mem_runs_replace hne hname hr with hr | hr
      · exact htext e' (List.mem_cons_of_mem e he') r hr
      · exact hvalues e' (List.mem_cons_of_mem e he') e List.mem_cons_self r hr

theorem substitute_eq (h : Unambiguous row s) : substitute .literal row s = substitute .wordBoundary row s := by
  have hkey {e : String × Value} (he : e ∈ row.entries) : e.1 ∈ row.keys := List.mem_map_of_mem he
  apply pasteEntries_eq
  · intro e he
    exact h.names e.1 (hkey he)
  · intro e he e' he'
    exact h.values e.1 (hkey he) e'.2 (List.mem_map_of_mem he')
  · intro e he
    exact h.text e.1 (hkey he)

end Unambiguous

/-- **When the modes agree.** If the names of a row occur in the runs of a condition and of the values only as
    whole runs, both modes substitute the same, and the condition has the same outcome in both. -/
theorem evaluate_mode_agreement (row : Row) (condition : String)
    (h : Unambiguous row (stripSpaces condition.toList)) :
    substitute .literal row (stripSpaces condition.toList) =
        substitute .wordBoundary row (stripSpaces condition.toList) ∧
      evaluate .literal row condition = evaluate .wordBoundary row condition := by
  refine ⟨h.substitute_eq, ?_⟩
  unfold evaluate
  simp only [h.substitute_eq]

/-- Two values hold names of the row, their own or another, and one pass writes what a later one replaces. -/
theorem evaluate_mode_agreement_chained :
    substitute .literal (Keyed.ofList [("id", .string "name-7 id"), ("name", .string "x"), ("score", .null)])
        "id==name&&level>3".toList = "x-7 id==x&&level>3".toList ∧
      evaluate .literal (Keyed.ofList [("id", .string "name-7 id"), ("name", .string "x"), ("score", .null)])
        "id == name && level > 3" = .ok false := by
  have h := evaluate_mode_agreement
    (Keyed.ofList [("id", .string "name-7 id"), ("name", .string "x"), ("score", .null)])
    "id == name && level > 3" (by decide +kernel)
  have hstrip : stripSpaces "id == name && level > 3".toList = "id==name&&level>3".toList := by decide
  rw [hstrip] at h
  exact ⟨h.1.trans (by decide +kernel), h.2.trans (by decide +kernel)⟩

end Entitlement.Condition
