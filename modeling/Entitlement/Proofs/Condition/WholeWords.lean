import Entitlement.Proofs.Condition.AttributeNames
import Mathlib.Data.List.SplitBy

/-!
# `Entitlement.Proofs.Condition.WholeWords` — whole identifiers are replaced all at once

In word-boundary mode a pass over a text goes by its maximal runs of identifier characters: a run that is the
name is replaced, and an occurrence inside a longer run never counts, nor does it hide one that does
(`replace_run`, `replace_of_not_mem`). A value is pasted between two characters that belong to no identifier,
so it never grows together with its surroundings. When no value brings in the name of another attribute, the
passes of a row therefore amount to one look at every run (`substitute_wordBoundary`), and their order does not
matter.

Both sides of that equation go through a text run by run, so the proof is an induction along the runs
(`run_induction`).
-/

namespace Entitlement.Condition

open Attribute (Row Value)
open Text (isIdentifierChar)

/-! ## Runs -/

/-- A text cut into its maximal runs of identifier characters and, one by one, the characters between them. -/
def pieces (s : List Char) : List (List Char) :=
  s.splitBy fun a b => isIdentifierChar a && isIdentifierChar b

example : pieces "uid==1&&id".toList =
    ["uid".toList, ['='], ['='], ['1'], ['&'], ['&'], "id".toList] := by decide

/-- Identifier characters only are a single run. -/
theorem pieces_run {s : List Char} (hne : s ≠ []) (hs : ∀ c ∈ s, isIdentifierChar c = true) :
    pieces s = [s] := by
  apply List.splitBy_of_isChain hne
  apply List.Pairwise.isChain
  apply List.pairwise_of_forall_mem_list
  intro a ha b hb
  simp [hs a ha, hs b hb]

/-- A character between the runs ends the pieces in front of it. -/
theorem pieces_append_cons {c : Char} (hc : isIdentifierChar c = false) (s rest : List Char) :
    pieces (s ++ c :: rest) = pieces s ++ [c] :: pieces rest := by
  have hrest : pieces (c :: rest) = [c] :: pieces rest :=
    List.splitBy_append (l := [c]) (m := rest) (by simp [hc])
  rw [← hrest]
  exact List.splitBy_append_cons rest (by simp [hc])

/-- Induction over a text along its runs: a text without characters, a single run, and two texts with a character
    between them that stands in no run. -/
@[elab_as_elim]
theorem run_induction {motive : List Char → Prop} (nil : motive [])
    (run : ∀ s, s ≠ [] → (∀ c ∈ s, isIdentifierChar c = true) → motive s)
    (cut : ∀ s c rest, isIdentifierChar c = false → motive s → motive rest → motive (s ++ c :: rest))
    (s : List Char) : motive s := by
  have hrun {s : List Char} (hs : ∀ c ∈ s, (!isIdentifierChar c) = false) : motive s := by
    by_cases hnil : s = []
    · rw [hnil]
      exact nil
    · exact run s hnil fun c hc => by simpa using hs c hc
  induction s using cut_induction (p := fun c => !isIdentifierChar c) with
  | stretch s hs => exact hrun hs
  | cut s c rest hs hc ih => exact cut s c rest (by simpa using hc) (hrun hs) ih

/-! ## One pass -/

section OnePass

variable {name text : List Char}

/-- Behind an occurrence of the name stands what is left when the name is taken away. -/
theorem drop_of_append_eq_cons {t rest : List Char} {c : Char} (hne : name ≠ []) (h : name ++ t = c :: rest) :
    rest.drop (name.length - 1) = t := by
  obtain ⟨a, n, rfl⟩ := List.exists_cons_of_ne_nil hne
  rw [List.cons_append, List.cons.injEq] at h
  simp [← h.2]

/-- Behind an identifier character no occurrence counts as long as identifier characters go on. -/
theorem replaceFrom_run {skip : Nat} {before : Option Char} {s : List Char} (hne : name ≠ [])
    (hs : ∀ c ∈ s, isIdentifierChar c = true) (hbefore : before.any isIdentifierChar = true) :
    replaceFrom .wordBoundary name text skip before s = s.drop skip := by
  induction s generalizing skip before with
  | nil => simp [replaceFrom]
  | cons c rest ih =>
    have hrest {skip : Nat} : replaceFrom .wordBoundary name text skip (some c) rest = rest.drop skip :=
      ih (fun x hx => hs x (List.mem_cons_of_mem c hx)) (by simp [hs c List.mem_cons_self])
    cases skip with
    | succ k => exact hrest
    | zero =>
      rw [replaceFrom_cons, hrest, hrest]
      cases hp : name.isPrefixOf (c :: rest) with
      | false => rfl
      | true =>
        obtain ⟨t, ht⟩ := List.isPrefixOf_iff_prefix.mp hp
        simp [Mode.admits, hbefore, drop_of_append_eq_cons hne ht, ht]

/-- **One run.** Identifier characters only are replaced when they are the name, and stay when they are not. -/
theorem replace_run {s : List Char} (hne : name ≠ []) (hs : ∀ c ∈ s, isIdentifierChar c = true)
    (h : s ≠ name) : replace .wordBoundary name text s = s := by
  rw [replace, if_neg hne]
  cases s with
  | nil => rfl
  | cons c rest =>
    have hrest {skip : Nat} : replaceFrom .wordBoundary name text skip (some c) rest = rest.drop skip :=
      replaceFrom_run hne (fun x hx => hs x (List.mem_cons_of_mem c hx)) (by simp [hs c List.mem_cons_self])
    rw [replaceFrom_cons, hrest, hrest]
    cases hp : name.isPrefixOf (c :: rest) with
    | false => rfl
    | true =>
      obtain ⟨t, ht⟩ := List.isPrefixOf_iff_prefix.mp hp
      -- the run is longer than the name, so an identifier character follows the occurrence
      have hafter : t.head?.any isIdentifierChar = true := by
        cases t with
        | nil => exact absurd (by rw [← ht, List.append_nil]) h
        | cons x t => simp [hs x (by rw [← ht]; simp)]
      simp [Mode.admits, drop_of_append_eq_cons hne ht, hafter, ht]

/-- A pass for a name that is none of the runs changes nothing. -/
theorem replace_of_not_mem {s : List Char} (hne : name ≠ []) (hname : ∀ c ∈ name, isIdentifierChar c = true)
    (h : name ∉ pieces s) : replace .wordBoundary name text s = s := by
  induction s using run_induction with
  | nil => exact replace_nil
  | run s hnil hs =>
    rw [pieces_run hnil hs, List.mem_singleton] at h
    exact replace_run hne hs (Ne.symm h)
  | cut s c rest hc ihs ih =>
    rw [pieces_append_cons hc, List.mem_append, not_or, List.mem_cons, not_or] at h
    rw [replace_append_between hname hc, ihs h.1, ih h.2.2]

end OnePass

/-! ## All passes -/

/-- The names are identifier characters throughout, and no value has the name of another attribute among its
    runs. -/
structure WholeNames (row : Row) : Prop where
  names : ∀ n ∈ row.keys, n ≠ "" ∧ ∀ c ∈ n.toList, isIdentifierChar c = true
  values : ∀ e ∈ row.entries, ∀ n ∈ row.keys, n ≠ e.1 → n.toList ∉ pieces e.2.text

/-- The check of it. -/
def wholeNames (row : Row) : Bool :=
  row.keys.all (fun n => n != "" && n.toList.all isIdentifierChar) &&
    row.entries.all fun e => row.keys.all fun n => n == e.1 || !(pieces e.2.text).contains n.toList

theorem wholeNames_iff {row : Row} : wholeNames row = true ↔ WholeNames row := by
  simp only [wholeNames, Bool.and_eq_true, Bool.or_eq_true, List.all_eq_true, bne_iff_ne, beq_iff_eq,
    Bool.not_eq_true', ← Bool.not_eq_true, List.contains_iff_mem]
  constructor
  · rintro ⟨hnames, hvalues⟩
    exact ⟨hnames, fun e he n hn hne => (hvalues e he n hn).resolve_left hne⟩
  · intro h
    exact ⟨h.names, fun e he n hn => or_iff_not_imp_left.mpr (h.values e he n hn)⟩

instance (row : Row) : Decidable (WholeNames row) := decidable_of_iff _ wholeNames_iff

/-- What a piece becomes: the text of the attribute that it names, and itself when it names none. -/
def pieceText (row : Row) (piece : List Char) : List Char :=
  (row.get? (String.ofList piece)).elim piece Value.text

namespace WholeNames

variable {row row' : Row}

theorem toList_ne_nil (h : WholeNames row) {n : String} (hn : n ∈ row.keys) : n.toList ≠ [] :=
  fun hnil => (h.names n hn).1 (String.toList_inj.mp hnil)

/-- A pass for one of the names changes nothing in a text that does not have it among its runs. -/
theorem replace_eq_self (h : WholeNames row) {n : String} (hn : n ∈ row.keys) {text s : List Char}
    (hs : n.toList ∉ pieces s) : replace .wordBoundary n.toList text s = s :=
  replace_of_not_mem (h.toList_ne_nil hn) (h.names n hn).2 hs

/-- A character that stands in no identifier cuts all the passes. -/
theorem substitute_append_cons (h : WholeNames row) {c : Char} (hc : isIdentifierChar c = false)
    (s rest : List Char) :
    substitute .wordBoundary row (s ++ c :: rest) =
      substitute .wordBoundary row s ++ c :: substitute .wordBoundary row rest := by
  have hpaste (es : List (String × Value)) (hes : ∀ e ∈ es, e.1 ∈ row.keys) (s rest : List Char) :
      pasteEntries .wordBoundary es (s ++ c :: rest) =
        pasteEntries .wordBoundary es s ++ c :: pasteEntries .wordBoundary es rest := by
    induction es generalizing s rest with
    | nil => rfl
    | cons e es ih =>
      have he : e.1 ∈ row.keys := hes e List.mem_cons_self
      rw [pasteEntries_cons, replace_append_between (h.names e.1 he).2 hc]
      exact ih (fun e' he' => hes e' (List.mem_cons_of_mem e he')) _ _
  exact hpaste row.entries (fun e he => List.mem_map_of_mem he) s rest

/-- A run becomes the text of the attribute that it names, or stays as it is. -/
theorem substitute_run (h : WholeNames row) {s : List Char} (hne : s ≠ [])
    (hs : ∀ c ∈ s, isIdentifierChar c = true) : substitute .wordBoundary row s = pieceText row s := by
  have hkey {e : String × Value} (he : e ∈ row.entries) : e.1 ∈ row.keys := List.mem_map_of_mem he
  unfold pieceText
  cases hget : row.get? (String.ofList s) with
  | none =>
    apply pasteEntries_of_fixed
    intro e he
    apply h.replace_eq_self (hkey he)
    rw [pieces_run hne hs, List.mem_singleton]
    intro heq
    rw [Keyed.get?_eq_none_iff, ← heq, String.ofList_toList] at hget
    exact hget (hkey he)
  | some v =>
    have hmem : (String.ofList s, v) ∈ row.entries := Keyed.get?_eq_some_iff.mp hget
    have hempty : String.ofList s ≠ "" := (h.names _ (hkey hmem)).1
    have hname : ∀ e ∈ row.entries, e.1 ≠ String.ofList s →
        replace .wordBoundary e.1.toList e.2.text (String.ofList s).toList = (String.ofList s).toList := by
      intro e he hother
      apply h.replace_eq_self (hkey he)
      rw [String.toList_ofList, pieces_run hne hs, List.mem_singleton]
      intro heq
      exact hother (by rw [← heq, String.ofList_toList])
    have hsubstitute := substitute_name_of_fixed hget hempty hname fun e he hother =>
      h.replace_eq_self (hkey he) (h.values _ hmem e.1 (hkey he) hother)
    rw [String.toList_ofList] at hsubstitute
    exact hsubstitute

/-- **All passes at once.** -/
theorem substitute_eq (h : WholeNames row) (s : List Char) :
    substitute .wordBoundary row s = (pieces s).flatMap (pieceText row) := by
  induction s using run_induction with
  | nil => exact pasteEntries_of_fixed fun e _ => replace_nil
  | run s hnil hs => rw [h.substitute_run hnil hs, pieces_run hnil hs, List.flatMap_singleton]
  | cut s c rest hc ihs ih =>
    -- no name is a character that stands in no identifier
    have hcut : pieceText row [c] = [c] := by
      have hget : row.get? (String.ofList [c]) = none := by
        rw [Keyed.get?_eq_none_iff]
        intro hmem
        have hident := (h.names _ hmem).2 c (by simp)
        simp [hc] at hident
      rw [pieceText, hget]
      rfl
    rw [h.substitute_append_cons hc, ihs, ih, pieces_append_cons hc, List.flatMap_append, List.flatMap_cons,
      hcut]
    rfl

theorem of_subset (h : WholeNames row) (hsub : ∀ e ∈ row'.entries, e ∈ row.entries) : WholeNames row' := by
  have hkeys : ∀ n ∈ row'.keys, n ∈ row.keys := by
    intro n hn
    obtain ⟨e, he, rfl⟩ := List.mem_map.mp hn
    exact List.mem_map_of_mem (hsub e he)
  exact ⟨fun n hn => h.names n (hkeys n hn), fun e he n hn => h.values e (hsub e he) n (hkeys n hn)⟩

end WholeNames

/-- **Whole identifiers are replaced all at once.** In word-boundary mode, with names of identifier characters
    that are no runs of the values of other attributes, substitution replaces each run that is a name by the
    text of the attribute and leaves everything else. So the attributes may come in any order, and one whose
    name is no run of the text might as well be missing. -/
theorem substitute_wordBoundary (row : Row) (h : WholeNames row) (s : List Char) :
    substitute .wordBoundary row s = (pieces s).flatMap (pieceText row) ∧
      (∀ row' : Row, row.entries.Perm row'.entries →
        substitute .wordBoundary row' s = substitute .wordBoundary row s) ∧
      ∀ n : String, n.toList ∉ pieces s →
        substitute .wordBoundary (row.erase n) s = substitute .wordBoundary row s := by
  refine ⟨h.substitute_eq s, ?_, ?_⟩
  · intro row' hperm
    have h' : WholeNames row' := h.of_subset fun e he => hperm.mem_iff.mpr he
    have htext : pieceText row' = pieceText row := by
      funext piece
      rw [pieceText, pieceText, Keyed.get?_of_perm hperm]
    rw [h'.substitute_eq, h.substitute_eq, htext]
  · intro n hn
    have h' : WholeNames (row.erase n) := h.of_subset fun e he => List.mem_of_mem_filter he
    have htext : ∀ piece ∈ pieces s, pieceText (row.erase n) piece = pieceText row piece := by
      intro piece hpiece
      have hother : n ≠ String.ofList piece := by
        rintro rfl
        exact hn (by rwa [String.toList_ofList])
      rw [pieceText, pieceText, Keyed.get?_erase, if_neg hother]
    rw [h'.substitute_eq, h.substitute_eq, List.flatMap_def, List.map_congr_left htext, ← List.flatMap_def]

/-- One name stands inside another and inside a longer run, one value is empty, and one holds its own name. -/
theorem substitute_wordBoundary_overlapping_names :
    substitute .wordBoundary
        (Keyed.ofList [("id", .string "y-7"), ("uid", .null), ("score", .string "id2 score"), ("x", .integer 1)])
        "uid==id&&score>id_x".toList = "==y-7&&id2 score>id_x".toList ∧
      substitute .wordBoundary
        (Keyed.ofList [("x", .integer 1), ("score", .string "id2 score"), ("uid", .null), ("id", .string "y-7")])
        "uid==id&&score>id_x".toList = "==y-7&&id2 score>id_x".toList ∧
      substitute .wordBoundary
        ((Keyed.ofList [("id", .string "y-7"), ("uid", .null), ("score", .string "id2 score"),
          ("x", .integer 1)]).erase "x")
        "uid==id&&score>id_x".toList = "==y-7&&id2 score>id_x".toList := by
  obtain ⟨hall, hperm, herase⟩ := substitute_wordBoundary
    (Keyed.ofList [("id", .string "y-7"), ("uid", .null), ("score", .string "id2 score"), ("x", .integer 1)])
    (by decide +kernel) "uid==id&&score>id_x".toList
  have htext := hall.trans (show _ = "==y-7&&id2 score>id_x".toList by decide +kernel)
  refine ⟨htext, (hperm _ ?_).trans htext, (herase "x" ?_).trans htext⟩
  · decide +kernel
  · decide +kernel

end Entitlement.Condition
