import Entitlement.Condition.Substitution

/-!
# `Entitlement.Proofs.Condition.Pasting` — how the replacement of a name goes through a text

A pass replaces one name over a whole text. A character that is not in the name and not an identifier character
cuts such a pass in two: nothing that the name matches reaches across it, and for both modes it counts as much
as the end of the text (`replace_append_cons`). What a pass does to a text is therefore said piece by piece.

Two pieces matter: one in which the name does not occur stays as it is (`replace_of_absent`), and the name
itself becomes the text that stands for it (`replace_name`). `substitute_of_absent` is the first for a row.
-/

namespace Entitlement.Condition

open Attribute (Row Value)
open Text (isIdentifierChar)

variable {mode : Mode} {name text : List Char}

/-! ## One pass from a position onwards -/

/-- Whether an occurrence counts depends on its neighbours only as far as they are identifier characters. -/
theorem admits_congr {before before' after after' : Option Char}
    (hb : before.any isIdentifierChar = before'.any isIdentifierChar)
    (ha : after.any isIdentifierChar = after'.any isIdentifierChar) :
    mode.admits before after = mode.admits before' after' := by
  cases mode with
  | literal => rfl
  | wordBoundary => rw [Mode.admits, Mode.admits, hb, ha]

/-- A pass that still has to skip the whole text writes nothing. -/
theorem replaceFrom_skip {skip : Nat} {before : Option Char} {s : List Char} (h : s.length ≤ skip) :
    replaceFrom mode name text skip before s = [] := by
  induction s generalizing skip before with
  | nil => rfl
  | cons c rest ih =>
    cases skip with
    | zero => exact absurd h (by simp)
    | succ k => exact ih (Nat.le_of_succ_le_succ h)

/-- A pass at a position that belongs to no occurrence dealt with before. -/
theorem replaceFrom_cons (before : Option Char) (c : Char) (rest : List Char) :
    replaceFrom mode name text 0 before (c :: rest) =
      if name.isPrefixOf (c :: rest) then
        (if mode.admits before (rest.drop (name.length - 1)).head? then text else name) ++
          replaceFrom mode name text (name.length - 1) (some c) rest
      else c :: replaceFrom mode name text 0 (some c) rest := rfl

/-- So does a pass, on the character in front of the text. -/
theorem replaceFrom_before {before before' : Option Char} {skip : Nat} {s : List Char}
    (hb : before.any isIdentifierChar = before'.any isIdentifierChar) :
    replaceFrom mode name text skip before s = replaceFrom mode name text skip before' s := by
  cases s with
  | nil => rfl
  | cons c rest =>
    cases skip with
    | succ k => rfl
    | zero => rw [replaceFrom_cons, replaceFrom_cons, admits_congr hb rfl]

/-- A pass over a text in which the name does not occur copies the text. -/
theorem replaceFrom_of_absent {before : Option Char} {s : List Char} (h : ¬ name <:+: s) :
    replaceFrom mode name text 0 before s = s := by
  induction s generalizing before with
  | nil => rfl
  | cons c rest ih =>
    have hp : name.isPrefixOf (c :: rest) = false := by
      rw [Bool.eq_false_iff]
      intro hp
      exact h (List.isPrefixOf_iff_prefix.mp hp).isInfix
    have hr : ¬ name <:+: rest := fun hr => h (List.infix_cons hr)
    rw [replaceFrom_cons, hp, ih hr]
    rfl

/-- A character that is not in the name ends what the name can match. -/
theorem isPrefixOf_append_cons {c : Char} {rest : List Char} :
    ∀ {n s : List Char}, c ∉ n → n.isPrefixOf (s ++ c :: rest) = n.isPrefixOf s
  | [], s, _ => by cases s <;> rfl
  | a :: n, [], h => by
    have hac : (a == c) = false := by
      rw [beq_eq_false_iff_ne]
      intro e
      exact h (e ▸ List.mem_cons_self)
    rw [List.nil_append, List.isPrefixOf_cons_cons, hac]
    rfl
  | a :: n, x :: s, h => by
    rw [List.cons_append, List.isPrefixOf_cons_cons, List.isPrefixOf_cons_cons,
      isPrefixOf_append_cons fun hc => h (List.mem_cons_of_mem a hc)]

/-- The neighbour behind an occurrence, when a character that is no identifier character follows the text. -/
theorem any_head?_drop {c : Char} (hi : isIdentifierChar c = false) {n : Nat} {s : List Char}
    (hn : n ≤ s.length) (rest : List Char) :
    ((s ++ c :: rest).drop n).head?.any isIdentifierChar = (s.drop n).head?.any isIdentifierChar := by
  rw [List.drop_append_of_le_length hn]
  cases s.drop n with
  | nil => exact hi
  | cons x t => rfl

/-- **One pass and a cut.** The induction is on the part in front of the cut; what is skipped there never
    reaches it, because an occurrence of the name ends in front of it. -/
theorem replaceFrom_append_cons {c : Char} (hc : c ∉ name) (hi : isIdentifierChar c = false)
    {skip : Nat} {before : Option Char} {s rest : List Char} (hs : skip ≤ s.length) (hn : name ≠ []) :
    replaceFrom mode name text skip before (s ++ c :: rest) =
      replaceFrom mode name text skip before s ++ c :: replaceFrom mode name text 0 (some c) rest := by
  induction s generalizing skip before with
  | nil =>
    obtain rfl : skip = 0 := Nat.le_zero.mp hs
    have hp : name.isPrefixOf ([] ++ c :: rest) = false := by
      rw [isPrefixOf_append_cons hc]
      cases name with
      | nil => exact absurd rfl hn
      | cons a n => rfl
    rw [List.nil_append] at hp ⊢
    rw [replaceFrom_cons, hp]
    rfl
  | cons x s ih =>
    cases skip with
    | succ k => exact ih (Nat.le_of_succ_le_succ hs)
    | zero =>
      have hp : name.isPrefixOf (x :: (s ++ c :: rest)) = name.isPrefixOf (x :: s) :=
        isPrefixOf_append_cons (s := x :: s) hc
      rw [List.cons_append]
      rw [replaceFrom_cons, replaceFrom_cons, hp]
      cases hm : name.isPrefixOf (x :: s) with
      | false => exact congrArg (x :: ·) (ih (Nat.zero_le _))
      | true =>
        have hl : name.length - 1 ≤ s.length := by
          have := (List.isPrefixOf_iff_prefix.mp hm).length_le
          rw [List.length_cons] at this
          omega
        have ha : mode.admits before ((s ++ c :: rest).drop (name.length - 1)).head? =
            mode.admits before (s.drop (name.length - 1)).head? :=
          admits_congr rfl (any_head?_drop hi hl rest)
        rw [ha, ih hl, ← List.append_assoc]
        rfl

/-! ## One pass -/

/-- **A cut.** A character that is not in the name and no identifier character splits a pass in two. -/
theorem replace_append_cons {c : Char} (hc : c ∉ name) (hi : isIdentifierChar c = false)
    (s rest : List Char) :
    replace mode name text (s ++ c :: rest) =
      replace mode name text s ++ c :: replace mode name text rest := by
  unfold replace
  by_cases hn : name = []
  · rw [if_pos hn, if_pos hn, if_pos hn]
  · have hb : (some c).any isIdentifierChar = (none : Option Char).any isIdentifierChar := hi
    rw [if_neg hn, if_neg hn, if_neg hn, replaceFrom_append_cons hc hi (Nat.zero_le _) hn,
      replaceFrom_before hb]

@[simp] theorem replace_nil : replace mode name text [] = [] := by
  unfold replace
  split <;> rfl

theorem not_mem_of_isIdentifierChar (hname : ∀ c ∈ name, isIdentifierChar c = true) {c : Char}
    (hc : isIdentifierChar c = false) : c ∉ name := by
  intro hmem
  rw [hname c hmem] at hc
  exact absurd hc (by decide)

/-- Where the name is made of identifier characters, any other character splits a pass. -/
theorem replace_append_between (hname : ∀ c ∈ name, isIdentifierChar c = true) {c : Char}
    (hc : isIdentifierChar c = false) (s rest : List Char) :
    replace mode name text (s ++ c :: rest) =
      replace mode name text s ++ c :: replace mode name text rest :=
  replace_append_cons (not_mem_of_isIdentifierChar hname hc) hc s rest

/-- A stretch of such characters splits a pass as well. -/
theorem replace_append_stretch {cut : List Char} (hne : cut ≠ [])
    (hcut : ∀ c ∈ cut, c ∉ name ∧ isIdentifierChar c = false) (s rest : List Char) :
    replace mode name text (s ++ (cut ++ rest)) =
      replace mode name text s ++ (cut ++ replace mode name text rest) := by
  induction cut generalizing s with
  | nil => exact absurd rfl hne
  | cons c cut ih =>
    obtain ⟨hc, hi⟩ := hcut c List.mem_cons_self
    rw [List.cons_append, replace_append_cons hc hi]
    cases cut with
    | nil => rfl
    | cons d cut =>
      have h := ih (List.cons_ne_nil d cut) (fun x hx => hcut x (List.mem_cons_of_mem c hx)) []
      rw [List.nil_append, replace_nil, List.nil_append] at h
      rw [h]
      rfl

/-- A text in which the name does not occur stays as it is. -/
theorem replace_of_absent {s : List Char} (h : ¬ name <:+: s) : replace mode name text s = s := by
  unfold replace
  split
  · rfl
  · exact replaceFrom_of_absent h

/-- The name itself becomes the text that stands for it, in either mode. -/
theorem replace_name (hn : name ≠ []) : replace mode name text name = text := by
  obtain ⟨a, n, rfl⟩ := List.exists_cons_of_ne_nil hn
  have hp : (a :: n).isPrefixOf (a :: n) = true := List.isPrefixOf_iff_prefix.mpr List.prefix_rfl
  have hadmits : mode.admits none (n.drop ((a :: n).length - 1)).head? = true := by
    have hdrop : n.drop ((a :: n).length - 1) = [] := List.drop_of_length_le (by simp)
    rw [hdrop]
    cases mode <;> rfl
  rw [replace, if_neg hn, replaceFrom_cons, if_pos hp, if_pos hadmits, replaceFrom_skip (by simp),
    List.append_nil]

/-! ## All passes -/

/-- The passes for a list of attributes, which need not have names of their own. -/
def pasteEntries (mode : Mode) (es : List (String × Value)) (s : List Char) : List Char :=
  es.foldl (fun acc e => replace mode e.1.toList e.2.text acc) s

theorem substitute_eq_pasteEntries (row : Row) (s : List Char) :
    substitute mode row s = pasteEntries mode row.entries s := rfl

theorem pasteEntries_cons (e : String × Value) (es : List (String × Value)) (s : List Char) :
    pasteEntries mode (e :: es) s = pasteEntries mode es (replace mode e.1.toList e.2.text s) := rfl

theorem pasteEntries_append (es es' : List (String × Value)) (s : List Char) :
    pasteEntries mode (es ++ es') s = pasteEntries mode es' (pasteEntries mode es s) :=
  List.foldl_append

/-- Passes that leave a text as it is, one by one, leave it so together. -/
theorem pasteEntries_of_fixed {es : List (String × Value)} {s : List Char}
    (h : ∀ e ∈ es, replace mode e.1.toList e.2.text s = s) : pasteEntries mode es s = s := by
  induction es with
  | nil => rfl
  | cons e es ih =>
    rw [pasteEntries_cons, h e List.mem_cons_self]
    exact ih fun e' he' => h e' (List.mem_cons_of_mem e he')

/-- Passes for names that do not occur in a text leave it as it is; an empty name is never replaced. -/
theorem pasteEntries_of_absent {es : List (String × Value)} {s : List Char}
    (h : ∀ e ∈ es, e.1 ≠ "" → ¬ e.1.toList <:+: s) : pasteEntries mode es s = s := by
  apply pasteEntries_of_fixed
  intro e he
  by_cases hempty : e.1 = ""
  · rw [replace, if_pos (by rw [hempty]; rfl)]
  · exact replace_of_absent (h e he hempty)

/-- Names that do not occur in a text leave it as it is. -/
theorem substitute_of_absent {row : Row} {s : List Char}
    (h : ∀ n ∈ row.keys, n ≠ "" → ¬ n.toList <:+: s) : substitute mode row s = s :=
  pasteEntries_of_absent fun e he => h e.1 (List.mem_map_of_mem he)

end Entitlement.Condition
