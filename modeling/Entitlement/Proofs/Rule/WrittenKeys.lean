import Entitlement.Proofs.Numeral.Literal
import Entitlement.Proofs.Rule.ListedRules
import Entitlement.Proofs.Text.Trimming

/-!
# `Entitlement.Proofs.Rule.WrittenKeys` — lists of keys, as they are written

What stands between two commas is a word, without the blanks around it, unless there is nothing but blanks. Which words
a text has is said by a grammar (`Words`), in which commas may stand at the ends of a text, and any number of them
between two words. The reader, which takes the commas at the ends off first, finds just these words
(`segments_eq_iff`), and so every text has one list of them. A list of keys is then read word by word: the set of the
keys if every word is one, the first word that is none otherwise (`listed_keys`). Nothing is lost when keys are written
down and read back, in whatever order and with whatever commas and blanks.
-/

namespace Entitlement

open Numeral Text

/-- The words of a text, in order. -/
inductive Words : List Char → List (List Char) → Prop
  /-- Blanks are no word. -/
  | blank {s : List Char} (h : ∀ c ∈ s, isBlank c = true) : Words s []
  /-- A word between blanks. -/
  | word {before w after : List Char} (hbefore : ∀ c ∈ before, isBlank c = true)
      (hafter : ∀ c ∈ after, isBlank c = true) (hbare : Bare isBlank w) (hne : w ≠ []) (hcomma : ',' ∉ w) :
      Words (before ++ (w ++ after)) [w]
  /-- A comma between two texts. -/
  | comma {s s' : List Char} {ws ws' : List (List Char)} (h : Words s ws) (h' : Words s' ws') :
      Words (s ++ ',' :: s') (ws ++ ws')

/-- The word writes the key: a sign, which may be missing, and digits with a value of 64 bits. -/
def WritesKey (w : List Char) (id : RuleId) : Prop :=
  ∃ (σ : Sign) (ds : Digits), ds.chars ≠ [] ∧ w = σ.text ++ ds.chars ∧ id.value = σ.apply (ds.value : Int) ∧
    int64.least ≤ id.value ∧ id.value ≤ int64.greatest

/-! ## The words that the reader finds -/

/-- What stands between commas, trimmed, without the empty texts. -/
def wordsBetween (s : List Char) : List (List Char) := ((s.splitOn ',').map trim).filter (· ≠ [])

theorem wordsBetween_append (s s' : List Char) : wordsBetween (s ++ ',' :: s') = wordsBetween s ++ wordsBetween s' := by
  rw [wordsBetween, List.splitOn_append_cons_self, List.map_append, List.filter_append]
  rfl

theorem wordsBetween_of_trim {s w : List Char} (hcomma : ',' ∉ s) (hw : trim s = w) :
    wordsBetween s = if w = [] then [] else [w] := by
  rw [wordsBetween, List.splitOn_eq_singleton hcomma, List.map_singleton, hw]
  split
  · rename_i h
    rw [h]
    rfl
  · rename_i h
    exact List.filter_cons_of_pos (decide_eq_true h)

/-- Commas alone have no words between them. -/
theorem wordsBetween_commas {s : List Char} (h : ∀ c ∈ s, c = ',') : wordsBetween s = [] := by
  induction s with
  | nil => rfl
  | cons c rest ih =>
    obtain ⟨rfl, hrest⟩ := List.forall_mem_cons.mp h
    show wordsBetween ([] ++ ',' :: rest) = []
    rw [wordsBetween_append, ih hrest]
    rfl

/-- Commas at the end of a text do not count. -/
theorem wordsBetween_append_commas (s : List Char) {after : List Char} (h : ∀ c ∈ after, c = ',') :
    wordsBetween (s ++ after) = wordsBetween s := by
  cases after with
  | nil => rw [List.append_nil]
  | cons c rest =>
    obtain ⟨rfl, hrest⟩ := List.forall_mem_cons.mp h
    rw [wordsBetween_append, wordsBetween_commas hrest, List.append_nil]

/-- Commas at the front of a text do not count. -/
theorem wordsBetween_commas_append {before : List Char} (s : List Char) (h : ∀ c ∈ before, c = ',') :
    wordsBetween (before ++ s) = wordsBetween s := by
  induction before with
  | nil => rfl
  | cons c rest ih =>
    obtain ⟨rfl, hrest⟩ := List.forall_mem_cons.mp h
    show wordsBetween ([] ++ ',' :: (rest ++ s)) = wordsBetween s
    rw [wordsBetween_append, ih hrest]
    rfl

/-- The commas that the reader takes off make no difference. -/
theorem segments_eq (s : List Char) : segments s = wordsBetween s := by
  obtain ⟨before, after, hs, hbefore, hafter⟩ := exists_trimWhere (· = ',') s
  simp only [decide_eq_true_eq] at hbefore hafter
  calc segments s
      = wordsBetween (trimWhere (· = ',') s) := rfl
    _ = wordsBetween (before ++ (trimWhere (· = ',') s ++ after)) := by
        rw [wordsBetween_commas_append _ hbefore, wordsBetween_append_commas _ hafter]
    _ = wordsBetween s := by rw [← hs]

/-! ## They are the words of the grammar -/

theorem comma_not_mem_of_blank {s : List Char} (h : ∀ c ∈ s, isBlank c = true) : ',' ∉ s := by
  intro hc
  exact absurd (h ',' hc) (by decide)

theorem trim_eq_nil_of_blank {s : List Char} (h : ∀ c ∈ s, isBlank c = true) : trim s = [] :=
  trimWhere_eq_iff.mpr ⟨s, [], (List.append_nil s).symm, h, fun _ hc => (nomatch hc), Bare.nil⟩

theorem Words.eq_wordsBetween {s : List Char} {ws : List (List Char)} (h : Words s ws) : ws = wordsBetween s := by
  induction h with
  | blank h => rw [wordsBetween_of_trim (comma_not_mem_of_blank h) (trim_eq_nil_of_blank h), if_pos rfl]
  | @word before w after hbefore hafter hbare hne hcomma =>
    have hnone : ',' ∉ before ++ (w ++ after) := by
      rw [List.mem_append, List.mem_append, not_or, not_or]
      exact ⟨comma_not_mem_of_blank hbefore, hcomma, comma_not_mem_of_blank hafter⟩
    have htrim : trim (before ++ (w ++ after)) = w := trimWhere_append hbefore hafter hbare
    rw [wordsBetween_of_trim hnone htrim, if_neg hne]
  | comma _ _ ih ih' => rw [wordsBetween_append, ← ih, ← ih']

/-- A text without commas is a word between blanks, or has nothing but blanks. -/
theorem words_of_no_comma {s : List Char} (hcomma : ',' ∉ s) : Words s (if trim s = [] then [] else [trim s]) := by
  obtain ⟨before, after, hs, hbefore, hafter⟩ := exists_trimWhere isBlank s
  change s = before ++ (trim s ++ after) at hs
  split
  · rename_i hnil
    rw [hnil, List.nil_append] at hs
    apply Words.blank
    rw [hs]
    exact List.forall_mem_append.mpr ⟨hbefore, hafter⟩
  · rename_i hne
    have hnone : ',' ∉ trim s := by
      intro h
      apply hcomma
      rw [hs]
      exact List.mem_append_right before (List.mem_append_left after h)
    have hword : Words (before ++ (trim s ++ after)) [trim s] :=
      .word hbefore hafter (bare_trimWhere isBlank s) hne hnone
    rwa [← hs] at hword

/-- Every text has words, if only none. -/
theorem words_wordsBetween (s : List Char) : Words s (wordsBetween s) := by
  induction s using cut_induction (p := (· == ',')) with
  | stretch s hs =>
    have hcomma : ',' ∉ s := fun h => absurd (hs ',' h) (by decide)
    rw [wordsBetween_of_trim hcomma rfl]
    exact words_of_no_comma hcomma
  | cut s c rest hs hc ih =>
    obtain rfl : c = ',' := beq_iff_eq.mp hc
    have hcomma : ',' ∉ s := fun h => absurd (hs ',' h) (by decide)
    rw [wordsBetween_append, wordsBetween_of_trim hcomma rfl]
    exact .comma (words_of_no_comma hcomma) ih

/-- **The segments that are read are the words.** -/
theorem segments_eq_iff {s : List Char} {ws : List (List Char)} : segments s = ws ↔ Words s ws := by
  rw [segments_eq]
  constructor
  · rintro rfl
    exact words_wordsBetween s
  · intro h
    exact h.eq_wordsBetween.symm

/-! ## Keys -/

theorem writesKey_iff {w : List Char} {id : RuleId} : WritesKey w id ↔ RuleId.ofSegment w = .ok id := by
  rw [RuleId.ofSegment_eq_ok_iff, signedWithin?_eq_some_iff, signed?_eq_some_iff]
  constructor
  · rintro ⟨σ, ds, hne, hw, hvalue, hrange⟩
    exact ⟨⟨σ, ds, hne, hw, hvalue⟩, hrange⟩
  · rintro ⟨⟨σ, ds, hne, hw, hvalue⟩, hrange⟩
    exact ⟨σ, ds, hne, hw, hvalue, hrange⟩

/-- A key is read back from its digits. -/
theorem ofSegment_decimalText {id : RuleId} (h : int64.holds id.value = true) :
    RuleId.ofSegment (decimalText id.value) = .ok id := by
  rw [RuleId.ofSegment_eq_ok_iff, signedWithin?, signed?_decimalText, Option.filter_some, if_pos h]

theorem parseIds_eq_ok_iff {list : String} {ids : Ascending RuleId} :
    parseIds list = .ok ids ↔ (∀ w ∈ segments list.toList, ∃ id, RuleId.ofSegment w = .ok id) ∧
      ∀ id, id ∈ ids ↔ ∃ w ∈ segments list.toList, RuleId.ofSegment w = .ok id := by
  rcases forall_or_first (fun w => ∃ id, RuleId.ofSegment w = .ok id) (segments list.toList) with
    h | ⟨front, w, back, hsplit, hfront, hw⟩
  · obtain ⟨ids', hids', hmem⟩ := parseIds_ok h
    rw [hids', Except.ok.injEq, and_iff_right h]
    constructor
    · rintro rfl
      exact hmem
    · intro hmem'
      exact Ascending.ext fun id => (hmem id).trans (hmem' id).symm
  · rw [parseIds_error hsplit hfront hw]
    refine iff_of_false (fun h => nomatch h) fun h => hw (h.1 w ?_)
    rw [hsplit]
    exact List.mem_append_right front List.mem_cons_self

theorem parseIds_eq_error_iff {list e : String} :
    parseIds list = .error e ↔ ∃ front w back, segments list.toList = front ++ w :: back ∧
      (∀ w' ∈ front, ∃ id, RuleId.ofSegment w' = .ok id) ∧ (¬ ∃ id, RuleId.ofSegment w = .ok id) ∧
      e = String.ofList w := by
  constructor
  · intro he
    rcases forall_or_first (fun w => ∃ id, RuleId.ofSegment w = .ok id) (segments list.toList) with
      h | ⟨front, w, back, hsplit, hfront, hw⟩
    · obtain ⟨ids, hids, -⟩ := parseIds_ok h
      rw [hids] at he
      cases he
    · rw [parseIds_error hsplit hfront hw, Except.error.injEq] at he
      exact ⟨front, w, back, hsplit, hfront, hw, he.symm⟩
  · rintro ⟨front, w, back, hsplit, hfront, hw, rfl⟩
    exact parseIds_error hsplit hfront hw

/-- Keys that are written down are read back as their set. -/
theorem parseIds_written {ids : List RuleId} {s : List Char} (hrange : ∀ id ∈ ids, int64.holds id.value = true)
    (hs : Words s (ids.map fun id => decimalText id.value)) :
    parseIds (String.ofList s) = .ok (Ascending.ofList ids) := by
  have hwords : segments (String.ofList s).toList = ids.map fun id => decimalText id.value := by
    rw [String.toList_ofList]
    exact segments_eq_iff.mpr hs
  rw [parseIds_eq_ok_iff, hwords]
  constructor
  · intro w hw
    obtain ⟨id, hid, rfl⟩ := List.mem_map.mp hw
    exact ⟨id, ofSegment_decimalText (hrange id hid)⟩
  · intro id
    rw [Ascending.mem_ofList]
    constructor
    · intro hid
      exact ⟨_, List.mem_map_of_mem hid, ofSegment_decimalText (hrange id hid)⟩
    · rintro ⟨w, hw, hread⟩
      obtain ⟨id', hid', rfl⟩ := List.mem_map.mp hw
      rw [ofSegment_decimalText (hrange id' hid'), Except.ok.injEq] at hread
      exact hread ▸ hid'

/-- **Lists of keys are read word by word.** A text has one list of words. If each of them is a sign that may be missing
    and digits with a value of 64 bits, the result is the set of these values; otherwise it is the first word that is
    not. Keys that are written down, in any order, repeated or not, with blanks around them and commas wherever there
    may be some, are read back as the set of these keys. -/
theorem listed_keys :
    (∀ list : String, ∃ ws, Words list.toList ws ∧ (∀ ws', Words list.toList ws' → ws' = ws) ∧
      (∀ ids, parseIds list = .ok ids ↔
        (∀ w ∈ ws, ∃ id, WritesKey w id) ∧ ∀ id, id ∈ ids ↔ ∃ w ∈ ws, WritesKey w id) ∧
      ∀ e, parseIds list = .error e ↔ ∃ front w back, ws = front ++ w :: back ∧
        (∀ w' ∈ front, ∃ id, WritesKey w' id) ∧ (¬ ∃ id, WritesKey w id) ∧ e = String.ofList w) ∧
    ∀ (ids : List RuleId) (s : List Char), (∀ id ∈ ids, int64.holds id.value = true) →
      Words s (ids.map fun id => decimalText id.value) → parseIds (String.ofList s) = .ok (Ascending.ofList ids) := by
  constructor
  · intro list
    simp only [writesKey_iff]
    refine ⟨segments list.toList, segments_eq_iff.mp rfl, ?_, ?_, ?_⟩
    · intro ws' h
      exact (segments_eq_iff.mpr h).symm
    · intro ids
      exact parseIds_eq_ok_iff
    · intro e
      exact parseIds_eq_error_iff
  · intro ids s hrange hs
    exact parseIds_written hrange hs

/-- Three keys, one of them twice, behind a lone comma and with blanks and commas between them; and a list whose second
    word has two signs. -/
theorem listed_keys_padded :
    parseIds " ,5,,\t-9223372036854775808 , ,5," =
        .ok (Ascending.ofList [⟨5⟩, ⟨-9223372036854775808⟩, ⟨5⟩]) ∧
      parseIds "+07, --1 ,x" = .error "--1" := by
  obtain ⟨hread, hwritten⟩ := listed_keys
  constructor
  · refine hwritten [⟨5⟩, ⟨-9223372036854775808⟩, ⟨5⟩] " ,5,,\t-9223372036854775808 , ,5,".toList ?_ ?_
    · decide
    · exact segments_eq_iff.mp (by decide +kernel)
  · obtain ⟨ws, -, hunique, -, herror⟩ := hread "+07, --1 ,x"
    obtain rfl : ["+07".toList, "--1".toList, "x".toList] = ws :=
      hunique _ (segments_eq_iff.mp (by decide +kernel))
    refine (herror "--1").mpr ⟨["+07".toList], "--1".toList, ["x".toList], rfl, ?_, ?_, by decide +kernel⟩
    · intro w hw
      rw [List.mem_singleton.mp hw]
      exact ⟨⟨7⟩, writesKey_iff.mpr (by rfl)⟩
    · rintro ⟨id, hid⟩
      have hbad : RuleId.ofSegment "--1".toList = .error "--1" := by rfl
      rw [writesKey_iff, hbad] at hid
      cases hid

end Entitlement
