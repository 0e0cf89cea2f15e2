import Entitlement.Config.Environment
import Entitlement.Proofs.Collection.Elements
import Entitlement.Proofs.Config.Fields
import Entitlement.Proofs.Numeral.Literal
import Entitlement.Proofs.Text.AsciiCase
import Entitlement.Proofs.Text.Trimming

/-!
# `Entitlement.Proofs.Config.FieldText` — what a text means for a field

In the environment every field is written as a text. There are four kinds of fields, and a text means a value for each
of them in its own way (`Field.Means`): a truth value is one of eight words, in any letter case; a mode is named by a word
or a number, between blanks; a number is a run of digits with a `+` that may be missing, up to a limit; and a name is the
text itself. The readers accept exactly these texts (`Field.reader_eq_ok_iff`).
-/

namespace Entitlement.Config

open Numeral Text

variable {α : Type}

/-! ## Truth values -/

/-- The words for a truth value. -/
def truthWords : Bool → List String
  | true => ["1", "true", "yes", "on"]
  | false => ["0", "false", "no", "off"]

/-- The text is one of the words for a truth value, with any of its letters as capitals. -/
def IsTruthWord (t : String) (b : Bool) : Prop :=
  ∃ w ∈ truthWords b, WrittenAs t.toList w.toList

theorem isUpper_truthWords (b : Bool) : ∀ w ∈ truthWords b, ∀ x ∈ w.toList, x.isUpper = false := by
  have hall : (truthWords b).all (fun w => w.toList.all fun x => !x.isUpper) = true := by
    cases b <;> decide
  intro w hw
  exact forall_mem_of_all (List.all_eq_true.mp hall w hw)

theorem isTruthWord_iff {t : String} {b : Bool} :
    IsTruthWord t b ↔ t.toList.map Char.toLower ∈ (truthWords b).map String.toList := by
  rw [IsTruthWord, List.mem_map]
  constructor
  · rintro ⟨w, hw, h⟩
    exact ⟨w, hw, ((map_toLower_eq_iff (isUpper_truthWords b w hw)).mpr h).symm⟩
  · rintro ⟨w, hw, h⟩
    exact ⟨w, hw, (map_toLower_eq_iff (isUpper_truthWords b w hw)).mp h.symm⟩

/-- No word stands for both truth values. -/
theorem truthWords_disjoint {word : List Char} (h : word ∈ (truthWords true).map String.toList) :
    word ∉ (truthWords false).map String.toList := by
  have hall : ((truthWords true).map String.toList).all
      (fun w => decide (w ∉ (truthWords false).map String.toList)) = true := by decide
  exact of_decide_eq_true (List.all_eq_true.mp hall word h)

theorem truthWord_eq_ok_iff {t : String} {b : Bool} : Variables.truthWord t = .ok b ↔ IsTruthWord t b := by
  rw [isTruthWord_iff]
  show (if t.toList.map Char.toLower ∈ (truthWords true).map String.toList then .ok true
    else if t.toList.map Char.toLower ∈ (truthWords false).map String.toList then .ok false
    else .error _) = (.ok b : Except String Bool) ↔ _
  generalize t.toList.map Char.toLower = word
  by_cases htrue : word ∈ (truthWords true).map String.toList
  · rw [if_pos htrue, Except.ok.injEq]
    cases b with
    | true => exact iff_of_true rfl htrue
    | false => exact iff_of_false Bool.false_ne_true.symm (truthWords_disjoint htrue)
  · rw [if_neg htrue]
    by_cases hfalse : word ∈ (truthWords false).map String.toList
    · rw [if_pos hfalse, Except.ok.injEq]
      cases b with
      | true => exact iff_of_false Bool.false_ne_true htrue
      | false => exact iff_of_true rfl hfalse
    · rw [if_neg hfalse]
      refine iff_of_false ?_ ?_
      · rintro ⟨⟩
      · cases b with
        | true => exact htrue
        | false => exact hfalse

/-! ## Modes -/

/-- The words for a mode. -/
def modeWords : AuthenticationMode → List String
  | .realtime => ["realtime", "1"]
  | .session => ["session", "2"]

/-- The text is a word between blanks, and the word in lower case is one of those for a mode. -/
def NamesMode (t : String) (m : AuthenticationMode) : Prop :=
  ∃ before w after : List Char, t.toList = before ++ (w ++ after) ∧ (∀ c ∈ before, isBlank c = true) ∧
    (∀ c ∈ after, isBlank c = true) ∧ Bare isBlank w ∧ lower (String.ofList w) ∈ modeWords m

theorem trimString_eq_iff {t w : String} :
    trimString t = w ↔ ∃ before after, t.toList = before ++ (w.toList ++ after) ∧ (∀ c ∈ before, isBlank c = true) ∧
      (∀ c ∈ after, isBlank c = true) ∧ Bare isBlank w.toList := by
  rw [← trimWhere_eq_iff, ← String.toList_inj, trimString, String.toList_ofList]
  rfl

theorem parse_eq_ok_iff {t : String} {m : AuthenticationMode} :
    AuthenticationMode.parse t = .ok m ↔ NamesMode t m := by
  have hnames : NamesMode t m ↔ lower (trimString t) ∈ modeWords m := by
    constructor
    · rintro ⟨before, w, after, ht, hbefore, hafter, hbare, hword⟩
      have htrim : trimString t = String.ofList w := by
        rw [trimString_eq_iff, String.toList_ofList]
        exact ⟨before, after, ht, hbefore, hafter, hbare⟩
      rw [htrim]
      exact hword
    · intro h
      obtain ⟨before, after, ht, hbefore, hafter, hbare⟩ := trimString_eq_iff.mp (Eq.refl (trimString t))
      refine ⟨before, _, after, ht, hbefore, hafter, hbare, ?_⟩
      rw [String.ofList_toList]
      exact h
  rw [hnames]
  unfold AuthenticationMode.parse
  -- one case for each of the four words, and one for all other texts
  split <;> cases m <;> simp_all [modeWords]

/-! ## Numbers -/

/-- The text is a run of digits behind a `+` that may be missing, and they write the number. -/
def WritesUnsigned (t : String) (n : Nat) : Prop :=
  ∃ ds : Digits, ds.chars ≠ [] ∧ (t.toList = ds.chars ∨ t.toList = '+' :: ds.chars) ∧ ds.value = n

theorem le_ofDigitChars (s : List Char) (n : Nat) : n ≤ Nat.ofDigitChars 10 s n := by
  rw [Nat.ofDigitChars_eq_ofDigitChars_zero]
  have hpow : 1 ≤ 10 ^ s.length := Nat.one_le_pow' _ _
  calc n = 1 * n := (Nat.one_mul n).symm
    _ ≤ 10 ^ s.length * n := Nat.mul_le_mul_right n hpow
    _ ≤ _ := Nat.le_add_right _ _

/-- Since digits only add to a value, none is above the limit on the way to one that is not. -/
theorem unsignedFrom_eq_ok_iff {limit value n : Nat} {s : List Char} (hvalue : value ≤ limit) :
    unsignedFrom limit value s = .ok n ↔
      (∀ c ∈ s, c.isDigit = true) ∧ Nat.ofDigitChars 10 s value = n ∧ n ≤ limit := by
  induction s generalizing value with
  | nil =>
    rw [unsignedFrom, Nat.ofDigitChars_nil, Except.ok.injEq]
    constructor
    · rintro rfl
      exact ⟨fun c hc => absurd hc List.not_mem_nil, rfl, hvalue⟩
    · exact fun h => h.2.1
  | cons c rest ih =>
    rw [unsignedFrom, Nat.ofDigitChars_cons, List.forall_mem_cons, Nat.mul_comm 10 value]
    dsimp only
    split
    · rename_i hdigit
      split
      · rename_i hnext
        rw [ih hnext]
        simp only [hdigit, true_and]
      · rename_i hnext
        constructor
        · rintro ⟨⟩
        · -- the digits that follow do not bring the value below the limit again
          rintro ⟨-, rfl, hlimit⟩
          exact absurd ((le_ofDigitChars rest _).trans hlimit) hnext
    · rename_i hdigit
      constructor
      · rintro ⟨⟩
      · rintro ⟨⟨hc, -⟩, -⟩
        exact absurd hc hdigit

/-- A digit run that is read from zero. -/
theorem unsignedFrom_zero_iff {limit n : Nat} {s : List Char} :
    unsignedFrom limit 0 s = .ok n ↔ (∃ ds : Digits, s = ds.chars ∧ ds.value = n) ∧ n ≤ limit := by
  rw [unsignedFrom_eq_ok_iff (Nat.zero_le limit)]
  constructor
  · rintro ⟨hdigits, hvalue, hlimit⟩
    exact ⟨⟨⟨s, hdigits⟩, rfl, hvalue⟩, hlimit⟩
  · rintro ⟨⟨ds, rfl, hvalue⟩, hlimit⟩
    exact ⟨ds.isDigit_of_mem, hvalue, hlimit⟩

theorem plus_cons_ne_chars {s : List Char} (ds : Digits) : '+' :: s ≠ ds.chars := by
  intro h
  have hplus : '+'.isDigit = true := ds.isDigit_of_mem '+' (h ▸ List.mem_cons_self)
  exact absurd hplus (by decide)

/-- **Unsigned numbers.** -/
theorem unsignedWithin_eq_ok_iff {limit n : Nat} {t : String} :
    unsignedWithin limit t.toList = .ok n ↔ WritesUnsigned t n ∧ n ≤ limit := by
  unfold WritesUnsigned
  generalize t.toList = s
  unfold unsignedWithin
  split
  · constructor
    · rintro ⟨⟩
    · rintro ⟨⟨ds, hne, hempty | hplus, -⟩, -⟩
      · exact absurd hempty.symm hne
      · cases hplus
  · constructor
    · rintro ⟨⟩
    · rintro ⟨⟨ds, hne, hdigits | hplus, -⟩, -⟩
      · exact absurd hdigits (plus_cons_ne_chars ds)
      · exact absurd (List.cons.inj hplus).2.symm hne
  · rename_i rest hrest
    rw [unsignedFrom_zero_iff]
    constructor
    · rintro ⟨⟨ds, rfl, hvalue⟩, hlimit⟩
      exact ⟨⟨ds, hrest, .inr rfl, hvalue⟩, hlimit⟩
    · rintro ⟨⟨ds, hne, hdigits | hplus, hvalue⟩, hlimit⟩
      · exact absurd hdigits (plus_cons_ne_chars ds)
      · exact ⟨⟨ds, (List.cons.inj hplus).2, hvalue⟩, hlimit⟩
  · rename_i hnil _ hplus
    rw [unsignedFrom_zero_iff]
    constructor
    · rintro ⟨⟨ds, rfl, hvalue⟩, hlimit⟩
      exact ⟨⟨ds, hnil, .inl rfl, hvalue⟩, hlimit⟩
    · rintro ⟨⟨ds, -, hdigits | hsign, hvalue⟩, hlimit⟩
      · exact ⟨⟨ds, hdigits, hvalue⟩, hlimit⟩
      · exact absurd hsign (hplus _)

theorem unsignedText_eq_ok_iff {limit n : Nat} {t : String} :
    Variables.unsignedText limit t = .ok n ↔ WritesUnsigned t n ∧ n ≤ limit := by
  rw [← unsignedWithin_eq_ok_iff, Variables.unsignedText]
  cases unsignedWithin limit t.toList with
  | ok m =>
    show Except.ok m = Except.ok n ↔ Except.ok m = Except.ok n
    rw [Except.ok.injEq, Except.ok.injEq]
  | error e =>
    refine iff_of_false ?_ ?_
    · rintro ⟨⟩
    · rintro ⟨⟩

/-! ## Fields -/

namespace Field

/-- The name of the variable of a field, behind the stem and the underscore. -/
def variableName : Field α → String
  | enabled => "ENABLED"
  | authenticationMode => "AUTHENTICATION_MODE"
  | strictSubstitution => "STRICT_SUBSTITUTION"
  | groupTable => "TABLE_GROUP"
  | groupAccessTable => "TABLE_GROUP_ACCESS"
  | ruleTable => "TABLE_RULE"
  | userTable => "TABLE_USER"
  | databaseUrl => "DATABASE_URL"
  | maxConnections => "DATABASE_MAX_CONNECTIONS"
  | busyTimeout => "DATABASE_BUSY_TIMEOUT_MS"

/-- The text means a value for a field. -/
def Means : Field α → String → α → Prop
  | enabled, t, b => IsTruthWord t b
  | authenticationMode, t, m => NamesMode t m
  | strictSubstitution, t, b => IsTruthWord t b
  | groupTable, t, name => name = t
  | groupAccessTable, t, name => name = t
  | ruleTable, t, name => name = t
  | userTable, t, name => name = t
  | databaseUrl, t, url => url = t
  | maxConnections, t, n => WritesUnsigned t n ∧ n ≤ unsigned32
  | busyTimeout, t, n => WritesUnsigned t n ∧ n ≤ unsigned64

/-- The reader of the texts of a field. -/
def reader : Field α → String → Except String α
  | enabled => Variables.truthWord
  | authenticationMode => AuthenticationMode.parse
  | strictSubstitution => Variables.truthWord
  | groupTable => .ok
  | groupAccessTable => .ok
  | ruleTable => .ok
  | userTable => .ok
  | databaseUrl => .ok
  | maxConnections => Variables.unsignedText unsigned32
  | busyTimeout => Variables.unsignedText unsigned64

theorem ok_eq_ok_iff {t name : String} : (.ok t : Except String String) = .ok name ↔ name = t := by
  rw [Except.ok.injEq]
  exact eq_comm

/-- **A reader accepts what means a value**, and gives that value. -/
theorem reader_eq_ok_iff {f : Field α} {t : String} {a : α} : f.reader t = .ok a ↔ f.Means t a := by
  unfold reader Means
  cases f with
  | enabled | strictSubstitution => exact truthWord_eq_ok_iff
  | authenticationMode => exact parse_eq_ok_iff
  | groupTable | groupAccessTable | ruleTable | userTable | databaseUrl => exact ok_eq_ok_iff
  | maxConnections | busyTimeout => exact unsignedText_eq_ok_iff

end Field

end Entitlement.Config
