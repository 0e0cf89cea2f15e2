import Entitlement.Proofs.Config.FieldText

/-!
# `Entitlement.Proofs.Config.EnvironmentLayer` — the layer that the environment gives

Each field has a variable, and its value in the layer is what the text of that variable means; a variable that is not
set leaves its field open. The layer exists when every variable that is set has a meaning, and else the first wrong
variable of a fixed order is reported (`environment_layer`). One lemma tells what reading a variable gives
(`Variables.setting_eq_ok_iff`) and one what the whole layer takes from that (`Variables.layer_eq`), so that neither the
kinds of fields nor the sections are looked at again.
-/

namespace Entitlement.Config

variable {α : Type}

/-! ## Variables -/

namespace Variables

variable {v w : Variables}

/-- The variable of a name is set: its bytes are those of a text that is not empty. -/
def Holds (v : Variables) (name t : String) : Prop :=
  t ≠ "" ∧ v.environment (v.stem ++ "_" ++ name) = some t.toUTF8

theorem fromUTF8?_eq_some_iff {b : ByteArray} {t : String} : String.fromUTF8? b = some t ↔ b = t.toUTF8 := by
  unfold String.fromUTF8?
  split
  · rename_i h
    rw [Option.some.injEq]
    constructor
    · rintro rfl
      rfl
    · rintro rfl
      rfl
  · rename_i h
    refine iff_of_false (Option.some_ne_none t).symm ?_
    rintro rfl
    exact h t.isValidUTF8

/-- A variable that is empty or does not hold UTF-8 has no text. -/
theorem text?_eq_some_iff {name t : String} : v.text? name = some t ↔ v.Holds name t := by
  rw [text?, Option.filter_eq_some_iff, Option.bind_eq_some_iff, decide_eq_true_eq]
  constructor
  · rintro ⟨⟨b, hb, hdecode⟩, hne⟩
    rw [fromUTF8?_eq_some_iff.mp hdecode] at hb
    exact ⟨hne, hb⟩
  · rintro ⟨hne, hb⟩
    exact ⟨⟨_, hb, fromUTF8?_eq_some_iff.mpr rfl⟩, hne⟩

theorem text?_eq_none_iff {name : String} : v.text? name = none ↔ ∀ t, ¬ v.Holds name t := by
  rw [Option.eq_none_iff_forall_not_mem]
  exact forall_congr' fun t => not_congr text?_eq_some_iff

section Read

variable {name : String} {reader : String → Except String α}

theorem read_eq_none_iff : v.read name reader = .ok none ↔ v.text? name = none := by
  unfold read
  cases v.text? name with
  | none => exact iff_of_true rfl rfl
  | some t =>
    refine iff_of_false ?_ (Option.some_ne_none t)
    dsimp only
    cases reader t with
    | ok a => rintro ⟨⟩
    | error fault => rintro ⟨⟩

theorem read_eq_some_iff {a : α} :
    v.read name reader = .ok (some a) ↔ ∃ t, v.text? name = some t ∧ reader t = .ok a := by
  unfold read
  cases v.text? name with
  | none =>
    refine iff_of_false ?_ ?_
    · rintro ⟨⟩
    · rintro ⟨t, ⟨⟩, -⟩
  | some t =>
    simp only [Option.some.injEq, exists_eq_left']
    cases reader t with
    | ok b => rw [Except.ok.injEq, Except.ok.injEq, Option.some.injEq]
    | error fault =>
      refine iff_of_false ?_ ?_
      · rintro ⟨⟩
      · rintro ⟨⟩

/-- A fault is reported under the name of the variable. -/
theorem read_eq_error_iff {e : Error} :
    v.read name reader = .error e ↔
      ∃ t fault, v.text? name = some t ∧ reader t = .error fault ∧ e = .invalidValue (v.key name) fault := by
  unfold read
  cases v.text? name with
  | none =>
    refine iff_of_false ?_ ?_
    · rintro ⟨⟩
    · rintro ⟨t, fault, ⟨⟩, -⟩
  | some t =>
    dsimp only
    cases hread : reader t with
    | ok a =>
      refine iff_of_false ?_ ?_
      · rintro ⟨⟩
      · rintro ⟨_, fault, ⟨⟩, hfault, -⟩
        rw [hread] at hfault
        cases hfault
    | error fault =>
      rw [Except.error.injEq]
      constructor
      · rintro rfl
        exact ⟨t, fault, rfl, hread, rfl⟩
      · rintro ⟨_, fault', ⟨⟩, hfault, rfl⟩
        rw [hread, Except.error.injEq] at hfault
        rw [hfault]

theorem read_ok : v.read name .ok = .ok (v.text? name) := by
  unfold read
  cases v.text? name <;> rfl

end Read

/-! ## Fields -/

/-- What the variable of a field gives. -/
def setting (v : Variables) (f : Field α) : Except Error (Option α) := v.read f.variableName f.reader

/-- The variable of a field leaves it open, or its text means the value. -/
def Gives (v : Variables) (f : Field α) : Option α → Prop
  | none => ∀ t, ¬ v.Holds f.variableName t
  | some a => ∃ t, v.Holds f.variableName t ∧ f.Means t a

/-- The variable of a field is set to a text without a meaning, which the reader complains about. -/
def Complains (v : Variables) (f : Field α) (fault : String) : Prop :=
  ∃ t, v.Holds f.variableName t ∧ (∀ a, ¬ f.Means t a) ∧ f.reader t = .error fault

theorem setting_eq_ok_iff {f : Field α} {o : Option α} : v.setting f = .ok o ↔ v.Gives f o := by
  cases o with
  | none => exact read_eq_none_iff.trans text?_eq_none_iff
  | some a =>
    refine read_eq_some_iff.trans (exists_congr fun t => ?_)
    rw [text?_eq_some_iff, Field.reader_eq_ok_iff]

theorem setting_eq_error_iff {f : Field α} {e : Error} :
    v.setting f = .error e ↔ ∃ fault, v.Complains f fault ∧ e = .invalidValue (v.key f.variableName) fault := by
  refine read_eq_error_iff.trans ?_
  constructor
  · rintro ⟨t, fault, ht, hfault, rfl⟩
    refine ⟨fault, ⟨t, text?_eq_some_iff.mp ht, ?_, hfault⟩, rfl⟩
    -- a text that means something is read without a fault
    intro a ha
    rw [Field.reader_eq_ok_iff.mpr ha] at hfault
    cases hfault
  · rintro ⟨fault, ⟨t, ht, -, hfault⟩, rfl⟩
    exact ⟨t, fault, text?_eq_some_iff.mpr ht, hfault, rfl⟩

/-- Only what a variable is set to matters. -/
theorem setting_congr {f : Field α} (hstem : w.stem = v.stem)
    (h : ∀ t, w.Holds f.variableName t ↔ v.Holds f.variableName t) : w.setting f = v.setting f := by
  have htext : w.text? f.variableName = v.text? f.variableName := by
    apply Option.ext
    intro t
    rw [text?_eq_some_iff, text?_eq_some_iff, h]
  rw [setting, setting, read, read, htext, key, key, hstem]

/-! ## The layer -/

/-- The layer, with all fields read in the same way. -/
theorem layer_eq (v : Variables) :
    v.layer = do
      let enabled ← v.setting .enabled
      let mode ← v.setting .authenticationMode
      let strict ← v.setting .strictSubstitution
      let connections ← v.setting .maxConnections
      let timeout ← v.setting .busyTimeout
      return ⟨some ⟨enabled, mode, strict⟩, some v.tables, some ⟨v.text? "DATABASE_URL", connections, timeout⟩⟩ := by
  unfold layer authorization database
  simp only [bind_assoc, pure_bind]
  rfl

end Variables

/-- Every section is present. -/
def Layer.Complete (l : Layer) : Prop :=
  l.authorization.isSome = true ∧ l.tables.isSome = true ∧ l.database.isSome = true

namespace Variables

variable {v w : Variables}

theorem bind_eq_ok_iff {β : Type} {x : Except Error α} {k : α → Except Error β} {b : β} :
    (x >>= k) = .ok b ↔ ∃ a, x = .ok a ∧ k a = .ok b := by
  cases x with
  | ok a =>
    simp only [Except.ok.injEq, exists_eq_left']
    rfl
  | error e =>
    refine iff_of_false ?_ ?_
    · rintro ⟨⟩
    · rintro ⟨a, ⟨⟩, -⟩

theorem layer_eq_ok_iff {l : Layer} :
    v.layer = .ok l ↔ l.Complete ∧ ∀ (α : Type) (f : Field α), v.setting f = .ok (f.given l) := by
  rw [layer_eq]
  simp only [bind_eq_ok_iff]
  constructor
  · rintro ⟨enabled, henabled, mode, hmode, strict, hstrict, connections, hconnections, timeout, htimeout, ⟨⟩⟩
    refine ⟨⟨rfl, rfl, rfl⟩, ?_⟩
    intro α f
    cases f with
    | enabled => exact henabled
    | authenticationMode => exact hmode
    | strictSubstitution => exact hstrict
    | groupTable | groupAccessTable | ruleTable | userTable | databaseUrl => exact read_ok
    | maxConnections => exact hconnections
    | busyTimeout => exact htimeout
  · obtain ⟨_ | ⟨enabled, mode, strict⟩, _ | ⟨group, groupAccess, rule, user⟩, _ | ⟨url, connections, timeout⟩⟩ := l
    -- only the layer with all sections is complete
    all_goals rintro ⟨⟨⟨⟩, ⟨⟩, ⟨⟩⟩, h⟩
    have htext {f : Field String} (hf : v.setting f = .ok (v.text? f.variableName)) :
        v.text? f.variableName = f.given ⟨some ⟨enabled, mode, strict⟩, some ⟨group, groupAccess, rule, user⟩,
          some ⟨url, connections, timeout⟩⟩ := Except.ok.inj (hf.symm.trans (h _ f))
    obtain rfl : v.text? "TABLE_GROUP" = group := htext (f := .groupTable) read_ok
    obtain rfl : v.text? "TABLE_GROUP_ACCESS" = groupAccess := htext (f := .groupAccessTable) read_ok
    obtain rfl : v.text? "TABLE_RULE" = rule := htext (f := .ruleTable) read_ok
    obtain rfl : v.text? "TABLE_USER" = user := htext (f := .userTable) read_ok
    obtain rfl : v.text? "DATABASE_URL" = url := htext (f := .databaseUrl) read_ok
    exact ⟨enabled, h _ .enabled, mode, h _ .authenticationMode, strict, h _ .strictSubstitution,
      connections, h _ .maxConnections, timeout, h _ .busyTimeout, rfl⟩

/-- The fields of which not every text has a meaning, in the order in which they are read. -/
def checked : List ((α : Type) × Field α) :=
  [⟨_, .enabled⟩, ⟨_, .authenticationMode⟩, ⟨_, .strictSubstitution⟩, ⟨_, .maxConnections⟩, ⟨_, .busyTimeout⟩]

/-- The error of the variable of a field, if it has one. -/
def fault? (v : Variables) (f : (α : Type) × Field α) : Option Error :=
  match v.setting f.2 with
  | .ok _ => none
  | .error e => some e

theorem bind_eq_error_iff {β : Type} {f : Field α} {k : Option α → Except Error β}
    {rest : List ((α : Type) × Field α)} {e : Error} (h : ∀ o, k o = .error e ↔ rest.findSome? v.fault? = some e) :
    (v.setting f >>= k) = .error e ↔ List.findSome? v.fault? (⟨α, f⟩ :: rest) = some e := by
  rw [List.findSome?_cons, fault?]
  cases v.setting f with
  | ok o => exact h o
  | error e' =>
    show Except.error e' = .error e ↔ some e' = some e
    rw [Except.error.injEq, Option.some.injEq]

/-- The first error of the checked fields is that of the layer. -/
theorem layer_eq_error_iff {e : Error} : v.layer = .error e ↔ checked.findSome? v.fault? = some e := by
  rw [layer_eq]
  -- one bind for each checked field, in their order; what is put together from them cannot fail
  apply bind_eq_error_iff
  intro enabled
  apply bind_eq_error_iff
  intro mode
  apply bind_eq_error_iff
  intro strict
  apply bind_eq_error_iff
  intro connections
  apply bind_eq_error_iff
  intro timeout
  refine iff_of_false ?_ (Option.some_ne_none e).symm
  rintro ⟨⟩

/-- The variable of a field is set to a text without a meaning. -/
def Offends (v : Variables) (f : Field α) : Prop := ∃ fault, v.Complains f fault

/-- The variable of a checked field is wrong, and those of the fields before it are not. -/
def FirstOffending (v : Variables) (f : (α : Type) × Field α) : Prop :=
  ∃ before after, checked = before ++ f :: after ∧ v.Offends f.2 ∧ ∀ g ∈ before, ¬ v.Offends g.2

theorem fault?_eq_some_iff {f : (α : Type) × Field α} {e : Error} :
    v.fault? f = some e ↔
      ∃ fault, v.Complains f.2 fault ∧ e = .invalidValue (v.key f.2.variableName) fault := by
  rw [← setting_eq_error_iff, fault?]
  cases v.setting f.2 with
  | ok o =>
    refine iff_of_false (Option.some_ne_none e).symm ?_
    rintro ⟨⟩
  | error e' =>
    rw [Except.error.injEq, Option.some.injEq]

theorem fault?_eq_none_iff {f : (α : Type) × Field α} : v.fault? f = none ↔ ¬ v.Offends f.2 := by
  rw [← not_iff_not, not_not, ← Ne, Option.ne_none_iff_exists']
  constructor
  · rintro ⟨e, he⟩
    obtain ⟨fault, hfault, -⟩ := fault?_eq_some_iff.mp he
    exact ⟨fault, hfault⟩
  · rintro ⟨fault, hfault⟩
    exact ⟨_, fault?_eq_some_iff.mpr ⟨fault, hfault, rfl⟩⟩

theorem firstFault_iff {e : Error} :
    checked.findSome? v.fault? = some e ↔
      ∃ f fault, v.FirstOffending f ∧ v.Complains f.2 fault ∧ e = .invalidValue (v.key f.2.variableName) fault := by
  rw [List.findSome?_eq_some_iff]
  constructor
  · rintro ⟨before, f, after, hchecked, hf, hbefore⟩
    obtain ⟨fault, hfault, he⟩ := fault?_eq_some_iff.mp hf
    refine ⟨f, fault, ⟨before, after, hchecked, ⟨fault, hfault⟩, ?_⟩, hfault, he⟩
    intro g hg
    exact fault?_eq_none_iff.mp (hbefore g hg)
  · rintro ⟨f, fault, ⟨before, after, hchecked, -, hbefore⟩, hfault, he⟩
    refine ⟨before, f, after, hchecked, fault?_eq_some_iff.mpr ⟨fault, hfault, he⟩, ?_⟩
    intro g hg
    exact fault?_eq_none_iff.mpr (hbefore g hg)

/-- There is a layer when each variable either leaves its field open or gives it a value. -/
theorem exists_layer_iff : (∃ l, v.layer = .ok l) ↔ ∀ (α : Type) (f : Field α), ∃ o, v.Gives f o := by
  constructor
  · rintro ⟨l, hl⟩ α f
    exact ⟨_, setting_eq_ok_iff.mp ((layer_eq_ok_iff.mp hl).2 α f)⟩
  · intro h
    cases hl : v.layer with
    | ok l => exact ⟨l, rfl⟩
    | error e =>
      obtain ⟨before, f, after, -, hf, -⟩ := List.findSome?_eq_some_iff.mp (layer_eq_error_iff.mp hl)
      obtain ⟨o, ho⟩ := h f.1 f.2
      rw [fault?, setting_eq_ok_iff.mpr ho] at hf
      cases hf

theorem layer_congr (hstem : w.stem = v.stem)
    (h : ∀ (α : Type) (f : Field α) (t : String), w.Holds f.variableName t ↔ v.Holds f.variableName t) :
    w.layer = v.layer := by
  have hsetting {α : Type} (f : Field α) : w.setting f = v.setting f := setting_congr hstem (h α f)
  have hok (l : Layer) : w.layer = .ok l ↔ v.layer = .ok l := by
    rw [layer_eq_ok_iff, layer_eq_ok_iff]
    simp only [hsetting]
  have hfault : w.fault? = v.fault? := by
    funext f
    rw [fault?, fault?, hsetting]
  cases hv : v.layer with
  | ok l => exact (hok l).mpr hv
  | error e =>
    rw [layer_eq_error_iff, hfault, ← layer_eq_error_iff]
    exact hv

end Variables

/-- **The layer of the environment**, under any stem. It exists if each of the ten variables is not set or means a value
    for its field, and it has all sections and the fields with these values. Else the error is that of the first wrong
    variable: its name, with what the reader of its text says. Nothing but the texts of the ten variables matters. -/
theorem environment_layer (v : Variables) :
    ((∃ l, v.layer = .ok l) ↔ ∀ (α : Type) (f : Field α), ∃ o, v.Gives f o) ∧
    (∀ l, v.layer = .ok l ↔ l.Complete ∧ ∀ (α : Type) (f : Field α), v.Gives f (f.given l)) ∧
    (∀ e, v.layer = .error e ↔ ∃ f fault, v.FirstOffending f ∧ v.Complains f.2 fault ∧
      e = .invalidValue (v.stem ++ "_" ++ f.2.variableName) fault) ∧
    ∀ w : Variables, w.stem = v.stem →
      (∀ (α : Type) (f : Field α) (t : String), w.Holds f.variableName t ↔ v.Holds f.variableName t) →
        w.layer = v.layer := by
  refine ⟨Variables.exists_layer_iff, ?_, ?_, ?_⟩
  · intro l
    rw [Variables.layer_eq_ok_iff]
    simp only [Variables.setting_eq_ok_iff]
  · intro e
    exact Variables.layer_eq_error_iff.trans Variables.firstFault_iff
  · intro w hstem h
    exact Variables.layer_congr hstem h

/-- A variable under another stem is not looked at, whatever it holds. -/
theorem environment_layer_other_stem :
    Variables.layer ⟨fun key => if key = "RULEAUTH_ENABLED" then some "No".toUTF8
        else if key = "OTHER_ENABLED" then some "maybe".toUTF8 else none, "RULEAUTH"⟩ =
      Variables.layer ⟨fun key => if key = "RULEAUTH_ENABLED" then some "No".toUTF8 else none, "RULEAUTH"⟩ := by
  refine (environment_layer ⟨fun key => if key = "RULEAUTH_ENABLED" then some "No".toUTF8 else none, "RULEAUTH"⟩).2.2.2
    _ rfl ?_
  intro α f t
  unfold Variables.Holds
  dsimp only
  have hkey : "RULEAUTH" ++ "_" ++ f.variableName ≠ "OTHER_ENABLED" := by
    cases f <;> decide
  rw [if_neg hkey]

end Entitlement.Config
