import Mathlib.Data.List.Basic
import RecordQuery.Record.Decoding
import RecordQuery.Record.Encoding

/-!
# Forms of records

The same record can be written in many forms: as the object with its parts that is written for it, with the
fields of an object in any order and fields of other names among them, and as an array of the parts. All
forms are read alike, and what is no record in one form is none in another.
-/

namespace RecordQuery

open Json (Value)

/-! ## Fields -/

section Fields

variable {fields others : List (String × Value)} {name : String}

/-- The fields of certain names in any order, among fields of other names. -/
def Rearranged (names : List String) (fields others : List (String × Value)) :
    Prop :=
  ∃ additions : List (String × Value),
    (∀ field ∈ additions, field.1 ∉ names) ∧ others.Perm (fields ++ additions)

theorem fieldOf?_of_perm (perm : others.Perm fields) (name : String) :
    fieldOf? others name = fieldOf? fields name := by
  have named := perm.filter (fun field => field.1 == name)
  rw [fieldOf?, fieldOf?]
  cases found : fields.filter (fun field => field.1 == name) with
  | nil =>
      rw [found] at named
      rw [named.eq_nil]
  | cons field further =>
      rw [found] at named
      cases further with
      | nil => rw [named.eq_singleton]
      | cons second further =>
          have several := named.length_eq
          split
          · next none => simp [none] at several
          · next single => simp [single] at several
          · rfl

theorem fieldOf?_append_of_absent {additions : List (String × Value)}
    (absent : ∀ field ∈ additions, field.1 ≠ name) :
    fieldOf? (fields ++ additions) name = fieldOf? fields name := by
  have nothing : additions.filter (fun field => field.1 == name) = [] := by
    rw [List.filter_eq_nil_iff]
    intro field member
    simpa using absent field member
  rw [fieldOf?, fieldOf?, List.filter_append, nothing, List.append_nil]

theorem fieldOf?_of_rearranged {names : List String}
    (rearranged : Rearranged names fields others) (known : name ∈ names) :
    fieldOf? others name = fieldOf? fields name := by
  obtain ⟨additions, unknown, perm⟩ := rearranged
  rw [fieldOf?_of_perm perm, fieldOf?_append_of_absent]
  exact fun field member same => unknown field member (same ▸ known)

/-- A value in the place of another one matters only where its field is read. -/
theorem fieldOf?_replaced_of_ne {before behind : List (String × Value)}
    {key : String} (different : key ≠ name) (value value' : Value) :
    fieldOf? (before ++ (key, value') :: behind) name =
      fieldOf? (before ++ (key, value) :: behind) name := by
  have notNamed : ¬ (key == name) = true := by simpa using different
  simp only [fieldOf?, List.filter_append, List.filter_cons, if_neg notNamed]

/-- Values that are read alike can stand in the place of each other. -/
theorem optionalField_replaced {α : Type} {default : α}
    {read : Value → Option α} {value value' : Value}
    (alike : read value' = read value) (before behind : List (String × Value)) :
    optionalField (before ++ (name, value') :: behind) name default read =
      optionalField (before ++ (name, value) :: behind) name default read := by
  have named (value : Value) :
      (before ++ (name, value) :: behind).filter (fun field => field.1 == name) =
        before.filter (fun field => field.1 == name) ++
          (name, value) :: behind.filter (fun field => field.1 == name) := by
    simp [List.filter_append]
  rw [optionalField, optionalField, fieldOf?, fieldOf?, named, named]
  cases before.filter (fun field => field.1 == name) with
  | nil =>
      cases behind.filter (fun field => field.1 == name) with
      | nil => exact alike
      | cons => rfl
  | cons first further => cases further <;> rfl

end Fields

/-! ## Signals -/

namespace Signals

/-- The names of the fields, in the order of the items of an array. -/
def fieldNames : List String :=
  ["error_suffix", "running_agent", "running_process"]

theorem ofJson?_fields (signals : Signals) :
    ofJson? (.object signals.fields) = some signals := by
  simp [ofJson?, fields, optionalField, fieldOf?, orDefault, truthOf?]

theorem ofJson?_of_rearranged {fields others : List (String × Value)}
    (rearranged : Rearranged fieldNames fields others) :
    ofJson? (.object others) = ofJson? (.object fields) := by
  have same (name : String) (known : name ∈ fieldNames) :
      fieldOf? others name = fieldOf? fields name :=
    fieldOf?_of_rearranged rearranged known
  simp only [ofJson?, optionalField, same "error_suffix" (by decide),
    same "running_agent" (by decide), same "running_process" (by decide)]

/-- An array of at most three items is read as the object with these for the fields. -/
theorem ofJson?_array (items : List Value) :
    ofJson? (.array items) =
      if items.length ≤ fieldNames.length then
        ofJson? (.object (fieldNames.zip items))
      else none := by
  match items with
  | [] => rfl
  | [errorSuffix] =>
      simp [ofJson?, fieldNames, optionalField, fieldOf?]
  | [errorSuffix, runningAgent] =>
      simp [ofJson?, fieldNames, optionalField, fieldOf?]
  | [errorSuffix, runningAgent, runningProcess] =>
      simp [ofJson?, fieldNames, optionalField, fieldOf?]
  | _ :: _ :: _ :: _ :: others =>
      have tooMany : ¬ others.length + 4 ≤ 3 := by omega
      exact (if_neg tooMany).symm

end Signals

/-! ## Records -/

namespace Record

/-- The names of the fields, in the order of the items of an array. -/
def fieldNames : List String :=
  ["name", "description", "status", "parent", "file_path", "signals"]

theorem ofJson?_toJson (record : Record) :
    ofJson? record.toJson = some record := by
  obtain ⟨name, description, status, parent, filePath, signals⟩ := record
  cases parent <;>
    simp [ofJson?, ofFields?, toJson, requiredField, optionalField, fieldOf?,
      optionalText, orDefault, textOf?, parentOf?, Signals.ofJson?_fields]

/-- What is read from the fields of an object depends on those with the names of the parts. -/
theorem ofFields?_congr {fields others : List (String × Value)}
    (same : ∀ name ∈ fieldNames, name ≠ "signals" →
      fieldOf? others name = fieldOf? fields name)
    (signals : optionalField others "signals" Signals.quiet Signals.ofJson? =
      optionalField fields "signals" Signals.quiet Signals.ofJson?) :
    ofFields? others = ofFields? fields := by
  rw [ofFields?, ofFields?, signals]
  simp only [requiredField, optionalField, same "name" (by decide) (by decide),
    same "description" (by decide) (by decide),
    same "status" (by decide) (by decide), same "parent" (by decide) (by decide),
    same "file_path" (by decide) (by decide)]

theorem ofJson?_of_rearranged {fields others : List (String × Value)}
    (rearranged : Rearranged fieldNames fields others) :
    ofJson? (.object others) = ofJson? (.object fields) := by
  have same (name : String) (known : name ∈ fieldNames) :
      fieldOf? others name = fieldOf? fields name :=
    fieldOf?_of_rearranged rearranged known
  refine ofFields?_congr (fun name known _ => same name known) ?_
  rw [optionalField, optionalField, same "signals" (by decide)]

theorem ofJson?_of_signals {value value' : Value}
    (alike : Signals.ofJson? value' = Signals.ofJson? value)
    (before behind : List (String × Value)) :
    ofJson? (.object (before ++ ("signals", value') :: behind)) =
      ofJson? (.object (before ++ ("signals", value) :: behind)) := by
  refine ofFields?_congr (fun name _ other => ?_) ?_
  · exact fieldOf?_replaced_of_ne (Ne.symm other) value value'
  · exact optionalField_replaced alike before behind

theorem ofJson?_of_no_filePath {fields : List (String × Value)}
    (absent : fieldOf? fields "file_path" = some none) :
    ofJson? (.object fields) = none := by
  have missing : requiredField fields "file_path" textOf? = none := by
    rw [requiredField, absent]
    rfl
  simp [ofJson?, ofFields?, missing]

/-- An array of at most six items is read as the object with these for the fields. With fewer than five
there is no file. -/
theorem ofJson?_array (items : List Value) :
    ofJson? (.array items) =
      if items.length ≤ fieldNames.length then
        ofJson? (.object (fieldNames.zip items))
      else none := by
  have nothing (few : List Value) (short : few.length ≤ fieldNames.length)
      (noItems : ofItems? few = none)
      (absent : fieldOf? (fieldNames.zip few) "file_path" = some none) :
      ofJson? (.array few) =
        if few.length ≤ fieldNames.length then
          ofJson? (.object (fieldNames.zip few))
        else none := by
    rw [if_pos short, ofJson?_of_no_filePath absent]
    exact noItems
  match items with
  | [] => exact nothing _ (by simp [fieldNames]) rfl rfl
  | [_] => exact nothing _ (by simp [fieldNames]) rfl rfl
  | [_, _] => exact nothing _ (by simp [fieldNames]) rfl rfl
  | [_, _, _] => exact nothing _ (by simp [fieldNames]) rfl rfl
  | [_, _, _, _] => exact nothing _ (by simp [fieldNames]) rfl rfl
  | [name, description, status, parent, filePath] =>
      simp [ofJson?, ofItems?, ofFields?, fieldNames, requiredField,
        optionalField, fieldOf?, orDefault]
  | [name, description, status, parent, filePath, signals] =>
      simp [ofJson?, ofItems?, ofFields?, fieldNames, requiredField,
        optionalField, fieldOf?, orDefault]
  | _ :: _ :: _ :: _ :: _ :: _ :: _ :: others =>
      have tooMany : ¬ others.length + 7 ≤ 6 := by omega
      refine Eq.trans ?_ (if_neg tooMany).symm
      simp [ofJson?, ofItems?]

/-- A record is read from what is written for it. Objects are read without regard to the order of their
fields and to fields of other names, among the signals too, and arrays are read as the objects with their
items for the fields. -/
theorem ofJson?_of_forms :
    (∀ record : Record, ofJson? record.toJson = some record) ∧
    (∀ fields others, Rearranged fieldNames fields others →
      ofJson? (.object others) = ofJson? (.object fields)) ∧
    (∀ before behind signals signals',
      Rearranged Signals.fieldNames signals signals' →
      ofJson? (.object (before ++ ("signals", .object signals') :: behind)) =
        ofJson? (.object (before ++ ("signals", .object signals) :: behind))) ∧
    (∀ name description status parent filePath : Value,
      let fields := [("name", name), ("description", description),
        ("status", status), ("parent", parent), ("file_path", filePath)]
      ofJson? (.array [name, description, status, parent, filePath]) =
        ofJson? (.object fields) ∧
      ∀ signals,
        ofJson? (.array
            [name, description, status, parent, filePath, signals]) =
          ofJson? (.object (fields ++ [("signals", signals)]))) ∧
    ∀ before behind items, items.length ≤ 3 →
      ofJson? (.object (before ++ ("signals", .array items) :: behind)) =
        ofJson? (.object (before ++
          ("signals", .object (Signals.fieldNames.zip items)) :: behind)) := by
  refine ⟨ofJson?_toJson, fun _ _ => ofJson?_of_rearranged,
    fun before behind _ _ rearranged => ?_,
    fun name description status parent filePath => ⟨?_, fun signals => ?_⟩,
    fun before behind items few => ?_⟩
  · exact ofJson?_of_signals (Signals.ofJson?_of_rearranged rearranged) _ _
  · exact ofJson?_array [name, description, status, parent, filePath]
  · exact ofJson?_array [name, description, status, parent, filePath, signals]
  · refine ofJson?_of_signals ?_ before behind
    exact (Signals.ofJson?_array items).trans (if_pos few)

/-- Fields in another order, unknown ones among them and among the signals. -/
theorem ofJson?_of_forms_rearranged :
    let signals : List (String × Value) :=
      [("error_suffix", .bool false), ("running_agent", .bool true)]
    let fields : List (String × Value) :=
      [("name", .string "link"), ("status", .string "Mailed"),
        ("file_path", .string "/p/a.gp")]
    Rearranged Signals.fieldNames signals
      [("seen", .null), ("running_agent", .bool true),
        ("error_suffix", .bool false)] ∧
    Rearranged fieldNames (fields ++ [("signals", .object signals)])
      [("owner", .unreadable), ("signals", .object signals),
        ("file_path", .string "/p/a.gp"), ("status", .string "Mailed"),
        ("name", .string "link")] ∧
    ofJson? (.object (fields ++ [("signals", .object
      [("seen", .null), ("running_agent", .bool true),
        ("error_suffix", .bool false)])])) =
      some ⟨"link", "", "Mailed", none, "/p/a.gp", ⟨false, true, false⟩⟩ ∧
    ofJson? (.object
      [("owner", .unreadable), ("signals", .object signals),
        ("file_path", .string "/p/a.gp"), ("status", .string "Mailed"),
        ("name", .string "link")]) =
      some ⟨"link", "", "Mailed", none, "/p/a.gp", ⟨false, true, false⟩⟩ := by
  intro signals fields
  obtain ⟨_, reordered, nested, _⟩ := ofJson?_of_forms
  have inner : Rearranged Signals.fieldNames signals
      [("seen", .null), ("running_agent", .bool true),
        ("error_suffix", .bool false)] := by
    exact ⟨[("seen", .null)], by simp [Signals.fieldNames],
      List.reverse_perm (signals ++ [("seen", Value.null)])⟩
  have outer : Rearranged fieldNames (fields ++ [("signals", .object signals)])
      [("owner", .unreadable), ("signals", .object signals),
        ("file_path", .string "/p/a.gp"), ("status", .string "Mailed"),
        ("name", .string "link")] := by
    exact ⟨[("owner", .unreadable)], by simp [fieldNames],
      List.reverse_perm (fields ++ [("signals", Value.object signals)] ++
        [("owner", Value.unreadable)])⟩
  have read : ofJson? (.object (fields ++ [("signals", .object signals)])) =
      some ⟨"link", "", "Mailed", none, "/p/a.gp", ⟨false, true, false⟩⟩ := rfl
  exact ⟨inner, outer, (nested fields [] _ _ inner).trans read,
    (reordered _ _ outer).trans read⟩

end Record

end RecordQuery
