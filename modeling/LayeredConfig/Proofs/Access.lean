import LayeredConfig.Access

/-!
# What readers hand out

A reader gives the text or the list under a key.  The text is that of the value itself, though a
boolean is made text before; a list that cannot be read is malformed, and no reader fails otherwise.
-/

set_option autoImplicit false

namespace LayeredConfig

theorem Value.envText_normalized (value : Value) : value.normalized.envText = value.envText := by
  cases value <;> rfl

theorem Value.map_envText_text (texts : List String) :
    (texts.map Value.text).map Value.envText = texts := by
  rw [List.map_map]
  exact List.map_id _

/-! ## Lists -/

namespace Value

/-- A value that readers of lists take by its text: a boolean, a number or a text. -/
def Scalar : Value → Prop
  | .bool _ | .integer _ | .float _ | .text _ => True
  | .null | .list _ | .map _ => False

theorem listInText_empty (key : String) : listInText key "" = .ok [] := by
  rw [listInText, if_pos (String.isEmpty_iff.mpr rfl)]

/-- A text that does not look like an array is split at its commas. -/
theorem listInText_of_commas {text : String} (nonempty : text ≠ "")
    (plain : text.toList.head? ≠ some '[') (key : String) :
    listInText key text = .ok ((Text.splitText ',' text).map .text) := by
  have holds : ¬ text.isEmpty = true := by
    rw [String.isEmpty_iff]
    exact nonempty
  rw [listInText, if_neg holds, if_neg plain]

theorem listInText_of_bracket {text : String} (array : text.toList.head? = some '[')
    (key : String) :
    listInText key text =
      match Json.parse? text.toList with
      | none => .error (.malformedList key .json)
      | some (.list items) => .ok items
      | some _ => .error (.malformedList key .notAnArray) := by
  have holds : ¬ text.isEmpty = true := by
    rw [String.isEmpty_iff]
    rintro rfl
    cases array
  exact (if_neg holds).trans (if_pos array)

end Value

theorem Value.malformed_of_listInText {key text : String} {error : ConfigError}
    (failed : Value.listInText key text = .error error) :
    ∃ fault, error = .malformedList key fault := by
  unfold Value.listInText at failed
  split at failed
  · cases failed
  · split at failed
    · split at failed
      · cases failed
        exact ⟨_, rfl⟩
      · cases failed
      · cases failed
        exact ⟨_, rfl⟩
    · cases failed

theorem Value.malformed_of_listUnder {key : String} {value : Value} {error : ConfigError}
    (failed : value.listUnder key = .error error) :
    ∃ fault, error = .malformedList key fault := by
  unfold Value.listUnder at failed
  split at failed
  · cases failed
  · cases failed
  · cases failed
    exact ⟨_, rfl⟩
  · cases listed : Value.listInText key value.envText with
    | ok items =>
        rw [listed] at failed
        cases failed
    | error fault =>
        rw [listed] at failed
        cases failed
        exact Value.malformed_of_listInText listed

theorem Value.malformed_of_argumentsUnder {key : String} {value : Value} {error : ConfigError}
    (failed : value.argumentsUnder key = .error error) :
    ∃ fault, error = .malformedList key fault := by
  unfold Value.argumentsUnder at failed
  split at failed
  · cases failed
  · cases failed
  · cases failed
    exact ⟨_, rfl⟩
  · rw [Value.wordsInText] at failed
    cases words : Shell.words? value.envText with
    | some arguments =>
        rw [words] at failed
        cases failed
    | none =>
        rw [words] at failed
        cases failed
        exact ⟨_, rfl⟩

theorem Value.listUnder_of_scalar {value : Value} (scalar : value.Scalar) (key : String) :
    value.listUnder key = (listInText key value.envText).map some := by
  cases value <;> first | rfl | exact absurd scalar id

theorem Value.argumentsUnder_of_scalar {value : Value} (scalar : value.Scalar) (key : String) :
    value.argumentsUnder key = (wordsInText key value.envText).map some := by
  cases value <;> first | rfl | exact absurd scalar id

theorem Value.Scalar.normalized {value : Value} (scalar : value.Scalar) :
    value.normalized.Scalar := by
  cases value with
  | null => exact absurd scalar id
  | bool b => trivial
  | integer n => trivial
  | float x => trivial
  | text text => trivial
  | list items => exact absurd scalar id
  | map entries => exact absurd scalar id

theorem Value.listUnder_eq_none_iff {key : String} {value : Value} :
    value.listUnder key = .ok none ↔ value = .null := by
  have listed : ∀ result : Except ConfigError (List Value), result.map some ≠ .ok none := by
    intro result
    cases result <;> exact nofun
  cases value <;> simp [Value.listUnder, listed]

theorem Value.argumentsUnder_eq_none_iff {key : String} {value : Value} :
    value.argumentsUnder key = .ok none ↔ value = .null := by
  have worded : ∀ result : Except ConfigError (List String), result.map some ≠ .ok none := by
    intro result
    cases result <;> exact nofun
  cases value <;> simp [Value.argumentsUnder, worded]

theorem Value.normalized_eq_null_iff {value : Value} :
    value.normalized = .null ↔ value = .null := by
  cases value <;> simp [Value.normalized]

namespace Document

variable {first second document : Document} {key : String}

theorem text?_eq (document : Document) (key : String) :
    document.text? key = (Mapping.get? document key).map Value.envText := by
  rw [text?, value?, Option.map_map]
  congr 1
  exact funext Value.envText_normalized

theorem list?_congr (same : Mapping.get? first key = Mapping.get? second key) :
    first.list? key = second.list? key := by
  rw [list?, list?, value?, value?, same]

theorem malformed_of_list? {error : ConfigError} (failed : document.list? key = .error error) :
    ∃ fault, error = .malformedList key fault := by
  unfold list? at failed
  split at failed
  · cases failed
  · exact Value.malformed_of_listUnder failed

theorem list?_of_scalar {value : Value} (found : Mapping.get? document key = some value)
    (scalar : value.Scalar) :
    document.list? key = (Value.listInText key value.envText).map some := by
  rw [list?, value?, found, Option.map_some]
  simp only [Value.listUnder_of_scalar scalar.normalized, Value.envText_normalized]

theorem list?_of_text {text : String} (found : Mapping.get? document key = some (.text text)) :
    document.list? key = (Value.listInText key text).map some := by
  rw [list?_of_scalar found trivial, Value.envText]

theorem list?_of_list {items : List Value}
    (found : Mapping.get? document key = some (.list items)) :
    document.list? key = .ok (some items) := by
  rw [list?, value?, found]
  rfl

theorem list?_of_map {entries : List (String × Value)}
    (found : Mapping.get? document key = some (.map entries)) :
    document.list? key = .error (.malformedList key .mapAsList) := by
  rw [list?, value?, found]
  rfl

theorem arguments?_of_scalar {value : Value} (found : Mapping.get? document key = some value)
    (scalar : value.Scalar) :
    document.arguments? key = (Value.wordsInText key value.envText).map some := by
  rw [arguments?, value?, found, Option.map_some]
  simp only [Value.argumentsUnder_of_scalar scalar.normalized, Value.envText_normalized]

theorem arguments?_of_text {text : String}
    (found : Mapping.get? document key = some (.text text)) :
    document.arguments? key = (Value.wordsInText key text).map some := by
  rw [arguments?_of_scalar found trivial, Value.envText]

theorem arguments?_of_list {items : List Value}
    (found : Mapping.get? document key = some (.list items)) :
    document.arguments? key = .ok (some (items.map Value.envText)) := by
  rw [arguments?, value?, found]
  rfl

theorem arguments?_of_map {entries : List (String × Value)}
    (found : Mapping.get? document key = some (.map entries)) :
    document.arguments? key = .error (.malformedList key .mapAsArguments) := by
  rw [arguments?, value?, found]
  rfl

/-- There is no list under a key that is absent or null, and under no other key. -/
theorem list?_eq_none_iff :
    document.list? key = .ok none ↔
      Mapping.get? document key = none ∨ Mapping.get? document key = some .null := by
  rw [list?, value?]
  cases Mapping.get? document key with
  | none => simp
  | some value =>
      rw [Option.map_some]
      simp only [Value.listUnder_eq_none_iff, Value.normalized_eq_null_iff, reduceCtorEq, false_or,
        Option.some.injEq]

/-- There are no arguments under a key that is absent or null, and under no other key. -/
theorem arguments?_eq_none_iff :
    document.arguments? key = .ok none ↔
      Mapping.get? document key = none ∨ Mapping.get? document key = some .null := by
  rw [arguments?, value?]
  cases Mapping.get? document key with
  | none => simp
  | some value =>
      rw [Option.map_some]
      simp only [Value.argumentsUnder_eq_none_iff, Value.normalized_eq_null_iff, reduceCtorEq,
        false_or, Option.some.injEq]

theorem listOr_of_ok {items : Option (List Value)} (listed : document.list? key = .ok items)
    (default : List Value) : document.listOr key default = .ok (items.getD default) := by
  rw [listOr, listed]
  rfl

theorem listOr_of_error {error : ConfigError} (failed : document.list? key = .error error)
    (default : List Value) : document.listOr key default = .error error := by
  rw [listOr, failed]
  rfl

theorem malformed_of_listOr {default : List Value} {error : ConfigError}
    (failed : document.listOr key default = .error error) :
    ∃ fault, error = .malformedList key fault := by
  cases listed : document.list? key with
  | ok items =>
      rw [listOr_of_ok listed] at failed
      cases failed
  | error fault =>
      rw [listOr_of_error listed] at failed
      cases failed
      exact malformed_of_list? listed

theorem malformed_of_arguments? {error : ConfigError}
    (failed : document.arguments? key = .error error) :
    ∃ fault, error = .malformedList key fault := by
  unfold arguments? at failed
  split at failed
  · cases failed
  · exact Value.malformed_of_argumentsUnder failed

end Document

end LayeredConfig
