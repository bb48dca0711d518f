import LayeredConfig.Proofs.Decimal.Plain
import LayeredConfig.Proofs.ListText

/-!
# Lists with commas

A text that is not empty and does not look like an array is a list of the parts between its commas,
and the parts with commas between them are the text again.  So a list of names may be written with
commas, as JSON text or as a list, and it is read as the same names.  The lists of secured names
are no exception: whichever way they are written, the same variables are hidden.
-/

set_option autoImplicit false

namespace LayeredConfig

/-! ## Texts of numbers -/

namespace Value

theorem envText_ofList_ne {c : Char} {more text : List Char} (starts : text = c :: more)
    (noArray : c ≠ '[') :
    String.ofList text ≠ "" ∧ (String.ofList text).toList.head? ≠ some '[' := by
  subst starts
  rw [String.toList_ofList]
  constructor
  · intro empty
    have noCharacters := congrArg String.toList empty
    rw [String.toList_ofList] at noCharacters
    cases noCharacters
  · intro leads
    exact noArray (Option.some.inj leads)

/-- The text of a number or a boolean is neither empty nor like an array. -/
theorem envText_of_not_text {value : Value} (scalar : value.Scalar)
    (noText : ∀ text, value ≠ .text text) :
    value.envText ≠ "" ∧ value.envText.toList.head? ≠ some '[' := by
  cases value with
  | bool b => cases b <;> decide
  | integer n =>
      obtain ⟨c, more, text, starts⟩ := Json.exists_startsNumber n.toInt
      exact envText_ofList_ne text (starts.ne '[' (by decide))
  | float x =>
      obtain ⟨c, more, text, noArray⟩ := Decimal.exists_plain x
      exact envText_ofList_ne text noArray
  | text text => exact absurd rfl (noText text)
  | null => exact absurd scalar id
  | list items => exact absurd scalar id
  | map entries => exact absurd scalar id

theorem texts_are_plain (texts : List String) :
    CanonicalItems (texts.map .text) ∧ FloatFreeItems (texts.map .text) ∧
      nestingItems (texts.map .text) = 0 := by
  induction texts with
  | nil => exact ⟨trivial, trivial, rfl⟩
  | cons text texts ih =>
      obtain ⟨canonical, floatFree, flat⟩ := ih
      refine ⟨⟨trivial, canonical⟩, ⟨trivial, floatFree⟩, ?_⟩
      simp only [List.map_cons, nestingItems, nesting, flat, Nat.max_self]

/-- A list of texts is read back from its text. -/
theorem listInText_texts (key : String) (texts : List String) :
    listInText key (Value.list (texts.map .text)).envText = .ok (texts.map .text) := by
  obtain ⟨canonical, floatFree, flat⟩ := texts_are_plain texts
  apply listInText_envText key canonical floatFree
  rw [nesting, flat]
  decide

end Value

/-! ## Ways to write a list -/

/-- Names that commas keep apart: there is no comma in them, and their row is neither empty nor like
an array. -/
structure Separable (names : List String) : Prop where
  bare : ∀ name ∈ names, ',' ∉ name.toList
  nonempty : Text.joinTexts ',' names ≠ ""
  noArray : (Text.joinTexts ',' names).toList.head? ≠ some '['

/-- The ways to write a list of names. -/
inductive Spells (names : List String) : Value → Prop where
  | commas : Spells names (.text (Text.joinTexts ',' names))
  | json : Spells names (.text (Value.list (names.map .text)).envText)
  | list : Spells names (.list (names.map .text))

namespace Document

variable {first second document : Document} {key : String}

theorem list?_of_commas {value : Value} (found : Mapping.get? document key = some value)
    (scalar : value.Scalar) (nonempty : value.envText ≠ "")
    (plain : value.envText.toList.head? ≠ some '[') :
    document.list? key = .ok (some ((Text.splitText ',' value.envText).map .text)) := by
  rw [list?_of_scalar found scalar, Value.listInText_of_commas nonempty plain]
  rfl

theorem list?_of_spells {names : List String} (separable : Separable names) {value : Value}
    (spells : Spells names value) (found : Mapping.get? document key = some value) :
    document.list? key = .ok (some (names.map .text)) := by
  cases spells with
  | commas =>
      have given : names ≠ [] := by
        rintro rfl
        exact separable.nonempty rfl
      rw [list?_of_commas found trivial separable.nonempty separable.noArray, Value.envText,
        Text.splitText_joinTexts given separable.bare]
  | json =>
      rw [list?_of_text found, Value.listInText_texts]
      rfl
  | list => exact list?_of_list found

/-! ## Secured names -/

/-- Two documents that are the same but for the ways in which the lists of secured names are
written. -/
structure SameSecured (first second : Document) : Prop where
  others : ∀ key, key ≠ securedDefaultKey → key ≠ securedExtraKey →
    Mapping.get? first key = Mapping.get? second key
  lists : ∀ key, key = securedDefaultKey ∨ key = securedExtraKey →
    Mapping.get? first key = Mapping.get? second key ∨
      ∃ names value other, Separable names ∧ Spells names value ∧ Spells names other ∧
        Mapping.get? first key = some value ∧ Mapping.get? second key = some other

namespace SameSecured

variable (same : SameSecured first second)

include same

theorem list?_eq (isList : key = securedDefaultKey ∨ key = securedExtraKey) :
    first.list? key = second.list? key := by
  rcases same.lists key isList with
    held | ⟨names, value, other, separable, spells, spellsToo, found, foundToo⟩
  · exact list?_congr held
  · rw [list?_of_spells separable spells found, list?_of_spells separable spellsToo foundToo]

theorem secured_eq : first.secured = second.secured := by
  rw [Document.secured_eq, Document.secured_eq, same.list?_eq (.inl rfl),
    same.list?_eq (.inr rfl)]

theorem isSome_get? (key : String) :
    (Mapping.get? first key).isSome = (Mapping.get? second key).isSome := by
  by_cases isList : key = securedDefaultKey ∨ key = securedExtraKey
  · rcases same.lists key isList with held | ⟨_, value, other, -, -, -, found, foundToo⟩
    · rw [held]
    · rw [found, foundToo]
      rfl
  · rw [same.others key (fun usual => isList (.inl usual)) fun extra => isList (.inr extra)]

theorem keys_eq : Mapping.keys first = Mapping.keys second := by
  have bare : Mapping.mapEntries (fun _ _ => ()) first =
      Mapping.mapEntries (fun _ _ => ()) second := by
    apply Mapping.ext_get?
    intro key
    have present := same.isSome_get? key
    rw [Mapping.get?_mapEntries, Mapping.get?_mapEntries]
    cases one : Mapping.get? first key <;> cases two : Mapping.get? second key <;>
      simp_all
  rw [← Mapping.keys_mapEntries (fun _ _ => ()) first, bare, Mapping.keys_mapEntries]

end SameSecured

end Document

namespace Session

/-- Two requests whose redacted environments hide the same keys: both have the names that are
hidden, the hidden keys have the marker in both environments, and all others have their text. -/
structure HidesAlike (one two : Session) (id other : RequestId) (first second : Document) :
    Prop where
  names : (one.step (.secured id)).1 = (two.step (.secured other)).1
  fails : ∀ error, (one.step (.toEnvironment id true)).1 = .error error ↔
    (two.step (.toEnvironment other true)).1 = .error error
  hides : ∀ names, (one.step (.secured id)).1 = .ok (.texts names) →
    ∃ environment environmentToo : Environment,
      (one.step (.toEnvironment id true)).1 = .ok (.environment environment) ∧
      (two.step (.toEnvironment other true)).1 = .ok (.environment environmentToo) ∧
      Mapping.keys environment = Mapping.keys environmentToo ∧
      (∀ key ∈ Mapping.keys environment, key ∈ names →
        Mapping.get? environment key = some hiddenMarker ∧
          Mapping.get? environmentToo key = some hiddenMarker) ∧
      ∀ key, key ∉ names →
        Mapping.get? environment key = first.text? key ∧
          Mapping.get? environmentToo key = second.text? key

variable {session one two : Session} {id other : RequestId} {run first second : RunConfig}

theorem hidesAlike_of_sameSecured (thereOne : one.store.run? id = some first)
    (thereTwo : two.store.run? other = some second)
    (same : Document.SameSecured first.document second.document) :
    HidesAlike one two id other first.document second.document where
  names := by
    rw [step_secured thereOne, step_secured thereTwo, same.secured_eq]
  fails := by
    intro error
    rw [step_toEnvironment thereOne, step_toEnvironment thereTwo]
    simp only [Document.toEnvironment, ↓reduceIte, same.secured_eq]
    cases second.document.secured <;> simp [Except.map]
  hides := by
    intro names read
    rw [step_secured thereOne] at read
    have secured : first.document.secured = .ok names := by
      cases found : first.document.secured with
      | error error =>
          rw [found] at read
          cases read
      | ok hidden =>
          rw [found] at read
          cases read
          rfl
    have securedToo : second.document.secured = .ok names := by
      rw [← same.secured_eq, secured]
    refine ⟨first.document.flattened names, second.document.flattened names, ?_, ?_, ?_, ?_, ?_⟩
    · rw [step_toEnvironment thereOne, Document.toEnvironment, if_pos rfl, secured]
      rfl
    · rw [step_toEnvironment thereTwo, Document.toEnvironment, if_pos rfl, securedToo]
      rfl
    · rw [Document.keys_flattened, Document.keys_flattened, same.keys_eq]
    · intro key present member
      rw [Document.keys_flattened, Mapping.mem_keys] at present
      obtain ⟨value, found⟩ := Option.isSome_iff_exists.mp present
      rw [same.isSome_get?] at present
      obtain ⟨valueToo, foundToo⟩ := Option.isSome_iff_exists.mp present
      rw [Document.get?_flattened_of_mem member, Document.get?_flattened_of_mem member, found,
        foundToo]
      exact ⟨rfl, rfl⟩
    · intro key shown
      exact ⟨Document.get?_flattened_of_not_mem shown _, Document.get?_flattened_of_not_mem shown _⟩

/-- A boolean, a number or a text that is not empty and does not look like an array is read as the
parts between its commas; nothing is lost of it.  A list whose names commas keep apart is read as
these names, whether it is written with commas, as JSON text or as a list, and written in any of
these ways the lists of secured names hide the same variables. -/
theorem lists_with_commas :
    (∀ (session : Session) id run key value, session.store.run? id = some run →
      Mapping.get? run.document key = some value → value.Scalar →
      (∀ text, value = .text text → text ≠ "" ∧ text.toList.head? ≠ some '[') →
        ∃ parts : List String,
          session.step (.getList id key) = (.ok (.values? (some (parts.map .text))), session) ∧
          (∀ part ∈ parts, ',' ∉ part.toList) ∧ Text.joinTexts ',' parts = value.envText) ∧
    (∀ (session : Session) id run key names value, session.store.run? id = some run →
      Separable names → Spells names value → Mapping.get? run.document key = some value →
        session.step (.getList id key) = (.ok (.values? (some (names.map .text))), session)) ∧
    ∀ (one two : Session) id other first second, one.store.run? id = some first →
      two.store.run? other = some second →
      Document.SameSecured first.document second.document →
        HidesAlike one two id other first.document second.document := by
  refine ⟨?_, ?_, ?_⟩
  · intro session id run key value there found scalar plain
    have shape : value.envText ≠ "" ∧ value.envText.toList.head? ≠ some '[' := by
      by_cases isText : ∃ text, value = .text text
      · obtain ⟨text, rfl⟩ := isText
        exact plain text rfl
      · exact Value.envText_of_not_text scalar fun text same => isText ⟨text, same⟩
    refine ⟨Text.splitText ',' value.envText, ?_, fun part => Text.not_mem_of_mem_splitText,
      Text.joinTexts_splitText ',' _⟩
    rw [step_getList_eq_ok_iff there, Document.list?_of_commas found scalar shape.1 shape.2]
  · intro session id run key names value there separable spells found
    rw [step_getList_eq_ok_iff there, Document.list?_of_spells separable spells found]
  · intro one two id other first second thereOne thereTwo same
    exact hidesAlike_of_sameSecured thereOne thereTwo same

/-! ## Names in three spellings -/

def secretNames : List String :=
  ["PIN", "", " ü\n", "\"x\""]

def secretSpellings : List Value :=
  [.text (Text.joinTexts ',' secretNames), .text (Value.list (secretNames.map .text)).envText,
    .list (secretNames.map .text)]

theorem spells_of_mem {value : Value} (member : value ∈ secretSpellings) :
    Spells secretNames value := by
  simp only [secretSpellings, List.mem_cons, List.not_mem_nil, or_false] at member
  rcases member with rfl | rfl | rfl
  · exact .commas
  · exact .json
  · exact .list

def withSecrets (secrets : Value) : Document :=
  Mapping.insert (Mapping.ofList [("LOG_LEVEL", .text "INFO"), ("PIN", .integer 4711)])
    securedExtraKey secrets

/-- A request with a token, a number and a list of secured names. -/
def holdingSecrets (secrets : Value) : Session :=
  holding (withSecrets secrets) (.text "token")

def secretRun (secrets : Value) : RunConfig :=
  ⟨Mapping.insert (withSecrets secrets) "GITHUB_TOKEN" (.text "token"), ""⟩

theorem get?_secretRun (secrets : Value) (key : String) :
    Mapping.get? (secretRun secrets).document key =
      if key = "GITHUB_TOKEN" then some (.text "token")
      else if key = securedExtraKey then some secrets
      else Mapping.get? (Mapping.ofList [("LOG_LEVEL", .text "INFO"), ("PIN", .integer 4711)])
        key := by
  rw [secretRun, withSecrets, Mapping.get?_insert, Mapping.get?_insert]

theorem separable_secretNames : Separable secretNames :=
  ⟨by decide, by decide, by decide⟩

theorem lists_with_commas_secrets :
    secretSpellings = [.text "PIN,, ü\n,\"x\"", .text "[\"PIN\",\"\",\" ü\\n\",\"\\\"x\\\"\"]",
        .list [.text "PIN", .text "", .text " ü\n", .text "\"x\""]] ∧
      ∀ one ∈ secretSpellings, ∀ two ∈ secretSpellings,
        (holdingSecrets one).store.run? ⟨"lint"⟩ = some (secretRun one) ∧
        (∃ parts : List String,
          (holdingSecrets one).step (.getList ⟨"lint"⟩ "PIN") =
            (.ok (.values? (some (parts.map .text))), holdingSecrets one) ∧
          (∀ part ∈ parts, ',' ∉ part.toList) ∧ Text.joinTexts ',' parts = "4711") ∧
        (holdingSecrets one).step (.getList ⟨"lint"⟩ securedExtraKey) =
          (.ok (.values? (some (secretNames.map .text))), holdingSecrets one) ∧
        HidesAlike (holdingSecrets one) (holdingSecrets two) ⟨"lint"⟩ ⟨"lint"⟩
          (secretRun one).document (secretRun two).document := by
  refine ⟨by decide +kernel, fun one spelled two spelledToo => ?_⟩
  have stored : ∀ secrets, (holdingSecrets secrets).store.run? ⟨"lint"⟩ =
      some (secretRun secrets) :=
    fun _ => Store.run?_put ..
  have listed : ∀ secrets, Mapping.get? (secretRun secrets).document securedExtraKey =
      some secrets := by
    intro secrets
    rw [get?_secretRun, if_neg (by decide), if_pos rfl]
  have number : Mapping.get? (secretRun one).document "PIN" = some (.integer 4711) := by
    rw [get?_secretRun, if_neg (by decide), if_neg (by decide)]
    decide
  have same : Document.SameSecured (secretRun one).document (secretRun two).document := by
    refine ⟨fun key _ noExtra => ?_, fun key isList => ?_⟩
    · rw [get?_secretRun, get?_secretRun, if_neg noExtra, if_neg noExtra]
    · rcases isList with rfl | rfl
      · refine .inl ?_
        rw [get?_secretRun, get?_secretRun, if_neg (by decide), if_neg (by decide)]
        rfl
      · exact .inr ⟨secretNames, one, two, separable_secretNames, spells_of_mem spelled,
          spells_of_mem spelledToo, listed one, listed two⟩
  obtain ⟨splits, reads, hides⟩ := lists_with_commas
  exact ⟨stored one, splits _ _ _ _ _ (stored one) number trivial nofun,
    reads _ _ _ _ _ _ (stored one) separable_secretNames (spells_of_mem spelled) (listed one),
    hides _ _ _ _ _ _ (stored one) (stored two) same⟩

end Session

end LayeredConfig
