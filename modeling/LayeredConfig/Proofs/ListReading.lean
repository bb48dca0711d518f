import LayeredConfig.Proofs.Json.RoundTrip
import LayeredConfig.Proofs.Redaction
import LayeredConfig.Proofs.Shell.Unfinished

/-!
# What readers of lists make of a value

Both readers of lists tell apart an absent or null value, the empty text, a list, a map and any
other value, which they take by its text.  They fail on a map and on text that they cannot read:
one on text that starts like an array and is not JSON, the other on text that ends inside of quotes
or after a backslash.  They agree on what is absent, empty or a map.
-/

set_option autoImplicit false

namespace LayeredConfig

/-! ## Arrays -/

namespace Json

theorem exists_items_of_readValue {fuel depth : Nat} {rest more : List Char} {value : Value}
    (read : readValue fuel depth ('[' :: rest) = some (value, more)) :
    ∃ items, value = .list items := by
  cases fuel with
  | zero => cases read
  | succ fuel =>
      rw [readValue, skipSpace_cons rfl] at read
      simp only [Char.reduceEq, ↓reduceIte] at read
      cases depth with
      | zero => cases read
      | succ depth =>
          simp only at read
          split at read
          · cases read
            exact ⟨[], rfl⟩
          · obtain ⟨⟨items, behind⟩, -, made⟩ := Option.map_eq_some_iff.mp read
            cases made
            exact ⟨items, rfl⟩

/-- A JSON text that starts like an array is one. -/
theorem exists_items_of_parse? {text : List Char} {value : Value}
    (array : text.head? = some '[') (parsed : parse? text = some value) :
    ∃ items, value = .list items := by
  obtain ⟨rest, rfl⟩ := List.head?_eq_some_iff.mp array
  unfold parse? at parsed
  cases read : readValue (2 * ('[' :: rest).length + 2) maxDepth ('[' :: rest) with
  | none =>
      rw [read] at parsed
      cases parsed
  | some result =>
      obtain ⟨found, behind⟩ := result
      rw [read] at parsed
      simp only [Option.ite_none_right_eq_some, Option.some.injEq] at parsed
      obtain ⟨-, rfl⟩ := parsed
      exact exists_items_of_readValue read

end Json

/-! ## Texts that cannot be read -/

/-- Text that starts like an array and is not JSON. -/
def BrokenArray (text : String) : Prop :=
  text.toList.head? = some '[' ∧ Json.parse? text.toList = none

namespace Value

variable {text : String}

theorem listInText_of_broken (broken : BrokenArray text) (key : String) :
    listInText key text = .error (.malformedList key .json) := by
  rw [listInText_of_bracket broken.1, broken.2]

/-- What starts like an array and is JSON is an array, so it is read as well. -/
theorem exists_listInText (whole : ¬ BrokenArray text) (key : String) :
    ∃ items, listInText key text = .ok items := by
  by_cases array : text.toList.head? = some '['
  · cases parsed : Json.parse? text.toList with
    | none => exact absurd ⟨array, parsed⟩ whole
    | some value =>
        obtain ⟨items, rfl⟩ := Json.exists_items_of_parse? array parsed
        refine ⟨items, ?_⟩
        rw [listInText_of_bracket array, parsed]
  · by_cases empty : text = ""
    · rw [empty]
      exact ⟨_, listInText_empty key⟩
    · exact ⟨_, listInText_of_commas empty array key⟩

theorem wordsInText_of_unfinished (unfinished : Shell.Unfinished text.toList) (key : String) :
    wordsInText key text = .error (.malformedList key .unbalancedQuoting) := by
  rw [wordsInText, Shell.words?_eq_none_iff.mpr unfinished]

theorem exists_wordsInText (finished : ¬ Shell.Unfinished text.toList) (key : String) :
    ∃ words, wordsInText key text = .ok words := by
  rw [← Shell.words?_eq_none_iff, ← ne_eq, Option.ne_none_iff_exists'] at finished
  obtain ⟨words, split⟩ := finished
  refine ⟨words, ?_⟩
  rw [wordsInText, split]

end Value

namespace Document

variable {document : Document} {key : String} {value : Value}

/-- Under a key there is nothing to read, or a list, or a map, or something that is taken by its
text. -/
theorem absent_or_list_or_map_or_scalar (document : Document) (key : String) :
    (Mapping.get? document key = none ∨ Mapping.get? document key = some .null) ∨
      (∃ items, Mapping.get? document key = some (.list items)) ∨
      (∃ entries, Mapping.get? document key = some (.map entries)) ∨
      ∃ value, Mapping.get? document key = some value ∧ value.Scalar := by
  cases Mapping.get? document key with
  | none => exact .inl (.inl rfl)
  | some value =>
      cases value with
      | null => exact .inl (.inr rfl)
      | list items => exact .inr (.inl ⟨items, rfl⟩)
      | map entries => exact .inr (.inr (.inl ⟨entries, rfl⟩))
      | bool b => exact .inr (.inr (.inr ⟨_, rfl, trivial⟩))
      | integer n => exact .inr (.inr (.inr ⟨_, rfl, trivial⟩))
      | float x => exact .inr (.inr (.inr ⟨_, rfl, trivial⟩))
      | text text => exact .inr (.inr (.inr ⟨_, rfl, trivial⟩))

theorem list?_of_broken (found : Mapping.get? document key = some value) (scalar : value.Scalar)
    (broken : BrokenArray value.envText) :
    document.list? key = .error (.malformedList key .json) := by
  rw [list?_of_scalar found scalar, Value.listInText_of_broken broken]
  rfl

theorem exists_list? (found : Mapping.get? document key = some value) (scalar : value.Scalar)
    (whole : ¬ BrokenArray value.envText) :
    ∃ items, document.list? key = .ok (some items) := by
  obtain ⟨items, read⟩ := Value.exists_listInText whole key
  refine ⟨items, ?_⟩
  rw [list?_of_scalar found scalar, read]
  rfl

theorem arguments?_of_unfinished (found : Mapping.get? document key = some value)
    (scalar : value.Scalar) (unfinished : Shell.Unfinished value.envText.toList) :
    document.arguments? key = .error (.malformedList key .unbalancedQuoting) := by
  rw [arguments?_of_scalar found scalar, Value.wordsInText_of_unfinished unfinished]
  rfl

theorem exists_arguments? (found : Mapping.get? document key = some value)
    (scalar : value.Scalar) (finished : ¬ Shell.Unfinished value.envText.toList) :
    ∃ words, document.arguments? key = .ok (some words) := by
  obtain ⟨words, read⟩ := Value.exists_wordsInText finished key
  refine ⟨words, ?_⟩
  rw [arguments?_of_scalar found scalar, read]
  rfl

/-- Reading a list fails on a map or on text, and on nothing else. -/
theorem fault_of_list? {error : ConfigError} (failed : document.list? key = .error error) :
    error = .malformedList key .mapAsList ∨ error = .malformedList key .json := by
  obtain absent | ⟨items, found⟩ | ⟨entries, found⟩ | ⟨value, found, scalar⟩ :=
    document.absent_or_list_or_map_or_scalar key
  · rw [list?_eq_none_iff.mpr absent] at failed
    cases failed
  · rw [list?_of_list found] at failed
    cases failed
  · rw [list?_of_map found] at failed
    cases failed
    exact .inl rfl
  · by_cases broken : BrokenArray value.envText
    · rw [list?_of_broken found scalar broken] at failed
      cases failed
      exact .inr rfl
    · obtain ⟨items, read⟩ := exists_list? found scalar broken
      rw [read] at failed
      cases failed

theorem fault_of_arguments? {error : ConfigError}
    (failed : document.arguments? key = .error error) :
    error = .malformedList key .mapAsArguments ∨
      error = .malformedList key .unbalancedQuoting := by
  obtain absent | ⟨items, found⟩ | ⟨entries, found⟩ | ⟨value, found, scalar⟩ :=
    document.absent_or_list_or_map_or_scalar key
  · rw [arguments?_eq_none_iff.mpr absent] at failed
    cases failed
  · rw [arguments?_of_list found] at failed
    cases failed
  · rw [arguments?_of_map found] at failed
    cases failed
    exact .inl rfl
  · by_cases unfinished : Shell.Unfinished value.envText.toList
    · rw [arguments?_of_unfinished found scalar unfinished] at failed
      cases failed
      exact .inr rfl
    · obtain ⟨words, read⟩ := exists_arguments? found scalar unfinished
      rw [read] at failed
      cases failed

end Document

namespace Session

/-! ## Both readers -/

/-- What a request answers when it is asked for the list and for the arguments under a key: the
readers agree on what is absent, empty or a list, and each fails in its own way. -/
structure ReadsLists (session : Session) (id : RequestId) (document : Document) (key : String) :
    Prop where
  noList : session.step (.getList id key) = (.ok (.values? none), session) ↔
    Mapping.get? document key = none ∨ Mapping.get? document key = some .null
  noArguments : session.step (.getArguments id key) = (.ok (.texts? none), session) ↔
    Mapping.get? document key = none ∨ Mapping.get? document key = some .null
  ofEmpty : Mapping.get? document key = some (.text "") →
    session.step (.getList id key) = (.ok (.values? (some [])), session) ∧
      session.step (.getArguments id key) = (.ok (.texts? (some [])), session)
  ofList : ∀ items, Mapping.get? document key = some (.list items) →
    session.step (.getList id key) = (.ok (.values? (some items)), session) ∧
      session.step (.getArguments id key) =
        (.ok (.texts? (some (items.map Value.envText))), session)
  ofMap : ∀ entries, Mapping.get? document key = some (.map entries) →
    session.step (.getList id key) = (.error (.malformedList key .mapAsList), session) ∧
      session.step (.getArguments id key) =
        (.error (.malformedList key .mapAsArguments), session)
  listOfBroken : ∀ value, Mapping.get? document key = some value → value.Scalar →
    BrokenArray value.envText →
      session.step (.getList id key) = (.error (.malformedList key .json), session)
  listOfWhole : ∀ value, Mapping.get? document key = some value → value.Scalar →
    ¬ BrokenArray value.envText →
      ∃ items, session.step (.getList id key) = (.ok (.values? (some items)), session)
  argumentsOfUnfinished : ∀ value, Mapping.get? document key = some value → value.Scalar →
    Shell.Unfinished value.envText.toList →
      session.step (.getArguments id key) =
        (.error (.malformedList key .unbalancedQuoting), session)
  argumentsOfFinished : ∀ value, Mapping.get? document key = some value → value.Scalar →
    ¬ Shell.Unfinished value.envText.toList →
      ∃ words, session.step (.getArguments id key) = (.ok (.texts? (some words)), session)
  listFaults : ∀ error, (session.step (.getList id key)).1 = .error error →
    error = .malformedList key .mapAsList ∨ error = .malformedList key .json
  argumentsFaults : ∀ error, (session.step (.getArguments id key)).1 = .error error →
    error = .malformedList key .mapAsArguments ∨ error = .malformedList key .unbalancedQuoting
  /-- With a list to fall back on, only what is absent or null is read otherwise. -/
  listOr : ∀ default, session.step (.getListOr id key default) =
    ((session.step (.getList id key)).1.map fun
      | .values? items => .values (items.getD default)
      | reply => reply, session)
  listKeeps : (session.step (.getList id key)).2 = session
  argumentsKeep : (session.step (.getArguments id key)).2 = session

variable {session : Session} {id : RequestId} {run : RunConfig}

/-- On whatever stands under a key the readers of lists agree, and no text is refused but one that
starts like an array and is not JSON, or one that ends inside of quotes or after a backslash. -/
theorem readsLists_of_initialised (there : session.store.run? id = some run) (key : String) :
    ReadsLists session id run.document key where
  noList := (step_getList_eq_ok_iff there).trans Document.list?_eq_none_iff
  noArguments := (step_getArguments_eq_ok_iff there).trans Document.arguments?_eq_none_iff
  ofEmpty := by
    intro found
    rw [step_getList_eq_ok_iff there, step_getArguments_eq_ok_iff there,
      Document.list?_of_text found, Document.arguments?_of_text found, Value.listInText_empty]
    exact ⟨rfl, rfl⟩
  ofList := by
    intro items found
    rw [step_getList_eq_ok_iff there, step_getArguments_eq_ok_iff there]
    exact ⟨Document.list?_of_list found, Document.arguments?_of_list found⟩
  ofMap := by
    intro entries found
    rw [step_getList_eq_error_iff there, step_getArguments_eq_error_iff there]
    exact ⟨Document.list?_of_map found, Document.arguments?_of_map found⟩
  listOfBroken := by
    intro value found scalar broken
    rw [step_getList_eq_error_iff there]
    exact Document.list?_of_broken found scalar broken
  listOfWhole := by
    intro value found scalar whole
    simp only [step_getList_eq_ok_iff there]
    exact Document.exists_list? found scalar whole
  argumentsOfUnfinished := by
    intro value found scalar unfinished
    rw [step_getArguments_eq_error_iff there]
    exact Document.arguments?_of_unfinished found scalar unfinished
  argumentsOfFinished := by
    intro value found scalar finished
    simp only [step_getArguments_eq_ok_iff there]
    exact Document.exists_arguments? found scalar finished
  listFaults := by
    intro error failed
    have kept : (session.step (.getList id key)).2 = session := by rw [step_getList there]
    exact Document.fault_of_list? ((step_getList_eq_error_iff there).mp (Prod.ext failed kept))
  argumentsFaults := by
    intro error failed
    have kept : (session.step (.getArguments id key)).2 = session := by
      rw [step_getArguments there]
    exact Document.fault_of_arguments?
      ((step_getArguments_eq_error_iff there).mp (Prod.ext failed kept))
  listOr := by
    intro default
    rw [step_getListOr there, step_getList there, Document.listOr]
    cases run.document.list? key <;> rfl
  listKeeps := by rw [step_getList there]
  argumentsKeep := by rw [step_getArguments there]

theorem readsLists_of_texts :
    (∀ text, (holding ∅ (.text text)).store.run? ⟨"lint"⟩ =
      some ⟨Mapping.insert ∅ "GITHUB_TOKEN" (.text text), ""⟩) ∧
    (∀ text, ReadsLists (holding ∅ (.text text)) ⟨"lint"⟩
      (Mapping.insert ∅ "GITHUB_TOKEN" (.text text)) "GITHUB_TOKEN") ∧
    (holding ∅ (.text "[\"x")).step (.getList ⟨"lint"⟩ "GITHUB_TOKEN") =
      (.error (.malformedList "GITHUB_TOKEN" .json), holding ∅ (.text "[\"x")) ∧
    (holding ∅ (.text "[\"x")).step (.getArguments ⟨"lint"⟩ "GITHUB_TOKEN") =
      (.error (.malformedList "GITHUB_TOKEN" .unbalancedQuoting), holding ∅ (.text "[\"x")) ∧
    ∃ words, (holding ∅ (.text "a\\ b # it's")).step (.getArguments ⟨"lint"⟩ "GITHUB_TOKEN") =
      (.ok (.texts? (some words)), holding ∅ (.text "a\\ b # it's")) := by
  have stored : ∀ text, (holding ∅ (.text text)).store.run? ⟨"lint"⟩ =
      some ⟨Mapping.insert ∅ "GITHUB_TOKEN" (.text text), ""⟩ :=
    fun _ => Store.run?_put ..
  have reads := fun text => readsLists_of_initialised (stored text) "GITHUB_TOKEN"
  have found : ∀ text : String, Mapping.get?
      (Mapping.insert ∅ "GITHUB_TOKEN" (.text text) : Document) "GITHUB_TOKEN" =
        some (.text text) :=
    fun _ => Mapping.get?_insert_self ..
  refine ⟨stored, reads, ?_, ?_, ?_⟩
  · exact (reads _).listOfBroken _ (found _) trivial ⟨by decide, by decide⟩
  · exact (reads _).argumentsOfUnfinished _ (found _) trivial
      (Shell.words?_eq_none_iff.mp (by decide))
  · exact (reads _).argumentsOfFinished _ (found _) trivial
      (mt Shell.words?_eq_none_iff.mpr (by decide))

end Session

end LayeredConfig
