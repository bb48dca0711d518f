import LayeredConfig.Proofs.Access
import LayeredConfig.Session

/-!
# Redaction

The names of the variables to hide are read from the document that they are hidden in.  Where they
can be read, the redacted environment has the marker under them and the text of every other value,
so it tells nothing of the hidden values; where they cannot, there is no redacted environment.
-/

set_option autoImplicit false

namespace LayeredConfig

namespace Document

variable {first second document : Document} {key : String}

/-! ## The names that are hidden -/

/-- The usual names or those in the list that stands for them, and the extra names. -/
def hiddenNames (usual extra : Option (List Value)) : List String :=
  usual.elim usualSecured (List.map Value.envText) ++ extra.elim [] (List.map Value.envText)

/-- The list in the place of the usual names is read first. -/
theorem secured_eq (document : Document) :
    document.secured =
      match document.list? securedDefaultKey, document.list? securedExtraKey with
      | .ok usual, .ok extra => .ok (hiddenNames usual extra)
      | .ok _, .error error => .error error
      | .error error, _ => .error error := by
  cases usualListed : document.list? securedDefaultKey with
  | error error => rw [secured, listOr_of_error usualListed]
  | ok usual =>
      cases extraListed : document.list? securedExtraKey with
      | error error => rw [secured, listOr_of_ok usualListed, listOr_of_error extraListed]
      | ok extra =>
          have texts : (usualSecured.map Value.text).map Value.envText = usualSecured :=
            Value.map_envText_text usualSecured
          rw [secured, listOr_of_ok usualListed, listOr_of_ok extraListed]
          simp only [hiddenNames, List.map_append]
          cases usual <;> cases extra <;> simp [texts]

theorem lists_of_secured {names : List String} (read : document.secured = .ok names) :
    ∃ usual extra, document.list? securedDefaultKey = .ok usual ∧
      document.list? securedExtraKey = .ok extra ∧ names = hiddenNames usual extra := by
  rw [secured_eq] at read
  split at read
  · rename_i usual extra usualListed extraListed
    exact ⟨usual, extra, usualListed, extraListed, (Except.ok.inj read).symm⟩
  · cases read
  · cases read

theorem malformed_of_secured {error : ConfigError} (failed : document.secured = .error error) :
    ∃ key fault, error = .malformedList key fault := by
  rw [secured_eq] at failed
  split at failed
  · cases failed
  · rename_i extraFailed
    cases failed
    exact ⟨_, malformed_of_list? extraFailed⟩
  · rename_i usualFailed
    cases failed
    exact ⟨_, malformed_of_list? usualFailed⟩

theorem secured_congr
    (sameUsual : Mapping.get? first securedDefaultKey = Mapping.get? second securedDefaultKey)
    (sameExtra : Mapping.get? first securedExtraKey = Mapping.get? second securedExtraKey) :
    first.secured = second.secured := by
  simp only [secured, listOr, list?_congr sameUsual, list?_congr sameExtra]

/-- Extra names come to the names that are hidden without them. -/
theorem secured_erase_subset {value : Value} {names : List String}
    (read : Document.secured (document.insert securedExtraKey value) = .ok names) :
    ∃ fewer, Document.secured (document.erase securedExtraKey) = .ok fewer ∧ fewer ⊆ names := by
  obtain ⟨usual, extra, usualListed, -, rfl⟩ := lists_of_secured read
  have other : securedDefaultKey ≠ securedExtraKey := by
    decide
  have sameUsual : Mapping.get? (document.erase securedExtraKey) securedDefaultKey =
      Mapping.get? (document.insert securedExtraKey value) securedDefaultKey := by
    rw [Mapping.get?_erase, Mapping.get?_insert, if_neg other, if_neg other]
  have noExtra : Document.list? (document.erase securedExtraKey) securedExtraKey = .ok none := by
    rw [list?_eq_none_iff, Mapping.get?_erase, if_pos rfl]
    exact .inl rfl
  refine ⟨hiddenNames usual none, ?_, ?_⟩
  · rw [secured_eq, list?_congr sameUsual, usualListed, noExtra]
  · rw [hiddenNames, Option.elim_none, List.append_nil]
    exact List.subset_append_left _ _

/-! ## The environment -/

theorem keys_flattened (document : Document) (hidden : List String) :
    Mapping.keys (document.flattened hidden) = Mapping.keys document :=
  Mapping.keys_mapEntries _ document

theorem get?_flattened_of_mem {hidden : List String} (member : key ∈ hidden)
    (document : Document) :
    Mapping.get? (document.flattened hidden) key =
      (Mapping.get? document key).map fun _ => hiddenMarker := by
  simp only [flattened, Mapping.get?_mapEntries, member, ↓reduceIte]

theorem get?_flattened_of_not_mem {hidden : List String} (shown : key ∉ hidden)
    (document : Document) :
    Mapping.get? (document.flattened hidden) key = document.text? key := by
  simp only [flattened, Mapping.get?_mapEntries, shown, ↓reduceIte, text?_eq]

/-- Of a hidden value nothing is left but its key. -/
theorem flattened_congr {hidden : List String}
    (sameKeys : Mapping.keys first = Mapping.keys second)
    (agree : ∀ key, key ∉ hidden → Mapping.get? first key = Mapping.get? second key) :
    first.flattened hidden = second.flattened hidden := by
  apply Mapping.ext_get?
  intro key
  by_cases member : key ∈ hidden
  · rw [get?_flattened_of_mem member, get?_flattened_of_mem member]
    have present : (Mapping.get? first key).isSome = (Mapping.get? second key).isSome := by
      rw [Bool.eq_iff_iff, ← Mapping.mem_keys, ← Mapping.mem_keys, sameKeys]
    cases one : Mapping.get? first key <;> cases two : Mapping.get? second key <;>
      simp_all
  · rw [get?_flattened_of_not_mem member, get?_flattened_of_not_mem member, text?_eq, text?_eq,
      agree key member]

theorem malformed_of_toEnvironment {redact : Bool} {error : ConfigError}
    (failed : document.toEnvironment redact = .error error) :
    ∃ key fault, error = .malformedList key fault := by
  unfold toEnvironment at failed
  split at failed
  · cases read : document.secured with
    | ok names =>
        rw [read] at failed
        cases failed
    | error fault =>
        rw [read] at failed
        cases failed
        exact malformed_of_secured read
  · cases failed

end Document

namespace Session

variable {session : Session} {id : RequestId} {run : RunConfig}

/-! ## The answers of a session -/

theorem step_secured (there : session.store.run? id = some run) :
    session.step (.secured id) = (run.document.secured.map .texts, session) :=
  reading_of_run? there ..

theorem step_secured_of_changing (there : session.store.run? id = some run)
    (f : Document → Document) :
    ((session.changing id f).2.step (.secured id)).1 =
      (f run.document).secured.map .texts := by
  rw [changing_of_run? there, step_secured (Store.run?_put ..)]

theorem step_secured_setValue (there : session.store.run? id = some run) (key : String)
    (value : Value) :
    ((session.step (.setValue id key value)).2.step (.secured id)).1 =
      (Document.secured (Mapping.insert run.document key value)).map .texts :=
  step_secured_of_changing there _

theorem step_secured_removeKey (there : session.store.run? id = some run) (key : String) :
    ((session.step (.removeKey id key)).2.step (.secured id)).1 =
      (Document.secured (Mapping.erase run.document key)).map .texts :=
  step_secured_of_changing there _

theorem step_toEnvironment (there : session.store.run? id = some run) (redact : Bool) :
    session.step (.toEnvironment id redact) =
      ((run.document.toEnvironment redact).map .environment, session) :=
  reading_of_run? there ..

theorem step_toEnvironment_of_error (there : session.store.run? id = some run)
    {error : ConfigError} (failed : run.document.secured = .error error) :
    session.step (.toEnvironment id true) = (.error error, session) := by
  rw [step_toEnvironment there, Document.toEnvironment, if_pos rfl, failed]
  rfl

/-! ## Redaction of a request -/

/-- Two requests whose documents have the same keys have the same redacted environment, whatever
stands under the hidden names, unless the names of the hidden variables are hidden themselves.  When
the names cannot be read, the error depends on the lists of names alone. -/
theorem redaction_noninterference {one two : Session} {first second : RunConfig}
    (thereOne : one.store.run? id = some first) (thereTwo : two.store.run? id = some second)
    (sameKeys : Mapping.keys first.document = Mapping.keys second.document) :
    (∀ names, first.document.secured = .ok names →
      securedDefaultKey ∉ names → securedExtraKey ∉ names →
      (∀ key, key ∉ names → Mapping.get? first.document key = Mapping.get? second.document key) →
      (one.step (.toEnvironment id true)).1 = (two.step (.toEnvironment id true)).1) ∧
    ∀ error, first.document.secured = .error error →
      Mapping.get? first.document securedDefaultKey =
        Mapping.get? second.document securedDefaultKey →
      Mapping.get? first.document securedExtraKey = Mapping.get? second.document securedExtraKey →
      (one.step (.toEnvironment id true)).1 = .error error ∧
        (two.step (.toEnvironment id true)).1 = .error error := by
  rw [step_toEnvironment thereOne, step_toEnvironment thereTwo]
  simp only [Document.toEnvironment, ↓reduceIte]
  constructor
  · intro names read usualShown extraShown agree
    -- Both lists of names are shown themselves, so they are the same in both documents.
    have readToo : second.document.secured = .ok names := by
      rw [← Document.secured_congr (agree _ usualShown) (agree _ extraShown), read]
    rw [read, readToo]
    simp only [Except.map, Document.flattened_congr sameKeys agree]
  · intro error failed sameUsual sameExtra
    have failedToo : second.document.secured = .error error := by
      rw [← Document.secured_congr sameUsual sameExtra, failed]
    rw [failed, failedToo]
    exact ⟨rfl, rfl⟩

/-- A session in which one request is initialised, with a token among other variables. -/
def holding (others : Document) (token : Value) : Session where
  store := Store.empty.put ⟨"lint"⟩ ⟨Mapping.insert others "GITHUB_TOKEN" token, ""⟩
  environment := ∅
  loader := ⟨.unreachable, usualBodyLimit, "/tmp"⟩
  tree := ⟨[], []⟩

def otherVariables : Document :=
  Mapping.ofList [("LOG_LEVEL", .text "INFO"), ("SECURED_ENV_VARIABLES", .text "KEY,PIN")]

/-- The extra names stand in a list that does not end. -/
def brokenVariables : Document :=
  Mapping.ofList [("LOG_LEVEL", .text "INFO"), ("SECURED_ENV_VARIABLES", .text "[\"KEY\"")]

/-- A token that is text and one that is a map look the same. -/
theorem redaction_noninterference_token :
    Document.secured (Mapping.insert otherVariables "GITHUB_TOKEN" (.text "secret")) =
        .ok (usualSecured ++ ["KEY", "PIN"]) ∧
      ((holding otherVariables (.text "secret")).step (.toEnvironment ⟨"lint"⟩ true)).1 =
        ((holding otherVariables (.map [("a", .null)])).step (.toEnvironment ⟨"lint"⟩ true)).1 ∧
      ((holding brokenVariables (.text "secret")).step (.toEnvironment ⟨"lint"⟩ true)).1 =
          .error (.malformedList "SECURED_ENV_VARIABLES" .json) ∧
        ((holding brokenVariables (.map [("a", .null)])).step (.toEnvironment ⟨"lint"⟩ true)).1 =
          .error (.malformedList "SECURED_ENV_VARIABLES" .json) := by
  have read : Document.secured (Mapping.insert otherVariables "GITHUB_TOKEN" (.text "secret")) =
      .ok (usualSecured ++ ["KEY", "PIN"]) := by
    decide +kernel
  have failed : Document.secured (Mapping.insert brokenVariables "GITHUB_TOKEN" (.text "secret")) =
      .error (.malformedList "SECURED_ENV_VARIABLES" .json) := by
    decide +kernel
  have agree : ∀ key, key ∉ usualSecured ++ ["KEY", "PIN"] →
      Mapping.get? (Mapping.insert otherVariables "GITHUB_TOKEN" (.text "secret")) key =
        Mapping.get? (Mapping.insert otherVariables "GITHUB_TOKEN" (.map [("a", .null)])) key := by
    intro key shown
    have other : key ≠ "GITHUB_TOKEN" := by
      rintro rfl
      exact shown (List.mem_append_left _ (List.mem_cons_self ..))
    rw [Mapping.get?_insert, Mapping.get?_insert, if_neg other, if_neg other]
  have stored : ∀ others token, (holding others token).store.run? ⟨"lint"⟩ =
      some ⟨Mapping.insert others "GITHUB_TOKEN" token, ""⟩ :=
    fun _ _ => Store.run?_put ..
  have hidden := (redaction_noninterference (stored otherVariables (.text "secret"))
    (stored otherVariables (.map [("a", .null)])) (by decide +kernel)).1
      _ read (by decide +kernel) (by decide +kernel) agree
  have broken := (redaction_noninterference (stored brokenVariables (.text "secret"))
    (stored brokenVariables (.map [("a", .null)])) (by decide +kernel)).2
      _ failed (by decide +kernel) (by decide +kernel)
  exact ⟨read, hidden, broken⟩

/-- What the environments of a request with a given document come to. -/
structure ExactRedaction (session : Session) (id : RequestId) (document : Document) : Prop where
  /-- Where both lists can be read, the hidden names have the marker and all others their text. -/
  hides : ∀ usual extra,
    session.step (.getList id securedDefaultKey) = (.ok (.values? usual), session) →
    session.step (.getList id securedExtraKey) = (.ok (.values? extra), session) →
    session.step (.secured id) = (.ok (.texts (Document.hiddenNames usual extra)), session) ∧
    ∃ environment : Environment,
      session.step (.toEnvironment id true) = (.ok (.environment environment), session) ∧
      Mapping.keys environment = Mapping.keys document ∧
      (∀ key ∈ Mapping.keys document, key ∈ Document.hiddenNames usual extra →
        Mapping.get? environment key = some hiddenMarker) ∧
      ∀ key, key ∉ Document.hiddenNames usual extra →
        session.step (.getText id key) = (.ok (.text? (Mapping.get? environment key)), session)
  /-- The usual names are hidden when nothing or null stands in their place. -/
  absent : ∀ key, session.step (.getList id key) = (.ok (.values? none), session) ↔
    Mapping.get? document key = none ∨ Mapping.get? document key = some .null
  fails_usual : ∀ error,
    session.step (.getList id securedDefaultKey) = (.error error, session) →
    session.step (.toEnvironment id true) = (.error error, session) ∧
      ∃ fault, error = .malformedList securedDefaultKey fault
  fails_extra : ∀ usual error,
    session.step (.getList id securedDefaultKey) = (.ok (.values? usual), session) →
    session.step (.getList id securedExtraKey) = (.error error, session) →
    session.step (.toEnvironment id true) = (.error error, session) ∧
      ∃ fault, error = .malformedList securedExtraKey fault
  shows : ∃ environment : Environment,
    session.step (.toEnvironment id false) = (.ok (.environment environment), session) ∧
    Mapping.keys environment = Mapping.keys document ∧
    ∀ key, session.step (.getText id key) =
      (.ok (.text? (Mapping.get? environment key)), session)
  /-- Whatever stands under the key of the extra names, without it no more names are hidden. -/
  adds : ∀ value names,
    ((session.step (.setValue id securedExtraKey value)).2.step (.secured id)).1 =
      .ok (.texts names) →
    ∃ fewer, ((session.step (.removeKey id securedExtraKey)).2.step (.secured id)).1 =
      .ok (.texts fewer) ∧ fewer ⊆ names

/-- The redacted environment is exact, and there is none when a list of names is malformed. -/
theorem exactRedaction_of_run? (there : session.store.run? id = some run) :
    ExactRedaction session id run.document where
  hides := by
    intro usual extra usualListed extraListed
    rw [step_getList_eq_ok_iff there] at usualListed extraListed
    have read : run.document.secured = .ok (Document.hiddenNames usual extra) := by
      rw [Document.secured_eq, usualListed, extraListed]
    refine ⟨?_, run.document.flattened (Document.hiddenNames usual extra), ?_, ?_, ?_, ?_⟩
    · rw [step_secured there, read]
      rfl
    · rw [step_toEnvironment there, Document.toEnvironment, if_pos rfl, read]
      rfl
    · exact Document.keys_flattened ..
    · intro key present member
      obtain ⟨value, found⟩ := Option.isSome_iff_exists.mp (Mapping.mem_keys.mp present)
      rw [Document.get?_flattened_of_mem member, found]
      rfl
    · intro key shown
      rw [step_getText there, Document.get?_flattened_of_not_mem shown]
  absent := by
    intro key
    rw [step_getList_eq_ok_iff there, Document.list?_eq_none_iff]
  fails_usual := by
    intro error usualFailed
    rw [step_getList_eq_error_iff there] at usualFailed
    have failed : run.document.secured = .error error := by
      rw [Document.secured_eq, usualFailed]
    exact ⟨step_toEnvironment_of_error there failed, Document.malformed_of_list? usualFailed⟩
  fails_extra := by
    intro usual error usualListed extraFailed
    rw [step_getList_eq_ok_iff there] at usualListed
    rw [step_getList_eq_error_iff there] at extraFailed
    have failed : run.document.secured = .error error := by
      rw [Document.secured_eq, usualListed, extraFailed]
    exact ⟨step_toEnvironment_of_error there failed, Document.malformed_of_list? extraFailed⟩
  shows := by
    refine ⟨run.document.flattened [], ?_, Document.keys_flattened .., ?_⟩
    · rw [step_toEnvironment there]
      rfl
    · intro key
      rw [step_getText there, Document.get?_flattened_of_not_mem List.not_mem_nil]
  adds := by
    intro value names added
    rw [step_secured_setValue there] at added
    rw [step_secured_removeKey there]
    cases read : Document.secured (Mapping.insert run.document securedExtraKey value) with
    | error error =>
        rw [read] at added
        cases added
    | ok more =>
        rw [read] at added
        cases added
        obtain ⟨fewer, readToo, within⟩ := Document.secured_erase_subset read
        rw [readToo]
        exact ⟨fewer, rfl, within⟩

theorem exactRedaction_of_run?_holding :
    (holding otherVariables (.bool true)).store.run? ⟨"lint"⟩ =
        some ⟨Mapping.insert otherVariables "GITHUB_TOKEN" (.bool true), ""⟩ ∧
      ExactRedaction (holding otherVariables (.bool true)) ⟨"lint"⟩
        (Mapping.insert otherVariables "GITHUB_TOKEN" (.bool true)) := by
  have stored : (holding otherVariables (.bool true)).store.run? ⟨"lint"⟩ =
      some ⟨Mapping.insert otherVariables "GITHUB_TOKEN" (.bool true), ""⟩ :=
    Store.run?_put ..
  exact ⟨stored, exactRedaction_of_run? stored⟩

end Session

end LayeredConfig
