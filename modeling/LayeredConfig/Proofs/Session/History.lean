import LayeredConfig.Proofs.Redaction
import LayeredConfig.Proofs.Session.Isolation

/-!
# The history of a request

What the store holds for a request can be read off the steps that went before.  The latest step that
gave the request a configuration or took it away decides whether there is one.  Since then every key
has what the last step that writes it left there, or else what the configuration had when it was
created; and the sources are always those of the creation.
-/

set_option autoImplicit false

namespace LayeredConfig

/-- What the last item tells that tells anything. -/
def latest? {α β : Type} (tells : α → Option β) (items : List α) : Option β :=
  items.reverse.findSome? tells

theorem latest?_append_singleton {α β : Type} (tells : α → Option β) (items : List α) (item : α) :
    latest? tells (items ++ [item]) = (tells item).or (latest? tells items) := by
  rw [latest?, List.reverse_append, List.findSome?_append, List.reverse_singleton,
    List.findSome?_singleton]
  rfl

namespace Step

/-! ## What a step tells about a request -/

/-- Whether a request has a configuration from this step on, if the step decides it.  An
initialisation that fails decides nothing. -/
def life? (id : RequestId) : Step → Answer → Option Bool
  | .init other _ _, .ok _ => if other = id then some true else none
  | .setDocument other _, _ => if other = id then some true else none
  | .delete other, _ => if other = id then some false else none
  | .deleteAll, _ => some false
  | _, _ => none

/-- A step that takes the configuration of a request away. -/
def ends (id : RequestId) : Step → Bool
  | .delete other => other = id
  | .deleteAll => true
  | _ => false

/-- What a step leaves under a key of a configuration that is there, if it writes the key: a value,
or nothing. -/
def write? (id : RequestId) (key : String) : Step → Option (Option Value)
  | .init other _ parameters => if other = id then (parameters.get? key).map some else none
  | .setDocument other document => if other = id then some (document.get? key) else none
  | .setValue other written value =>
      if other = id ∧ key = written then some (some value) else none
  | .removeKey other removed => if other = id ∧ key = removed then some none else none
  | _ => none

/-- A step that reads or changes the configuration of its request, and so needs one. -/
def usesRun : Step → Bool
  | .getDocument _ | .getRun _ | .getSources _ | .get _ _ | .getOr _ _ _ | .getText _ _
  | .getList _ _ | .getListOr _ _ _ | .getArguments _ _ | .setValue _ _ _ | .contains _ _
  | .removeKey _ _ | .secured _ | .toEnvironment _ _ => true
  | .init _ _ _ | .resolve _ _ | .isInitialized _ | .getEnvironment | .setDocument _ _ | .delete _
  | .deleteAll | .discover _ | .load _ _ | .expand _ _ _ | .putFile _ _ | .dropFile _
  | .showFile _ => false

/-- What the latest of some answered steps that decides it tells about the life of a request. -/
def latestLife? (id : RequestId) (steps : List Step) (answers : List Answer) : Option Bool :=
  latest? (fun pair => pair.1.life? id pair.2) (steps.zip answers)

/-- What the last of some steps that writes a key leaves there. -/
def lastWrite? (id : RequestId) (key : String) (steps : List Step) : Option (Option Value) :=
  latest? (write? id key) steps

end Step

/-- The configuration that came of another one by some writes. -/
structure RunConfig.Rewritten (writes : String → Option (Option Value)) (run later : RunConfig) :
    Prop where
  sources : later.sources = run.sources
  values : ∀ key, later.document.get? key = (writes key).getD (run.document.get? key)

namespace Store

theorem run?_delete (store : Store) (id other : RequestId) :
    (store.delete id).run? other = if other = id then none else store.run? other := by
  rw [run?, slot?_delete]
  split <;> rfl

theorem Effect.run?_eq {store later : Store} {id other : RequestId}
    (effect : store.Effect (some other) later) (apart : other ≠ id) :
    later.run? id = store.run? id := by
  rw [run?, run?, effect.slot?_eq apart]

end Store

namespace Session

variable {session : Session} {id : RequestId} {run : RunConfig} {step : Step}

/-- A step that creates the configuration of a request, and the configuration. -/
inductive Creates (id : RequestId) (session : Session) : Step → RunConfig → Prop where
  /-- An initialisation stores what it resolves. -/
  | init {workspace : Option String} {parameters : Document} {run : RunConfig} {tree : FileTree}
      (resolved : (session.loader.resolve session.environment workspace parameters).after
        session.tree = (.ok run, tree)) :
      Creates id session (.init id workspace parameters) run
  /-- A document that is set comes without sources. -/
  | setDocument (document : Document) :
      Creates id session (.setDocument id document) ⟨document, ""⟩

/-! ## One step -/

section OneStep

/-- A step that names another request, or none, and does not clear the store. -/
structure Apart (id : RequestId) (step : Step) : Prop where
  unnamed : step.request? ≠ some id
  lasting : step ≠ .deleteAll

theorem Apart.run?_step (apart : Apart id step) :
    (session.step step).2.store.run? id = session.store.run? id := by
  cases named : step.request? with
  | some other =>
      have effect := session.effect_step step
      rw [named] at effect
      exact effect.run?_eq fun same => apart.unnamed (named.trans (congrArg some same))
  | none =>
      cases step with
      | deleteAll => exact absurd rfl apart.lasting
      | _ => first | rfl | cases named

theorem Apart.life? (apart : Apart id step) (answer : Answer) : step.life? id answer = none := by
  have unnamed := apart.unnamed
  cases step with
  | init other workspace parameters =>
      cases answer with
      | error error => rfl
      | ok reply => exact if_neg fun same => unnamed (congrArg some same)
  | setDocument other document => exact if_neg fun same => unnamed (congrArg some same)
  | delete other => exact if_neg fun same => unnamed (congrArg some same)
  | deleteAll => exact absurd rfl apart.lasting
  | _ => rfl

theorem Apart.ends (apart : Apart id step) : step.ends id = false := by
  have unnamed := apart.unnamed
  cases step with
  | delete other => exact decide_eq_false fun same => unnamed (congrArg some same)
  | deleteAll => exact absurd rfl apart.lasting
  | _ => rfl

theorem Apart.write? (apart : Apart id step) (key : String) : step.write? id key = none := by
  have unnamed := apart.unnamed
  cases step with
  | init other workspace parameters => exact if_neg fun same => unnamed (congrArg some same)
  | setDocument other document => exact if_neg fun same => unnamed (congrArg some same)
  | setValue other written value => exact if_neg fun same => unnamed (congrArg some same.1)
  | removeKey other removed => exact if_neg fun same => unnamed (congrArg some same.1)
  | _ => rfl

theorem apart_or (id : RequestId) (step : Step) :
    Apart id step ∨ step.request? = some id ∨ step = .deleteAll := by
  by_cases named : step.request? = some id
  · exact .inr (.inl named)
  · by_cases clears : step = .deleteAll
    · exact .inr (.inr clears)
    · exact .inl ⟨named, clears⟩

theorem rewritten_refl (run : RunConfig) : run.Rewritten (fun _ => none) run :=
  ⟨rfl, fun _ => rfl⟩

/-- A step takes a configuration away, or leaves everything in it that the step does not write. -/
theorem run?_step_of_run? (there : session.store.run? id = some run) (step : Step) :
    if step.ends id then (session.step step).2.store.run? id = none
    else ∃ later, (session.step step).2.store.run? id = some later ∧
      run.Rewritten (step.write? id) later := by
  rcases apart_or id step with apart | named | rfl
  · rw [apart.ends, if_neg Bool.false_ne_true, apart.run?_step, funext apart.write?]
    exact ⟨run, there, rewritten_refl run⟩
  · cases step with
    | init other workspace parameters =>
        cases named
        refine ⟨run.under parameters, ?_, rfl, ?_⟩
        · rw [Session.step, init_of_run? there, Store.run?_put]
        · intro key
          rw [RunConfig.under, Mapping.get?_merge, Step.write?, if_pos rfl]
          cases parameters.get? key <;> rfl
    | setDocument other document =>
        cases named
        refine ⟨⟨document, run.sources⟩, ?_, rfl, ?_⟩
        · rw [Session.step, Store.setDocument_eq_put, there, Store.run?_put]
          rfl
        · intro key
          rw [Step.write?, if_pos rfl]
          rfl
    | delete other =>
        cases named
        rw [Step.ends, decide_eq_true rfl, if_pos rfl, Session.step, Store.run?_delete, if_pos rfl]
    | setValue other written value =>
        cases named
        refine ⟨⟨run.document.insert written value, run.sources⟩, ?_, rfl, ?_⟩
        · rw [Session.step, changing_of_run? there, Store.run?_put]
        · intro key
          rw [Mapping.get?_insert, Step.write?]
          by_cases same : key = written
          · rw [if_pos same, if_pos ⟨rfl, same⟩]
            rfl
          · rw [if_neg same, if_neg fun both => same both.2]
            rfl
    | removeKey other removed =>
        cases named
        refine ⟨⟨run.document.erase removed, run.sources⟩, ?_, rfl, ?_⟩
        · rw [Session.step, changing_of_run? there, Store.run?_put]
        · intro key
          rw [Mapping.get?_erase, Step.write?]
          by_cases same : key = removed
          · rw [if_pos same, if_pos ⟨rfl, same⟩]
            rfl
          · rw [if_neg same, if_neg fun both => same both.2]
            rfl
    | deleteAll => cases named
    | _ => exact ⟨run, there, rewritten_refl run⟩
  · rfl

/-- Where there is no configuration, a step leaves one if it creates it. -/
theorem run?_step_of_none (absent : session.store.run? id = none) :
    (session.step step).2.store.run? id = some run ↔ Creates id session step run := by
  rcases apart_or id step with apart | named | rfl
  · rw [apart.run?_step, absent]
    constructor
    · intro there
      cases there
    · intro creates
      cases creates <;> exact absurd rfl apart.unnamed
  · cases step with
    | init other workspace parameters =>
        cases named
        rcases resolved : (session.loader.resolve session.environment workspace parameters).after
          session.tree with ⟨error | found, tree⟩
        · rw [Session.step, init_of_resolve_error absent resolved, Store.run?_delete, if_pos rfl]
          constructor
          · intro there
            cases there
          · rintro ⟨succeeded⟩
            rw [resolved] at succeeded
            cases succeeded
        · rw [Session.step, init_of_resolve absent resolved, Store.run?_put]
          constructor
          · rintro ⟨⟩
            exact .init resolved
          · rintro ⟨succeeded⟩
            rw [resolved] at succeeded
            cases succeeded
            rfl
    | setDocument other document =>
        cases named
        rw [Session.step, Store.setDocument_eq_put, absent, Store.run?_put]
        constructor
        · rintro ⟨⟩
          exact .setDocument document
        · rintro ⟨⟩
          rfl
    | delete other =>
        cases named
        rw [Session.step, Store.run?_delete, if_pos rfl]
        exact iff_of_false (fun there => by cases there) (fun creates => by cases creates)
    | setValue other written value =>
        cases named
        rw [Session.step, changing_of_run?_none absent, absent]
        exact iff_of_false (fun there => by cases there) (fun creates => by cases creates)
    | removeKey other removed =>
        cases named
        rw [Session.step, changing_of_run?_none absent, absent]
        exact iff_of_false (fun there => by cases there) (fun creates => by cases creates)
    | deleteAll => cases named
    | _ =>
        exact iff_of_false (fun there => by cases absent.symm.trans there)
          (fun creates => by cases creates)
  · exact iff_of_false (fun there => by cases there) (fun creates => by cases creates)

theorem isInitialized_changing (session : Session) (id : RequestId) (f : Document → Document) :
    (session.changing id f).2.store.isInitialized id = session.store.isInitialized id := by
  cases there : session.store.run? id with
  | some run =>
      rw [changing_of_run? there, Store.isInitialized, Store.run?_put, Store.isInitialized, there]
      rfl
  | none => rw [changing_of_run?_none there]

/-- Whether a request has a configuration is decided by the step, or else as before. -/
theorem isInitialized_step (session : Session) (id : RequestId) (step : Step) :
    (session.step step).2.store.isInitialized id =
      (step.life? id (session.step step).1).getD (session.store.isInitialized id) := by
  rcases apart_or id step with apart | named | rfl
  · rw [apart.life?, Store.isInitialized, apart.run?_step]
    rfl
  · cases step with
    | init other workspace parameters =>
        cases named
        cases there : session.store.run? id with
        | some run =>
            rw [Session.step, init_of_run? there, Store.isInitialized, Store.run?_put, Step.life?,
              if_pos rfl]
            rfl
        | none =>
            rcases resolved : (session.loader.resolve session.environment workspace
              parameters).after session.tree with ⟨error | found, tree⟩
            · rw [Session.step, init_of_resolve_error there resolved, Store.isInitialized,
                Store.run?_delete, if_pos rfl, Store.isInitialized, there]
              rfl
            · rw [Session.step, init_of_resolve there resolved, Store.isInitialized,
                Store.run?_put, Step.life?, if_pos rfl]
              rfl
    | setDocument other document =>
        cases named
        rw [Session.step, Store.setDocument_eq_put, Store.isInitialized, Store.run?_put,
          Step.life?, if_pos rfl]
        rfl
    | delete other =>
        cases named
        rw [Session.step, Store.isInitialized, Store.run?_delete, if_pos rfl, Step.life?,
          if_pos rfl]
        rfl
    | setValue other written value =>
        cases named
        exact isInitialized_changing ..
    | removeKey other removed =>
        cases named
        exact isInitialized_changing ..
    | deleteAll => cases named
    | _ => rfl
  · rfl

/-! ## Answers -/

theorem reading_of_run?_none {α : Type} (absent : session.store.run? id = none) (reply : α → Reply)
    (read : Document → Except ConfigError α) :
    session.reading id reply read = (.error (.notInitialized id), session) := by
  rw [reading, Store.read, Store.run, absent]
  rfl

/-- Whoever reads or changes the configuration of a request that has none is told so. -/
theorem step_of_run?_none (absent : session.store.run? id = none) (named : step.request? = some id)
    (uses : step.usesRun = true) :
    session.step step = (.error (.notInitialized id), session) := by
  cases step with
  | getRun other =>
      cases named
      rw [Session.step, Store.run, absent]
      rfl
  | getSources other =>
      cases named
      rw [Session.step, Store.run, absent]
      rfl
  | setValue other written value =>
      cases named
      exact changing_of_run?_none absent _
  | removeKey other removed =>
      cases named
      exact changing_of_run?_none absent _
  | _ => cases named <;> cases uses <;> exact reading_of_run?_none absent ..

theorem reading_error_of_run? {α : Type} (there : session.store.run? id = some run)
    {reply : α → Reply} {read : Document → Except ConfigError α} {error : ConfigError}
    (failed : (session.reading id reply read).1 = .error error) :
    read run.document = .error error := by
  rw [reading_of_run? there] at failed
  cases result : read run.document with
  | ok a =>
      rw [result] at failed
      cases failed
  | error fault =>
      rw [result] at failed
      cases failed
      rfl

/-- A step about a request that has a configuration fails only where a list in it is malformed. -/
theorem malformed_of_step (there : session.store.run? id = some run)
    (named : step.request? = some id) {error : ConfigError}
    (failed : (session.step step).1 = .error error) :
    ∃ key fault, error = .malformedList key fault := by
  cases step with
  | init other workspace parameters =>
      cases named
      rw [Session.step, init_of_run? there] at failed
      cases failed
  | getRun other =>
      cases named
      rw [Session.step, Store.run, there] at failed
      cases failed
  | getSources other =>
      cases named
      rw [Session.step, Store.run, there] at failed
      cases failed
  | setValue other written value =>
      cases named
      rw [Session.step, changing_of_run? there] at failed
      cases failed
  | removeKey other removed =>
      cases named
      rw [Session.step, changing_of_run? there] at failed
      cases failed
  | getList other key =>
      cases named
      exact ⟨key, Document.malformed_of_list? (reading_error_of_run? there failed)⟩
  | getListOr other key default =>
      cases named
      exact ⟨key, Document.malformed_of_listOr (reading_error_of_run? there failed)⟩
  | getArguments other key =>
      cases named
      exact ⟨key, Document.malformed_of_arguments? (reading_error_of_run? there failed)⟩
  | secured other =>
      cases named
      exact Document.malformed_of_secured (reading_error_of_run? there failed)
  | toEnvironment other redact =>
      cases named
      exact Document.malformed_of_toEnvironment (reading_error_of_run? there failed)
  | isInitialized other => cases failed
  | setDocument other document => cases failed
  | delete other => cases failed
  | _ => cases named <;> cases reading_error_of_run? there failed

end OneStep

/-! ## A row of steps -/

theorem isInitialized_run (start : Session) (id : RequestId) (steps : List Step) :
    (start.run steps).2.store.isInitialized id =
      (Step.latestLife? id steps (start.run steps).1).getD (start.store.isInitialized id) := by
  induction steps using List.reverseRecOn with
  | nil => rfl
  | append_singleton before step ih =>
      have length : before.length = (start.run before).1.length := (length_run start before).symm
      rw [run_append, Step.latestLife?, List.zip_append length]
      change ((start.run before).2.step step).2.store.isInitialized id = (latest? _
        (before.zip (start.run before).1 ++ [(step, ((start.run before).2.step step).1)])).getD _
      rw [latest?_append_singleton, isInitialized_step, ih]
      cases step.life? id ((start.run before).2.step step).1 <;> rfl

theorem rewritten_trans {first second : String → Option (Option Value)} {middle later : RunConfig}
    (before : run.Rewritten first middle) (after : middle.Rewritten second later) :
    run.Rewritten (fun key => (second key).or (first key)) later := by
  refine ⟨after.sources.trans before.sources, ?_⟩
  intro key
  rw [after.values, before.values]
  cases second key <;> rfl

/-- While nothing takes a configuration away, it is what its last writes leave of it. -/
theorem rewritten_run (there : session.store.run? id = some run) {steps : List Step}
    (lasting : ∀ step ∈ steps, step.ends id = false) :
    ∃ later, (session.run steps).2.store.run? id = some later ∧
      run.Rewritten (fun key => Step.lastWrite? id key steps) later := by
  induction steps using List.reverseRecOn with
  | nil => exact ⟨run, there, rewritten_refl run⟩
  | append_singleton before step ih =>
      obtain ⟨middle, thereBefore, rewrittenBefore⟩ :=
        ih fun earlier member => lasting earlier (List.mem_append_left _ member)
      have stepped := run?_step_of_run? thereBefore step
      rw [lasting step (by simp), if_neg Bool.false_ne_true] at stepped
      obtain ⟨later, thereLater, rewrittenStep⟩ := stepped
      refine ⟨later, ?_, ?_⟩
      · rw [after_append_singleton, thereLater]
      · have both := rewritten_trans rewrittenBefore rewrittenStep
        simp only [Step.lastWrite?, latest?_append_singleton]
        exact both

/-- The step of a row that creates the configuration which a request has after the row. -/
structure Creation (id : RequestId) (start : Session) (steps before : List Step) (creating : Step)
    (after : List Step) (created : RunConfig) : Prop where
  split : steps = before ++ creating :: after
  absent : (start.run before).2.store.run? id = none
  creates : Creates id (start.run before).2 creating created
  lasting : ∀ step ∈ after, step.ends id = false

theorem Creation.rewritten {start : Session} {steps before after : List Step} {creating : Step}
    {created : RunConfig} (creation : Creation id start steps before creating after created) :
    ∃ run, (start.run steps).2.store.run? id = some run ∧
      created.Rewritten (fun key => Step.lastWrite? id key after) run := by
  have there := (run?_step_of_none creation.absent).mpr creation.creates
  obtain ⟨run, thereNow, rewritten⟩ := rewritten_run there creation.lasting
  refine ⟨run, ?_, rewritten⟩
  rw [creation.split, run_append, run_cons]
  exact thereNow

/-- By induction on the steps from their end: the last step has created the configuration, or has
left the one that was there. -/
theorem exists_creation {start : Session} (fresh : start.store.run? id = none) {steps : List Step}
    (there : (start.run steps).2.store.run? id = some run) :
    ∃ before creating after created, Creation id start steps before creating after created := by
  induction steps using List.reverseRecOn generalizing run with
  | nil => cases fresh.symm.trans there
  | append_singleton steps step ih =>
      rw [after_append_singleton] at there
      cases earlier : (start.run steps).2.store.run? id with
      | none =>
          exact ⟨steps, step, [], run, rfl, earlier, (run?_step_of_none earlier).mp there, by simp⟩
      | some old =>
          obtain ⟨before, creating, after, created, creation⟩ := ih earlier
          refine ⟨before, creating, after ++ [step], created, ?_, creation.absent,
            creation.creates, ?_⟩
          · rw [creation.split, List.append_assoc, List.cons_append]
          · have stepped := run?_step_of_run? earlier step
            have lasts : step.ends id = false := by
              cases ends : step.ends id with
              | false => rfl
              | true =>
                  rw [ends, if_pos rfl, there] at stepped
                  cases stepped
            intro other member
            rcases List.mem_append.mp member with among | last
            · exact creation.lasting other among
            · rw [List.mem_singleton.mp last, lasts]

/-- What a session holds for a request is decided by the steps before.  There is a configuration if
the latest step that decides it gave one; whoever uses the configuration is told where there is
none, and only there.  It was created by one step after which nothing took it away: its sources are
those of its creation, and each of its keys has what was written last since then, or else what it
had when it was created. -/
theorem history_of_run {start : Session} (fresh : start.store.run? id = none) (steps : List Step) :
    (start.run steps).2.store.isInitialized id =
        (Step.latestLife? id steps (start.run steps).1).getD false ∧
      (∀ step, step.request? = some id →
        if (start.run steps).2.store.isInitialized id then
          ∀ missing, ((start.run steps).2.step step).1 ≠ .error (.notInitialized missing)
        else step.usesRun = true →
          ((start.run steps).2.step step).1 = .error (.notInitialized id)) ∧
      ((start.run steps).2.store.isInitialized id = true ↔
        ∃ before creating after created, Creation id start steps before creating after created) ∧
      ∀ before creating after created, Creation id start steps before creating after created →
        ∃ run, (start.run steps).2.store.run? id = some run ∧
          run.sources = created.sources ∧
          ∀ key, run.document.get? key =
            (Step.lastWrite? id key after).getD (created.document.get? key) := by
  refine ⟨?_, ?_, ⟨?_, ?_⟩, ?_⟩
  · rw [isInitialized_run, Store.isInitialized, fresh]
    rfl
  · intro step named
    rw [Store.isInitialized]
    cases there : (start.run steps).2.store.run? id with
    | none =>
        rw [Option.isSome_none, if_neg Bool.false_ne_true]
        intro uses
        rw [step_of_run?_none there named uses]
    | some run =>
        rw [Option.isSome_some, if_pos rfl]
        intro missing failed
        obtain ⟨key, fault, malformed⟩ := malformed_of_step there named failed
        cases malformed
  · intro initialised
    obtain ⟨run, there⟩ := Option.isSome_iff_exists.mp initialised
    exact exists_creation fresh there
  · rintro ⟨before, creating, after, created, creation⟩
    obtain ⟨run, there, -⟩ := creation.rewritten
    rw [Store.isInitialized, there]
    rfl
  · intro before creating after created creation
    obtain ⟨run, there, rewritten⟩ := creation.rewritten
    exact ⟨run, there, rewritten.sources, rewritten.values⟩

/-- A request that is created twice and then changed in every way. -/
def eventfulSteps : List Step :=
  [.setDocument ⟨"lint"⟩ ∅,
    .delete ⟨"lint"⟩,
    .init ⟨"lint"⟩ (some "/w") Loader.workspaceParameters,
    .setValue ⟨"lint"⟩ "B" .null,
    .init ⟨"lint"⟩ none (Mapping.ofList [("A", .text "later")]),
    .delete ⟨"other"⟩,
    .removeKey ⟨"lint"⟩ "C"]

theorem history_of_run_eventful :
    workspaceSession.store.run? ⟨"lint"⟩ = none ∧
      Step.latestLife? ⟨"lint"⟩ eventfulSteps (workspaceSession.run eventfulSteps).1 = some true ∧
      (workspaceSession.run eventfulSteps).2.store.isInitialized ⟨"lint"⟩ = true ∧
      ∃ run,
        (workspaceSession.run eventfulSteps).2.store.run? ⟨"lint"⟩ = some run ∧
        run.sources = Loader.workspaceRun.sources ∧
        run.document.get? "A" = some (.text "later") ∧
        run.document.get? "B" = some .null ∧
        run.document.get? "C" = none ∧
        run.document.get? "D" = some (.text "top") := by
  have fresh : workspaceSession.store.run? ⟨"lint"⟩ = none := by
    decide +kernel
  have alive : Step.latestLife? ⟨"lint"⟩ eventfulSteps (workspaceSession.run eventfulSteps).1 =
      some true := by
    decide +kernel
  have resolved : (workspaceSession.loader.resolve workspaceSession.environment (some "/w")
      Loader.workspaceParameters).after workspaceSession.tree =
        (.ok Loader.workspaceRun, workspaceSession.tree) := by
    decide +kernel
  have creation : Creation ⟨"lint"⟩ workspaceSession eventfulSteps (eventfulSteps.take 2)
      (.init ⟨"lint"⟩ (some "/w") Loader.workspaceParameters) (eventfulSteps.drop 3)
      Loader.workspaceRun :=
    ⟨rfl, by decide +kernel, .init resolved, by decide +kernel⟩
  obtain ⟨initialised, -, -, decided⟩ := history_of_run fresh eventfulSteps
  obtain ⟨run, there, sources, values⟩ := decided _ _ _ _ creation
  rw [alive] at initialised
  refine ⟨fresh, alive, initialised, run, there, sources, ?_, ?_, ?_, ?_⟩
  · rw [values]
    decide +kernel
  · rw [values]
    decide +kernel
  · rw [values]
    decide +kernel
  · rw [values]
    decide +kernel

end Session

end LayeredConfig
