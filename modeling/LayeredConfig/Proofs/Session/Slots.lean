import LayeredConfig.Proofs.Resolution.Initialisation

/-!
# Slots between steps

A step touches the slot of the request that it names and no other one, unless it clears the whole
store.  An initialisation has an empty slot in the store while it resolves, but takes it away when
it fails; so between steps no slot is empty, and a step that fails leaves the store as it was.
-/

set_option autoImplicit false

namespace LayeredConfig

/-! ## What a step names -/

/-- The request that a step is about. -/
def Step.request? : Step → Option RequestId
  | .init id _ _ | .isInitialized id | .getDocument id | .getRun id | .getSources id
  | .setDocument id _ | .delete id | .get id _ | .getOr id _ _ | .getText id _ | .getList id _
  | .getListOr id _ _ | .getArguments id _ | .setValue id _ _ | .contains id _ | .removeKey id _
  | .secured id | .toEnvironment id _ => some id
  | .resolve _ _ | .getEnvironment | .deleteAll | .discover _ | .load _ _ | .expand _ _ _
  | .putFile _ _ | .dropFile _ | .showFile _ => none

/-- A step that changes no slot, whatever it loads and wherever it leaves a copy of that. -/
def Step.readsOnly : Step → Bool
  | .init _ _ _ | .setDocument _ _ | .delete _ | .deleteAll | .setValue _ _ _ | .removeKey _ _
  | .putFile _ _ | .dropFile _ => false
  | .resolve _ _ | .isInitialized _ | .getDocument _ | .getRun _ | .getSources _
  | .getEnvironment | .get _ _ | .getOr _ _ _ | .getText _ _ | .getList _ _ | .getListOr _ _ _
  | .getArguments _ _ | .contains _ _ | .secured _ | .toEnvironment _ _ | .discover _ | .load _ _
  | .expand _ _ _ | .showFile _ => true

namespace Store

/-! ## What happens to slots -/

/-- What a step can make of a store, if it names a request or none. -/
inductive Effect (store : Store) : Option RequestId → Store → Prop where
  | kept (request : Option RequestId) : Effect store request store
  | put (id : RequestId) (run : RunConfig) : Effect store (some id) (store.put id run)
  | deleted (id : RequestId) : Effect store (some id) (store.delete id)
  | cleared : Effect store none .empty

/-- No slot is empty. -/
def Settled (store : Store) : Prop :=
  ∀ id, store.slot? id ≠ some none

variable {store later : Store} {id : RequestId} {request : Option RequestId}

theorem settled_empty : empty.Settled := by
  intro id there
  cases there

theorem Settled.slot?_of_run? (settled : store.Settled) (absent : store.run? id = none) :
    store.slot? id = none := by
  cases there : store.slot? id with
  | none => rfl
  | some slot =>
      cases slot with
      | none => exact absurd there (settled id)
      | some run =>
          rw [run?, there] at absent
          cases absent

theorem Settled.effect (settled : store.Settled) (effect : store.Effect request later) :
    later.Settled := by
  intro other there
  cases effect with
  | kept => exact settled other there
  | put id run =>
      rw [slot?_put] at there
      split_ifs at there
      · cases there
      · exact settled other there
  | deleted id =>
      rw [slot?_delete] at there
      split_ifs at there
      exact settled other there
  | cleared => cases there

/-- A step that does not name a request gives it no slot. -/
theorem Effect.slot?_of_ne (effect : store.Effect request later) (other : request ≠ some id)
    (absent : store.slot? id = none) : later.slot? id = none := by
  cases effect with
  | kept => exact absent
  | put named run =>
      rw [slot?_put, if_neg fun same => other (congrArg some same.symm), absent]
  | deleted named =>
      rw [slot?_delete, if_neg fun same => other (congrArg some same.symm), absent]
  | cleared => rfl

end Store

namespace Session

variable {session : Session} {id : RequestId}

/-! ## What a step can do -/

theorem changing_of_run?_none (absent : session.store.run? id = none)
    (f : Document → Document) :
    session.changing id f = (.error (.notInitialized id), session) := by
  rw [changing, Store.change, Store.run, absent]
  rfl

theorem effect_changing (session : Session) (id : RequestId) (f : Document → Document) :
    session.store.Effect (some id) (session.changing id f).2.store := by
  cases there : session.store.run? id with
  | some run =>
      rw [changing_of_run? there]
      exact .put id _
  | none =>
      rw [changing_of_run?_none there]
      exact .kept _

theorem effect_init (session : Session) (id : RequestId) (workspace : Option String)
    (parameters : Document) :
    session.store.Effect (some id) (session.init id workspace parameters).2.store := by
  cases there : session.store.run? id with
  | some run =>
      rw [init_of_run? there]
      exact .put id _
  | none =>
      rcases resolved : (session.loader.resolve session.environment workspace parameters).after
        session.tree with ⟨error | run, tree⟩
      · rw [init_of_resolve_error there resolved]
        exact .deleted id
      · rw [init_of_resolve there resolved]
        exact .put id run

/-- A step touches the slot of the request that it names; a step that names none leaves all slots or
clears them. -/
theorem effect_step (session : Session) (step : Step) :
    session.store.Effect step.request? (session.step step).2.store := by
  cases step with
  | init id workspace parameters => exact effect_init session id workspace parameters
  | setDocument id document =>
      rw [Session.step, Store.setDocument_eq_put]
      exact .put id _
  | delete id => exact .deleted id
  | deleteAll => exact .cleared
  | setValue id key value => exact effect_changing session id _
  | removeKey id key => exact effect_changing session id _
  | _ => exact .kept _

/-- The environment and the loader of a session are always the same. -/
theorem fixed_step (session : Session) (step : Step) :
    (session.step step).2.environment = session.environment ∧
      (session.step step).2.loader = session.loader := by
  have fixed_changing : ∀ id f, (session.changing id f).2.environment = session.environment ∧
      (session.changing id f).2.loader = session.loader := by
    intro id f
    unfold changing
    split <;> exact ⟨rfl, rfl⟩
  cases step with
  | setValue id key value => exact fixed_changing id _
  | removeKey id key => exact fixed_changing id _
  | _ => exact ⟨rfl, rfl⟩

theorem store_of_readsOnly {step : Step} (reads : step.readsOnly = true) :
    (session.step step).2.store = session.store := by
  cases step <;> first | rfl | cases reads

/-! ## Runs -/

theorem run_cons (session : Session) (step : Step) (steps : List Step) :
    session.run (step :: steps) =
      ((session.step step).1 :: ((session.step step).2.run steps).1,
        ((session.step step).2.run steps).2) := rfl

theorem run_append (session : Session) (first second : List Step) :
    session.run (first ++ second) =
      ((session.run first).1 ++ ((session.run first).2.run second).1,
        ((session.run first).2.run second).2) := by
  induction first generalizing session with
  | nil => rfl
  | cons step first ih => rw [List.cons_append, run_cons, run_cons, ih, List.cons_append]

theorem settled_run (settled : session.store.Settled) (steps : List Step) :
    (session.run steps).2.store.Settled := by
  induction steps generalizing session with
  | nil => exact settled
  | cons step steps ih => exact ih (settled.effect (session.effect_step step))

theorem fixed_run (session : Session) (steps : List Step) :
    (session.run steps).2.environment = session.environment ∧
      (session.run steps).2.loader = session.loader := by
  induction steps generalizing session with
  | nil => exact ⟨rfl, rfl⟩
  | cons step steps ih =>
      obtain ⟨sameEnvironment, sameLoader⟩ := session.fixed_step step
      rw [run_cons]
      exact ⟨(ih _).1.trans sameEnvironment, (ih _).2.trans sameLoader⟩

/-- Steps about other requests, and steps that only read, give a request no slot. -/
theorem slot?_run_of_idle {steps : List Step}
    (idle : ∀ step ∈ steps, step.request? = some id → step.readsOnly = true)
    (absent : session.store.slot? id = none) : (session.run steps).2.store.slot? id = none := by
  induction steps generalizing session with
  | nil => exact absent
  | cons step steps ih =>
      obtain ⟨here, further⟩ := List.forall_mem_cons.mp idle
      have stillAbsent : (session.step step).2.store.slot? id = none := by
        by_cases named : step.request? = some id
        · rw [store_of_readsOnly (here named), absent]
        · exact (session.effect_step step).slot?_of_ne named absent
      exact ih further stillAbsent

/-! ## Steps that fail -/

theorem store_of_changing_error {error : ConfigError} {later : Session} {f : Document → Document}
    (failed : session.changing id f = (.error error, later)) : later.store = session.store := by
  cases there : session.store.run? id with
  | some run =>
      rw [changing_of_run? there] at failed
      cases failed
  | none =>
      rw [changing_of_run?_none there] at failed
      cases failed
      rfl

/-- An initialisation fails where its resolution does, and takes its slot away. -/
theorem refused_of_init_error {workspace : Option String} {parameters : Document}
    {error : ConfigError} {later : Session}
    (failed : session.init id workspace parameters = (.error error, later)) :
    session.store.run? id = none ∧
      (session.loader.resolve session.environment workspace parameters).after session.tree =
        (.error error, later.tree) ∧
      later.store = session.store.delete id := by
  cases there : session.store.run? id with
  | some run =>
      rw [init_of_run? there] at failed
      cases failed
  | none =>
      rcases resolved : (session.loader.resolve session.environment workspace parameters).after
        session.tree with ⟨refusal | run, tree⟩
      · rw [init_of_resolve_error there resolved] at failed
        cases failed
        exact ⟨rfl, rfl, rfl⟩
      · rw [init_of_resolve there resolved] at failed
        cases failed

theorem store_of_step_error (settled : session.store.Settled) {step : Step} {error : ConfigError}
    {later : Session} (failed : session.step step = (.error error, later)) :
    later.store = session.store := by
  have same : (session.step step).2 = later := by rw [failed]
  cases step with
  | init id workspace parameters =>
      obtain ⟨absent, -, taken⟩ := refused_of_init_error failed
      rw [taken, Store.delete_of_slot? (settled.slot?_of_run? absent)]
  | setDocument id document => cases failed
  | delete id => cases failed
  | deleteAll => cases failed
  | setValue id key value => exact store_of_changing_error failed
  | removeKey id key => exact store_of_changing_error failed
  | _ =>
      rw [← same]
      rfl

/-- A request without slot is resolved from the environment, the parameters and the files of the
moment. -/
theorem init_of_slot?_none (absent : session.store.slot? id = none) (workspace : Option String)
    (parameters : Document) :
    session.init id workspace parameters =
      match (session.loader.resolve session.environment workspace parameters).after
        session.tree with
      | (.ok run, tree) => (.ok .done, { session with store := session.store.put id run, tree })
      | (.error error, tree) => (.error error, { session with tree }) := by
  have fresh : session.store.run? id = none := by
    rw [Store.run?, absent]
    rfl
  rcases resolved : (session.loader.resolve session.environment workspace parameters).after
    session.tree with ⟨error | run, tree⟩
  · rw [init_of_resolve_error fresh resolved, Store.delete_of_slot? absent]
  · rw [init_of_resolve fresh resolved]

/-- A step that fails leaves the store as it was: the same slots, none of them empty, with the same
configurations.  In particular it leaves no slot to a request that had none, neither where a first
initialisation fails nor where an unknown request is read or changed; and whatever other requests do
meanwhile, the next initialisation of the request resolves from scratch. -/
theorem store_of_failed_step {start : Session} (fresh : start.store = .empty)
    (before : List Step) {step : Step} {error : ConfigError} {later : Session}
    (failed : (start.run before).2.step step = (.error error, later)) :
    later.store = (start.run before).2.store ∧
      later.store.Settled ∧
      (∀ id workspace parameters, step = .init id workspace parameters →
        (later.loader.resolve later.environment workspace parameters).after
            (start.run before).2.tree = (.error error, later.tree) ∧
          (start.run before).2.store.slot? id = none) ∧
      (∀ id, step.request? = some id → (start.run before).2.store.run? id = none →
        later.store.slot? id = none) ∧
      ∀ id, later.store.slot? id = none → ∀ between now,
        (∀ step ∈ between, step.request? = some id → step.readsOnly = true) →
        (later.run between).2 = now →
          ∀ workspace parameters,
            now.step (.init id workspace parameters) =
              match (start.loader.resolve start.environment workspace parameters).after
                now.tree with
              | (.ok run, tree) => (.ok .done, { now with store := now.store.put id run, tree })
              | (.error error, tree) => (.error error, { now with tree }) := by
  have settled : (start.run before).2.store.Settled := by
    apply settled_run
    rw [fresh]
    exact Store.settled_empty
  have same : later.store = (start.run before).2.store := store_of_step_error settled failed
  obtain ⟨sameEnvironment, sameLoader⟩ : later.environment = start.environment ∧
      later.loader = start.loader := by
    have fixed := (start.run before).2.fixed_step step
    rw [failed] at fixed
    exact ⟨fixed.1.trans (start.fixed_run before).1, fixed.2.trans (start.fixed_run before).2⟩
  refine ⟨same, same ▸ settled, ?_, ?_, ?_⟩
  · rintro id workspace parameters rfl
    obtain ⟨absent, refused, -⟩ := refused_of_init_error failed
    rw [(start.fixed_run before).1, (start.fixed_run before).2] at refused
    rw [sameEnvironment, sameLoader]
    exact ⟨refused, settled.slot?_of_run? absent⟩
  · intro id named absent
    rw [same]
    exact settled.slot?_of_run? absent
  · rintro id absent between now idle rfl workspace parameters
    have stillAbsent := slot?_run_of_idle idle absent
    have fixed := later.fixed_run between
    rw [← sameEnvironment, ← sameLoader, ← fixed.1, ← fixed.2]
    exact init_of_slot?_none stillAbsent workspace parameters

/-- Parameters that extend a document that is there and one that is not. -/
def missingParameters : Document :=
  Mapping.ofList [("EXTENDS", .list [.text "top.yml", .text "missing.yml"])]

theorem store_of_failed_step_missing :
    workspaceSession.store = .empty ∧
      ∃ later,
        (workspaceSession.run [.setDocument ⟨"lint"⟩ ∅]).2.step
            (.init ⟨"other"⟩ (some "/w") missingParameters) =
          (.error (.notFound "/w/missing.yml"), later) ∧
        later.store = Store.empty.put ⟨"lint"⟩ ⟨∅, ""⟩ ∧
        later.store.slot? ⟨"other"⟩ = none := by
  have answered : ((workspaceSession.run [.setDocument ⟨"lint"⟩ ∅]).2.step
      (.init ⟨"other"⟩ (some "/w") missingParameters)).1 =
        .error (.notFound "/w/missing.yml") := by
    decide +kernel
  have fresh : workspaceSession.store = .empty := rfl
  rcases failed : (workspaceSession.run [.setDocument ⟨"lint"⟩ ∅]).2.step
      (.init ⟨"other"⟩ (some "/w") missingParameters) with ⟨answer, later⟩
  rw [failed] at answered
  obtain rfl := answered
  obtain ⟨same, -, taken, -, -⟩ := store_of_failed_step fresh [.setDocument ⟨"lint"⟩ ∅] failed
  have stored : (workspaceSession.run [.setDocument ⟨"lint"⟩ ∅]).2.store =
      Store.empty.put ⟨"lint"⟩ ⟨∅, ""⟩ := by
    decide +kernel
  have absent := (taken ⟨"other"⟩ (some "/w") missingParameters rfl).2
  refine ⟨fresh, later, rfl, same.trans stored, ?_⟩
  rw [same, absent]

end Session

end LayeredConfig
