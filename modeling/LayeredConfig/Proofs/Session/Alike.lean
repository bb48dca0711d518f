import LayeredConfig.Proofs.Resolution.Consultation
import LayeredConfig.Proofs.Session.Slots

/-!
# Sessions that are alike for a request

Two sessions are alike for a request if its slot is the same in both.  The slots of other requests
may be different, and so may be the files at some places.  A step about the request is given the
same answer in both and leaves them alike, as long as what it loads lies apart from these places;
and a step about another request in one of them, or one that only reads, makes no difference.
-/

set_option autoImplicit false

namespace LayeredConfig

open Files

namespace Step

/-- A step that may change something and is about no other request. -/
def keptFor (id : RequestId) (step : Step) : Bool :=
  !step.readsOnly && step.request?.all (· = id)

theorem readsOnly_or_other_of_not_kept {id : RequestId} {step : Step}
    (left : step.keptFor id = false) :
    step.readsOnly = true ∨ ∃ other, step.request? = some other ∧ other ≠ id := by
  rw [keptFor, Bool.and_eq_false_iff, Bool.not_eq_false'] at left
  rcases left with reads | other
  · exact .inl reads
  · right
    cases named : step.request? with
    | none =>
        rw [named] at other
        cases other
    | some another =>
        rw [named, Option.all_some, decide_eq_false_iff_not] at other
        exact ⟨another, rfl, other⟩

theorem request?_of_kept {id : RequestId} {step : Step} (kept : step.keptFor id = true) :
    step.readsOnly = false ∧ (step.request? = none ∨ step.request? = some id) := by
  rw [keptFor, Bool.and_eq_true, Bool.not_eq_true'] at kept
  obtain ⟨changes, about⟩ := kept
  refine ⟨changes, ?_⟩
  cases named : step.request? with
  | none => exact .inl rfl
  | some other =>
      rw [named, Option.all_some, decide_eq_true_iff] at about
      exact .inr (congrArg some about)

/-- A change by others to the files. -/
def changesFiles : Step → Bool
  | .putFile _ _ | .dropFile _ => true
  | _ => false

theorem keptFor_of_changesFiles {id : RequestId} {step : Step}
    (outside : step.changesFiles = true) : step.keptFor id = true := by
  cases step with
  | putFile path bytes => rfl
  | dropFile path => rfl
  | _ => cases outside

theorem eq_deleteAll {step : Step} (changes : step.readsOnly = false)
    (unnamed : step.request? = none) (inside : step.changesFiles = false) : step = .deleteAll := by
  cases step with
  | deleteAll => rfl
  | _ => simp [readsOnly, request?, changesFiles] at changes unnamed inside

end Step

theorem Store.Effect.slot?_eq {store later : Store} {id other : RequestId}
    (effect : store.Effect (some other) later) (apart : other ≠ id) :
    later.slot? id = store.slot? id := by
  cases effect with
  | kept => rfl
  | put other run => rw [Store.slot?_put, if_neg apart.symm]
  | deleted other => rw [Store.slot?_delete, if_neg apart.symm]

/-- A place that two trees do not agree about. -/
def FileTree.Disagree (tree other : FileTree) (place : Place) : Prop :=
  other.entry? place ≠ tree.entry? place

/-- Two trees differ at the places that they do not agree about. -/
theorem FileTree.differsAt_disagree {tree other : FileTree}
    (current : other.current = tree.current) :
    tree.DiffersAt (tree.Disagree other) other.TakesFile other :=
  ⟨current, fun _ agree => Decidable.not_not.mp agree, fun _ takes => takes⟩

namespace Session

variable {id : RequestId} {full own : Session}

/-! ## The files of a session -/

/-- An initialisation leaves the files alone or as its resolution leaves them. -/
theorem tree_init (session : Session) (id : RequestId) (workspace : Option String)
    (parameters : Document) :
    (session.init id workspace parameters).2.tree = session.tree ∨
      (session.init id workspace parameters).2.tree =
        ((session.loader.resolve session.environment workspace parameters).after
          session.tree).2 := by
  cases there : session.store.run? id with
  | some run =>
      rw [init_of_run? there]
      exact .inl rfl
  | none =>
      right
      rcases resolved : (session.loader.resolve session.environment workspace parameters).after
        session.tree with ⟨error | run, tree⟩
      · rw [init_of_resolve_error there resolved]
      · rw [init_of_resolve there resolved]

theorem tree_changing (session : Session) (id : RequestId) (f : Document → Document) :
    (session.changing id f).2.tree = session.tree := by
  unfold changing
  split <;> rfl

/-- No step of the program takes a file away or moves one. -/
theorem growth_step (session : Session) {step : Step} (inside : step.changesFiles = false) :
    session.tree.Growth (session.step step).2.tree := by
  cases step with
  | init id workspace parameters =>
      rw [Session.step]
      rcases session.tree_init id workspace parameters with same | same <;> rw [same]
      · exact .refl session.tree
      · exact session.loader.growth_resolve ..
  | resolve workspace parameters => exact session.loader.growth_resolve ..
  | load text base => exact session.loader.growth_load ..
  | expand base document origin => exact session.loader.growth_expand ..
  | setValue id key value =>
      rw [Session.step, tree_changing]
      exact .refl session.tree
  | removeKey id key =>
      rw [Session.step, tree_changing]
      exact .refl session.tree
  | putFile path bytes => cases inside
  | dropFile path => cases inside
  | _ => exact .refl session.tree

theorem current_step (session : Session) (step : Step) :
    (session.step step).2.tree.current = session.tree.current := by
  cases outside : step.changesFiles with
  | false => exact (session.growth_step outside).current
  | true =>
      cases step with
      | putFile path bytes => exact FileTree.current_putFile ..
      | dropFile path => exact FileTree.current_removeFile ..
      | _ => cases outside

/-! ## Two sessions that are alike for a request -/

/-- A session in which a request has the same slot as in another one.  The slots of other requests
may be different, and so may be the files at some places. -/
structure Alike (id : RequestId) (places loose : Place → Prop) (full own : Session) : Prop where
  environment : own.environment = full.environment
  loader : own.loader = full.loader
  slot : own.store.slot? id = full.store.slot? id
  differs : full.tree.DiffersAt places loose own.tree

/-- Everything that a resolution consults lies apart from some places.  A copy may be written into a
loose one of these, but nothing is looked for there. -/
def Untouched (places loose : Place → Prop) (session : Session) (workspace : Option String)
    (parameters : Document) : Prop :=
  ∀ location found,
    session.loader.Consults session.environment workspace parameters session.tree location found →
      location.Spares session.loader places loose found

/-- Two sessions that are alike for a request, whatever files they disagree about. -/
def Matches (id : RequestId) (full own : Session) : Prop :=
  Alike id (full.tree.Disagree own.tree) own.tree.TakesFile full own

section Steps

variable {places loose : Place → Prop}

theorem matches_of_current (environment : own.environment = full.environment)
    (loader : own.loader = full.loader) (slot : own.store.slot? id = full.store.slot? id)
    (current : own.tree.current = full.tree.current) : Matches id full own :=
  ⟨environment, loader, slot, FileTree.differsAt_disagree current⟩

theorem Alike.refl (id : RequestId) (session : Session) :
    Alike id (fun _ => False) (fun _ => False) session session :=
  ⟨rfl, rfl, rfl, rfl, fun _ _ => rfl, fun _ none => none.elim⟩

theorem Alike.matches (alike : Alike id places loose full own) : Matches id full own :=
  matches_of_current alike.environment alike.loader alike.slot alike.differs.current

theorem Alike.run? (alike : Alike id places loose full own) :
    own.store.run? id = full.store.run? id := by
  rw [Store.run?, Store.run?, alike.slot]

theorem Alike.run (alike : Alike id places loose full own) :
    own.store.run id = full.store.run id := by
  rw [Store.run, Store.run, alike.run?]

theorem Alike.put (alike : Alike id places loose full own) (run : RunConfig) :
    Alike id places loose { full with store := full.store.put id run }
      { own with store := own.store.put id run } :=
  ⟨alike.environment, alike.loader,
    by rw [Store.slot?_put, Store.slot?_put, if_pos rfl, if_pos rfl], alike.differs⟩

theorem Alike.delete (alike : Alike id places loose full own) :
    Alike id places loose { full with store := full.store.delete id }
      { own with store := own.store.delete id } :=
  ⟨alike.environment, alike.loader,
    by rw [Store.slot?_delete, Store.slot?_delete, if_pos rfl, if_pos rfl], alike.differs⟩

theorem Alike.withTrees (alike : Alike id places loose full own) {later last : FileTree}
    (differs : later.DiffersAt places loose last) :
    Alike id places loose { full with tree := later } { own with tree := last } :=
  ⟨alike.environment, alike.loader, alike.slot, differs⟩

theorem Alike.reading {α : Type} (alike : Alike id places loose full own) (reply : α → Reply)
    (read : Document → Except ConfigError α) :
    (own.reading id reply read).1 = (full.reading id reply read).1 := by
  rw [Session.reading, Session.reading, Store.read, Store.read, alike.run]

theorem Alike.changing (alike : Alike id places loose full own) (f : Document → Document) :
    (own.changing id f).1 = (full.changing id f).1 ∧
      Alike id places loose (full.changing id f).2 (own.changing id f).2 := by
  cases there : full.store.run? id with
  | some run =>
      rw [changing_of_run? there, changing_of_run? (alike.run?.trans there)]
      exact ⟨rfl, alike.put _⟩
  | none =>
      rw [changing_of_run?_none there, changing_of_run?_none (alike.run?.trans there)]
      exact ⟨rfl, alike⟩

theorem Alike.init (alike : Alike id places loose full own) (workspace : Option String)
    (parameters : Document)
    (untouched : full.store.run? id = none →
      Untouched places loose full workspace parameters) :
    (own.init id workspace parameters).1 = (full.init id workspace parameters).1 ∧
      Alike id places loose (full.init id workspace parameters).2
        (own.init id workspace parameters).2 := by
  cases there : full.store.run? id with
  | some run =>
      rw [init_of_run? there, init_of_run? (alike.run?.trans there)]
      exact ⟨rfl, alike.put _⟩
  | none =>
      have thereToo := alike.run?.trans there
      obtain ⟨result, later, last, resolved, resolvedToo, differs⟩ :=
        Loader.after_resolve_of_spares alike.differs (untouched there)
      rw [← alike.environment, ← alike.loader] at resolvedToo
      cases result with
      | error error =>
          rw [init_of_resolve_error there resolved, init_of_resolve_error thereToo resolvedToo]
          exact ⟨rfl, alike.delete.withTrees differs⟩
      | ok run =>
          rw [init_of_resolve there resolved, init_of_resolve thereToo resolvedToo]
          exact ⟨rfl, (alike.put run).withTrees differs⟩

/-- A step about a request is given the same answer in two sessions that are alike for it, and
leaves them alike. -/
theorem Alike.step (alike : Alike id places loose full own) {step : Step}
    (named : step.request? = some id)
    (untouched : ∀ workspace parameters, step = .init id workspace parameters →
      full.store.run? id = none → Untouched places loose full workspace parameters) :
    (own.step step).1 = (full.step step).1 ∧
      Alike id places loose (full.step step).2 (own.step step).2 := by
  cases step with
  | init other workspace parameters =>
      cases named
      exact alike.init workspace parameters (untouched workspace parameters rfl)
  | isInitialized other =>
      cases named
      refine ⟨?_, alike⟩
      simp only [Session.step, Store.isInitialized, alike.run?]
  | getRun other =>
      cases named
      refine ⟨?_, alike⟩
      simp only [Session.step, alike.run]
  | getSources other =>
      cases named
      refine ⟨?_, alike⟩
      simp only [Session.step, alike.run]
  | setDocument other document =>
      cases named
      simp only [Session.step, Store.setDocument_eq_put, alike.run?, true_and]
      exact alike.put _
  | delete other =>
      cases named
      exact ⟨rfl, alike.delete⟩
  | setValue other key value =>
      cases named
      exact alike.changing _
  | removeKey other key =>
      cases named
      exact alike.changing _
  | _ => cases named <;> exact ⟨alike.reading _ _, alike⟩

theorem Alike.deleteAll (alike : Alike id places loose full own) :
    (own.step .deleteAll).1 = (full.step .deleteAll).1 ∧
      Alike id places loose (full.step .deleteAll).2 (own.step .deleteAll).2 :=
  ⟨rfl, alike.environment, alike.loader, rfl, alike.differs⟩

/-- A change that is about no request leaves two sessions alike; what it changes in the files may
depend on what was there. -/
theorem Alike.step_of_unnamed (alike : Alike id places loose full own) {step : Step}
    (changes : step.readsOnly = false) (unnamed : step.request? = none) :
    (own.step step).1 = (full.step step).1 ∧ Matches id (full.step step).2 (own.step step).2 := by
  have current : (own.step step).2.tree.current = (full.step step).2.tree.current := by
    rw [current_step, current_step, alike.differs.current]
  cases step with
  | deleteAll => exact ⟨rfl, alike.deleteAll.2.matches⟩
  | putFile path bytes =>
      exact ⟨rfl, matches_of_current alike.environment alike.loader alike.slot current⟩
  | dropFile path =>
      exact ⟨rfl, matches_of_current alike.environment alike.loader alike.slot current⟩
  | _ => simp [Step.readsOnly, Step.request?] at changes unnamed

/-- A step that is left out makes no difference to the slot of the request. -/
theorem slot?_step_left_out {step : Step} (left : step.keptFor id = false) (session : Session) :
    (session.step step).2.store.slot? id = session.store.slot? id := by
  rcases Step.readsOnly_or_other_of_not_kept left with reads | ⟨other, named, apart⟩
  · rw [store_of_readsOnly reads]
  · have effect := session.effect_step step
    rw [named] at effect
    exact effect.slot?_eq apart

theorem Alike.step_left_out (alike : Alike id places loose full own) {step : Step}
    (left : step.keptFor id = false) {more looser : Place → Prop}
    (differs : (full.step step).2.tree.DiffersAt more looser own.tree) :
    Alike id more looser (full.step step).2 own := by
  obtain ⟨environment, loader⟩ := full.fixed_step step
  refine ⟨?_, ?_, ?_, differs⟩
  · rw [environment, alike.environment]
  · rw [loader, alike.loader]
  · rw [slot?_step_left_out left, alike.slot]

/-- A step that is kept for a request is given the same answer in two sessions that are alike for
it, and leaves them alike. -/
theorem Matches.step_kept (alike : Matches id full own) {step : Step}
    (kept : step.keptFor id = true)
    (untouched : ∀ workspace parameters, step = .init id workspace parameters →
      full.store.run? id = none →
        Untouched (full.tree.Disagree own.tree) own.tree.TakesFile full workspace parameters) :
    (own.step step).1 = (full.step step).1 ∧ Matches id (full.step step).2 (own.step step).2 := by
  obtain ⟨changes, unnamed | named⟩ := Step.request?_of_kept kept
  · exact Alike.step_of_unnamed alike changes unnamed
  · obtain ⟨same, alikeLater⟩ := Alike.step alike named untouched
    exact ⟨same, alikeLater.matches⟩

theorem Matches.step_left_out (alike : Matches id full own) {step : Step}
    (left : step.keptFor id = false) : Matches id (full.step step).2 own := by
  have current : own.tree.current = (full.step step).2.tree.current := by
    rw [current_step, alike.differs.current]
  exact Alike.step_left_out alike left (FileTree.differsAt_disagree current)

end Steps

end Session

end LayeredConfig
