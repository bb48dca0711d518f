import LayeredConfig.Proofs.Resolution.Repetition
import LayeredConfig.Proofs.Session.Alike

/-!
# Requests apart

A run is taken twice: once with all its steps, and once with those alone that may change something
and are about no other request than one.  This request is given the same answers in both, as long as
what it is resolved from is the same.  The two runs may well leave different files, for a step that
is left out may have written the copy of a remote document; but a resolution depends on what it
consults and on nothing else.
-/

set_option autoImplicit false

namespace LayeredConfig

open Files

theorem RequestId.ofNat_eq_iff {n : Nat} {text : String} :
    RequestId.ofNat n = ⟨text⟩ ↔ toString n = text := by
  rw [RequestId.ext_iff]
  rfl

theorem RequestId.ofNat_inj {m n : Nat} : RequestId.ofNat m = RequestId.ofNat n ↔ m = n := by
  rw [RequestId.ext_iff]
  constructor
  · intro same
    have digits : Nat.toDigits 10 m = Nat.toDigits 10 n := String.ofList_inj.mp same
    calc
      m = Nat.ofDigitChars 10 (Nat.toDigits 10 m) 0 :=
        (Nat.ofDigitChars_toDigits (by decide) (by decide)).symm
      _ = Nat.ofDigitChars 10 (Nat.toDigits 10 n) 0 := by rw [digits]
      _ = n := Nat.ofDigitChars_toDigits (by decide) (by decide)
  · rintro rfl
    rfl

namespace Session

variable {id : RequestId} {full own : Session}

/-! ## A run and its kept steps -/

/-- The session after those steps of a run that are kept for a request. -/
def afterKept (start : Session) (id : RequestId) (steps : List Step) : Session :=
  (start.run (steps.filter (Step.keptFor id))).2

section Runs

variable {start : Session} {before : List Step} {step : Step}

theorem after_append_singleton :
    (start.run (before ++ [step])).2 = ((start.run before).2.step step).2 := by
  rw [run_append]
  rfl

theorem run_singleton (session : Session) (step : Step) :
    (session.run [step]).2 = (session.step step).2 := rfl

theorem afterKept_append_of_kept (kept : step.keptFor id = true) :
    start.afterKept id (before ++ [step]) = ((start.afterKept id before).step step).2 := by
  rw [afterKept, List.filter_append, List.filter_singleton, kept, cond_true, after_append_singleton]
  rfl

theorem afterKept_append_of_left_out (left : step.keptFor id = false) :
    start.afterKept id (before ++ [step]) = start.afterKept id before := by
  rw [afterKept, List.filter_append, List.filter_singleton, left, cond_false, List.append_nil]
  rfl

theorem length_run (session : Session) (steps : List Step) :
    (session.run steps).1.length = steps.length := by
  induction steps generalizing session with
  | nil => rfl
  | cons step steps ih => rw [run_cons, List.length_cons, List.length_cons, ih]

/-- The answers to the steps that are kept for a request. -/
def keptAnswers (id : RequestId) (steps : List Step) (answers : List Answer) : List Answer :=
  ((steps.zip answers).filter fun pair => pair.1.keptFor id).map Prod.snd

theorem keptAnswers_append_singleton :
    keptAnswers id (before ++ [step]) (start.run (before ++ [step])).1 =
      keptAnswers id before (start.run before).1 ++
        if step.keptFor id then [((start.run before).2.step step).1] else [] := by
  have length : before.length = (start.run before).1.length := (length_run start before).symm
  rw [keptAnswers, run_append, List.zip_append length, List.filter_append, List.map_append]
  cases kept : step.keptFor id <;> simp [keptAnswers, kept, Session.run]

end Runs

/-- Wherever a request is resolved in a run, what it consults is the same in the run of the steps
that are kept for it. -/
def UntouchedRun (id : RequestId) (start : Session) (steps : List Step) : Prop :=
  ∀ before workspace parameters after, steps = before ++ .init id workspace parameters :: after →
    (start.run before).2.store.run? id = none →
      Untouched ((start.run before).2.tree.Disagree (start.afterKept id before).tree)
        (start.afterKept id before).tree.TakesFile (start.run before).2 workspace parameters

/-- After every part of a run the request finds its own slot.  By induction on the part, step by
step at its end. -/
theorem matches_run {start : Session} {steps : List Step}
    (untouched : UntouchedRun id start steps) (before : List Step) :
    ∀ after, steps = before ++ after →
      Matches id (start.run before).2 (start.afterKept id before) := by
  induction before using List.reverseRecOn with
  | nil => exact fun _ _ => (Alike.refl id start).matches
  | append_singleton before step ih =>
      intro after split
      rw [List.append_assoc, List.singleton_append] at split
      have alike := ih (step :: after) split
      rw [after_append_singleton]
      cases kept : step.keptFor id with
      | false =>
          rw [afterKept_append_of_left_out kept]
          exact alike.step_left_out kept
      | true =>
          rw [afterKept_append_of_kept kept]
          refine (alike.step_kept kept ?_).2
          rintro workspace parameters rfl
          exact untouched before workspace parameters after split

theorem keptAnswers_run {start : Session} {steps : List Step}
    (untouched : UntouchedRun id start steps) (before : List Step) :
    ∀ after, steps = before ++ after →
      keptAnswers id before (start.run before).1 =
        (start.run (before.filter (Step.keptFor id))).1 := by
  induction before using List.reverseRecOn with
  | nil => exact fun _ _ => rfl
  | append_singleton before step ih =>
      intro after split
      rw [List.append_assoc, List.singleton_append] at split
      rw [keptAnswers_append_singleton, ih (step :: after) split, List.filter_append,
        List.filter_singleton]
      cases kept : step.keptFor id with
      | false =>
          rw [cond_false, List.append_nil, if_neg Bool.false_ne_true, List.append_nil]
      | true =>
          have alike := matches_run untouched before _ split
          obtain ⟨same, -⟩ := alike.step_kept kept fun workspace parameters isInit =>
            untouched before workspace parameters after (isInit ▸ split)
          rw [cond_true, if_pos rfl, run_append, ← same]
          rfl

/-! ## Runs in which no copy is in the way

The files of the two runs differ only where a step that is left out has left a copy.  So a run is
untouched if no such copy lies where the request looks for a document. -/

/-- A place that is written to by a step that is left out of a run for a request. -/
def Touches (id : RequestId) (start : Session) (steps : List Step) (place : Place) : Prop :=
  ∃ before step after, steps = before ++ step :: after ∧ step.keptFor id = false ∧
    (start.run before).2.tree.Disagree ((start.run before).2.step step).2.tree place

theorem not_touches_nil (id : RequestId) (start : Session) (place : Place) :
    ¬ Touches id start [] place := by
  rintro ⟨before, step, after, split, -⟩
  exact List.cons_ne_nil _ _ (List.append_eq_nil_iff.mp split.symm).2

theorem touches_append_singleton {start : Session} {before : List Step} {step : Step}
    {place : Place} :
    Touches id start (before ++ [step]) place ↔
      Touches id start before place ∨ step.keptFor id = false ∧
        (start.run before).2.tree.Disagree ((start.run before).2.step step).2.tree place := by
  constructor
  · rintro ⟨first, other, after, split, left, disagree⟩
    rcases List.eq_nil_or_concat after with rfl | ⟨rest, last, rfl⟩
    · obtain ⟨rfl, same⟩ := List.append_inj' split rfl
      obtain rfl := List.singleton_inj.mp same
      exact .inr ⟨left, disagree⟩
    · rw [List.concat_eq_append, ← List.cons_append, ← List.append_assoc] at split
      exact .inl ⟨first, other, rest, (List.append_inj' split rfl).1, left, disagree⟩
  · rintro (⟨first, other, after, rfl, left, disagree⟩ | ⟨left, disagree⟩)
    · exact ⟨first, other, after ++ [step], by rw [List.append_assoc, List.cons_append], left,
        disagree⟩
    · exact ⟨before, step, [], rfl, left, disagree⟩

theorem touches_singleton {start : Session} {step : Step} {later : FileTree} {place : Place}
    (left : step.keptFor id = false) (leaves : (start.step step).2.tree = later) :
    Touches id start [step] place ↔ start.tree.Disagree later place := by
  rw [← List.nil_append [step], touches_append_singleton, ← leaves]
  exact ⟨fun touched => (touched.resolve_left (not_touches_nil id start place)).2,
    fun disagree => .inr ⟨left, disagree⟩⟩

/-- A run of steps of the program in which no step that is left out for a request leaves a copy on
the way to anything that the request is resolved from. -/
structure ApartRun (id : RequestId) (start : Session) (steps : List Step) : Prop where
  inside : ∀ step ∈ steps, step.changesFiles = false
  untouched : ∀ before workspace parameters after,
    steps = before ++ .init id workspace parameters :: after →
    (start.run before).2.store.run? id = none →
      Untouched (Touches id start before) (Touches id start before) (start.run before).2 workspace
        parameters

/-- A step that is left out adds the places that it touches to those where the files differ. -/
theorem differs_step_left_out {start : Session} {before : List Step} {step : Step}
    (differs : (start.run before).2.tree.DiffersAt (Touches id start before)
      (Touches id start before) own.tree)
    (left : step.keptFor id = false) (inside : step.changesFiles = false) :
    ((start.run before).2.step step).2.tree.DiffersAt (Touches id start (before ++ [step]))
      (Touches id start (before ++ [step])) own.tree := by
  have growth := (start.run before).2.growth_step inside
  refine ⟨differs.current.trans growth.current.symm, ?_, ?_⟩
  · intro place untouched
    rw [touches_append_singleton, not_or] at untouched
    have kept := Decidable.not_not.mp fun changed => untouched.2 ⟨left, changed⟩
    rw [differs.same place untouched.1, kept]
  · intro place touched
    by_cases before : Touches id start before place
    · exact differs.takes place before
    · obtain ⟨-, changed⟩ := (touches_append_singleton.mp touched).resolve_left before
      intro entry there
      rw [differs.same place before] at there
      exact growth.takesFile_of_ne changed entry there

/-- After every part of such a run the files differ at most where a step that is left out has left a
copy. -/
theorem alike_run_of_apart {start : Session} {steps : List Step}
    (apart : ApartRun id start steps) (before : List Step) : ∀ after, steps = before ++ after →
      Alike id (Touches id start before) (Touches id start before) (start.run before).2
        (start.afterKept id before) := by
  induction before using List.reverseRecOn with
  | nil =>
      exact fun _ _ => ⟨rfl, rfl, rfl, rfl, fun _ _ => rfl,
        fun place touched => absurd touched (not_touches_nil id start place)⟩
  | append_singleton before step ih =>
      intro after split
      rw [List.append_assoc, List.singleton_append] at split
      have inside : step.changesFiles = false := apart.inside step (by simp [split])
      have alike := ih (step :: after) split
      rw [after_append_singleton]
      cases kept : step.keptFor id with
      | false =>
          rw [afterKept_append_of_left_out kept]
          exact alike.step_left_out kept (differs_step_left_out alike.differs kept inside)
      | true =>
          have touches : Touches id start (before ++ [step]) = Touches id start before := by
            funext place
            rw [touches_append_singleton, kept]
            simp
          rw [afterKept_append_of_kept kept, touches]
          obtain ⟨changes, unnamed | named⟩ := Step.request?_of_kept kept
          · obtain rfl := Step.eq_deleteAll changes unnamed inside
            exact alike.deleteAll.2
          · refine (alike.step named ?_).2
            rintro workspace parameters rfl
            exact apart.untouched before workspace parameters after split

theorem untouchedRun_of_apart {start : Session} {steps : List Step}
    (apart : ApartRun id start steps) : UntouchedRun id start steps := by
  intro before workspace parameters after split fresh location found consulted
  have differs := (alike_run_of_apart apart before _ split).differs
  refine (apart.untouched before workspace parameters after split fresh location found
    consulted).mono ?_ differs.takes
  intro place disagree
  by_contra untouched
  exact disagree (differs.same place untouched)

/-! ## Runs without network

Without network nothing is copied, and the two runs have the same files all the time. -/

theorem tree_step_of_unreachable {session : Session}
    (offline : session.loader.network = .unreachable) {step : Step}
    (inside : step.changesFiles = false) : (session.step step).2.tree = session.tree := by
  cases step with
  | init id workspace parameters =>
      rcases session.tree_init id workspace parameters with same | same
      · exact same
      · exact same.trans (Loader.tree_of_resolve_of_unreachable offline ..)
  | resolve workspace parameters =>
      exact Loader.tree_of_resolve_of_unreachable offline ..
  | load text base => exact Loader.tree_of_load_of_unreachable offline rfl
  | expand base document origin => exact Loader.tree_of_expand_of_unreachable offline ..
  | setValue id key value => rw [Session.step, tree_changing]
  | removeKey id key => rw [Session.step, tree_changing]
  | putFile path bytes => cases inside
  | dropFile path => cases inside
  | _ => rfl

theorem tree_step_of_changesFiles (same : own.tree = full.tree) {step : Step}
    (outside : step.changesFiles = true) : (own.step step).2.tree = (full.step step).2.tree := by
  cases step with
  | putFile path bytes => rw [Session.step, Session.step, same]
  | dropFile path => rw [Session.step, Session.step, same]
  | _ => cases outside

theorem tree_run_of_unreachable {start : Session}
    (offline : start.loader.network = .unreachable) (id : RequestId) (steps : List Step) :
    (start.afterKept id steps).tree = (start.run steps).2.tree := by
  induction steps using List.reverseRecOn with
  | nil => rfl
  | append_singleton before step ih =>
      have still : ∀ steps, (start.run steps).2.loader.network = .unreachable := by
        intro steps
        rw [(start.fixed_run steps).2, offline]
      rw [after_append_singleton]
      cases outside : step.changesFiles with
      | true =>
          rw [afterKept_append_of_kept (Step.keptFor_of_changesFiles outside)]
          exact tree_step_of_changesFiles ih outside
      | false =>
          rw [tree_step_of_unreachable (still before) outside, ← ih]
          cases kept : step.keptFor id with
          | false => rw [afterKept_append_of_left_out kept]
          | true =>
              rw [afterKept_append_of_kept kept]
              exact tree_step_of_unreachable (still _) outside

theorem untouchedRun_of_unreachable {start : Session}
    (offline : start.loader.network = .unreachable) (id : RequestId) (steps : List Step) :
    UntouchedRun id start steps := by
  intro before workspace parameters after _ _ location found _
  apply Location.spares_of_none
  intro place disagree
  rw [tree_run_of_unreachable offline] at disagree
  exact disagree rfl

/-- Between the steps of a run that are kept for a request there may be any others: steps about
other requests and steps that only read.  The request is given the same answers without them, and
the same readings wherever it is read, as long as what it is resolved from is the same.  Requests
are told apart by their texts, a number by its decimal text, and the environment is always the one
of the start. -/
theorem run_isolated {start : Session} {steps : List Step}
    (untouched : UntouchedRun id start steps) :
    keptAnswers id steps (start.run steps).1 =
        (start.run (steps.filter (Step.keptFor id))).1 ∧
      (∀ before after read, steps = before ++ after → read.request? = some id →
        read.readsOnly = true →
          ((start.afterKept id before).step read).1 = ((start.run before).2.step read).1) ∧
      (∀ before, ((start.run before).2.step .getEnvironment).1 =
        .ok (.document start.environment.document)) ∧
      (∀ n text, RequestId.ofNat n = ⟨text⟩ ↔ toString n = text) ∧
      (∀ m n, RequestId.ofNat m = RequestId.ofNat n ↔ m = n) ∧
      ∀ first second : RequestId, first = second ↔ first.text = second.text := by
  refine ⟨?_, ?_, ?_, ?_, ?_, ?_⟩
  · exact keptAnswers_run untouched steps [] (List.append_nil steps).symm
  · intro before after read split named reads
    refine (Alike.step (matches_run untouched before after split) named ?_).1
    rintro workspace parameters rfl
    cases reads
  · intro before
    rw [Session.step, (start.fixed_run before).1]
  · exact fun n text => RequestId.ofNat_eq_iff
  · exact fun m n => RequestId.ofNat_inj
  · exact fun first second => RequestId.ext_iff

end Session

namespace Loader

/-! ## Copies between two resolutions -/

theorem load_servedAgain :
    (serving.load (locate "/w" "http://host/a/top.yml")).after secondCopy =
      (.ok (some ⟨"/t/top.yml", Mapping.ofList [("A", .integer 1)]⟩), firstCopy) := by
  decide +kernel

theorem loadBase_servedAgain :
    (serving.loadBase "/w" (namedDocument (upperLayers ∅ servedParameters))
      (upperLayers ∅ servedParameters)).after secondCopy = (.ok servedBase, secondCopy) := by
  decide +kernel

/-- Where its copies lie already, a resolution writes them over and looks for nothing else there. -/
theorem spares_servedAgain {location : Location} {found : FileTree}
    (consulted : serving.Consults ∅ (some "/w") servedParameters secondCopy location found) :
    location.Spares serving (· = ["top.yml", "t"]) (· = ["top.yml", "t"]) found := by
  obtain ⟨-, loadOwn, loadSecond⟩ := load_served
  obtain ⟨leafFirst, leafOwn, leafSecond⟩ := leaf_served
  have leads : secondCopy.find "/t/top.yml" =
        .ok (.taken ["top.yml", "t"] (.file (Text.bytesOf "A: 3\n"))) ∧
      firstCopy.find "/t/top.yml" =
        .ok (.taken ["top.yml", "t"] (.file (Text.bytesOf "A: 1\n"))) := by decide +kernel
  have apart : (∀ name ∈ candidates,
        ["top.yml", "t"] ∉ secondCopy.placesOn (joinPath "/w" name)) ∧
      ["top.yml", "t"] ∉ firstCopy.placesOn (joinPath "/w" "top.yml") := by
    decide +kernel
  have candidate : ∀ name ∈ candidates, (Location.file (joinPath "/w" name)).Spares serving
      (· = ["top.yml", "t"]) (· = ["top.yml", "t"]) secondCopy := by
    rintro name member _ passed rfl
    exact apart.1 name member passed
  cases consulted with
  | candidate unnamed given listed passed =>
      cases given
      exact candidate _ (by simp [listed])
  | primary based =>
      have primary : primaryLocation secondCopy "/w"
          (namedDocument (upperLayers ∅ servedParameters)) = .file "/w/.mega-linter.yml" := by
        decide
      rw [Option.getD_some, primary]
      exact candidate firstCandidate (List.mem_cons_self ..)
  | item based loaded met =>
      cases loadBase_servedAgain.symm.trans loaded
      rw [ancestors_served] at met
      rcases met_of_leaf load_servedAgain leafFirst met with ⟨rfl, rfl⟩ | met
      · intro path copied place _ here
        cases copyPath_served.1.symm.trans copied
        rw [leads.1, here]
        exact ⟨.file _, rfl⟩
      · rcases met_of_leaf loadOwn leafOwn met with ⟨rfl, rfl⟩ | met
        · rintro _ passed rfl
          exact apart.2 passed
        · rcases met_of_leaf loadSecond leafSecond met with ⟨rfl, rfl⟩ | met
          · intro path copied place _ here
            cases copyPath_served.2.symm.trans copied
            rw [leads.2, here]
            exact ⟨.file _, rfl⟩
          · cases met

end Loader

namespace Session

/-- Two requests whose steps take turns.  The first one fails to be initialised once. -/
def mixedSteps : List Step :=
  [.init ⟨"other"⟩ (some "/w") missingParameters,
    .setDocument ⟨"other"⟩ ∅,
    .init ⟨"lint"⟩ (some "/w") Loader.workspaceParameters,
    .setValue ⟨"other"⟩ "A" .null,
    .removeKey ⟨"lint"⟩ "A",
    .delete ⟨"other"⟩]

/-- A session whose network serves two documents that leave their copy at one place. -/
def servingSession : Session where
  store := .empty
  environment := ∅
  loader := Loader.serving
  tree := Loader.servedFiles

/-- Another request is resolved from one of these documents. -/
def otherStep : Step :=
  .init ⟨"other"⟩ (some "/w") (Mapping.ofList [("EXTENDS", .text "http://host/b/top.yml")])

/-- The first request leaves a copy where the second one leaves its own. -/
def copyingSteps : List Step :=
  [otherStep, .init ⟨"lint"⟩ (some "/w") Loader.servedParameters]

theorem tree_otherStep : (servingSession.step otherStep).2.tree = Loader.secondCopy := by
  decide +kernel

theorem touches_otherStep {place : Place} :
    Touches ⟨"lint"⟩ servingSession [otherStep] place ↔ place = ["top.yml", "t"] := by
  have left : otherStep.keptFor ⟨"lint"⟩ = false := by decide
  rw [touches_singleton left tree_otherStep]
  change Loader.secondCopy.entry? place ≠ Loader.servedFiles.entry? place ↔ _
  rw [Loader.secondCopy, FileTree.entry?_setEntry _ (by decide)]
  split_ifs with same
  · subst same
    exact iff_of_true (by decide +kernel) rfl
  · exact iff_of_false (fun differ => differ rfl) same

theorem eq_of_init_copying {before after : List Step} {workspace : Option String}
    {parameters : Document}
    (split : copyingSteps = before ++ .init ⟨"lint"⟩ workspace parameters :: after) :
    before = [otherStep] ∧ workspace = some "/w" ∧ parameters = Loader.servedParameters := by
  rcases before with _ | ⟨first, _ | ⟨second, before⟩⟩
  · simp [copyingSteps, otherStep] at split
  · simp only [copyingSteps, List.singleton_append, List.cons.injEq, Step.init.injEq] at split
    obtain ⟨rfl, ⟨-, rfl, rfl⟩, -⟩ := split
    exact ⟨rfl, rfl, rfl⟩
  · simp [copyingSteps] at split

theorem apartRun_copying : ApartRun ⟨"lint"⟩ servingSession copyingSteps where
  inside := by decide
  untouched := by
    intro before workspace parameters after split fresh
    obtain ⟨rfl, rfl, rfl⟩ := eq_of_init_copying split
    have tree : (servingSession.run [otherStep]).2.tree = Loader.secondCopy := by
      rw [run_singleton, tree_otherStep]
    obtain ⟨environment, loader⟩ := servingSession.fixed_run [otherStep]
    intro location found consulted
    rw [tree, environment, loader] at consulted
    rw [loader]
    exact (Loader.spares_servedAgain consulted).mono (fun _ => touches_otherStep.mp)
      fun _ => touches_otherStep.mpr

/-- Without network no step leaves a copy.  With one, a step that is left out leaves a copy in the
very place where the request leaves its own, and it makes no difference. -/
theorem run_isolated_mixed :
    (UntouchedRun ⟨"lint"⟩ workspaceSession mixedSteps ∧
      keptAnswers ⟨"lint"⟩ mixedSteps (workspaceSession.run mixedSteps).1 =
        (workspaceSession.run [.init ⟨"lint"⟩ (some "/w") Loader.workspaceParameters,
          .removeKey ⟨"lint"⟩ "A"]).1 ∧
      ((workspaceSession.afterKept ⟨"lint"⟩ mixedSteps).step (.get ⟨"lint"⟩ "B")).1 =
        ((workspaceSession.run mixedSteps).2.step (.get ⟨"lint"⟩ "B")).1) ∧
      UntouchedRun ⟨"lint"⟩ servingSession copyingSteps ∧
      (∀ place, Touches ⟨"lint"⟩ servingSession [otherStep] place ↔ place = ["top.yml", "t"]) ∧
      keptAnswers ⟨"lint"⟩ copyingSteps (servingSession.run copyingSteps).1 =
        (servingSession.run [.init ⟨"lint"⟩ (some "/w") Loader.servedParameters]).1 ∧
      ((servingSession.afterKept ⟨"lint"⟩ copyingSteps).step (.get ⟨"lint"⟩ "A")).1 =
        ((servingSession.run copyingSteps).2.step (.get ⟨"lint"⟩ "A")).1 := by
  have untouched : UntouchedRun ⟨"lint"⟩ workspaceSession mixedSteps :=
    untouchedRun_of_unreachable rfl _ _
  have kept : mixedSteps.filter (Step.keptFor ⟨"lint"⟩) =
      [.init ⟨"lint"⟩ (some "/w") Loader.workspaceParameters, .removeKey ⟨"lint"⟩ "A"] := by
    decide +kernel
  obtain ⟨answers, readings, -⟩ := run_isolated untouched
  have reading := readings mixedSteps [] (.get ⟨"lint"⟩ "B") (List.append_nil _).symm rfl rfl
  rw [kept] at answers
  have apart : UntouchedRun ⟨"lint"⟩ servingSession copyingSteps :=
    untouchedRun_of_apart apartRun_copying
  have resolves : copyingSteps.filter (Step.keptFor ⟨"lint"⟩) =
      [.init ⟨"lint"⟩ (some "/w") Loader.servedParameters] := by
    decide +kernel
  obtain ⟨answersServed, readingsServed, -⟩ := run_isolated apart
  have readingServed := readingsServed copyingSteps [] (.get ⟨"lint"⟩ "A")
    (List.append_nil _).symm rfl rfl
  rw [resolves] at answersServed
  exact ⟨⟨untouched, answers, reading⟩, apart, fun _ => touches_otherStep, answersServed,
    readingServed⟩

end Session

end LayeredConfig
