import LayeredConfig.Proofs.Extends.Steadiness
import LayeredConfig.Proofs.Extends.Termination

/-!
# When an expansion fails

The names that a document declares unfold into a tree: under each name the document that the source
yields there, and under it the names which that document declares.  The tree may be infinite.  An
expansion succeeds when nothing is amiss anywhere in the tree, and fails with what is amiss first.
A location may stand in the tree many times, but not twice on one way from the root.
-/

set_option autoImplicit false

namespace LayeredConfig

/-! ## The tree of documents -/

/-- The ways through the unfolding of declared names: the locations on the way, and what the
document at its end declares. -/
inductive Leads (source : Source) (base : String) :
    Except ConfigError (List String) → List Location → Except ConfigError (List String) → Prop where
  | here (declared : Except ConfigError (List String)) : Leads source base declared [] declared
  | above {name : String} {names : List String} {parent : Document} {way : List Location}
      {reached : Except ConfigError (List String)}
      (member : name ∈ names)
      (found : source (locate base name) = .ok (some parent))
      (further : Leads source base parent.ancestors way reached) :
      Leads source base (.ok names) (locate base name :: way) reached

/-- Nothing is amiss in the unfolding of declared names under a chain. -/
structure Sound (source : Source) (base : String) (key : Location → String) (chain : List String)
    (declared : Except ConfigError (List String)) : Prop where
  wellFormed : ∀ way error, ¬ Leads source base declared way (.error error)
  loads : ∀ way names, Leads source base declared way (.ok names) →
    ∀ name ∈ names, ∃ parent, source (locate base name) = .ok (some parent)
  acyclic : ∀ way reached, Leads source base declared way reached →
    (chain ++ way.map key).Nodup

/-! ## Offences and their order -/

/-- What is looked at when it is an item's turn. -/
inductive Stage where
  | cycle
  | loading
  | value
  deriving DecidableEq

def Stage.turn : Stage → Nat
  | .cycle => 0
  | .loading => 1
  | .value => 2

/-- One look at one item.  The position counts the items before it on each level, from the root. -/
structure Check where
  position : List Nat
  stage : Stage
  deriving DecidableEq

/-- Depth first, and the items of a document in the order in which it declares them. -/
def Check.Before (first second : Check) : Prop :=
  first.position < second.position ∨
    first.position = second.position ∧ first.stage.turn < second.stage.turn

/-- What is amiss in the unfolding of declared names under a chain, and the check that finds it. -/
inductive Offence (source : Source) (base : String) (key : Location → String) :
    List String → Except ConfigError (List String) → Check → ConfigError → Prop where
  | malformed (chain : List String) (error : ConfigError) :
      Offence source base key chain (.error error) ⟨[], .value⟩ error
  | cyclic {chain : List String} {name : String} {names : List String}
      (known : key (locate base name) ∈ chain) :
      Offence source base key chain (.ok (name :: names)) ⟨[0], .cycle⟩
        (.cyclicExtends (chain ++ [key (locate base name)]))
  | refused {chain : List String} {name : String} {names : List String} {error : ConfigError}
      (failed : source (locate base name) = .error error) :
      Offence source base key chain (.ok (name :: names)) ⟨[0], .loading⟩ error
  | missing {chain : List String} {name : String} {names : List String}
      (absent : source (locate base name) = .ok none) :
      Offence source base key chain (.ok (name :: names)) ⟨[0], .loading⟩
        (.notFound (locate base name).display)
  | above {chain : List String} {name : String} {names : List String} {parent : Document}
      {position : List Nat} {stage : Stage} {error : ConfigError}
      (found : source (locate base name) = .ok (some parent))
      (inner : Offence source base key (chain ++ [key (locate base name)]) parent.ancestors
        ⟨position, stage⟩ error) :
      Offence source base key chain (.ok (name :: names)) ⟨0 :: position, stage⟩ error
  | later {chain : List String} {name : String} {names : List String} {index : Nat}
      {position : List Nat} {stage : Stage} {error : ConfigError}
      (rest : Offence source base key chain (.ok names) ⟨index :: position, stage⟩ error) :
      Offence source base key chain (.ok (name :: names)) ⟨(index + 1) :: position, stage⟩ error

/-- The offence that is found first. -/
structure FirstOffence (source : Source) (base : String) (key : Location → String)
    (chain : List String) (declared : Except ConfigError (List String)) (check : Check)
    (error : ConfigError) : Prop where
  offends : Offence source base key chain declared check error
  first : ∀ other found, Offence source base key chain declared other found →
    other = check ∧ found = error ∨ check.Before other

namespace Check

theorem Before.asymm {first second : Check} (before : first.Before second) :
    ¬ second.Before first := by
  intro after
  rcases before with before | ⟨same, before⟩
  · rcases after with after | ⟨same, -⟩
    · exact List.lt_asymm before after
    · rw [same] at before
      exact List.lt_irrefl _ before
  · rcases after with after | ⟨-, after⟩
    · rw [same] at after
      exact List.lt_irrefl _ after
    · omega

theorem before_of_index {first second : Nat} (less : first < second) (one two : List Nat)
    (stage other : Stage) : Before ⟨first :: one, stage⟩ ⟨second :: two, other⟩ :=
  .inl (List.cons_lt_cons_iff.mpr (.inl less))

theorem Before.above {one two : List Nat} {stage other : Stage}
    (before : Before ⟨one, stage⟩ ⟨two, other⟩) (index : Nat) :
    Before ⟨index :: one, stage⟩ ⟨index :: two, other⟩ := by
  rcases before with less | ⟨same, turn⟩
  · exact .inl (List.cons_lt_cons_iff.mpr (.inr ⟨rfl, less⟩))
  · exact .inr ⟨congrArg (index :: ·) same, turn⟩

theorem Before.later {first second : Nat} {one two : List Nat} {stage other : Stage}
    (before : Before ⟨first :: one, stage⟩ ⟨second :: two, other⟩) :
    Before ⟨(first + 1) :: one, stage⟩ ⟨(second + 1) :: two, other⟩ := by
  rcases before with less | ⟨same, turn⟩
  · rcases List.cons_lt_cons_iff.mp less with smaller | ⟨equal, behind⟩
    · exact before_of_index (Nat.succ_lt_succ smaller) one two stage other
    · exact .inl (List.cons_lt_cons_iff.mpr (.inr ⟨congrArg (· + 1) equal, behind⟩))
  · obtain ⟨rfl, rfl⟩ := List.cons.inj same
    exact .inr ⟨rfl, turn⟩

end Check

section Clear

variable {source : Source} {base : String} {key : Location → String} {chain : List String}
  {name : String} {names : List String} {parent : Document}
  {declared : Except ConfigError (List String)} {check : Check} {error : ConfigError}

/-! ## Sound means free of offences -/

theorem Sound.above (sound : Sound source base key chain (.ok names)) (member : name ∈ names)
    (found : source (locate base name) = .ok (some parent)) :
    Sound source base key (chain ++ [key (locate base name)]) parent.ancestors := by
  refine ⟨?_, ?_, ?_⟩
  · intro way error leads
    exact sound.wellFormed _ error (.above member found leads)
  · intro way below leads
    exact sound.loads _ below (.above member found leads)
  · intro way reached leads
    have distinct := sound.acyclic _ reached (.above member found leads)
    rwa [List.map_cons, ← List.singleton_append, ← List.append_assoc] at distinct

theorem Sound.later (sound : Sound source base key chain (.ok (name :: names))) :
    Sound source base key chain (.ok names) := by
  refine ⟨?_, ?_, ?_⟩
  · intro way error leads
    cases leads with
    | above member found further =>
        exact sound.wellFormed _ error (.above (List.mem_cons_of_mem _ member) found further)
  · intro way below leads
    cases leads with
    | here =>
        intro other member
        exact sound.loads [] _ (.here _) other (List.mem_cons_of_mem _ member)
    | above member found further =>
        exact sound.loads _ below (.above (List.mem_cons_of_mem _ member) found further)
  · intro way reached leads
    cases leads with
    | here => exact sound.acyclic [] _ (.here _)
    | above member found further =>
        exact sound.acyclic _ reached (.above (List.mem_cons_of_mem _ member) found further)

theorem Sound.not_offence (sound : Sound source base key chain declared) :
    ¬ Offence source base key chain declared check error := by
  intro offence
  induction offence with
  | malformed chain error => exact sound.wellFormed [] error (.here _)
  | @cyclic chain name names known =>
      obtain ⟨parent, found⟩ := sound.loads [] _ (.here _) name (List.mem_cons_self ..)
      have distinct := sound.acyclic _ _ (.above (List.mem_cons_self ..) found (.here _))
      exact List.disjoint_of_nodup_append distinct known (List.mem_singleton_self _)
  | @refused chain name names error failed =>
      obtain ⟨parent, found⟩ := sound.loads [] _ (.here _) name (List.mem_cons_self ..)
      rw [failed] at found
      cases found
  | @missing chain name names absent =>
      obtain ⟨parent, found⟩ := sound.loads [] _ (.here _) name (List.mem_cons_self ..)
      rw [absent] at found
      cases found
  | above found inner ih => exact ih (sound.above (List.mem_cons_self ..) found)
  | later rest ih => exact ih sound.later

theorem Offence.position_eq_cons (offence : Offence source base key chain (.ok names) check error) :
    ∃ index position stage, check = ⟨index :: position, stage⟩ := by
  cases offence with
  | cyclic known => exact ⟨0, [], .cycle, rfl⟩
  | refused failed => exact ⟨0, [], .loading, rfl⟩
  | missing absent => exact ⟨0, [], .loading, rfl⟩
  | above found inner => exact ⟨0, _, _, rfl⟩
  | later rest => exact ⟨_, _, _, rfl⟩

theorem Offence.stage_eq_value {stage : Stage}
    (offence : Offence source base key chain declared ⟨[], stage⟩ error) : stage = .value := by
  cases offence
  rfl

theorem Offence.of_item (member : name ∈ names)
    (alone : Offence source base key chain (.ok [name]) check error) :
    ∃ among, Offence source base key chain (.ok names) among error := by
  induction names with
  | nil => cases member
  | cons head rest ih =>
      rcases List.mem_cons.mp member with rfl | later
      · cases alone with
        | cyclic known => exact ⟨_, .cyclic known⟩
        | refused failed => exact ⟨_, .refused failed⟩
        | missing absent => exact ⟨_, .missing absent⟩
        | above found inner => exact ⟨_, .above found inner⟩
        | later none => cases none
      · obtain ⟨among, offence⟩ := ih later
        obtain ⟨index, position, stage, rfl⟩ := offence.position_eq_cons
        exact ⟨_, .later offence⟩

/-- An item that is no cycle and yields a document is not amiss itself. -/
theorem Offence.above_or_later (fresh : key (locate base name) ∉ chain)
    (located : source (locate base name) = .ok (some parent))
    (offence : Offence source base key chain (.ok (name :: names)) check error) :
    (∃ position stage, check = ⟨0 :: position, stage⟩ ∧
        Offence source base key (chain ++ [key (locate base name)]) parent.ancestors
          ⟨position, stage⟩ error) ∨
      ∃ index position stage, check = ⟨(index + 1) :: position, stage⟩ ∧
        Offence source base key chain (.ok names) ⟨index :: position, stage⟩ error := by
  cases offence with
  | cyclic known => exact absurd known fresh
  | refused failed =>
      rw [located] at failed
      cases failed
  | missing absent =>
      rw [located] at absent
      cases absent
  | above again inner =>
      rw [located] at again
      cases again
      exact .inl ⟨_, _, rfl, inner⟩
  | later rest => exact .inr ⟨_, _, _, rfl, rest⟩

/-- Where nothing is amiss, nothing is amiss further up, and no key has come twice on the way. -/
theorem clear_of_leads {way : List Location} {reached : Except ConfigError (List String)}
    (leads : Leads source base declared way reached) (nodup : chain.Nodup)
    (clear : ∀ check error, ¬ Offence source base key chain declared check error) :
    (chain ++ way.map key).Nodup ∧
      ∀ check error, ¬ Offence source base key (chain ++ way.map key) reached check error := by
  induction leads generalizing chain with
  | here declared =>
      rw [List.map_nil, List.append_nil]
      exact ⟨nodup, clear⟩
  | @above name names parent way reached member found further ih =>
      have item : ∀ check error, ¬ Offence source base key chain (.ok [name]) check error := by
        intro check error offence
        obtain ⟨among, offends⟩ := offence.of_item member
        exact clear among error offends
      have fresh : key (locate base name) ∉ chain := fun known => item _ _ (.cyclic known)
      have inner := ih (nodup_append_singleton nodup fresh)
        fun check error offence => item _ error (.above found offence)
      rwa [List.append_assoc, List.singleton_append, ← List.map_cons] at inner

theorem sound_iff (nodup : chain.Nodup) :
    Sound source base key chain declared ↔
      ∀ check error, ¬ Offence source base key chain declared check error := by
  constructor
  · intro sound check error
    exact sound.not_offence
  · intro clear
    refine ⟨?_, ?_, ?_⟩
    · intro way error leads
      exact (clear_of_leads leads nodup clear).2 _ error (.malformed _ error)
    · intro way names leads name member
      have item : ∀ check error,
          ¬ Offence source base key (chain ++ way.map key) (.ok [name]) check error := by
        intro check error offence
        obtain ⟨among, offends⟩ := offence.of_item member
        exact (clear_of_leads leads nodup clear).2 among error offends
      rcases found : source (locate base name) with error | _ | parent
      · exact absurd (.refused found) (item _ error)
      · exact absurd (.missing found) (item _ _)
      · exact ⟨parent, rfl⟩
    · intro way reached leads
      exact (clear_of_leads leads nodup clear).1

end Clear

namespace FirstOffence

variable {source : Source} {base : String} {key : Location → String} {chain : List String}
  {name : String} {names : List String} {parent : Document}
  {declared : Except ConfigError (List String)} {check : Check} {error : ConfigError}

/-! ## The first offence -/

theorem unique {other : Check} {found : ConfigError}
    (first : FirstOffence source base key chain declared check error)
    (second : FirstOffence source base key chain declared other found) : found = error := by
  rcases first.first other found second.offends with ⟨-, same⟩ | before
  · exact same
  · rcases second.first check error first.offends with ⟨-, same⟩ | after
    · exact same.symm
    · exact absurd after before.asymm

theorem malformed : FirstOffence source base key chain (.error error) ⟨[], .value⟩ error := by
  refine ⟨.malformed chain error, ?_⟩
  intro other found offence
  cases offence
  exact .inl ⟨rfl, rfl⟩

theorem cyclic (known : key (locate base name) ∈ chain) :
    FirstOffence source base key chain (.ok (name :: names)) ⟨[0], .cycle⟩
      (.cyclicExtends (chain ++ [key (locate base name)])) := by
  refine ⟨.cyclic known, ?_⟩
  intro other found offence
  cases offence with
  | cyclic => exact .inl ⟨rfl, rfl⟩
  | refused => exact .inr (.inr ⟨rfl, Nat.zero_lt_one⟩)
  | missing => exact .inr (.inr ⟨rfl, Nat.zero_lt_one⟩)
  | @above _ _ _ _ position stage _ located inner =>
      cases position with
      | nil =>
          obtain rfl := inner.stage_eq_value
          exact .inr (.inr ⟨rfl, Nat.zero_lt_two⟩)
      | cons index position =>
          exact .inr (.inl (List.cons_lt_cons_iff.mpr (.inr ⟨rfl, List.nil_lt_cons _ _⟩)))
  | later rest => exact .inr (Check.before_of_index (Nat.succ_pos _) ..)

theorem refused (fresh : key (locate base name) ∉ chain)
    (failed : source (locate base name) = .error error) :
    FirstOffence source base key chain (.ok (name :: names)) ⟨[0], .loading⟩ error := by
  refine ⟨.refused failed, ?_⟩
  intro other found offence
  cases offence with
  | cyclic known => exact absurd known fresh
  | refused again =>
      rw [failed] at again
      cases again
      exact .inl ⟨rfl, rfl⟩
  | missing absent =>
      rw [failed] at absent
      cases absent
  | above located inner =>
      rw [failed] at located
      cases located
  | later rest => exact .inr (Check.before_of_index (Nat.succ_pos _) ..)

theorem missing (fresh : key (locate base name) ∉ chain)
    (absent : source (locate base name) = .ok none) :
    FirstOffence source base key chain (.ok (name :: names)) ⟨[0], .loading⟩
      (.notFound (locate base name).display) := by
  refine ⟨.missing absent, ?_⟩
  intro other found offence
  cases offence with
  | cyclic known => exact absurd known fresh
  | refused failed =>
      rw [absent] at failed
      cases failed
  | missing again => exact .inl ⟨rfl, rfl⟩
  | above located inner =>
      rw [absent] at located
      cases located
  | later rest => exact .inr (Check.before_of_index (Nat.succ_pos _) ..)

theorem above {position : List Nat} {stage : Stage} (fresh : key (locate base name) ∉ chain)
    (located : source (locate base name) = .ok (some parent))
    (inner : FirstOffence source base key (chain ++ [key (locate base name)]) parent.ancestors
      ⟨position, stage⟩ error) :
    FirstOffence source base key chain (.ok (name :: names)) ⟨0 :: position, stage⟩ error := by
  refine ⟨.above located inner.offends, ?_⟩
  intro other found offence
  rcases offence.above_or_later fresh located with
    ⟨further, turn, rfl, inside⟩ | ⟨index, further, turn, rfl, -⟩
  · rcases inner.first _ found inside with ⟨same, rfl⟩ | before
    · cases same
      exact .inl ⟨rfl, rfl⟩
    · exact .inr (before.above 0)
  · exact .inr (Check.before_of_index (Nat.succ_pos index) ..)

theorem later {index : Nat} {position : List Nat} {stage : Stage}
    (fresh : key (locate base name) ∉ chain)
    (located : source (locate base name) = .ok (some parent))
    (clear : ∀ check error,
      ¬ Offence source base key (chain ++ [key (locate base name)]) parent.ancestors check error)
    (rest : FirstOffence source base key chain (.ok names) ⟨index :: position, stage⟩ error) :
    FirstOffence source base key chain (.ok (name :: names)) ⟨(index + 1) :: position, stage⟩
      error := by
  refine ⟨.later rest.offends, ?_⟩
  intro other found offence
  rcases offence.above_or_later fresh located with
    ⟨_, _, _, inside⟩ | ⟨next, further, turn, rfl, behind⟩
  · exact absurd inside (clear _ _)
  · rcases rest.first _ found behind with ⟨same, rfl⟩ | before
    · cases same
      exact .inl ⟨rfl, rfl⟩
    · exact .inr before.later

end FirstOffence

namespace Loader

variable {loader : Loader} {source : Source} {base : String} {key : Location → String}

def Verdict (source : Source) (base : String) (key : Location → String) (chain : List String)
    (declared : Except ConfigError (List String)) : Except ConfigError Ancestry → Prop
  | .ok _ => ∀ check error, ¬ Offence source base key chain declared check error
  | .error error => ∃ check, FirstOffence source base key chain declared check error

/-- A gathering passes its verdict on the whole unfolding.  The keys are those which it finds at its
visits, and in the end if it fails. -/
theorem verdict_of_gathers {chain : List String} {declared : Except ConfigError (List String)}
    {tree final : FileTree} {visits : List Visit} {outcome : Except ConfigError Ancestry}
    (gathered : loader.Gathers base chain declared tree visits outcome final)
    (finds : loader.Finds source visits)
    (keyed : ∀ visit ∈ visits, key visit.location = visit.identity)
    (ends : ∀ error, outcome = .error error → key = Location.identity final) :
    Verdict source base key chain declared outcome := by
  -- A failing gathering stops in the tree where it ends, so the key of a location that closes a
  -- cycle, which is never visited, is the one in the end.
  induction gathered with
  | malformed chain error tree => exact ⟨_, .malformed⟩
  | empty chain tree =>
      intro check error offence
      cases offence
  | @cyclic chain name names tree known =>
      rw [← ends _ rfl] at known ⊢
      exact ⟨_, .cyclic known⟩
  | @refused chain name names tree later error fresh load =>
      have same : key (locate base name) = (locate base name).identity tree :=
        (List.forall_mem_cons.mp keyed).1
      have failed := (finds_cons.mp finds).1
      rw [documentAt_of_load load] at failed
      rw [← same] at fresh
      exact ⟨_, .refused fresh failed.symm⟩
  | @missing chain name names tree later fresh load =>
      have same : key (locate base name) = (locate base name).identity tree :=
        (List.forall_mem_cons.mp keyed).1
      have absent := (finds_cons.mp finds).1
      rw [documentAt_of_load load] at absent
      rw [← same] at fresh
      exact ⟨_, .missing fresh absent.symm⟩
  | @above chain name names tree later final parent visits error fresh load inner ih =>
      have same : key (locate base name) = (locate base name).identity tree :=
        (List.forall_mem_cons.mp keyed).1
      obtain ⟨here, findsInner⟩ := finds_cons.mp finds
      rw [documentAt_of_load load] at here
      rw [← same] at fresh ih
      obtain ⟨⟨position, stage⟩, first⟩ := ih findsInner (List.forall_mem_cons.mp keyed).2 ends
      exact ⟨_, .above fresh here.symm first⟩
  | @ancestor chain name names tree later middle final parent visits others ancestry outcome
      fresh load inner rest ihInner ihRest =>
      obtain ⟨same, keyedFurther⟩ := List.forall_mem_cons.mp keyed
      change key (locate base name) = (locate base name).identity tree at same
      obtain ⟨keyedInner, keyedRest⟩ := List.forall_mem_append.mp keyedFurther
      obtain ⟨here, findsFurther⟩ := finds_cons.mp finds
      obtain ⟨findsInner, findsRest⟩ := finds_append.mp findsFurther
      rw [documentAt_of_load load] at here
      rw [← same] at fresh ihInner
      have clear := ihInner findsInner keyedInner (by simp)
      cases outcome with
      | error error =>
          obtain ⟨⟨position, stage⟩, first⟩ := ihRest findsRest keyedRest ends
          cases position with
          | nil =>
              obtain ⟨index, position, stage, same⟩ := first.offends.position_eq_cons
              cases same
          | cons index position => exact ⟨_, .later fresh here.symm clear first⟩
      | ok following =>
          have clearRest := ihRest findsRest keyedRest (by simp)
          intro check error offence
          rcases offence.above_or_later fresh here.symm with
            ⟨_, _, _, inside⟩ | ⟨_, _, _, _, behind⟩
          · exact clear _ _ inside
          · exact clearRest _ _ behind

/-- While loading is steady, an expansion succeeds exactly when nothing is amiss in the unfolding of
its document, and fails with `error` exactly when this is what the first offence comes to.  The key
of a location is its identity in the files that the expansion leaves; at its visits it was the
same. -/
theorem expand_ok_iff_sound {loader : Loader} {base : String} {document : Document}
    {origin : Option Location} {tree : FileTree} {source : Source}
    (steady : loader.Steady base (startingChain tree origin) document.ancestors tree source) :
    ((∃ expansion, ((loader.expand base document origin).after tree).1 = .ok expansion) ↔
      Sound source base (Location.identity ((loader.expand base document origin).after tree).2)
        (startingChain tree origin) document.ancestors) ∧
    ∀ error, ((loader.expand base document origin).after tree).1 = .error error ↔
      ∃ check, FirstOffence source base
        (Location.identity ((loader.expand base document origin).after tree).2)
        (startingChain tree origin) document.ancestors check error := by
  obtain ⟨visits, outcome, final, gathered⟩ :=
    loader.exists_gathers_of_document base document origin tree
  rw [after_expand_of_gathers gathered, sound_iff (nodup_startingChain tree origin)]
  have keyed : ∀ visit ∈ visits, visit.location.identity final = visit.identity :=
    fun visit member => identity_of_visit gathered member
  have verdict := verdict_of_gathers gathered (steady _ _ _ gathered) keyed fun _ _ => rfl
  cases outcome with
  | ok ancestry =>
      refine ⟨⟨fun _ => verdict, fun _ => ⟨_, rfl⟩⟩, ?_⟩
      intro error
      constructor
      · intro failed
        cases failed
      · rintro ⟨check, first⟩
        exact absurd first.offends (verdict check error)
  | error error =>
      obtain ⟨check, first⟩ := verdict
      refine ⟨⟨?_, ?_⟩, ?_⟩
      · rintro ⟨expansion, success⟩
        cases success
      · intro clear
        exact absurd first.offends (clear check error)
      · intro other
        constructor
        · intro failed
          cases failed
          exact ⟨check, first⟩
        · rintro ⟨found, second⟩
          rw [first.unique second]
          rfl

def loopFiles : FileTree where
  entries :=
    [(["w"], .directory),
      (["turn.yml", "w"], .file (Text.bytesOf "EXTENDS: ./loop.yml\n")),
      (["loop.yml", "w"], .file (Text.bytesOf "EXTENDS: turn.yml, number.yml\n")),
      (["number.yml", "w"], .file (Text.bytesOf "EXTENDS: 1\n"))]
  current := []

/-- A document with one more offence after the cycle. -/
def loopDocument : Document :=
  Mapping.ofList [("EXTENDS", .text "loop.yml, absent.yml")]

/-- An ancestor that is met twice beside each other is sound; a cycle is the first offence. -/
theorem expand_ok_iff_sound_of_loop :
    offline.Steady "/w" [] diamondDocument.ancestors diamondFiles
        (offline.documentAt diamondFiles) ∧
      Sound (offline.documentAt diamondFiles) "/w"
        (Location.identity ((offline.expand "/w" diamondDocument none).after diamondFiles).2) []
        diamondDocument.ancestors ∧
      offline.Steady "/w" [] loopDocument.ancestors loopFiles (offline.documentAt loopFiles) ∧
      ∃ check, FirstOffence (offline.documentAt loopFiles) "/w"
        (Location.identity ((offline.expand "/w" loopDocument none).after loopFiles).2) []
        loopDocument.ancestors check
        (.cyclicExtends ["/w/loop.yml", "/w/turn.yml", "/w/loop.yml"]) := by
  have steadyDiamond : offline.Steady "/w" (startingChain diamondFiles none)
      diamondDocument.ancestors diamondFiles (offline.documentAt diamondFiles) :=
    steady_of_unreachable rfl
  have steadyLoop : offline.Steady "/w" (startingChain loopFiles none) loopDocument.ancestors
      loopFiles (offline.documentAt loopFiles) :=
    steady_of_unreachable rfl
  have failed : ((offline.expand "/w" loopDocument none).after loopFiles).1 =
      .error (.cyclicExtends ["/w/loop.yml", "/w/turn.yml", "/w/loop.yml"]) := by
    decide +kernel
  refine ⟨steadyDiamond, ?_, steadyLoop, ?_⟩
  · exact (expand_ok_iff_sound steadyDiamond).1.mp ⟨_, expand_diamond⟩
  · exact ((expand_ok_iff_sound steadyLoop).2 _).mp failed

end Loader

end LayeredConfig
