import LayeredConfig.Proofs.Extends.Faults
import LayeredConfig.Proofs.Extends.Offences

/-!
# Reported cycles

An expansion that comes to a document under expansion reports its chain.  The chain follows a way
through the unfolding of the document and closes at one of its own identities.  A file has one
identity under all spellings and behind all links, so no file stands twice on the way, and a loop is
reported when it closes.
-/

set_option autoImplicit false

namespace LayeredConfig

/-! ## Files on a way -/

/-- The place of the file or directory that a location leads to.  An address and a path to nothing
have none. -/
def Location.place? (tree : FileTree) : Location → Option Files.Place
  | .file path =>
      match tree.find path with
      | .ok (.taken place _) => some place
      | _ => none
  | .remote _ => none

theorem Location.identity_of_place? {tree : FileTree} {location : Location} {place : Files.Place}
    (there : location.place? tree = some place) : location.identity tree = place.path := by
  cases location with
  | remote url => cases there
  | file path =>
      simp only [Location.place?] at there
      split at there
      · rename_i spot entry found
        obtain rfl := Option.some.inj there
        rw [Location.identity, FileTree.canonicalPath?, found, Option.getD_some]
      · cases there

/-- A location whose identity is in a chain, with the tree in which the identity was taken. -/
structure Stop where
  location : Location
  tree : FileTree

def Stop.identity (stop : Stop) : String :=
  stop.location.identity stop.tree

def Stop.place? (stop : Stop) : Option Files.Place :=
  stop.location.place? stop.tree

/-- The origin, as the files were when the expansion began, and the locations on a way behind it. -/
def stops (tree final : FileTree) (origin : Option Location) (way : List Location) : List Stop :=
  origin.toList.map (fun location => ⟨location, tree⟩) ++ way.map fun location => ⟨location, final⟩

theorem map_identity_stops (tree final : FileTree) (origin : Option Location)
    (way : List Location) :
    (stops tree final origin way).map Stop.identity =
      Loader.startingChain tree origin ++ way.map (Location.identity final) := by
  rw [stops, List.map_append, List.map_map, List.map_map]
  cases origin <;> rfl

/-- Two stops at one place have one identity. -/
theorem nodup_places {row : List Stop} (distinct : (row.map Stop.identity).Nodup) :
    (row.filterMap Stop.place?).Nodup := by
  rw [List.Nodup, List.pairwise_filterMap]
  rw [List.Nodup, List.pairwise_map] at distinct
  refine distinct.imp ?_
  intro first second differ place there other thereToo same
  subst same
  apply differ
  rw [Stop.identity, Stop.identity, Location.identity_of_place? there,
    Location.identity_of_place? thereToo]

/-- A row of stops at given places is no longer than there are places, if its identities differ. -/
theorem length_le_card {row : List Stop} (distinct : (row.map Stop.identity).Nodup)
    {places : Finset Files.Place}
    (within : ∀ stop ∈ row, ∃ place ∈ places, stop.place? = some place) :
    row.length ≤ places.card := by
  have all : (row.filterMap Stop.place?).length = row.length := by
    rw [List.filterMap_length_eq_length]
    intro stop member
    obtain ⟨place, -, there⟩ := within stop member
    rw [there, Option.isSome_some]
  have inside : (row.filterMap Stop.place?).toFinset ⊆ places := by
    intro place member
    obtain ⟨stop, known, there⟩ := List.mem_filterMap.mp (List.mem_toFinset.mp member)
    obtain ⟨other, listed, thereToo⟩ := within stop known
    rw [there] at thereToo
    exact Option.some.inj thereToo ▸ listed
  rw [← all, ← List.toFinset_card_of_nodup (nodup_places distinct)]
  exact Finset.card_le_card inside

/-! ## Errors that are no cycles -/

theorem Document.ancestors_ne_cyclicExtends (document : Document) (chain : List String) :
    document.ancestors ≠ .error (.cyclicExtends chain) :=
  document.failsOnly_ancestors _

theorem Loader.load_ne_cyclicExtends (loader : Loader) (location : Location) (tree : FileTree)
    (chain : List String) :
    ((loader.load location).after tree).1 ≠ .error (.cyclicExtends chain) :=
  loader.failsOnly_load location tree _

/-! ## The way of a chain -/

/-- The document at the end of a way declares a name. -/
def Declares (source : Source) (base : String) (declared : Except ConfigError (List String))
    (way : List Location) (name : String) : Prop :=
  ∃ names, Leads source base declared way (.ok names) ∧ name ∈ names

namespace Declares

variable {source : Source} {base : String} {name head : String} {names : List String}
  {parent : Document} {way : List Location}

theorem here (member : name ∈ names) : Declares source base (.ok names) [] name :=
  ⟨names, .here _, member⟩

theorem above (declares : Declares source base parent.ancestors way name)
    (member : head ∈ names) (found : source (locate base head) = .ok (some parent)) :
    Declares source base (.ok names) (locate base head :: way) name := by
  obtain ⟨ends, leads, last⟩ := declares
  exact ⟨ends, .above member found leads, last⟩

theorem later (declares : Declares source base (.ok names) way name) :
    Declares source base (.ok (head :: names)) way name := by
  obtain ⟨ends, leads, last⟩ := declares
  cases leads with
  | here => exact here (List.mem_cons_of_mem _ last)
  | above member found further =>
      exact ⟨ends, .above (List.mem_cons_of_mem _ member) found further, last⟩

end Declares

namespace Loader

variable {loader : Loader} {source : Source} {base : String}

/-- A gathering that reports a cycle went a way on which no identity stands twice, and the document
at its end declares a name whose identity stands on it. -/
theorem way_of_gathers {chain reported : List String} {declared : Except ConfigError (List String)}
    {tree final : FileTree} {visits : List Visit} {outcome : Except ConfigError Ancestry}
    (gathered : loader.Gathers base chain declared tree visits outcome final)
    (finds : loader.Finds source visits) (nodup : chain.Nodup)
    (proper : declared ≠ .error (.cyclicExtends reported))
    (failed : outcome = .error (.cyclicExtends reported)) :
    ∃ way name, Declares source base declared way name ∧
      reported = chain ++ way.map (Location.identity final) ++ [(locate base name).identity final] ∧
      (chain ++ way.map (Location.identity final)).Nodup ∧
      (locate base name).identity final ∈ chain ++ way.map (Location.identity final) := by
  -- The way grows with the chain.  What stands on it was loaded, so its identity stays to the end.
  induction gathered with
  | malformed chain error tree =>
      cases failed
      exact absurd rfl proper
  | empty chain tree => cases failed
  | cyclic known =>
      cases failed
      refine ⟨[], _, .here (List.mem_cons_self ..), ?_, ?_, ?_⟩
      · rw [List.map_nil, List.append_nil]
      · rwa [List.map_nil, List.append_nil]
      · rwa [List.map_nil, List.append_nil]
  | refused fresh load =>
      cases failed
      exact absurd (congrArg Prod.fst load) (load_ne_cyclicExtends _ _ _ _)
  | missing fresh load => cases failed
  | @above chain name names tree later final parent visits error fresh load inner ih =>
      obtain ⟨here, findsInner⟩ := finds_cons.mp finds
      rw [documentAt_of_load load] at here
      obtain ⟨way, last, declares, same, distinct, known⟩ :=
        ih findsInner (nodup_append_singleton nodup fresh)
          (parent.document.ancestors_ne_cyclicExtends reported) failed
      have growth := (growth_of_load load).trans (growth_of_gathers inner)
      have settled := settled_of_load (congrArg Prod.fst load) final growth
      have onWay :
          chain ++ [(locate base name).identity tree] ++ way.map (Location.identity final) =
            chain ++ (locate base name :: way).map (Location.identity final) := by
        rw [← settled, List.append_assoc, List.singleton_append, ← List.map_cons]
      rw [onWay] at same distinct known
      exact ⟨_, last, declares.above (List.mem_cons_self ..) here.symm, same, distinct, known⟩
  | @ancestor chain name names tree later middle final parent visits others above outcome
      fresh load inner rest ihInner ihRest =>
      cases outcome with
      | ok following => cases failed
      | error error =>
          cases failed
          obtain ⟨-, findsFurther⟩ := finds_cons.mp finds
          obtain ⟨way, last, declares, found⟩ :=
            ihRest (finds_append.mp findsFurther).2 nodup nofun rfl
          exact ⟨way, last, declares.later, found⟩

end Loader

/-! ## What else can be amiss -/

/-- Nothing is amiss in the unfolding of declared names, except that it may go round. -/
structure Orderly (source : Source) (base : String)
    (declared : Except ConfigError (List String)) : Prop where
  wellFormed : ∀ way error, ¬ Leads source base declared way (.error error)
  loads : ∀ way name, Declares source base declared way name →
    ∃ parent, source (locate base name) = .ok (some parent)

section Orderly

variable {source : Source} {base : String} {name : String} {names : List String}
  {parent : Document} {declared : Except ConfigError (List String)}

theorem Orderly.above (orderly : Orderly source base (.ok names)) (member : name ∈ names)
    (found : source (locate base name) = .ok (some parent)) :
    Orderly source base parent.ancestors := by
  refine ⟨?_, ?_⟩
  · intro way error leads
    exact orderly.wellFormed _ error (.above member found leads)
  · intro way other declares
    exact orderly.loads _ other (declares.above member found)

theorem Orderly.later (orderly : Orderly source base (.ok (name :: names))) :
    Orderly source base (.ok names) := by
  refine ⟨?_, ?_⟩
  · intro way error leads
    cases leads with
    | above member found further =>
        exact orderly.wellFormed _ error (.above (List.mem_cons_of_mem _ member) found further)
  · intro way other declares
    exact orderly.loads _ other declares.later

theorem Offence.is_cyclicExtends {key : Location → String} {chain : List String} {check : Check}
    {error : ConfigError} (offence : Offence source base key chain declared check error)
    (orderly : Orderly source base declared) : ∃ reported, error = .cyclicExtends reported := by
  induction offence with
  | malformed chain error => exact absurd (.here _) (orderly.wellFormed [] error)
  | cyclic known => exact ⟨_, rfl⟩
  | refused failed =>
      obtain ⟨parent, found⟩ := orderly.loads [] _ (.here (List.mem_cons_self ..))
      rw [failed] at found
      cases found
  | missing absent =>
      obtain ⟨parent, found⟩ := orderly.loads [] _ (.here (List.mem_cons_self ..))
      rw [absent] at found
      cases found
  | above found inner ih => exact ih (orderly.above (List.mem_cons_self ..) found)
  | later rest ih => exact ih orderly.later

end Orderly

/-! ## The report -/

/-- A chain that an expansion of a document reports: it goes from the origin along a way to the
document at its end, which declares the last location. -/
structure CycleReport (source : Source) (base : String) (document : Document)
    (origin : Option Location) (tree final : FileTree) (way : List Location) (last : Location)
    (chain : List String) : Prop where
  /-- Every location on the way is declared by the document before it, the first one by the document
  that is expanded. -/
  declared : ∃ name, Declares source base document.ancestors way name ∧ last = locate base name
  chain_eq : chain =
    (stops tree final origin way).map Stop.identity ++ [last.identity final]
  two_le_length : 2 ≤ chain.length
  starts : ∀ location, origin = some location → chain.head? = some (location.identity tree)
  /-- Without origin the chain starts with an ancestor that the document declares itself. -/
  starts_declared : origin = none →
    ∃ names, document.ancestors = .ok names ∧
      ∃ name ∈ names, chain.head? = some ((locate base name).identity final)
  distinct : chain.dropLast.Nodup
  closes : chain.dropLast.count (last.identity final) = 1
  /-- No file stands twice before the end. -/
  once : ((stops tree final origin way).filterMap Stop.place?).Nodup
  /-- A loop among some files closes as soon as it has been at all of them. -/
  short : ∀ before loop, stops tree final origin way = before ++ loop →
    ∀ places : Finset Files.Place, (∀ stop ∈ loop, ∃ place ∈ places, stop.place? = some place) →
      chain.length ≤ before.length + (places.card + 1)

theorem Declares.starts {source : Source} {base : String}
    {declared : Except ConfigError (List String)} {way : List Location} {name : String}
    (declares : Declares source base declared way name) (key : Location → String) :
    ∃ names, declared = .ok names ∧ ∃ first ∈ names,
      (way.map key ++ [key (locate base name)]).head? = some (key (locate base first)) := by
  obtain ⟨ends, leads, member⟩ := declares
  cases leads with
  | here => exact ⟨ends, rfl, name, member, rfl⟩
  | above known found further => exact ⟨_, rfl, _, known, rfl⟩

namespace Loader

variable {loader : Loader} {source : Source} {base : String} {document : Document}
  {origin : Option Location} {tree final : FileTree}

theorem cycleReport_of_declares {way : List Location} {name : String}
    (declares : Declares source base document.ancestors way name)
    (distinct : ((stops tree final origin way).map Stop.identity).Nodup)
    (known : (locate base name).identity final ∈
      (stops tree final origin way).map Stop.identity) :
    CycleReport source base document origin tree final way (locate base name)
      ((stops tree final origin way).map Stop.identity ++ [(locate base name).identity final]) where
  declared := ⟨name, declares, rfl⟩
  chain_eq := rfl
  two_le_length := by
    have occupied := List.length_pos_of_mem known
    rw [List.length_append, List.length_singleton]
    omega
  starts := by
    rintro location rfl
    rfl
  starts_declared := by
    rintro rfl
    rw [map_identity_stops]
    exact declares.starts (Location.identity final)
  distinct := by rwa [List.dropLast_concat]
  closes := by rw [List.dropLast_concat, List.count_eq_one_of_mem distinct known]
  once := nodup_places distinct
  short := by
    intro before loop split places within
    rw [split, List.map_append] at distinct
    have bound := length_le_card distinct.of_append_right within
    rw [split, List.length_append, List.length_map, List.length_append, List.length_singleton]
    omega

/-- While loading is steady, a reported cycle is a real one: the chain is a way through the
unfolding of the document which comes back to one of its own locations, and to no other one before.
A way that passes a file twice lets no expansion succeed, and is reported when nothing else is
amiss. -/
theorem cycleReport_of_expand
    (steady : loader.Steady base (startingChain tree origin) document.ancestors tree source) :
    (∀ chain,
      ((loader.expand base document origin).after tree).1 = .error (.cyclicExtends chain) →
      ∃ way last, CycleReport source base document origin tree
        ((loader.expand base document origin).after tree).2 way last chain) ∧
    ∀ way reached, Leads source base document.ancestors way reached →
      ¬ ((stops tree ((loader.expand base document origin).after tree).2 origin way).filterMap
        Stop.place?).Nodup →
      ∃ error, ((loader.expand base document origin).after tree).1 = .error error ∧
        (Orderly source base document.ancestors → ∃ chain, error = .cyclicExtends chain) := by
  obtain ⟨visits, outcome, final, gathered⟩ :=
    loader.exists_gathers_of_document base document origin tree
  have finds := steady _ _ _ gathered
  have nodup := nodup_startingChain tree origin
  rw [after_expand_of_gathers gathered]
  constructor
  · intro chain failed
    have reported : outcome = .error (.cyclicExtends chain) := by
      cases outcome with
      | ok ancestry => cases failed
      | error error =>
          cases failed
          rfl
    obtain ⟨way, name, declares, rfl, distinct, known⟩ :=
      way_of_gathers gathered finds nodup (document.ancestors_ne_cyclicExtends chain) reported
    rw [← map_identity_stops] at distinct known ⊢
    exact ⟨way, _, cycleReport_of_declares declares distinct known⟩
  · intro way reached leads twice
    have keyed : ∀ visit ∈ visits, visit.location.identity final = visit.identity :=
      fun visit member => identity_of_visit gathered member
    have verdict := verdict_of_gathers gathered finds keyed fun _ _ => rfl
    cases outcome with
    | ok ancestry =>
        -- A success would have kept all identities on the way apart, and so all places.
        have distinct := (clear_of_leads leads nodup verdict).1
        rw [← map_identity_stops] at distinct
        exact absurd (nodup_places distinct) twice
    | error error =>
        obtain ⟨check, first⟩ := verdict
        exact ⟨error, rfl, first.offends.is_cyclicExtends⟩

def roundFiles : FileTree where
  entries :=
    [(["w"], .directory),
      ([".mega-linter.yml", "w"], .file (Text.bytesOf "EXTENDS: base.yml\n")),
      (["base.yml", "w"], .file (Text.bytesOf "EXTENDS: ./again/link.yml\n")),
      (["again", "w"], .directory),
      (["link.yml", "again", "w"], .link "../.mega-linter.yml")]
  current := []

def roundOrigin : Location := .file "/w/.mega-linter.yml"

def roundDocument : Document :=
  Mapping.ofList [("EXTENDS", .text "base.yml")]

/-- The way leads back to its origin by a link in a directory. -/
def roundWay : List Location :=
  [.file "/w/base.yml", .file "/w/./again/link.yml"]

theorem cycleReport_of_expand_round :
    offline.Steady "/w" (startingChain roundFiles (some roundOrigin)) roundDocument.ancestors
        roundFiles (offline.documentAt roundFiles) ∧
      (∃ way last, CycleReport (offline.documentAt roundFiles) "/w" roundDocument
        (some roundOrigin) roundFiles
        ((offline.expand "/w" roundDocument (some roundOrigin)).after roundFiles).2 way last
        ["/w/.mega-linter.yml", "/w/base.yml", "/w/.mega-linter.yml"]) ∧
      ∃ reached, Leads (offline.documentAt roundFiles) "/w" roundDocument.ancestors roundWay
          reached ∧
        ∃ error, ((offline.expand "/w" roundDocument (some roundOrigin)).after roundFiles).1 =
            .error error ∧
          (Orderly (offline.documentAt roundFiles) "/w" roundDocument.ancestors →
            ∃ chain, error = .cyclicExtends chain) := by
  have steady : offline.Steady "/w" (startingChain roundFiles (some roundOrigin))
      roundDocument.ancestors roundFiles (offline.documentAt roundFiles) :=
    steady_of_unreachable rfl
  have failed : ((offline.expand "/w" roundDocument (some roundOrigin)).after roundFiles).1 =
      .error (.cyclicExtends ["/w/.mega-linter.yml", "/w/base.yml", "/w/.mega-linter.yml"]) := by
    decide +kernel
  have declared : roundDocument.ancestors = .ok ["base.yml"] := by
    decide +kernel
  have base : offline.documentAt roundFiles (locate "/w" "base.yml") =
      .ok (some (Mapping.ofList [("EXTENDS", .text "./again/link.yml")])) := by
    decide +kernel
  have link : offline.documentAt roundFiles (locate "/w" "./again/link.yml") =
      .ok (some roundDocument) := by
    decide +kernel
  have leads : Leads (offline.documentAt roundFiles) "/w" roundDocument.ancestors roundWay
      roundDocument.ancestors := by
    have first : Leads (offline.documentAt roundFiles) "/w" (.ok ["base.yml"]) roundWay
        roundDocument.ancestors :=
      .above (List.mem_singleton_self _) base
        (.above (List.mem_singleton_self _) link (.here _))
    rwa [← declared] at first
  have twice : ¬ ((stops roundFiles
      ((offline.expand "/w" roundDocument (some roundOrigin)).after roundFiles).2
      (some roundOrigin) roundWay).filterMap Stop.place?).Nodup := by
    decide +kernel
  have whole := cycleReport_of_expand steady
  exact ⟨steady, whole.1 _ failed, _, leads, whole.2 _ _ leads twice⟩

end Loader

end LayeredConfig
