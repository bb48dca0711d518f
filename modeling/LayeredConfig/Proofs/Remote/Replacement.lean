import LayeredConfig.Proofs.Extends.Flattening
import LayeredConfig.Proofs.Extends.Replay
import LayeredConfig.Proofs.Remote.Agreement
import LayeredConfig.Proofs.Resolution.Independence

/-!
# Ancestors from the network in place of files

An ancestor may be named by the address of a server that has the bytes of its file.  If both
expansions succeed, and no copy of a served document lands on a file that is an ancestor itself,
then they come to the same but for the names of the ancestors.  The source of each expansion is what
its first tree and its network yield, so the copies do not come in: it is enough that the items of
the documents lead to the same content one by one.
-/

set_option autoImplicit false

namespace LayeredConfig

open Files Web

namespace Loader

variable {loader : Loader} {base : String} {tree start final : FileTree}

/-! ## Copies apart from files -/

/-- The copies that are left on some visits land on no file that is visited. -/
def Apart (loader : Loader) (visits : List Visit) : Prop :=
  ∀ visit ∈ visits,
    visit.location.Avoids (· ∈ (loader.copiesOn visits).map Copy.place) visit.tree

/-- What is gathered is as it was in an earlier tree, if no copy since then lands on a file that is
visited. -/
theorem finds_of_avoids {places : Place → Prop} {chain : List String}
    {declared : Except ConfigError (List String)} {visits : List Visit}
    {outcome : Except ConfigError Ancestry} {ancestry : Ancestry}
    (gathered : loader.Gathers base chain declared tree visits outcome final)
    (differs : tree.DiffersInFiles places start)
    (within : ∀ copy ∈ loader.copiesOn visits, places copy.place)
    (avoids : ∀ visit ∈ visits, visit.location.Avoids places visit.tree)
    (success : outcome = .ok ancestry) : loader.Finds (loader.documentAt start) visits := by
  -- By induction on the gathering; each tree on the way differs from the first at the copies only.
  induction gathered generalizing ancestry with
  | malformed chain error tree => cases success
  | empty chain tree => simp [Finds]
  | cyclic known => cases success
  | refused fresh load => cases success
  | missing fresh load => cases success
  | above fresh load inner ih => cases success
  | @ancestor chain name names tree later middle final parent visits others above outcome
      fresh load inner rest ihInner ihRest =>
      cases outcome with
      | error error => cases success
      | ok following =>
          rw [copiesOn_cons, copiesOn_append] at within
          obtain ⟨withinHere, withinLater⟩ := List.forall_mem_append.mp within
          obtain ⟨withinInner, withinRest⟩ := List.forall_mem_append.mp withinLater
          obtain ⟨avoidsHere, avoidsLater⟩ := List.forall_mem_cons.mp avoids
          obtain ⟨avoidsInner, avoidsRest⟩ := List.forall_mem_append.mp avoidsLater
          have loadedBefore := after_load_again load differs avoidsHere fun error failed => by
            cases failed
          have differsLater := differs.putCopies_left
            (below_copiesOf loader tree (locate base name)) withinHere
          rw [← putCopies_of_load load] at differsLater
          have differsMiddle := differsLater.putCopies_left (below_copiesOn loader visits)
            withinInner
          rw [← putCopies_of_gathers inner] at differsMiddle
          refine finds_cons.mpr ⟨?_, finds_append.mpr
            ⟨ihInner differsLater withinInner avoidsInner rfl,
              ihRest differsMiddle withinRest avoidsRest rfl⟩⟩
          rw [documentAt_of_load load, documentAt_of_load loadedBefore]

theorem finds_of_apart {chain : List String} {declared : Except ConfigError (List String)}
    {visits : List Visit} {ancestry : Ancestry}
    (gathered : loader.Gathers base chain declared tree visits (.ok ancestry) final)
    (apart : loader.Apart visits) : loader.Finds (loader.documentAt tree) visits := by
  have growth := growth_of_gathers gathered
  rw [putCopies_of_gathers gathered] at growth
  have written := FileTree.differsInFiles_putCopies (below_copiesOn loader visits) growth
  have unchanged : tree.DiffersInFiles (· ∈ (loader.copiesOn visits).map Copy.place) tree :=
    ⟨⟨rfl, fun _ _ => rfl, written.takesToo⟩, written.takesToo⟩
  exact finds_of_avoids gathered unchanged (fun _ member => List.mem_map_of_mem member) apart rfl

/-- The copies of the documents under a document land on no file among them. -/
def CopiesApart (loader : Loader) (base : String) (document : Document) (origin : Option Location)
    (tree : FileTree) : Prop :=
  ∃ visits outcome final,
    loader.Gathers base (startingChain tree origin) document.ancestors tree visits outcome final ∧
      loader.Apart visits

theorem flattens_of_copiesApart {document : Document} {origin : Option Location}
    {expansion : Expansion} (apart : loader.CopiesApart base document origin tree)
    (run : ((loader.expand base document origin).after tree).1 = .ok expansion) :
    ∃ under, Flattens (loader.documentAt tree) base document.ancestors under ∧
      expansion.document = under.merge document := by
  obtain ⟨visits, outcome, final, gathered, apart⟩ := apart
  rw [after_expand_of_gathers gathered] at run
  cases outcome with
  | error error => cases run
  | ok ancestry =>
      cases run
      have flattens := flattens_of_gathers gathered (finds_of_apart gathered apart) rfl
      exact ⟨ancestry.flat, flattens, Mapping.empty_merge _⟩

end Loader

/-! ## Documents with other items -/

/-- Two documents that agree but for the names of their ancestors, and name related ancestors one by
one. -/
structure Document.Renamed (item : String → String → Prop) (document other : Document) :
    Prop where
  agree : Mapping.AgreeOff extendsKey document other
  items : ∀ names others, document.ancestors = .ok names → other.ancestors = .ok others →
    List.Forall₂ item names others

theorem Document.Renamed.refl {item : String → String → Prop} (kept : ∀ name, item name name)
    (document : Document) : document.Renamed item document := by
  refine ⟨.refl extendsKey document, fun names others declared declaredToo => ?_⟩
  obtain rfl := Except.ok.inj (declared.symm.trans declaredToo)
  exact List.forall₂_same.mpr fun name _ => kept name

/-- Sources that yield alike under related names make what lies under related names alike. -/
theorem Flattens.agreeOff {source other : Source} {base : String} {item : String → String → Prop}
    (alike : ∀ name nameToo parent parentToo, item name nameToo →
      source (locate base name) = .ok (some parent) →
      other (locate base nameToo) = .ok (some parentToo) → Document.Renamed item parent parentToo)
    {declared declaredToo : Except ConfigError (List String)} {under underToo : Document}
    (items : ∀ names others, declared = .ok names → declaredToo = .ok others →
      List.Forall₂ item names others)
    (flattens : Flattens source base declared under)
    (flattensToo : Flattens other base declaredToo underToo) :
    Mapping.AgreeOff extendsKey under underToo := by
  induction flattens generalizing declaredToo underToo with
  | empty =>
      cases flattensToo with
      | empty => exact .refl extendsKey ∅
      | ancestor => cases items _ _ rfl rfl
  | ancestor found inner rest ihInner ihRest =>
      cases flattensToo with
      | empty => cases items _ _ rfl rfl
      | ancestor foundToo innerToo restToo =>
          obtain ⟨same, following⟩ := List.forall₂_cons.mp (items _ _ rfl rfl)
          have renamed := alike _ _ _ _ same found foundToo
          have others := ihRest (fun names others declared declaredToo => by
            cases declared
            cases declaredToo
            exact following) restToo
          exact ((ihInner renamed.items innerToo).merge renamed.agree).merge others

namespace Loader

variable {loader other : Loader} {base : String} {tree treeToo : FileTree}

/-- An item that may stand for another one: the item itself, or an address in place of a file whose
bytes are served there. -/
inductive Replaces (base : String) (other : Loader) (tree treeToo : FileTree) :
    String → String → Prop where
  | kept (name : String) : Replaces base other tree treeToo name name
  | served {name text path : String} {bytes : List UInt8} (here : locate base name = .file path)
      (held : tree.read path = .ok bytes ∨ treeToo.read path = .ok bytes)
      (there : locate base text = .remote text) (serves : other.Serves text bytes) :
      Replaces base other tree treeToo name text

/-- Every location yields the same document in both worlds but for its items, some of which are
replaced. -/
def SameButReplaced (base : String) (loader other : Loader) (tree treeToo : FileTree) : Prop :=
  ∀ location document documentToo,
    loader.documentAt tree location = .ok (some document) →
    other.documentAt treeToo location = .ok (some documentToo) →
    Document.Renamed (Replaces base other tree treeToo) document documentToo

theorem load_of_documentAt {location : Location} {document : Document}
    (found : loader.documentAt tree location = .ok (some document)) :
    ∃ path, ((loader.load location).after tree).1 = .ok (some ⟨path, document⟩) := by
  unfold documentAt at found
  generalize ((loader.load location).after tree).1 = result at found ⊢
  rcases result with error | _ | ⟨path, loaded⟩
  · cases found
  · cases found
  · cases found
    exact ⟨path, rfl⟩

theorem readFile_of_readRemote {path text : String} {bytes : List UInt8} {document : Document}
    (read : readRemote text bytes = .ok document) : readFile path bytes = .ok document := by
  unfold readRemote at read
  unfold readFile
  cases decoded : Text.decode bytes with
  | error failure =>
      rw [decoded] at read
      cases read
  | ok content =>
      rw [decoded] at read
      exact parseDocument_of_ok read

theorem bytes_of_documentAt_file {path : String} {bytes : List UInt8} {document : Document}
    (found : loader.documentAt tree (.file path) = .ok (some document))
    (held : tree.read path = .ok bytes) : readFile path bytes = .ok document := by
  obtain ⟨place, load⟩ := load_of_documentAt found
  rcases source_of_load load with ⟨_, bytesToo, same, -, read, parsed⟩ | ⟨_, -, same, -⟩
  · cases same
    obtain rfl := Except.ok.inj (held.symm.trans read)
    exact parsed
  · cases same

theorem bytes_of_documentAt_remote {text : String} {bytes : List UInt8} {document : Document}
    (found : loader.documentAt tree (.remote text) = .ok (some document))
    (fetched : loader.fetch text = .ok bytes) : readRemote text bytes = .ok document := by
  obtain ⟨place, load⟩ := load_of_documentAt found
  rcases source_of_load load with ⟨_, -, same, -⟩ | ⟨_, bytesToo, same, fetchedToo, parsed⟩
  · cases same
  · cases same
    obtain rfl := Except.ok.inj (fetched.symm.trans fetchedToo)
    exact parsed

theorem renamed_of_replaces (below : other.bodyLimit ≠ greatestLimit)
    (same : SameButReplaced base loader other tree treeToo) {name nameToo : String}
    {parent parentToo : Document} (replaces : Replaces base other tree treeToo name nameToo)
    (found : loader.documentAt tree (locate base name) = .ok (some parent))
    (foundToo : other.documentAt treeToo (locate base nameToo) = .ok (some parentToo)) :
    Document.Renamed (Replaces base other tree treeToo) parent parentToo := by
  cases replaces with
  | kept => exact same _ _ _ found foundToo
  | @served _ path bytes here held there serves =>
      rw [here] at found
      rw [there] at foundToo
      have remote := bytes_of_documentAt_remote foundToo (fetch_of_serves serves below)
      have own : readFile path bytes = .ok parentToo := readFile_of_readRemote remote
      rcases held with before | after
      · have parsed := bytes_of_documentAt_file found before
        obtain rfl := Except.ok.inj (parsed.symm.trans own)
        exact .refl .kept parent
      · have loaded := other.after_load_of_isFile (FileTree.isFile_of_read after) after
        refine same (.file path) parent parentToo found ?_
        rw [documentAt_of_load loaded, own]
        rfl

/-- Where one file is rewritten, only the documents in it need to be compared. -/
theorem sameButReplaced_of_replaced {place : Place} {former bytes : List UInt8}
    {document documentToo : Document} (replaced : FileTree.Replaced place bytes tree treeToo)
    (there : tree.entry? place = some (.file former)) (stood : documentIn? former = some document)
    (stands : documentIn? bytes = some documentToo)
    (renamed : Document.Renamed (Replaces base loader tree treeToo) document documentToo) :
    SameButReplaced base loader loader tree treeToo := by
  intro location found foundToo yields yieldsToo
  obtain ⟨path, load⟩ := load_of_documentAt yields
  rcases source_of_load load with
    ⟨file, held, rfl, isFile, read, parsed⟩ | ⟨url, held, rfl, fetched, parsed⟩
  · by_cases ends : FileTree.EndsAt place (tree.find file)
    · have heldHere : tree.read file = .ok former := by
        rw [FileTree.read, FileTree.find_of_endsAt there ends]
      have one := documentIn?_of_readFile (bytes_of_documentAt_file yields heldHere)
      have two := documentIn?_of_readFile
        (bytes_of_documentAt_file yieldsToo (replaced.held file ends).2)
      obtain rfl := Option.some.inj (stood.symm.trans one)
      obtain rfl := Option.some.inj (stands.symm.trans two)
      exact renamed
    · have readToo := ((replaced.others file ends).2 isFile).trans read
      have same := bytes_of_documentAt_file yieldsToo readToo
      obtain rfl := Except.ok.inj (parsed.symm.trans same)
      exact .refl .kept found
  · have same := bytes_of_documentAt_remote yieldsToo fetched
    obtain rfl := Except.ok.inj (parsed.symm.trans same)
    exact .refl .kept found

/-- A document is the same in a file and from a server, or is refused in both for one fault, under
every limit but the greatest, where the served document is empty.  So ancestors may be served
instead of lying in files: if no copy lands on a file among the ancestors, two expansions that
succeed agree but for the names of the ancestors. -/
theorem served_like_file (other : Loader) :
    (other.bodyLimit ≠ greatestLimit →
      (∀ (loader : Loader) (path text copy : String) (bytes : List UInt8)
          (tree treeToo later : FileTree),
        tree.read path = .ok bytes → other.Serves text bytes →
        other.copyPath text = .ok copy → treeToo.write copy bytes = .ok later →
        ReadsAlike path text copy bytes ((loader.load (.file path)).after tree).1
          ((other.load (.remote text)).after treeToo).1) ∧
      ∀ (loader : Loader) (base : String) (tree treeToo : FileTree)
          (document documentToo : Document) (origin originToo : Option Location)
          (expansion expansionToo : Expansion),
        SameButReplaced base loader other tree treeToo →
        Document.Renamed (Replaces base other tree treeToo) document documentToo →
        loader.CopiesApart base document origin tree →
        other.CopiesApart base documentToo originToo treeToo →
        ((loader.expand base document origin).after tree).1 = .ok expansion →
        ((other.expand base documentToo originToo).after treeToo).1 = .ok expansionToo →
        Mapping.AgreeOff extendsKey expansion.document expansionToo.document) ∧
    (other.bodyLimit = greatestLimit →
      ∀ (text copy : String) (bytes : List UInt8) (tree later : FileTree),
        other.Serves text bytes → other.copyPath text = .ok copy →
        tree.write copy bytes = .ok later →
        ((other.load (.remote text)).after tree).1 = .ok (some ⟨copy, ∅⟩)) := by
  refine ⟨fun below => ⟨?_, ?_⟩, ?_⟩
  · intro loader path text copy bytes tree treeToo later read serves copied written
    obtain ⟨place, ends, -⟩ := FileTree.endsAt_of_write written
    rw [after_load_of_isFile loader (FileTree.isFile_of_read read) read,
      after_load_of_endsAt copied (fetch_of_serves serves below) ends]
    exact readsAlike path text copy bytes
  · intro loader base tree treeToo document documentToo origin originToo expansion expansionToo
      same renamed apart apartToo run runToo
    obtain ⟨under, flattens, flat⟩ := flattens_of_copiesApart apart run
    obtain ⟨underToo, flattensToo, flatToo⟩ := flattens_of_copiesApart apartToo runToo
    have alike := Flattens.agreeOff (fun _ _ _ _ => renamed_of_replaces below same) renamed.items
      flattens flattensToo
    rw [flat, flatToo]
    exact alike.merge renamed.agree
  · intro greatest text copy bytes tree later serves copied written
    exact load_of_serves_greatestLimit greatest serves copied written

/-! ## A document that is an ancestor twice -/

/-- A server has the bytes of the document at the top. -/
def topWithin (limit : UInt64) : Loader where
  network := .serving
    [("https://host/top.yml", .response ⟨statusOk, Text.bytesOf "A: 1\n", none, false, none⟩)]
  bodyLimit := limit
  temporary := "/t"

def topServer : Loader := topWithin usualBodyLimit

def topFiles : FileTree where
  entries :=
    [(["t"], .directory), (["w"], .directory),
      (["top.yml", "w"], .file (Text.bytesOf "A: 1\n")),
      (["middle.yml", "w"], .file (Text.bytesOf "EXTENDS: top.yml\nB: 2\n"))]
  current := []

/-- The document in the middle names the address of the one at the top. -/
def topFilesServed : FileTree :=
  topFiles.setEntry ["middle.yml", "w"]
    (.file (Text.bytesOf "EXTENDS: https://host/top.yml\nB: 2\n"))

def bottomDocument (top : String) : Document :=
  Mapping.ofList [("EXTENDS", .list [.text "middle.yml", .text top]), ("C", .integer 3)]

def middleDocument (top : String) : Document :=
  Mapping.ofList [("EXTENDS", .text top), ("B", .integer 2)]

def topUrl : Url where
  scheme := "https".toList
  user := []
  host := some (.domain "host".toList)
  port := none
  path := .inl ["top.yml".toList]
  query := none
  fragment := none

def topDocument : Document :=
  Mapping.ofList [("A", .integer 1)]

def topCopied : FileTree :=
  topFilesServed.setEntry ["top.yml", "t"] (.file (Text.bytesOf "A: 1\n"))

/-- The document at the top is above the one in the middle and next to it. -/
def topAncestry (top : String) : Ancestry :=
  .ancestor "middle.yml" (middleDocument top) (.ancestor top topDocument .empty .empty)
    (.ancestor top topDocument .empty .empty)

def topExpansion (top : String) : Expansion where
  document := (bottomDocument top).merge (Mapping.ofList [("A", .integer 1), ("B", .integer 2)])
  ancestors := ["middle.yml", top, top]

theorem documents_top :
    topDocument.ancestors = .ok [] ∧
      ∀ top ∈ ["top.yml", "https://host/top.yml"],
        (middleDocument top).ancestors = .ok [top] ∧
          (bottomDocument top).ancestors = .ok ["middle.yml", top] ∧
          (topAncestry top).expansion ∅ (bottomDocument top) = topExpansion top := by
  decide +kernel

theorem read_top :
    readRemote "https://host/top.yml" (Text.bytesOf "A: 1\n") = .ok topDocument ∧
      readFile "/w/middle.yml" (Text.bytesOf "EXTENDS: top.yml\nB: 2\n") =
        .ok (middleDocument "top.yml") ∧
      readFile "/w/middle.yml" (Text.bytesOf "EXTENDS: https://host/top.yml\nB: 2\n") =
        .ok (middleDocument "https://host/top.yml") := by
  decide +kernel

theorem find_top :
    topFiles.find "/w/middle.yml" =
        .ok (.taken ["middle.yml", "w"] (.file (Text.bytesOf "EXTENDS: top.yml\nB: 2\n"))) ∧
      topFilesServed.find "/w/middle.yml" = .ok (.taken ["middle.yml", "w"]
        (.file (Text.bytesOf "EXTENDS: https://host/top.yml\nB: 2\n"))) ∧
      (∀ tree ∈ [topFiles, topFilesServed],
        tree.find "/w/top.yml" = .ok (.taken ["top.yml", "w"] (.file (Text.bytesOf "A: 1\n")))) ∧
      topFilesServed.find "/t/top.yml" = .ok (.free ["top.yml", "t"]) ∧
      topCopied.find "/t/top.yml" =
        .ok (.taken ["top.yml", "t"] (.file (Text.bytesOf "A: 1\n"))) := by
  decide +kernel

theorem fresh_top :
    (locate "/w" "top.yml").identity topFiles ∉ [(locate "/w" "middle.yml").identity topFiles] ∧
      (locate "/w" "https://host/top.yml").identity topFilesServed ∉
        [(locate "/w" "middle.yml").identity topFilesServed] := by
  decide +kernel

theorem address_top :
    Url.parse "https://host/top.yml" = .ok topUrl ∧
      topServer.network.answer topUrl =
        .response ⟨statusOk, Text.bytesOf "A: 1\n", none, false, none⟩ ∧
      topServer.copyPath "https://host/top.yml" = .ok "/t/top.yml" := by
  decide +kernel

/-- The document at the top is within every limit above its five bytes. -/
theorem serves_top {limit : UInt64} (fits : 5 ≤ limit.toNat) :
    (topWithin limit).Serves "https://host/top.yml" (Text.bytesOf "A: 1\n") := by
  obtain ⟨parsed, answered, -⟩ := address_top
  refine ⟨topUrl, 0, _, parsed, by decide, .here answered rfl, rfl, ?_, rfl, rfl⟩
  rintro (⟨told, tells, longer⟩ | longer)
  · cases tells
    exact absurd longer (Nat.not_lt.mpr fits)
  · exact absurd longer (Nat.not_lt.mpr fits)

theorem serves_topServer : topServer.Serves "https://host/top.yml" (Text.bytesOf "A: 1\n") :=
  serves_top (by decide)

theorem replaces_top :
    Replaces "/w" topServer topFiles topFilesServed "top.yml" "https://host/top.yml" := by
  have here : locate "/w" "top.yml" = .file "/w/top.yml" := by decide
  have read := FileTree.read_of_find (find_top.2.2.1 topFiles (.head _))
  exact .served here (.inl read) (by decide) serves_topServer

theorem agreeOff_ofList_cons {α : Type} (key : String) (first second : α)
    (entries : List (String × α)) :
    Mapping.AgreeOff key (Mapping.ofList ((key, first) :: entries))
      (Mapping.ofList ((key, second) :: entries)) := by
  intro other different
  rw [Mapping.get?_ofList, Mapping.get?_ofList, List.reverse_cons, List.reverse_cons,
    Mapping.lookup_append, Mapping.lookup_append]
  simp only [lookup, if_neg different]

theorem renamed_top :
    Document.Renamed (Replaces "/w" topServer topFiles topFilesServed)
        (middleDocument "top.yml") (middleDocument "https://host/top.yml") ∧
      Document.Renamed (Replaces "/w" topServer topFiles topFilesServed)
        (bottomDocument "top.yml") (bottomDocument "https://host/top.yml") := by
  obtain ⟨middle, bottom, -⟩ := documents_top.2 "top.yml" (.head _)
  obtain ⟨middleServed, bottomServed, -⟩ :=
    documents_top.2 "https://host/top.yml" (.tail _ (.head _))
  refine ⟨⟨?_, fun names others one two => ?_⟩, ⟨?_, fun names others one two => ?_⟩⟩
  · exact agreeOff_ofList_cons extendsKey _ _ _
  · cases one.symm.trans middle
    cases two.symm.trans middleServed
    exact .cons replaces_top .nil
  · exact agreeOff_ofList_cons extendsKey _ _ _
  · cases one.symm.trans bottom
    cases two.symm.trans bottomServed
    exact .cons (.kept _) (.cons replaces_top .nil)

theorem sameButReplaced_top :
    SameButReplaced "/w" topServer topServer topFiles topFilesServed := by
  have ends : FileTree.EndsAt ["middle.yml", "w"] (topFiles.find "/w/middle.yml") := by
    rw [find_top.1]
    exact .file _
  have there : topFiles.entry? ["middle.yml", "w"] =
      some (.file (Text.bytesOf "EXTENDS: top.yml\nB: 2\n")) := rfl
  exact sameButReplaced_of_replaced (FileTree.replaced_of_endsAt ends _) there
    (documentIn?_of_readFile read_top.2.1) (documentIn?_of_readFile read_top.2.2)
    renamed_top.1

/-- The gathering for the document at the bottom: the document in the middle, the one at the top for
it, and the one at the top once more. -/
theorem gathers_bottom {top : String} {tree later : FileTree} {path : String}
    (written : top ∈ ["top.yml", "https://host/top.yml"])
    (middle : (topServer.load (locate "/w" "middle.yml")).after tree =
      (.ok (some ⟨"/w/middle.yml", middleDocument top⟩), tree))
    (first : (topServer.load (locate "/w" top)).after tree =
      (.ok (some ⟨path, topDocument⟩), later))
    (second : (topServer.load (locate "/w" top)).after later =
      (.ok (some ⟨path, topDocument⟩), later))
    (fresh : (locate "/w" top).identity tree ∉ [(locate "/w" "middle.yml").identity tree]) :
    topServer.Gathers "/w" (startingChain tree none) (bottomDocument top).ancestors tree
      [⟨[], locate "/w" "middle.yml", tree⟩,
        ⟨[(locate "/w" "middle.yml").identity tree], locate "/w" top, tree⟩,
        ⟨[], locate "/w" top, later⟩] (.ok (topAncestry top)) later := by
  obtain ⟨declaredMiddle, declared, -⟩ := documents_top.2 top written
  have rest := gathers_of_leaf second documents_top.1 List.not_mem_nil (.empty [] later)
  have inner := gathers_of_leaf first documents_top.1 fresh (.empty _ later)
  rw [declared]
  exact .ancestor List.not_mem_nil middle (declaredMiddle ▸ inner) rest

theorem expand_of_gathers_bottom {top : String} {tree final : FileTree} {visits : List Visit}
    (written : top ∈ ["top.yml", "https://host/top.yml"])
    (gathered : topServer.Gathers "/w" (startingChain tree none) (bottomDocument top).ancestors tree
      visits (.ok (topAncestry top)) final) :
    ((topServer.expand "/w" (bottomDocument top) none).after tree).1 = .ok (topExpansion top) := by
  obtain ⟨-, -, flat⟩ := documents_top.2 top written
  rw [after_expand_of_gathers gathered, Except.map, flat]

theorem expand_top :
    topServer.CopiesApart "/w" (bottomDocument "top.yml") none topFiles ∧
      ((topServer.expand "/w" (bottomDocument "top.yml") none).after topFiles).1 =
        .ok (topExpansion "top.yml") := by
  have files : locate "/w" "middle.yml" = .file "/w/middle.yml" ∧
      locate "/w" "top.yml" = .file "/w/top.yml" := by decide
  have middle := after_load_of_find topServer find_top.1 read_top.2.1
  have top := after_load_of_find topServer (find_top.2.2.1 topFiles (.head _))
    (readFile_of_readRemote read_top.1)
  rw [← files.1] at middle
  rw [← files.2] at top
  have gathered := gathers_bottom (.head _) middle top top fresh_top.1
  refine ⟨⟨_, _, _, gathered, ?_⟩, expand_of_gathers_bottom (.head _) gathered⟩
  simp [Apart, copiesOn, copiesOf, files.1, files.2, Location.Avoids]

theorem expand_topServed :
    topServer.CopiesApart "/w" (bottomDocument "https://host/top.yml") none topFilesServed ∧
      ((topServer.expand "/w" (bottomDocument "https://host/top.yml") none).after
        topFilesServed).1 = .ok (topExpansion "https://host/top.yml") := by
  have file : locate "/w" "middle.yml" = .file "/w/middle.yml" := by decide
  have remote : locate "/w" "https://host/top.yml" = .remote "https://host/top.yml" := by decide
  obtain ⟨-, leads, -, free, taken⟩ := find_top
  have copied := address_top.2.2
  have fetched := fetch_of_serves serves_topServer (by decide)
  have endsFirst : FileTree.EndsAt ["top.yml", "t"] (topFilesServed.find "/t/top.yml") := by
    rw [free]
    exact .free
  have endsSecond : FileTree.EndsAt ["top.yml", "t"] (topCopied.find "/t/top.yml") := by
    rw [taken]
    exact .file _
  have apart : ¬ FileTree.EndsAt ["top.yml", "t"] (topFilesServed.find "/w/middle.yml") := by
    rw [leads]
    intro ends
    exact absurd (ends.unique (.file _)) (by decide)
  have middle := after_load_of_find topServer leads read_top.2.2
  have first : (topServer.load (.remote "https://host/top.yml")).after topFilesServed =
      (_, topCopied) := after_load_of_endsAt copied fetched endsFirst
  have second := after_load_of_endsAt copied fetched endsSecond
  have again : topCopied.setEntry ["top.yml", "t"] (.file (Text.bytesOf "A: 1\n")) = topCopied := by
    simp only [topCopied, FileTree.setEntry, FileTree.setEntryIn_setEntryIn]
  rw [readCopied, read_top.1] at first second
  rw [again] at second
  rw [← file] at middle
  rw [← remote] at first second
  have gathered := gathers_bottom (.tail _ (.head _)) middle first second fresh_top.2
  refine ⟨⟨_, _, _, gathered, ?_⟩, expand_of_gathers_bottom (.tail _ (.head _)) gathered⟩
  have noCopy : topServer.copiesOf topFilesServed (.file "/w/middle.yml") = [] := rfl
  have firstCopy := copiesOf_of_endsAt copied fetched endsFirst
  have secondCopy := copiesOf_of_endsAt copied fetched endsSecond
  simp [Apart, copiesOn, file, remote, noCopy, firstCopy, secondCopy, Location.Avoids, apart]

/-- The names of the ancestors are all that tells the two expansions apart. -/
theorem served_like_file_top :
    topServer.bodyLimit ≠ greatestLimit ∧
      topServer.Serves "https://host/top.yml" (Text.bytesOf "A: 1\n") ∧
      ReadsAlike "/w/top.yml" "https://host/top.yml" "/t/top.yml" (Text.bytesOf "A: 1\n")
        ((topServer.load (.file "/w/top.yml")).after topFiles).1
        ((topServer.load (.remote "https://host/top.yml")).after topFilesServed).1 ∧
      SameButReplaced "/w" topServer topServer topFiles topFilesServed ∧
      topServer.CopiesApart "/w" (bottomDocument "top.yml") none topFiles ∧
      topServer.CopiesApart "/w" (bottomDocument "https://host/top.yml") none topFilesServed ∧
      Mapping.AgreeOff extendsKey (topExpansion "top.yml").document
        (topExpansion "https://host/top.yml").document := by
  have below : topServer.bodyLimit ≠ greatestLimit := by decide
  obtain ⟨loads, expands⟩ := (served_like_file topServer).1 below
  have read := FileTree.read_of_find (find_top.2.2.1 topFiles (.head _))
  have written : topFilesServed.write "/t/top.yml" (Text.bytesOf "A: 1\n") = .ok topCopied := by
    rw [FileTree.write, find_top.2.2.2.1]
    rfl
  have alike := loads topServer _ _ _ _ _ _ _ read serves_topServer address_top.2.2 written
  obtain ⟨apart, expanded⟩ := expand_top
  obtain ⟨apartServed, expandedServed⟩ := expand_topServed
  have agree := expands topServer _ _ _ _ _ _ _ _ _ sameButReplaced_top renamed_top.2 apart
    apartServed expanded expandedServed
  exact ⟨below, serves_topServer, alike, sameButReplaced_top, apart, apartServed, agree⟩

/-- Under the greatest limit a served document is not the one in the file with its bytes. -/
theorem served_unlike_file_at_greatestLimit :
    ¬ ∀ (other loader : Loader) (path text copy : String) (bytes : List UInt8)
        (tree later : FileTree),
      tree.read path = .ok bytes → other.Serves text bytes →
      other.copyPath text = .ok copy → tree.write copy bytes = .ok later →
      ReadsAlike path text copy bytes ((loader.load (.file path)).after tree).1
        ((other.load (.remote text)).after tree).1 := by
  intro alike
  have serves : (topWithin greatestLimit).Serves "https://host/top.yml" (Text.bytesOf "A: 1\n") :=
    serves_top (by decide)
  have found := find_top.2.2.1 topFilesServed (.tail _ (.head _))
  have written : topFilesServed.write "/t/top.yml" (Text.bytesOf "A: 1\n") = .ok topCopied := by
    rw [FileTree.write, find_top.2.2.2.1]
    rfl
  have differ := alike (topWithin greatestLimit) topServer _ _ _ _ _ _
    (FileTree.read_of_find found) serves address_top.2.2 written
  rw [after_load_of_find topServer found (readFile_of_readRemote read_top.1),
    load_of_serves_greatestLimit rfl serves address_top.2.2 written] at differ
  generalize same : (∅ : Document) = empty at differ
  cases differ
  exact absurd same (by decide)

end Loader

end LayeredConfig
