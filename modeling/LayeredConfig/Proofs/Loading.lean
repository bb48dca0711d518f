import LayeredConfig.Extends.Expansion
import LayeredConfig.Proofs.Files.Growth

/-!
# What loading leaves behind

Loading a document lets the tree of files grow, and the identity of the location stays the same
while it is loaded.  Whatever documents are loaded one after the other, each of them stands in a
file of the first tree or is served by the network, so the names in them are known beforehand.
-/

set_option autoImplicit false

namespace LayeredConfig

namespace Loader

variable {loader : Loader} {tree : FileTree} {location : Location}

/-! ## What loading can do -/

/-- Loading leaves the tree as it is or writes the copy of a document that was fetched. -/
theorem tree_of_load (loader : Loader) (location : Location) (tree : FileTree) :
    ((loader.load location).after tree).2 = tree ∨
      ∃ url path bytes, location = .remote url ∧ loader.copyPath url = .ok path ∧
        loader.fetch url = .ok bytes ∧
          tree.write path bytes = .ok ((loader.load location).after tree).2 := by
  cases location with
  | file path =>
      rw [after_load_file, after_loadFile]
      exact .inl rfl
  | remote url =>
      rw [after_load_remote, after_loadRemote]
      cases copied : loader.copyPath url with
      | error error => exact .inl rfl
      | ok path =>
          cases fetched : loader.fetch url with
          | error error => exact .inl rfl
          | ok bytes =>
              cases written : tree.write path bytes with
              | error fault =>
                  left
                  simp only [written]
              | ok later =>
                  simp only [written]
                  exact .inr ⟨url, path, bytes, rfl, copied, fetched, written⟩

theorem source_of_load {loaded : LoadedDocument}
    (load : ((loader.load location).after tree).1 = .ok (some loaded)) :
    (∃ path bytes, location = .file path ∧ tree.isFile path = true ∧
        tree.read path = .ok bytes ∧ readFile path bytes = .ok loaded.document) ∨
      ∃ url bytes, location = .remote url ∧ loader.fetch url = .ok bytes ∧
        readRemote url bytes = .ok loaded.document := by
  cases location with
  | file path =>
      rw [after_load_file, after_loadFile] at load
      by_cases isFile : tree.isFile path = true
      · simp only [isFile, ↓reduceIte] at load
        cases read : tree.read path with
        | error fault => simp [read] at load
        | ok bytes =>
            simp only [read] at load
            cases parsed : readFile path bytes with
            | error error => simp [parsed, Except.map] at load
            | ok document =>
                rw [parsed] at load
                cases load
                exact .inl ⟨path, bytes, rfl, isFile, read, parsed⟩
      · simp [isFile] at load
  | remote url =>
      rw [after_load_remote, after_loadRemote] at load
      cases copied : loader.copyPath url with
      | error error => simp [copied, Except.map] at load
      | ok path =>
          cases fetched : loader.fetch url with
          | error error => simp [copied, fetched, Except.map] at load
          | ok bytes =>
              cases written : tree.write path bytes with
              | error fault => simp [copied, fetched, written, Except.map] at load
              | ok later =>
                  cases parsed : readRemote url bytes with
                  | error error => simp [copied, fetched, written, parsed, Except.map] at load
                  | ok document =>
                      simp only [copied, fetched, written, parsed, Except.map] at load
                      cases load
                      exact .inr ⟨url, bytes, rfl, fetched, parsed⟩

/-! ## Growth -/

theorem growth_load (loader : Loader) (location : Location) (tree : FileTree) :
    tree.Growth ((loader.load location).after tree).2 := by
  rcases loader.tree_of_load location tree with same | ⟨url, path, bytes, -, -, -, written⟩
  · rw [same]
    exact .refl tree
  · exact FileTree.growth_of_write written

theorem growth_of_load {result : Except ConfigError (Option LoadedDocument)} {later : FileTree}
    (load : (loader.load location).after tree = (result, later)) : tree.Growth later := by
  have grown := loader.growth_load location tree
  rwa [load] at grown

theorem identity_load (loader : Loader) (location : Location) (tree : FileTree) :
    location.identity ((loader.load location).after tree).2 = location.identity tree := by
  cases location with
  | file path => rw [after_load_file, after_loadFile]
  | remote url => rfl

theorem settled_of_load {loaded : LoadedDocument}
    (load : ((loader.load location).after tree).1 = .ok (some loaded)) :
    location.Settled tree := by
  rcases source_of_load load with ⟨path, bytes, rfl, isFile, -, -⟩ | ⟨url, bytes, rfl, -, -⟩
  · exact Location.settled_of_isFile isFile
  · exact Location.settled_remote url tree

/-! ## Documents at hand -/

theorem rootDocument_of_ok {place other : String} {root : Value} {document : Document}
    (rooted : rootDocument place root = .ok document) : rootDocument other root = .ok document := by
  cases root <;> first | exact rooted | cases rooted

/-- The location of a text serves for its errors only. -/
theorem parseDocument_of_ok {place other : String} {text : List Char} {document : Document}
    (parsed : parseDocument place text = .ok document) :
    parseDocument other text = .ok document := by
  unfold parseDocument at parsed ⊢
  split_ifs at parsed ⊢ with blank
  · exact parsed
  · cases root : Yaml.parse text with
    | error fault =>
        rw [root] at parsed
        cases parsed
    | ok node =>
        rw [root] at parsed
        exact rootDocument_of_ok parsed

theorem documentIn?_of_readFile {path : String} {bytes : List UInt8} {document : Document}
    (read : readFile path bytes = .ok document) : documentIn? bytes = some document := by
  unfold readFile at read
  cases decoded : Text.decode bytes with
  | error failure =>
      rw [decoded] at read
      cases read
  | ok text =>
      rw [decoded] at read
      simp only [documentIn?, decoded, parseDocument_of_ok read, Except.toOption]

theorem documentIn?_of_readRemote {url : String} {bytes : List UInt8} {document : Document}
    (read : readRemote url bytes = .ok document) : documentIn? bytes = some document := by
  unfold readRemote at read
  cases decoded : Text.decode bytes with
  | error failure =>
      rw [decoded] at read
      cases read
  | ok text =>
      rw [decoded] at read
      simp only [documentIn?, decoded, parseDocument_of_ok read, Except.toOption]

theorem parseDocument_of_documentIn? {place : String} {bytes : List UInt8} {document : Document}
    (held : documentIn? bytes = some document) :
    ∃ text, Text.decode bytes = .ok text ∧ parseDocument place text = .ok document := by
  unfold documentIn? at held
  cases decoded : Text.decode bytes with
  | error failure =>
      rw [decoded] at held
      cases held
  | ok text =>
      rw [decoded] at held
      refine ⟨text, rfl, ?_⟩
      cases parsed : parseDocument "" text with
      | error error =>
          simp [parsed, Except.toOption] at held
      | ok found =>
          simp only [parsed, Except.toOption, Option.some.injEq] at held
          rw [← held]
          exact parseDocument_of_ok parsed

theorem readFile_of_documentIn? {bytes : List UInt8} {document : Document}
    (held : documentIn? bytes = some document) (path : String) :
    readFile path bytes = .ok document := by
  obtain ⟨text, decoded, parsed⟩ := parseDocument_of_documentIn? held
  rw [readFile, decoded]
  exact parsed

theorem readRemote_of_documentIn? {bytes : List UInt8} {document : Document}
    (held : documentIn? bytes = some document) (url : String) :
    readRemote url bytes = .ok document := by
  obtain ⟨text, decoded, parsed⟩ := parseDocument_of_documentIn? held
  rw [readRemote, decoded]
  exact parsed

theorem namesIn_empty : namesIn ∅ = [] := by
  decide

theorem documentIn?_nil : documentIn? [] = some ∅ := by
  decide

/-! ## Bytes at hand -/

theorem mem_answers_of_answerIn {address : String} {answers : List (String × Web.Answer)}
    {response : Web.Response} (found : Web.Network.answerIn address answers = .response response) :
    response = .missing ∨ ∃ other, (other, .response response) ∈ answers := by
  induction answers with
  | nil => exact .inl (Web.Answer.response.inj found).symm
  | cons head rest ih =>
      obtain ⟨other, answer⟩ := head
      simp only [Web.Network.answerIn] at found
      by_cases same : address = other
      · rw [if_pos same] at found
        subst found
        exact .inr ⟨other, List.mem_cons_self ..⟩
      · rw [if_neg same] at found
        rcases ih found with missing | ⟨known, member⟩
        · exact .inl missing
        · exact .inr ⟨known, List.mem_cons_of_mem _ member⟩

theorem served_of_answer {network : Web.Network} {url : Url} {response : Web.Response}
    (found : network.answer url = .response response) :
    response = .missing ∨ response.received ∈ servedBodies network := by
  cases network with
  | unreachable => cases found
  | serving answers =>
      simp only [Web.Network.answer] at found
      split_ifs at found with plain
      rcases mem_answers_of_answerIn found with missing | ⟨other, member⟩
      · exact .inl missing
      · exact .inr (List.mem_filterMap.mpr ⟨_, member, rfl⟩)

theorem served_of_answerWithin {network : Web.Network} {redirects : Nat} {url : Url}
    {response : Web.Response} (found : network.answerWithin redirects url = .response response) :
    response = .missing ∨ response.received ∈ servedBodies network := by
  induction redirects generalizing url with
  | zero =>
      simp only [Web.Network.answerWithin] at found
      cases first : network.answer url with
      | silence =>
          rw [first] at found
          cases found
      | response answered =>
          rw [first] at found
          simp only at found
          split_ifs at found with sent
          obtain rfl := Web.Answer.response.inj found
          exact served_of_answer first
  | succ redirects ih =>
      simp only [Web.Network.answerWithin] at found
      cases first : network.answer url with
      | silence =>
          rw [first] at found
          cases found
      | response answered =>
          rw [first] at found
          simp only at found
          cases sent : answered.redirect? url with
          | none =>
              rw [sent] at found
              obtain rfl := Web.Answer.response.inj found
              exact served_of_answer first
          | some next =>
              rw [sent] at found
              exact ih found

/-- A body under the limit is whole.  At the largest limit nothing is asked for, and nothing
comes. -/
theorem body_of_bodyWithin {response : Web.Response} {limit : UInt64} {bytes : List UInt8}
    (body : response.bodyWithin limit = .ok bytes) : bytes = response.received ∨ bytes = [] := by
  simp only [Web.Response.bodyWithin] at body
  split_ifs at body with short above
  obtain rfl := Except.ok.inj body
  by_cases wraps : Web.readingWindow limit = 0
  · right
    rw [wraps, List.take_zero]
  · left
    apply List.take_of_length_le
    have window : Web.readingWindow limit = limit.toNat + 1 := by
      simp only [Web.readingWindow, UInt64.toNat_add, UInt64.toNat_one] at wraps ⊢
      have := limit.toNat_lt
      omega
    simp only [List.length_take, window] at above ⊢
    omega

theorem served_of_fetch {network : Web.Network} {limit : UInt64} {url : Url} {bytes : List UInt8}
    (fetched : Web.fetch network limit url = .ok bytes) :
    bytes ∈ servedBodies network ∨ bytes = [] := by
  unfold Web.fetch at fetched
  cases final : network.finalAnswer url with
  | silence =>
      rw [final] at fetched
      cases fetched
  | response response =>
      rw [final] at fetched
      simp only [Web.Response.document] at fetched
      split_ifs at fetched with refused
      rcases served_of_answerWithin final with rfl | served
      · exact absurd (by decide) refused
      · have body : response.bodyWithin limit = .ok bytes := by
          split at fetched
          · split_ifs at fetched
            exact fetched
          · exact fetched
        rcases body_of_bodyWithin body with rfl | empty
        · exact .inl served
        · exact .inr empty

theorem mem_entries_of_entryIn {place : Files.Place} {entry : Files.Entry}
    {entries : List (Files.Place × Files.Entry)}
    (found : FileTree.entryIn place entries = some entry) : (place, entry) ∈ entries := by
  induction entries with
  | nil => cases found
  | cons head rest ih =>
      obtain ⟨other, old⟩ := head
      simp only [FileTree.entryIn] at found
      by_cases same : place = other
      · rw [if_pos same] at found
        obtain rfl := Option.some.inj found
        exact same ▸ List.mem_cons_self ..
      · rw [if_neg same] at found
        exact List.mem_cons_of_mem _ (ih found)

theorem mem_storedBodies {tree : FileTree} {bytes : List UInt8} :
    bytes ∈ storedBodies tree ↔ ∃ place, (place, Files.Entry.file bytes) ∈ tree.entries := by
  simp only [storedBodies, List.mem_filterMap]
  constructor
  · rintro ⟨⟨place, entry⟩, member, found⟩
    cases entry with
    | file stored =>
        obtain rfl := Option.some.inj found
        exact ⟨place, member⟩
    | directory => cases found
    | link target => cases found
  · rintro ⟨place, member⟩
    exact ⟨_, member, rfl⟩

theorem stored_of_read {tree : FileTree} {path : String} {bytes : List UInt8}
    (read : tree.read path = .ok bytes) : bytes ∈ storedBodies tree := by
  unfold FileTree.read at read
  split at read
  · cases read
  · cases read
  · rename_i place stored found
    obtain rfl := Except.ok.inj read
    have there : tree.entry? place = some (.file stored) := FileTree.fits_of_find found
    cases place with
    | nil => cases there
    | cons name above => exact mem_storedBodies.mpr ⟨_, mem_entries_of_entryIn there⟩
  · cases read

theorem mem_setEntryIn {place : Files.Place} {entry : Files.Entry}
    {entries : List (Files.Place × Files.Entry)} {pair : Files.Place × Files.Entry}
    (member : pair ∈ FileTree.setEntryIn place entry entries) :
    pair = (place, entry) ∨ pair ∈ entries := by
  induction entries with
  | nil => exact .inl (List.mem_singleton.mp member)
  | cons head rest ih =>
      obtain ⟨other, old⟩ := head
      simp only [FileTree.setEntryIn] at member
      by_cases same : place = other
      · rw [if_pos same] at member
        rcases List.mem_cons.mp member with rfl | later
        · exact .inl rfl
        · exact .inr (List.mem_cons_of_mem _ later)
      · rw [if_neg same] at member
        rcases List.mem_cons.mp member with rfl | later
        · exact .inr (List.mem_cons_self ..)
        · rcases ih later with new | kept
          · exact .inl new
          · exact .inr (List.mem_cons_of_mem _ kept)

theorem stored_of_write {tree later : FileTree} {path : String} {bytes body : List UInt8}
    (written : tree.write path bytes = .ok later) (stored : body ∈ storedBodies later) :
    body = bytes ∨ body ∈ storedBodies tree := by
  obtain ⟨place, below, rfl, free⟩ := FileTree.write_eq_setEntry written
  obtain ⟨other, member⟩ := mem_storedBodies.mp stored
  rcases mem_setEntryIn member with same | kept
  · cases same
    exact .inl rfl
  · exact .inr (mem_storedBodies.mpr ⟨other, kept⟩)

/-! ## Names known beforehand -/

/-- Every name in a document that can be loaded is among given names. -/
structure Covers (loader : Loader) (written : List String) (tree : FileTree) : Prop where
  stored : ∀ bytes ∈ storedBodies tree, ∀ document, documentIn? bytes = some document →
    namesIn document ⊆ written
  served : ∀ bytes ∈ servedBodies loader.network, ∀ document, documentIn? bytes = some document →
    namesIn document ⊆ written

theorem covers_writtenNames (loader : Loader) (tree : FileTree) (document : Document) :
    loader.Covers (loader.writtenNames tree document) tree := by
  have known : ∀ bytes ∈ storedBodies tree ++ servedBodies loader.network,
      ∀ other, documentIn? bytes = some other →
        namesIn other ⊆ loader.writtenNames tree document := by
    intro bytes member other found name named
    exact List.mem_flatMap.mpr
      ⟨other, List.mem_cons_of_mem _ (List.mem_filterMap.mpr ⟨bytes, member, found⟩), named⟩
  exact ⟨fun bytes stored => known bytes (List.mem_append_left _ stored),
    fun bytes served => known bytes (List.mem_append_right _ served)⟩

theorem Covers.fetched {written : List String} (covers : loader.Covers written tree) {url : String}
    {bytes : List UInt8} (fetched : loader.fetch url = .ok bytes) {document : Document}
    (found : documentIn? bytes = some document) : namesIn document ⊆ written := by
  unfold fetch at fetched
  split at fetched
  · cases fetched
  · split at fetched
    · rename_i answered
      obtain rfl := Except.ok.inj fetched
      rcases served_of_fetch answered with served | rfl
      · exact covers.served _ served document found
      · rw [documentIn?_nil] at found
        obtain rfl := Option.some.inj found
        rw [namesIn_empty]
        exact List.nil_subset written
    · cases fetched

theorem Covers.after_load {written : List String} (covers : loader.Covers written tree)
    {result : Except ConfigError (Option LoadedDocument)} {later : FileTree}
    (load : (loader.load location).after tree = (result, later)) : loader.Covers written later := by
  have left := loader.tree_of_load location tree
  rw [load] at left
  rcases left with rfl | ⟨url, path, bytes, -, -, fetched, saved⟩
  · exact covers
  · refine ⟨?_, covers.served⟩
    intro body stored document found
    rcases stored_of_write saved stored with rfl | old
    · exact covers.fetched fetched found
    · exact covers.stored body old document found

theorem Covers.names {written : List String} (covers : loader.Covers written tree)
    {loaded : LoadedDocument} (load : ((loader.load location).after tree).1 = .ok (some loaded)) :
    namesIn loaded.document ⊆ written := by
  rcases source_of_load load with
    ⟨path, bytes, -, -, read, parsed⟩ | ⟨url, bytes, -, fetched, parsed⟩
  · exact covers.stored bytes (stored_of_read read) _ (documentIn?_of_readFile parsed)
  · exact covers.fetched fetched (documentIn?_of_readRemote parsed)

end Loader

end LayeredConfig
