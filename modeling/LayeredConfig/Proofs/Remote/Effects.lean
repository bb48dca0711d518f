import LayeredConfig.Proofs.Files.OneFile
import LayeredConfig.Proofs.Loading
import LayeredConfig.Proofs.Web.BodyLimit

/-!
# The effects of loading a remote document

A remote document is fetched, its copy is written, and then it is read.  Whatever fails before the
copy is written leaves the tree of files as it is.  Once the copy is written it stays, be the bytes
a document or not; it is in one file, and no other file changes.  The document comes from the bytes
alone, so neither an earlier copy nor the copies of other documents in the same file are to be seen
in it.
-/

set_option autoImplicit false

namespace LayeredConfig

open Files

open FileTree

namespace Loader

/-- What loading a remote document comes to once its copy is written: what is read in the bytes. -/
def readCopied (text path : String) (bytes : List UInt8) :
    Except ConfigError (Option LoadedDocument) :=
  (readRemote text bytes).map fun document => some ⟨path, document⟩

variable {loader : Loader} {text : String} {url : Url} {tree : FileTree}

/-! ## The steps of loading -/

theorem copyPath_of_parse (loader : Loader) (parsed : Url.parse text = .ok url) :
    loader.copyPath text = .ok (joinPath loader.temporary (copyName url)) := by
  rw [copyPath, address, parsed]
  rfl

theorem fetch_of_parse (parsed : Url.parse text = .ok url) :
    loader.fetch text = (Web.fetch loader.network loader.bodyLimit url).mapError (.ofWeb text) := by
  rw [fetch, address, parsed]
  simp only
  cases Web.fetch loader.network loader.bodyLimit url <;> rfl

theorem after_load_of_invalid {fault : Url.Fault} (invalid : Url.parse text = .error fault)
    (tree : FileTree) :
    (loader.load (.remote text)).after tree = (.error (.fetch text (.invalidUrl fault)), tree) := by
  have refused : loader.copyPath text = .error (.fetch text (.invalidUrl fault)) := by
    rw [copyPath, address, invalid]
    rfl
  rw [after_load_remote, after_loadRemote, refused]
  rfl

theorem after_load_of_not_fetched {fault : Web.Fault} (parsed : Url.parse text = .ok url)
    (failed : Web.fetch loader.network loader.bodyLimit url = .error fault) (tree : FileTree) :
    (loader.load (.remote text)).after tree = (.error (.ofWeb text fault), tree) := by
  rw [after_load_remote, after_loadRemote, copyPath_of_parse loader parsed, fetch_of_parse parsed,
    failed]
  rfl

section Fetched

variable {path : String} {bytes : List UInt8} (copied : loader.copyPath text = .ok path)
  (fetched : loader.fetch text = .ok bytes)

include copied fetched

theorem after_load_of_not_written {fault : Files.Fault}
    (failed : tree.write path bytes = .error fault) :
    (loader.load (.remote text)).after tree = (.error (.file fault), tree) := by
  rw [after_load_remote, after_loadRemote, copied, fetched]
  simp only [failed]
  rfl

theorem after_load_of_endsAt {place : Place} (ends : EndsAt place (tree.find path)) :
    (loader.load (.remote text)).after tree =
      (readCopied text path bytes, tree.setEntry place (.file bytes)) := by
  rw [after_load_remote, after_loadRemote, copied, fetched]
  simp only [write_of_endsAt ends bytes]
  rw [readCopied]
  cases readRemote text bytes <;> rfl

end Fetched

/-! ## Other documents loaded before -/

/-- The tree after some remote documents were loaded, one after the other. -/
def afterLoads (loader : Loader) (texts : List String) (tree : FileTree) : FileTree :=
  texts.foldl (fun tree text => ((loader.load (.remote text)).after tree).2) tree

theorem endsAt_after_load (location : Location) {path : String} {place : Place}
    (ends : EndsAt place (tree.find path)) :
    EndsAt place (((loader.load location).after tree).2.find path) := by
  rcases loader.tree_of_load location tree with same | ⟨-, other, bytes, -, -, -, written⟩
  · rw [same]
    exact ends
  · exact endsAt_later written ends

theorem endsAt_afterLoads (loader : Loader) (texts : List String) {path : String} {place : Place}
    (ends : EndsAt place (tree.find path)) :
    EndsAt place ((loader.afterLoads texts tree).find path) := by
  induction texts generalizing tree with
  | nil => exact ends
  | cons text texts ih => exact ih (endsAt_after_load (.remote text) ends)

/-- A load that fails before its copy is written changes nothing.  Once it is written the copy has
the bytes and no other file changes, and what comes out is what is read in the bytes: it is the
same over every earlier copy and after whatever other documents were loaded. -/
theorem effects_of_remote_load (loader : Loader) (text : String) (tree : FileTree) :
    (∀ fault, Url.parse text = .error fault →
      (loader.load (.remote text)).after tree = (.error (.fetch text (.invalidUrl fault)), tree)) ∧
    ∀ url path, Url.parse text = .ok url → path = joinPath loader.temporary (copyName url) →
      loader.copyPath text = .ok path ∧
      (∀ fault, Web.fetch loader.network loader.bodyLimit url = .error fault →
        (loader.load (.remote text)).after tree = (.error (.ofWeb text fault), tree)) ∧
      ∀ bytes, Web.fetch loader.network loader.bodyLimit url = .ok bytes →
        (∀ fault, tree.write path bytes = .error fault →
          (loader.load (.remote text)).after tree = (.error (.file fault), tree)) ∧
        ∀ later, tree.write path bytes = .ok later →
          (loader.load (.remote text)).after tree = (readCopied text path bytes, later) ∧
          (∃ place, EndsAt place (tree.find path) ∧ Replaced place bytes tree later) ∧
          (∀ old before, tree.write path old = .ok before →
            (loader.load (.remote text)).after before = (readCopied text path bytes, later)) ∧
          ∀ others, ∃ last,
            (loader.load (.remote text)).after (loader.afterLoads others tree) =
              (readCopied text path bytes, last) ∧ last.read path = .ok bytes := by
  refine ⟨fun fault invalid => after_load_of_invalid invalid tree, fun url path parsed same => ?_⟩
  have copied : loader.copyPath text = .ok path := by
    rw [same]
    exact copyPath_of_parse loader parsed
  refine ⟨copied, fun fault failed => after_load_of_not_fetched parsed failed tree, ?_⟩
  intro bytes arrived
  have fetched : loader.fetch text = .ok bytes := by
    rw [fetch_of_parse parsed, arrived]
    rfl
  refine ⟨fun fault failed => after_load_of_not_written copied fetched failed, ?_⟩
  intro later written
  obtain ⟨place, ends, rfl⟩ := endsAt_of_write written
  refine ⟨after_load_of_endsAt copied fetched ends, ⟨place, ends, replaced_of_endsAt ends bytes⟩,
    ?_, ?_⟩
  · intro old before writtenBefore
    have endsBefore := endsAt_later writtenBefore ends
    obtain ⟨another, endsOld, rfl⟩ := endsAt_of_write writtenBefore
    obtain rfl := ends.unique endsOld
    rw [after_load_of_endsAt copied fetched endsBefore]
    simp only [setEntry, setEntryIn_setEntryIn]
  · intro others
    have endsLast := endsAt_afterLoads loader others ends
    have replaced := replaced_of_endsAt endsLast bytes
    exact ⟨_, after_load_of_endsAt copied fetched endsLast, (replaced.held path endsLast).2⟩

/-- The path of the copy is a link to a file with two names. -/
def linkedCopyFiles : FileTree where
  entries :=
    [(["t"], .directory),
      (["old.yml", "t"], .link "../kept/b.yml"),
      (["kept"], .directory),
      (["a.yml", "kept"], .link "b.yml"),
      (["b.yml", "kept"], .file (Text.bytesOf "B: 2"))]
  current := []

theorem effects_of_remote_load_redirecting :
    ∃ later,
      Url.parse "https://host/old.yml" = .ok (redirectingUrl "old.yml") ∧
      Web.fetch (redirecting 4).network 4 (redirectingUrl "old.yml") = .ok fourBytes.body ∧
      linkedCopyFiles.write "/t/old.yml" fourBytes.body = .ok later ∧
      ((redirecting 4).load (.remote "https://host/old.yml")).after linkedCopyFiles =
        (.ok (some ⟨"/t/old.yml", Mapping.ofList [("A", .integer 1)]⟩), later) ∧
      ∃ place, EndsAt place (linkedCopyFiles.find "/t/old.yml") ∧
        Replaced place fourBytes.body linkedCopyFiles later := by
  have fetched : Web.fetch (redirecting 4).network 4 (redirectingUrl "old.yml") =
      .ok fourBytes.body := by decide +kernel
  have path : "/t/old.yml" = joinPath (redirecting 4).temporary
      (copyName (redirectingUrl "old.yml")) := by decide +kernel
  have read : readCopied "https://host/old.yml" "/t/old.yml" fourBytes.body =
      .ok (some ⟨"/t/old.yml", Mapping.ofList [("A", .integer 1)]⟩) := by decide +kernel
  have found : linkedCopyFiles.find "/t/old.yml" =
      .ok (.taken ["b.yml", "kept"] (.file (Text.bytesOf "B: 2"))) := by decide +kernel
  have ends : EndsAt ["b.yml", "kept"] (linkedCopyFiles.find "/t/old.yml") := by
    rw [found]
    exact .file _
  have written := write_of_endsAt ends fourBytes.body
  obtain ⟨-, -, effects⟩ := (effects_of_remote_load (redirecting 4) "https://host/old.yml"
    linkedCopyFiles).2 (redirectingUrl "old.yml") "/t/old.yml" parse_redirecting path
  obtain ⟨loaded, replaced, -⟩ := (effects fourBytes.body fetched).2 _ written
  rw [read] at loaded
  exact ⟨_, parse_redirecting, fetched, written, loaded, replaced⟩

end Loader

end LayeredConfig
