import LayeredConfig.Proofs.Remote.Effects
import LayeredConfig.Proofs.Yaml.Conversion

/-!
# The same bytes in a file and at an address

A document that is served comes to the same as the file with the same bytes, and is refused for the
same fault.  Only bytes that are no text are refused in two ways: on this machine the file cannot be
read, at an address the document is malformed.  Under the greatest limit on bodies a served document
is an empty one, whatever its bytes are.
-/

set_option autoImplicit false

namespace LayeredConfig

open Files Web

/-- What comes of a file and of an address with the same bytes. -/
inductive ReadsAlike (path url copy : String) (bytes : List UInt8) :
    Except ConfigError (Option LoadedDocument) → Except ConfigError (Option LoadedDocument) →
      Prop where
  | document {text : List Char} (decoded : Text.decode bytes = .ok text) (document : Document) :
      ReadsAlike path url copy bytes (.ok (some ⟨path, document⟩)) (.ok (some ⟨copy, document⟩))
  | malformed {text : List Char} (decoded : Text.decode bytes = .ok text) (fault : DocumentFault) :
      ReadsAlike path url copy bytes (.error (.parse path fault)) (.error (.parse url fault))
  | undecoded {failure : Text.Utf8Failure} (refused : Text.decode bytes = .error failure) :
      ReadsAlike path url copy bytes (.error (.file .notUtf8))
        (.error (.parse url (.notUtf8 failure)))

theorem rootDocument_total (root : Value) :
    (∃ document, ∀ location, rootDocument location root = .ok document) ∨
      ∃ fault, ∀ location, rootDocument location root = .error (.parse location fault) := by
  cases root with
  | map entries => exact .inl ⟨Mapping.ofList entries, fun location => rfl⟩
  | null => exact .inl ⟨∅, fun location => rfl⟩
  | _ => exact .inr ⟨.notAMapping, fun location => rfl⟩

/-- A text is a document wherever it is, or has one fault wherever it is. -/
theorem parseDocument_total (text : List Char) :
    (∃ document, ∀ location, parseDocument location text = .ok document) ∨
      ∃ fault, ∀ location, parseDocument location text = .error (.parse location fault) := by
  by_cases blank : ∀ c ∈ text, Text.isBlank c = true
  · exact .inl ⟨∅, fun location => parseDocument_of_blank blank⟩
  · cases parsed : Yaml.parse text with
    | error fault => exact .inr ⟨.yaml fault, fun location => parseDocument_of_fault blank parsed⟩
    | ok node =>
        simp only [parseDocument_of_node blank parsed]
        exact rootDocument_total node.toValue

namespace Loader

variable {loader : Loader} {text path copy : String} {bytes : List UInt8} {tree : FileTree}

theorem readsAlike (path url copy : String) (bytes : List UInt8) :
    ReadsAlike path url copy bytes
      ((readFile path bytes).map fun document => some ⟨path, document⟩)
      (readCopied url copy bytes) := by
  rw [readCopied, readFile, readRemote]
  cases decoded : Text.decode bytes with
  | error failure => exact .undecoded decoded
  | ok content =>
      rcases parseDocument_total content with ⟨document, parsed⟩ | ⟨fault, refused⟩
      · simp only [parsed]
        exact .document decoded document
      · simp only [refused]
        exact .malformed decoded fault

theorem after_load_of_isFile (loader : Loader) (isFile : tree.isFile path = true)
    (read : tree.read path = .ok bytes) :
    (loader.load (.file path)).after tree =
      ((readFile path bytes).map fun document => some ⟨path, document⟩, tree) := by
  rw [after_load_file, after_loadFile, if_pos isFile, read]

theorem after_load_of_find (loader : Loader) {place : Place} {document : Document}
    (found : tree.find path = .ok (.taken place (.file bytes)))
    (parsed : readFile path bytes = .ok document) :
    (loader.load (.file path)).after tree = (.ok (some ⟨path, document⟩), tree) := by
  have read := FileTree.read_of_find found
  rw [after_load_of_isFile loader (FileTree.isFile_of_read read) read, parsed]
  rfl

/-! ## Served documents -/

/-- The server at an address answers with some bytes, which arrive whole and are within the
limit. -/
def Serves (loader : Loader) (text : String) (bytes : List UInt8) : Prop :=
  ∃ url redirects response,
    Url.parse text = .ok url ∧ redirects ≤ Network.maxRedirects ∧
      loader.network.Settles redirects url response ∧ response.status = statusOk ∧
      ¬ response.Exceeds loader.bodyLimit.toNat ∧ response.isCutShort = false ∧
      response.received = bytes

theorem fetch_of_serves (serves : loader.Serves text bytes)
    (below : loader.bodyLimit ≠ greatestLimit) : loader.fetch text = .ok bytes := by
  obtain ⟨url, redirects, response, parsed, few, settles, fine, within, whole, rfl⟩ := serves
  have verdict := response.verdict_of_ne below
  rw [fetch_of_settles parsed few settles]
  generalize response.document loader.bodyLimit = result at verdict
  cases verdict with
  | whole => rfl
  | cutShort _ _ cut =>
      rw [whole] at cut
      cases cut
  | refused refusal unfit => exact (unfit.elim (fun other => other fine) within).elim

theorem fetch_of_serves_greatestLimit (serves : loader.Serves text bytes)
    (greatest : loader.bodyLimit = greatestLimit) : loader.fetch text = .ok [] := by
  obtain ⟨url, redirects, response, parsed, few, settles, fine, within, -, -⟩ := serves
  have told : ∀ told, response.tellsLength? = some told → told ≤ loader.bodyLimit.toNat :=
    fun told tells => Nat.not_lt.mp fun longer => within (.inl ⟨told, tells, longer⟩)
  rw [fetch_of_settles parsed few settles, Response.document_of_not_told fine told, greatest,
    Response.bodyWithin_greatestLimit]
  rfl

theorem readCopied_nil (url copy : String) : readCopied url copy [] = .ok (some ⟨copy, ∅⟩) := rfl

theorem load_of_serves_greatestLimit {later : FileTree}
    (greatest : loader.bodyLimit = greatestLimit)
    (serves : loader.Serves text bytes) (copied : loader.copyPath text = .ok copy)
    (written : tree.write copy bytes = .ok later) :
    ((loader.load (.remote text)).after tree).1 = .ok (some ⟨copy, ∅⟩) := by
  obtain ⟨place, ends, -⟩ := FileTree.endsAt_of_write written
  rw [after_load_of_endsAt copied (fetch_of_serves_greatestLimit serves greatest) ends,
    readCopied_nil]

end Loader

end LayeredConfig
