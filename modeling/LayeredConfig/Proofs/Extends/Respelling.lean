import LayeredConfig.Proofs.Extends.Spelling
import LayeredConfig.Proofs.Files.OtherBytes

/-!
# Expansion of respelled documents

Whether ancestors are written as a list or as a text with commas makes no difference to an
expansion, neither in the document that is expanded nor in any document that it comes to, in a file
or from the network.  The same documents are loaded in the same order, the same error ends the
expansion or none, and what it comes to is the same but for the names of the ancestors under their
key.
-/

set_option autoImplicit false

namespace LayeredConfig

/-! ## The same documents in another spelling -/

/-- The same bytes, or those of two documents that are the same but for the spelling of their
ancestors. -/
def BytesRespelled (bytes other : List UInt8) : Prop :=
  bytes = other ∨ ∃ document documentOther, Loader.documentIn? bytes = some document ∧
    Loader.documentIn? other = some documentOther ∧ document.Respelled documentOther

structure LoadedDocument.Respelled (first second : LoadedDocument) : Prop where
  path : first.path = second.path
  document : first.document.Respelled second.document

/-- Two loaders that fetch the same documents, but for the spelling of ancestors. -/
structure Loader.Respelled (first second : Loader) : Prop where
  temporary : first.temporary = second.temporary
  fetched : ∀ text, AlikeResults BytesRespelled (first.fetch text) (second.fetch text)

/-- Two trees with the same documents in the same files, but for the spelling of ancestors. -/
abbrev FileTree.Respelled (first second : FileTree) : Prop :=
  first.Related BytesRespelled second

theorem Loader.Respelled.refl (loader : Loader) : loader.Respelled loader := by
  refine ⟨rfl, fun text => ?_⟩
  cases loader.fetch text with
  | error error => exact .failure error
  | ok bytes => exact .success (.inl rfl)

namespace Loader

/-- A reader that gives the document wherever there is one gives respelled documents for respelled
bytes, or the same error. -/
theorem respelled_of_reads {read : List UInt8 → Except ConfigError Document}
    (reads : ∀ bytes document, documentIn? bytes = some document → read bytes = .ok document)
    {bytes other : List UInt8} (respelled : BytesRespelled bytes other) :
    AlikeResults Document.Respelled (read bytes) (read other) := by
  rcases respelled with rfl | ⟨document, documentOther, held, heldToo, respelled⟩
  · cases read bytes with
    | error error => exact .failure error
    | ok document => exact .success (.refl document)
  · rw [reads _ _ held, reads _ _ heldToo]
    exact .success respelled

variable {loader otherLoader : Loader} {base : String} {tree other : FileTree}

theorem Respelled.copyPath_eq (respelled : loader.Respelled otherLoader) (text : String) :
    otherLoader.copyPath text = loader.copyPath text := by
  rw [copyPath, copyPath, respelled.temporary]

/-- Every location yields the same document in both trees, but for the spelling. -/
theorem after_load_of_respelled (respelled : loader.Respelled otherLoader)
    (alike : tree.Respelled other) (location : Location) :
    ∃ one two later last,
      (loader.load location).after tree = (one, later) ∧
      (otherLoader.load location).after other = (two, last) ∧
      AlikeResults (Option.Rel LoadedDocument.Respelled) one two ∧ later.Respelled last := by
  cases location with
  | file path =>
      rw [after_load_file, after_load_file, after_loadFile, after_loadFile, alike.isFile_eq]
      refine ⟨_, _, tree, other, rfl, rfl, ?_, alike⟩
      split_ifs
      · rcases alike.read path with
          ⟨fault, failed, failedToo⟩ | ⟨bytes, bytesOther, held, heldToo, same⟩
        · rw [failed, failedToo]
          exact .failure _
        · rw [held, heldToo]
          have read := respelled_of_reads (fun _ _ held => readFile_of_documentIn? held path) same
          exact read.map _ _ fun respelled => .some ⟨rfl, respelled⟩
      · exact .success .none
  | remote url =>
      rw [after_load_remote, after_load_remote, after_loadRemote, after_loadRemote,
        respelled.copyPath_eq]
      cases loader.copyPath url with
      | error error => exact ⟨_, _, tree, other, rfl, rfl, .failure error, alike⟩
      | ok path =>
          have fetched := respelled.fetched url
          generalize loader.fetch url = answer at fetched ⊢
          generalize otherLoader.fetch url = answerOther at fetched ⊢
          cases fetched with
          | failure error => exact ⟨_, _, tree, other, rfl, rfl, .failure error, alike⟩
          | @success bytes bytesOther same =>
              have read := respelled_of_reads
                (fun _ _ held => readRemote_of_documentIn? held url) same
              rcases alike.write path same with
                ⟨fault, failed, failedToo⟩ | ⟨later, last, written, writtenToo, alikeLater⟩
              · simp only [failed, failedToo]
                exact ⟨_, _, tree, other, rfl, rfl, .failure _, alike⟩
              · simp only [written, writtenToo]
                have loaded : AlikeResults LoadedDocument.Respelled _ _ :=
                  read.map (⟨path, ·⟩) (⟨path, ·⟩) fun respelled => ⟨rfl, respelled⟩
                exact ⟨_, _, later, last, rfl, rfl, loaded.map _ _ .some, alikeLater⟩

end Loader

/-! ## The same ancestors -/

/-- Ancestors with the same names, in documents that are the same but for the spelling. -/
inductive Ancestry.Respelled : Ancestry → Ancestry → Prop where
  | empty : Ancestry.Respelled .empty .empty
  | ancestor (name : String) {document other : Document}
      {above aboveOther others othersOther : Ancestry} (respelled : document.Respelled other)
      (inner : Ancestry.Respelled above aboveOther)
      (rest : Ancestry.Respelled others othersOther) :
      Ancestry.Respelled (.ancestor name document above others)
        (.ancestor name other aboveOther othersOther)

namespace Ancestry.Respelled

variable {first second : Ancestry}

theorem names_eq (respelled : first.Respelled second) : first.names = second.names := by
  induction respelled with
  | empty => rfl
  | ancestor name respelled inner rest ihInner ihRest => rw [names, names, ihInner, ihRest]

theorem flat (respelled : first.Respelled second) :
    Mapping.AgreeOff extendsKey first.flat second.flat := by
  induction respelled with
  | empty => exact .refl extendsKey _
  | ancestor name respelled inner rest ihInner ihRest =>
      exact (ihInner.merge respelled.agree).merge ihRest

theorem expansion (respelled : first.Respelled second) {document other : Document}
    (respelledToo : document.Respelled other) (below : Document) :
    (first.expansion below document).AgreeOff extendsKey (second.expansion below other) :=
  ⟨(Mapping.AgreeOff.refl extendsKey below).merge (respelled.flat.merge respelledToo.agree),
    respelled.names_eq⟩

end Ancestry.Respelled

namespace Loader

variable {loader otherLoader : Loader} {base : String} {tree other : FileTree}

/-- What is gathered in one spelling is gathered in the other. -/
theorem gathers_of_respelled (respelled : loader.Respelled otherLoader) {chain : List String}
    {declared : Except ConfigError (List String)} {final : FileTree} {visits : List Visit}
    {outcome : Except ConfigError Ancestry}
    (gathered : loader.Gathers base chain declared tree visits outcome final)
    (alike : tree.Respelled other) :
    ∃ visitsOther outcomeOther last,
      otherLoader.Gathers base chain declared other visitsOther outcomeOther last ∧
      AlikeResults Ancestry.Respelled outcome outcomeOther ∧ final.Respelled last := by
  -- By induction on the gathering: a document that is loaded declares the same names in either
  -- spelling, so its ancestors are gathered under the same chain.
  induction gathered generalizing other with
  | malformed chain error tree =>
    exact ⟨_, _, _, .malformed chain error other, .failure error, alike⟩
  | empty chain tree => exact ⟨_, _, _, .empty chain other, .success .empty, alike⟩
  | cyclic known =>
      rw [← alike.identity_eq] at known ⊢
      exact ⟨_, _, _, .cyclic known, .failure _, alike⟩
  | refused fresh load =>
      obtain ⟨one, two, later, last, loaded, loadedToo, results, alikeLater⟩ :=
        after_load_of_respelled respelled alike (locate base _)
      rw [load] at loaded
      cases loaded
      cases results
      rw [← alike.identity_eq] at fresh
      exact ⟨_, _, _, .refused fresh loadedToo, .failure _, alikeLater⟩
  | missing fresh load =>
      obtain ⟨one, two, later, last, loaded, loadedToo, results, alikeLater⟩ :=
        after_load_of_respelled respelled alike (locate base _)
      rw [load] at loaded
      cases loaded
      obtain ⟨-⟩ | ⟨⟨⟩⟩ := results
      rw [← alike.identity_eq] at fresh
      exact ⟨_, _, _, .missing fresh loadedToo, .failure _, alikeLater⟩
  | above fresh load inner ih =>
      obtain ⟨one, two, later, last, loaded, loadedToo, results, alikeLater⟩ :=
        after_load_of_respelled respelled alike (locate base _)
      rw [load] at loaded
      cases loaded
      obtain ⟨-⟩ | ⟨⟨parents⟩⟩ := results
      obtain ⟨visitsInner, outcomeInner, lastInner, gatheredInner, failed, alikeInner⟩ :=
        ih alikeLater
      cases failed
      rw [parents.document.ancestors_eq] at gatheredInner
      rw [← alike.identity_eq] at fresh gatheredInner
      exact ⟨_, _, _, .above fresh loadedToo gatheredInner, .failure _, alikeInner⟩
  | ancestor fresh load inner rest ihInner ihRest =>
      obtain ⟨one, two, later, last, loaded, loadedToo, results, alikeLater⟩ :=
        after_load_of_respelled respelled alike (locate base _)
      rw [load] at loaded
      cases loaded
      obtain ⟨-⟩ | ⟨⟨parents⟩⟩ := results
      obtain ⟨visitsInner, outcomeInner, lastInner, gatheredInner, above, alikeInner⟩ :=
        ihInner alikeLater
      obtain ⟨visitsRest, outcomeRest, lastRest, gatheredRest, beside, alikeRest⟩ :=
        ihRest alikeInner
      cases above with
      | success above =>
          rw [parents.document.ancestors_eq] at gatheredInner
          rw [← alike.identity_eq] at fresh gatheredInner
          refine ⟨_, _, _, .ancestor fresh loadedToo gatheredInner gatheredRest, ?_, alikeRest⟩
          cases beside with
          | failure error => exact .failure error
          | success beside => exact .success (.ancestor _ parents.document above beside)

theorem startingChain_eq_of_respelled (alike : tree.Respelled other) (origin : Option Location) :
    startingChain other origin = startingChain tree origin := by
  cases origin with
  | none => rw [startingChain, startingChain, Option.map_none, Option.map_none]
  | some location =>
      rw [startingChain, startingChain, Option.map_some, Option.map_some, alike.identity_eq]

theorem after_expand_of_respelled (respelled : loader.Respelled otherLoader)
    (alike : tree.Respelled other) {document documentOther : Document}
    (spelled : document.Respelled documentOther) (origin : Option Location) :
    ∃ one two later last,
      (loader.expand base document origin).after tree = (one, later) ∧
      (otherLoader.expand base documentOther origin).after other = (two, last) ∧
      AlikeResults (Expansion.AgreeOff extendsKey) one two ∧ later.Respelled last := by
  obtain ⟨visits, outcome, final, gathered⟩ :=
    loader.exists_gathers_of_document base document origin tree
  obtain ⟨visitsOther, outcomeOther, last, gatheredToo, outcomes, alikeFinal⟩ :=
    gathers_of_respelled respelled gathered alike
  rw [spelled.ancestors_eq, ← startingChain_eq_of_respelled alike] at gatheredToo
  refine ⟨_, _, _, _, after_expand_of_gathers gathered, after_expand_of_gathers gatheredToo, ?_,
    alikeFinal⟩
  cases outcomes with
  | failure error => exact .failure error
  | success ancestries => exact .success (ancestries.expansion spelled ∅)

/-- A text with commas names the ancestors of a list, trimmed and in the same order, but for those
that are blank.  No name has a blank at its ends, none in a text is empty, and a list is refused for
its first item that is no text and for nothing else.  Where no name is blank, both spellings expand
alike, and so does whatever is loaded on the way in either spelling. -/
theorem expansion_in_two_spellings :
    (∀ (document : Document) (names : List String), (∀ name ∈ names, ',' ∉ name.toList) →
      ∃ listed shown : List String,
        (document.extending (.list (names.map .text))).ancestors = .ok listed ∧
        (document.extending (.text (Text.joinTexts ',' names))).ancestors = .ok shown ∧
        shown = (listed.filter fun name => !name.isEmpty) ∧
        List.Forall₂ (fun name item => Text.Trims name.toList item.toList) names listed ∧
        List.Forall₂ (fun name item => Text.Trims name.toList item.toList)
          (names.filter fun name => !name.toList.all Text.isBlank) shown) ∧
    (∀ (document : Document) names, document.ancestors = .ok names →
      ∀ name ∈ names, Text.Bare name.toList) ∧
    (∀ (document : Document) text, document.get? extendsKey = some (.text text) →
      ∃ names, document.ancestors = .ok names ∧ "" ∉ names) ∧
    (∀ (document : Document) items error, document.get? extendsKey = some (.list items) →
      (document.ancestors = .error error ↔
        ∃ (names : List String) (item : Value) (rest : List Value),
          items = names.map .text ++ item :: rest ∧ (∀ name, item ≠ .text name) ∧
            error = .parse extendsKey (.ancestorItem item))) ∧
    (∀ (loader : Loader) base (document : Document) names origin tree, Nameable names →
      ∃ one two final,
        (loader.expand base (document.extending (.text (Text.joinTexts ',' names)))
          origin).after tree = (one, final) ∧
        (loader.expand base (document.extending (.list (names.map .text)))
          origin).after tree = (two, final) ∧
        AlikeResults (Expansion.AgreeOff extendsKey) one two) ∧
    ∀ (loader otherLoader : Loader) base (document other : Document) origin
      (tree otherTree : FileTree), loader.Respelled otherLoader → tree.Respelled otherTree →
      document.Respelled other →
        ∃ one two final otherFinal,
          (loader.expand base document origin).after tree = (one, final) ∧
          (otherLoader.expand base other origin).after otherTree = (two, otherFinal) ∧
          AlikeResults (Expansion.AgreeOff extendsKey) one two ∧ final.Respelled otherFinal := by
  refine ⟨?_, ?_, ?_, ?_, ?_, ?_⟩
  · intro document names bare
    refine ⟨names.map Text.trimmed, _, ?_, ?_, rfl, forall₂_trimmed names, ?_⟩
    · rw [Document.ancestors_of_list (document.get?_extending _), ancestorsInList_texts]
    · rw [Document.ancestors_of_text (document.get?_extending _), ancestorsInText_joinTexts bare]
    · rw [filter_map_trimmed]
      exact forall₂_trimmed _
  · intro document names named
    exact Document.bare_of_ancestors named
  · intro document text found
    exact ⟨_, Document.ancestors_of_text found, empty_not_mem_ancestorsInText text⟩
  · intro document items error found
    rw [Document.ancestors_of_list found]
    exact ancestorsInList_eq_error_iff
  · intro loader base document names origin tree nameable
    have respelled := document.respelled_extending nameable .commas .list
    exact after_expand_of_ancestors_eq respelled.agree respelled.ancestors_eq loader base origin
      tree
  · intro loader otherLoader base document other origin tree otherTree loaders trees documents
    exact after_expand_of_respelled loaders trees documents origin

/-! ## A diamond in the other spelling -/

/-- The files of the diamond, where the left one has a list of ancestors. -/
def listedFiles : FileTree where
  entries :=
    [(["w"], .directory),
      (["left.yml", "w"], .file (Text.bytesOf "EXTENDS: [top.yml]\nA: left\n")),
      (["right.yml", "w"], .file (Text.bytesOf "EXTENDS: top.yml\nB: right\n")),
      (["top.yml", "w"], .file (Text.bytesOf "A: top\nB: top\nC: top\n"))]
  current := []

def diamondNames : List String :=
  ["left.yml", " right.yml"]

def diamondRest : Document :=
  Mapping.ofList [("D", .text "bottom")]

theorem nameable_top : Nameable ["top.yml"] :=
  ⟨by decide, by decide⟩

theorem nameable_diamondNames : Nameable diamondNames :=
  ⟨by decide, by decide⟩

theorem respelled_left :
    BytesRespelled (Text.bytesOf "EXTENDS: top.yml\nA: left\n")
      (Text.bytesOf "EXTENDS: [top.yml]\nA: left\n") := by
  have written : documentIn? (Text.bytesOf "EXTENDS: top.yml\nA: left\n") =
      some (Document.extending (Mapping.ofList [("A", .text "left")])
        (.text (Text.joinTexts ',' ["top.yml"]))) := by
    decide +kernel
  have listed : documentIn? (Text.bytesOf "EXTENDS: [top.yml]\nA: left\n") =
      some (Document.extending (Mapping.ofList [("A", .text "left")])
        (.list [.text "top.yml"])) := by
    decide +kernel
  exact .inr ⟨_, _, written, listed, Document.respelled_extending _ nameable_top .commas .list⟩

theorem respelled_listedFiles : diamondFiles.Respelled listedFiles := by
  have same : ∀ bytes, BytesRespelled bytes bytes := fun _ => .inl rfl
  exact FileTree.related_of_forall₂ rfl (.cons ⟨rfl, .directory⟩
    (.cons ⟨rfl, .file respelled_left⟩ (.cons ⟨rfl, .file (same _)⟩
      (.cons ⟨rfl, .file (same _)⟩ .nil))))

theorem expansion_in_two_spellings_diamond :
    (∃ listed shown : List String,
      (diamondRest.extending (.list [.text "\u3000", .text " a.yml"])).ancestors = .ok listed ∧
      (diamondRest.extending (.text "\u3000, a.yml")).ancestors = .ok shown ∧
      shown = (listed.filter fun name => !name.isEmpty)) ∧
    (diamondRest.extending (.list [.text "a.yml", .integer 3, .null])).ancestors =
      .error (.parse extendsKey (.ancestorItem (.integer 3))) ∧
    diamondFiles.Respelled listedFiles ∧
    diamondDocument.Respelled (diamondRest.extending (.list (diamondNames.map .text))) ∧
    ∃ expansion final,
      (offline.expand "/w" (diamondRest.extending (.list (diamondNames.map .text))) none).after
        listedFiles = (.ok expansion, final) ∧
      diamondExpansion.AgreeOff extendsKey expansion := by
  obtain ⟨spells, -, -, refuses, -, expands⟩ := expansion_in_two_spellings
  have written : diamondDocument =
      diamondRest.extending (.text (Text.joinTexts ',' diamondNames)) := by
    decide
  have respelled :
      diamondDocument.Respelled (diamondRest.extending (.list (diamondNames.map .text))) := by
    rw [written]
    exact Document.respelled_extending _ nameable_diamondNames .commas .list
  obtain ⟨listed, shown, list, text, visible, -⟩ :=
    spells diamondRest ["\u3000", " a.yml"] (by decide)
  refine ⟨⟨listed, shown, list, text, visible⟩, ?_, respelled_listedFiles, respelled, ?_⟩
  · exact (refuses _ _ _ (Document.get?_extending ..)).mpr
      ⟨["a.yml"], .integer 3, [.null], rfl, nofun, rfl⟩
  · obtain ⟨one, two, final, otherFinal, expanded, expandedToo, alike, -⟩ :=
      expands offline offline "/w" _ _ none _ _ (Respelled.refl offline) respelled_listedFiles
        respelled
    have found := expand_diamond
    rw [expanded] at found
    simp only at found
    subst found
    cases alike with
    | success agree => exact ⟨_, otherFinal, expandedToo, agree⟩

end Loader

end LayeredConfig
