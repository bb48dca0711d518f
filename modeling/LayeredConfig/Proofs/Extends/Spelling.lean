import LayeredConfig.Extends.Items
import LayeredConfig.Proofs.Resolution.Independence
import LayeredConfig.Proofs.Text.Blank

/-!
# Two spellings of ancestors

The names of ancestors are written as a list or as a text with commas.  The list has an item for
each name, and is refused if one of them is no text; the text leaves out what is blank.  Where no
name is blank and none has a comma, both spellings name the same ancestors.
-/

set_option autoImplicit false

namespace LayeredConfig

/-! ## Names in a list -/

theorem ancestorsInList_texts (names : List String) :
    ancestorsInList (names.map .text) = .ok (names.map Text.trimmed) := by
  induction names with
  | nil => rfl
  | cons name names ih =>
      rw [List.map_cons, ancestorsInList, ih]
      rfl

theorem ancestorsInList_text_cons (name : String) (items : List Value) :
    ancestorsInList (.text name :: items) =
      (ancestorsInList items).map (Text.trimmed name :: ·) := rfl

theorem ancestorsInList_cons_of_not_text {item : Value} (noText : ∀ name, item ≠ .text name)
    (items : List Value) :
    ancestorsInList (item :: items) = .error (.parse extendsKey (.ancestorItem item)) := by
  cases item <;> first | rfl | exact absurd rfl (noText _)

/-- A list of texts, or one with an item that is no text after texts only. -/
theorem texts_or_other (items : List Value) :
    (∃ names : List String, items = names.map .text) ∨
      ∃ (names : List String) (item : Value) (rest : List Value),
        items = names.map .text ++ item :: rest ∧ ∀ name, item ≠ .text name := by
  induction items with
  | nil => exact .inl ⟨[], rfl⟩
  | cons item items ih =>
      by_cases isText : ∃ name, item = .text name
      · obtain ⟨name, rfl⟩ := isText
        rcases ih with ⟨names, rfl⟩ | ⟨names, other, rest, rfl, noText⟩
        · exact .inl ⟨name :: names, rfl⟩
        · exact .inr ⟨name :: names, other, rest, rfl, noText⟩
      · exact .inr ⟨[], item, items, rfl, fun name same => isText ⟨name, same⟩⟩

theorem ancestorsInList_of_other (names : List String) {item : Value}
    (noText : ∀ name, item ≠ .text name) (rest : List Value) :
    ancestorsInList (names.map .text ++ item :: rest) =
      .error (.parse extendsKey (.ancestorItem item)) := by
  induction names with
  | nil => exact ancestorsInList_cons_of_not_text noText rest
  | cons name names ih =>
      rw [List.map_cons, List.cons_append, ancestorsInList_text_cons, ih]
      rfl

theorem ancestorsInList_eq_ok_iff {items : List Value} {listed : List String} :
    ancestorsInList items = .ok listed ↔
      ∃ names : List String, items = names.map .text ∧ listed = names.map Text.trimmed := by
  constructor
  · intro named
    rcases texts_or_other items with ⟨names, rfl⟩ | ⟨names, item, rest, rfl, noText⟩
    · rw [ancestorsInList_texts] at named
      exact ⟨names, rfl, (Except.ok.inj named).symm⟩
    · rw [ancestorsInList_of_other names noText] at named
      cases named
  · rintro ⟨names, rfl, rfl⟩
    exact ancestorsInList_texts names

/-- A list is refused for its first item that is no text, and for nothing else. -/
theorem ancestorsInList_eq_error_iff {items : List Value} {error : ConfigError} :
    ancestorsInList items = .error error ↔
      ∃ (names : List String) (item : Value) (rest : List Value),
        items = names.map .text ++ item :: rest ∧ (∀ name, item ≠ .text name) ∧
          error = .parse extendsKey (.ancestorItem item) := by
  constructor
  · intro refused
    rcases texts_or_other items with ⟨names, rfl⟩ | ⟨names, item, rest, rfl, noText⟩
    · rw [ancestorsInList_texts] at refused
      cases refused
    · rw [ancestorsInList_of_other names noText] at refused
      exact ⟨names, item, rest, rfl, noText, (Except.error.inj refused).symm⟩
  · rintro ⟨names, item, rest, rfl, noText, rfl⟩
    exact ancestorsInList_of_other names noText rest

/-! ## Names in a text -/

theorem ancestorsInText_joinTexts {names : List String} (bare : ∀ name ∈ names, ',' ∉ name.toList) :
    ancestorsInText (Text.joinTexts ',' names) =
      (names.map Text.trimmed).filter fun name => !name.isEmpty := by
  by_cases none : names = []
  · rw [none]
    decide
  · rw [ancestorsInText, Text.splitText_joinTexts none bare]

theorem filter_map_trimmed (names : List String) :
    ((names.map Text.trimmed).filter fun name => !name.isEmpty) =
      (names.filter fun name => !name.toList.all Text.isBlank).map Text.trimmed := by
  have shown : ((fun name => !name.isEmpty) ∘ Text.trimmed) =
      fun name : String => !name.toList.all Text.isBlank := by
    funext name
    rw [Function.comp_apply, Text.isEmpty_trimmed]
  rw [List.filter_map, shown]

theorem empty_not_mem_ancestorsInText (text : String) : "" ∉ ancestorsInText text := by
  intro member
  rw [ancestorsInText, List.mem_filter] at member
  exact absurd member.2 (by decide)

/-! ## Names in a document -/

/-- The document with a value under the key of its ancestors. -/
def Document.extending (document : Document) (ancestors : Value) : Document :=
  Mapping.insert document extendsKey ancestors

theorem Document.get?_extending (document : Document) (ancestors : Value) :
    Mapping.get? (document.extending ancestors) extendsKey = some ancestors :=
  Mapping.get?_insert_self ..

theorem forall₂_trimmed (names : List String) :
    List.Forall₂ (fun name item => Text.Trims name.toList item.toList) names
      (names.map Text.trimmed) := by
  induction names with
  | nil => exact .nil
  | cons name names ih => exact .cons (Text.trims_trimmed name) ih

namespace Document

variable {document : Document} {names : List String}

theorem ancestors_of_text {text : String}
    (found : Mapping.get? document extendsKey = some (.text text)) :
    document.ancestors = .ok (ancestorsInText text) := by
  rw [ancestors, found]

theorem ancestors_of_list {items : List Value}
    (found : Mapping.get? document extendsKey = some (.list items)) :
    document.ancestors = ancestorsInList items := by
  rw [ancestors, found]

/-- Every name of an ancestor is the trimmed rest of some text. -/
theorem exists_trimmed_of_ancestors (named : document.ancestors = .ok names) :
    ∃ texts : List String, names ⊆ texts.map Text.trimmed := by
  unfold ancestors at named
  split at named
  · cases named
    exact ⟨[], List.nil_subset _⟩
  · cases named
    exact ⟨[], List.nil_subset _⟩
  · rename_i text _
    cases named
    exact ⟨Text.splitText ',' text, List.filter_sublist.subset⟩
  · obtain ⟨texts, -, rfl⟩ := ancestorsInList_eq_ok_iff.mp named
    exact ⟨texts, List.Subset.refl _⟩
  · cases named

theorem bare_of_ancestors (named : document.ancestors = .ok names) :
    ∀ name ∈ names, Text.Bare name.toList := by
  intro name member
  obtain ⟨texts, within⟩ := exists_trimmed_of_ancestors named
  obtain ⟨text, -, rfl⟩ := List.mem_map.mp (within member)
  exact (Text.trims_trimmed text).bare

end Document

/-! ## Respelled documents -/

/-- Names that both spellings keep: there is no comma in them and something that is not blank. -/
structure Nameable (names : List String) : Prop where
  bare : ∀ name ∈ names, ',' ∉ name.toList
  visible : ∀ name ∈ names, name.toList.all Text.isBlank = false

/-- The spellings of names of ancestors. -/
inductive SpellsAncestors (names : List String) : Value → Prop where
  | commas : SpellsAncestors names (.text (Text.joinTexts ',' names))
  | list : SpellsAncestors names (.list (names.map .text))

/-- Two documents that are the same but for the spelling of their ancestors. -/
structure Document.Respelled (first second : Document) : Prop where
  agree : Mapping.AgreeOff extendsKey first second
  spelled : Mapping.get? first extendsKey = Mapping.get? second extendsKey ∨
    ∃ names value other, Nameable names ∧
      SpellsAncestors names value ∧ SpellsAncestors names other ∧
      Mapping.get? first extendsKey = some value ∧ Mapping.get? second extendsKey = some other

theorem Nameable.ancestors_eq {names : List String} (nameable : Nameable names)
    {document : Document} {value : Value} (spells : SpellsAncestors names value)
    (found : Mapping.get? document extendsKey = some value) :
    document.ancestors = .ok (names.map Text.trimmed) := by
  cases spells with
  | commas =>
      have kept : (names.filter fun name => !name.toList.all Text.isBlank) = names := by
        apply List.filter_eq_self.mpr
        intro name member
        rw [nameable.visible name member, Bool.not_false]
      rw [Document.ancestors_of_text found, ancestorsInText_joinTexts nameable.bare,
        filter_map_trimmed, kept]
  | list => rw [Document.ancestors_of_list found, ancestorsInList_texts]

namespace Document.Respelled

variable {first second : Document}

theorem refl (document : Document) : document.Respelled document :=
  ⟨.refl extendsKey document, .inl rfl⟩

theorem ancestors_eq (respelled : first.Respelled second) : first.ancestors = second.ancestors := by
  rcases respelled.spelled with same | ⟨names, value, other, nameable, spells, spellsToo, found,
    foundToo⟩
  · rw [ancestors, ancestors, same]
  · rw [nameable.ancestors_eq spells found, nameable.ancestors_eq spellsToo foundToo]

end Document.Respelled

theorem Document.respelled_extending (document : Document) {names : List String}
    (nameable : Nameable names) {value other : Value} (spells : SpellsAncestors names value)
    (spellsToo : SpellsAncestors names other) :
    (document.extending value).Respelled (document.extending other) := by
  refine ⟨?_, .inr ⟨names, value, other, nameable, spells, spellsToo, document.get?_extending value,
    document.get?_extending other⟩⟩
  intro key different
  rw [extending, extending, Mapping.get?_insert, Mapping.get?_insert, if_neg different,
    if_neg different]

end LayeredConfig
