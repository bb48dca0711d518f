import LayeredConfig.Proofs.Files.Footprint
import Mathlib.Data.List.Forall2
import Mathlib.Data.Option.Defs

/-!
# Trees with other bytes in their files

Two trees with the same directories and links and with files in the same places, whose bytes are
related place by place.  Every path leads to the same place in both or fails with the same fault,
so what is read is related, and writes of related bytes keep the trees related.
-/

set_option autoImplicit false

namespace LayeredConfig

open Files

namespace Files

inductive Entry.Related (related : List UInt8 → List UInt8 → Prop) : Entry → Entry → Prop where
  | file {bytes other : List UInt8} (same : related bytes other) :
      Entry.Related related (.file bytes) (.file other)
  | directory : Entry.Related related .directory .directory
  | link (target : String) : Entry.Related related (.link target) (.link target)

/-- Outcomes of one path in two trees. -/
inductive Leads (related : List UInt8 → List UInt8 → Prop) :
    Except Fault Spot → Except Fault Spot → Prop where
  | fault (fault : Fault) : Leads related (.error fault) (.error fault)
  | free (place : Place) : Leads related (.ok (.free place)) (.ok (.free place))
  | file (place : Place) {bytes other : List UInt8} (same : related bytes other) :
      Leads related (.ok (.taken place (.file bytes))) (.ok (.taken place (.file other)))
  | directory (place : Place) :
      Leads related (.ok (.taken place .directory)) (.ok (.taken place .directory))

end Files

namespace FileTree

structure Related (related : List UInt8 → List UInt8 → Prop) (tree other : FileTree) : Prop where
  current : other.current = tree.current
  entries : ∀ place, Option.Rel (Entry.Related related) (tree.entry? place) (other.entry? place)

variable {related : List UInt8 → List UInt8 → Prop} {tree other : FileTree} {path : String}

theorem relEntryIn {entries entriesOther : List (Place × Entry)}
    (alike : List.Forall₂ (fun one two => one.1 = two.1 ∧ Entry.Related related one.2 two.2) entries
      entriesOther) (place : Place) :
    Option.Rel (Entry.Related related) (entryIn place entries) (entryIn place entriesOther) := by
  induction alike with
  | nil => exact .none
  | @cons one two rest restOther same _ ih =>
      obtain ⟨here, entry⟩ := one
      obtain ⟨hereToo, entryOther⟩ := two
      obtain ⟨rfl, same⟩ := same
      rw [entryIn, entryIn]
      split_ifs
      · exact .some same
      · exact ih

/-- It is enough that the trees list the same places in the same order. -/
theorem related_of_forall₂ (current : other.current = tree.current)
    (alike : List.Forall₂ (fun one two => one.1 = two.1 ∧ Entry.Related related one.2 two.2)
      tree.entries other.entries) : tree.Related related other := by
  refine ⟨current, fun place => ?_⟩
  cases place with
  | nil => exact .some .directory
  | cons name rest => exact relEntryIn alike (name :: rest)

namespace Related

variable (alike : tree.Related related other)

include alike

theorem walk {follow followOther : Place → List String → Except Fault Spot}
    (followed : ∀ here names, Leads related (follow here names) (followOther here names))
    (names : List String) (here : Place) :
    Leads related (tree.walk follow here names) (other.walk followOther here names) := by
  induction names generalizing here with
  | nil => exact .directory here
  | cons name rest ih =>
      by_cases stays : name = sameDirectory
      · simp only [FileTree.walk, if_pos stays]
        exact ih here
      · by_cases up : name = parentDirectory
        · simp only [FileTree.walk, if_neg stays, if_pos up]
          exact ih here.tail
        · by_cases long : maxNameBytes < name.utf8ByteSize
          · simp only [FileTree.walk, if_neg stays, if_neg up, if_pos long]
            exact .fault _
          · have plain : Plain name := ⟨stays, up, long⟩
            rw [walk_plain plain, walk_plain plain]
            have held := alike.entries (name :: here)
            generalize tree.entry? (name :: here) = entry at held ⊢
            generalize other.entry? (name :: here) = entryOther at held ⊢
            cases held with
            | none =>
                cases rest with
                | nil => exact .free _
                | cons next more => exact .fault _
            | some same =>
                cases same with
                | file same =>
                    cases rest with
                    | nil => exact .file _ same
                    | cons next more => exact .fault _
                | directory => exact ih (name :: here)
                | link target => exact followed _ _

theorem walkOver (links : Nat) (here : Place) (names : List String) :
    Leads related (tree.walkOver links here names) (other.walkOver links here names) := by
  induction links generalizing here names with
  | zero => exact alike.walk (fun _ _ => .fault _) names here
  | succ links ih => exact alike.walk ih names here

theorem find (path : String) : Leads related (tree.find path) (other.find path) := by
  rw [FileTree.find, FileTree.find, alike.current]
  split_ifs
  · exact .fault _
  · exact .fault _
  · exact .fault _
  · exact alike.walkOver ..
  · exact alike.walkOver ..

theorem isFile_eq (path : String) : other.isFile path = tree.isFile path := by
  have leads := alike.find path
  unfold isFile
  generalize tree.find path = outcome at leads ⊢
  generalize other.find path = outcomeOther at leads ⊢
  cases leads <;> rfl

theorem canonicalPath?_eq (path : String) :
    other.canonicalPath? path = tree.canonicalPath? path := by
  have leads := alike.find path
  unfold canonicalPath?
  generalize tree.find path = outcome at leads ⊢
  generalize other.find path = outcomeOther at leads ⊢
  cases leads <;> rfl

theorem read (path : String) :
    (∃ fault, tree.read path = .error fault ∧ other.read path = .error fault) ∨
      ∃ bytes bytesOther, tree.read path = .ok bytes ∧ other.read path = .ok bytesOther ∧
        related bytes bytesOther := by
  have leads := alike.find path
  unfold FileTree.read
  generalize tree.find path = outcome at leads ⊢
  generalize other.find path = outcomeOther at leads ⊢
  cases leads with
  | fault fault => exact .inl ⟨fault, rfl, rfl⟩
  | free place => exact .inl ⟨_, rfl, rfl⟩
  | file place same => exact .inr ⟨_, _, rfl, rfl, same⟩
  | directory place => exact .inl ⟨_, rfl, rfl⟩

theorem setEntry {place : Place} (below : place ≠ []) {bytes bytesOther : List UInt8}
    (same : related bytes bytesOther) :
    (tree.setEntry place (.file bytes)).Related related
      (other.setEntry place (.file bytesOther)) := by
  refine ⟨alike.current, fun another => ?_⟩
  rw [entry?_setEntry tree below, entry?_setEntry other below]
  split_ifs with here
  · exact .some (.file same)
  · exact alike.entries another

theorem write (path : String) {bytes bytesOther : List UInt8} (same : related bytes bytesOther) :
    (∃ fault, tree.write path bytes = .error fault ∧
        other.write path bytesOther = .error fault) ∨
      ∃ later last, tree.write path bytes = .ok later ∧ other.write path bytesOther = .ok last ∧
        later.Related related last := by
  have leads := alike.find path
  rw [FileTree.write, FileTree.write]
  generalize found : tree.find path = outcome at leads ⊢
  generalize other.find path = outcomeOther at leads ⊢
  cases leads with
  | fault fault => exact .inl ⟨fault, rfl, rfl⟩
  | free place =>
      obtain ⟨below, -⟩ := fits_of_find found
      exact .inr ⟨_, _, rfl, rfl, alike.setEntry below same⟩
  | @file place old _ _ =>
      have there : tree.entry? place = some (.file old) := fits_of_find found
      have below : place ≠ [] := by
        rintro rfl
        cases there
      exact .inr ⟨_, _, rfl, rfl, alike.setEntry below same⟩
  | directory place => exact .inl ⟨_, rfl, rfl⟩

theorem identity_eq (location : Location) : location.identity other = location.identity tree := by
  cases location with
  | file path => simp only [Location.identity, alike.canonicalPath?_eq path]
  | remote url => rfl

end Related

end FileTree

end LayeredConfig
