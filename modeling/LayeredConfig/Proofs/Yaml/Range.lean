import LayeredConfig.Yaml.Composition
import Mathlib.Tactic.SplitIfs

/-!
# The range of integers

An integer node is only made of a scalar whose number fits in 64 bits, with or without a sign.
Nothing else that composes a node makes a number, so every integer in a parsed document fits, at
any depth and in keys as well.
-/

set_option autoImplicit false

namespace LayeredConfig.Yaml

namespace Node

mutual

/-- Every integer at every depth fits in 64 bits, with or without a sign. -/
def Fits : Node → Prop
  | .integer n => fits64 n = true
  | .sequence items => FitsItems items
  | .mapping entries => FitsEntries entries
  | .tagged _ node => Fits node
  | _ => True

def FitsItems : List Node → Prop
  | [] => True
  | item :: items => Fits item ∧ FitsItems items

def FitsEntries : List (Node × Node) → Prop
  | [] => True
  | (key, value) :: entries => Fits key ∧ Fits value ∧ FitsEntries entries

end

theorem fitsItems_iff {items : List Node} : FitsItems items ↔ ∀ item ∈ items, item.Fits := by
  induction items with
  | nil => simp [FitsItems]
  | cons item items ih => simp [FitsItems, ih]

theorem fitsEntries_iff {entries : List (Node × Node)} :
    FitsEntries entries ↔ ∀ entry ∈ entries, entry.1.Fits ∧ entry.2.Fits := by
  induction entries with
  | nil => simp [FitsEntries]
  | cons entry entries ih =>
      obtain ⟨key, value⟩ := entry
      simp [FitsEntries, ih, and_assoc]

end Node

/-! ## Scalars -/

section Scalars

variable {text : List Char} {node : Node}

theorem fits_of_integerNode? (read : integerNode? text = .ok (some node)) : node.Fits := by
  unfold integerNode? at read
  split at read
  · cases read
  · split_ifs at read with fits wide
    · cases read
      exact fits
    · cases read

theorem fits_of_plainNode (read : plainNode text = .ok node) : node.Fits := by
  unfold plainNode at read
  by_cases missing : (text.isEmpty || isNullName text) = true
  · rw [if_pos missing] at read
    cases read
    trivial
  · rw [if_neg missing] at read
    split at read
    · cases read
      trivial
    · split at read
      · cases read
      · rename_i number
        cases read
        exact fits_of_integerNode? number
      · split at read <;> cases read <;> trivial

theorem fits_of_forcedNode {tag : StandardTag} (read : forcedNode tag text = .ok node) :
    node.Fits := by
  cases tag with
  | bool =>
      simp only [forcedNode] at read
      split at read <;> cases read
      trivial
  | int =>
      simp only [forcedNode] at read
      split at read <;> cases read
      exact fits_of_integerNode? ‹_›
  | float =>
      simp only [forcedNode] at read
      split at read <;> cases read
      trivial
  | null =>
      simp only [forcedNode] at read
      split_ifs at read with named
      cases read
      trivial

theorem fits_of_scalarNode {tag : Option (List UInt8)} {plain : Bool}
    (read : scalarNode tag text plain = .ok node) : node.Fits := by
  have ofText : ∀ {found : Node}, (.ok (.text (String.ofList text)) : Except Fault Node) =
      .ok found → found.Fits := by
    intro found same
    cases same
    trivial
  unfold scalarNode at read
  cases tag with
  | none =>
      simp only at read
      split_ifs at read with bare
      · exact fits_of_plainNode read
      · exact ofText read
  | some tag =>
      simp only at read
      cases standard : standardTag? tag with
      | some known =>
          rw [standard] at read
          exact fits_of_forcedNode read
      | none =>
          rw [standard] at read
          simp only at read
          split_ifs at read with bare
          · exact fits_of_plainNode read
          · exact ofText read

end Scalars

/-! ## Composers -/

namespace Composer

variable {α β : Type}

/-- Whatever a composer makes has a property, however many aliases were expanded before. -/
def Makes (property : α → Prop) (composer : Composer α) : Prop :=
  ∀ expanded made more, composer.run expanded = .ok (made, more) → property made

theorem makes_pure {property : α → Prop} {a : α} (holds : property a) :
    Makes property (pure a : Composer α) := by
  intro expanded made more run
  cases run
  exact holds

theorem makes_throw (property : α → Prop) (fault : Fault) :
    Makes property (throw fault : Composer α) := by
  intro expanded made more run
  cases run

theorem makes_lift {property : α → Prop} {result : Except Fault α}
    (holds : ∀ a, result = .ok a → property a) : Makes property (liftM result : Composer α) := by
  intro expanded made more run
  cases result with
  | error fault => cases run
  | ok a =>
      cases run
      exact holds made rfl

theorem makes_bind {first : Composer α} {next : α → Composer β} {property : α → Prop}
    {outcome : β → Prop} (made : Makes property first)
    (further : ∀ a, property a → Makes outcome (next a)) : Makes outcome (first >>= next) := by
  intro expanded b more run
  rw [StateT.run_bind] at run
  cases begun : first.run expanded with
  | error fault =>
      rw [begun] at run
      cases run
  | ok pair =>
      obtain ⟨a, between⟩ := pair
      rw [begun] at run
      exact further a (made expanded a between begun) between b more run

theorem makes_map {composer : Composer α} {change : α → β} {property : α → Prop}
    {outcome : β → Prop} (made : Makes property composer)
    (further : ∀ a, property a → outcome (change a)) : Makes outcome (change <$> composer) := by
  rw [← bind_pure_comp]
  exact makes_bind made fun a holds => makes_pure (further a holds)

theorem makes_any (composer : Composer α) : Makes (fun _ => True) composer :=
  fun _ _ _ _ => trivial

theorem makes_mapM {child : α → Composer β} {property : β → Prop}
    (each : ∀ a, Makes property (child a)) (items : List α) :
    Makes (fun made => ∀ b ∈ made, property b) (items.mapM child) := by
  induction items with
  | nil =>
      rw [List.mapM_nil]
      exact makes_pure (by simp)
  | cons item items ih =>
      rw [List.mapM_cons]
      refine makes_bind (each item) fun b holds => ?_
      refine makes_bind ih fun others held => ?_
      exact makes_pure (List.forall_mem_cons.mpr ⟨holds, held⟩)

end Composer

open Composer

theorem makes_composeEntries {child : Tree → Composer Node}
    (each : ∀ tree, Makes Node.Fits (child tree)) (entries : List (Tree × Tree))
    (read : List (Node × Node)) (before : Node.FitsEntries read) :
    Makes Node.FitsEntries (composeEntries child read entries) := by
  induction entries generalizing read with
  | nil =>
      apply makes_pure
      rw [Node.fitsEntries_iff] at before ⊢
      intro entry member
      exact before entry (List.mem_reverse.mp member)
  | cons entry entries ih =>
      obtain ⟨key, value⟩ := entry
      rw [composeEntries]
      refine makes_bind (each key) fun key keyFits => ?_
      by_cases known : (read.any fun entry => entry.1.sameKey key) = true
      · rw [if_pos known]
        exact makes_bind (makes_throw (fun _ => False) _) fun _ none => none.elim
      · rw [if_neg known]
        exact makes_bind (each value) fun value valueFits => ih _ ⟨keyFits, valueFits, before⟩

/-- A tag of an application is put around a node that is composed as if it had none. -/
theorem makes_tagged (tag : Option (List UInt8)) (node : Option (List UInt8) → Composer Node)
    (made : ∀ tag, Makes Node.Fits (node tag)) :
    Makes Node.Fits (match tag.bind applicationTag? with
      | some name => Node.tagged name <$> node none
      | none => node tag) := by
  cases tag.bind applicationTag? with
  | some name => exact makes_map (made none) fun _ fits => fits
  | none => exact made tag

theorem makes_composeNode (anchors : Anchors) {child? : Option (Tree → Composer Node)}
    (each : ∀ child, child? = some child → ∀ tree, Makes Node.Fits (child tree)) (tree : Tree) :
    Makes Node.Fits (composeNode anchors child? tree) := by
  rw [composeNode]
  refine makes_bind (makes_any _) fun followed _ => ?_
  cases followed with
  | «alias» anchor => exact makes_throw _ _
  | scalar properties text plain =>
      refine makes_tagged _ (fun tag => liftM (scalarNode tag text plain)) fun tag => ?_
      exact makes_lift fun node read => fits_of_scalarNode read
  | sequence properties items =>
      refine makes_tagged _ (fun _ => _) fun _ => ?_
      cases child? with
      | none => exact makes_throw _ _
      | some child =>
          refine makes_map (makes_mapM (each child rfl) items) fun made fits => ?_
          exact Node.fitsItems_iff.mpr fits
  | mapping properties entries =>
      refine makes_tagged _ (fun _ => _) fun _ => ?_
      cases child? with
      | none => exact makes_throw _ _
      | some child =>
          have composed := makes_composeEntries (each child rfl) entries [] trivial
          exact makes_map composed fun made fits => fits

theorem makes_compose (anchors : Anchors) (depth : Nat) (tree : Tree) :
    Makes Node.Fits (compose anchors depth tree) := by
  induction depth generalizing tree with
  | zero => exact makes_composeNode anchors (fun child none => by cases none) tree
  | succ depth ih =>
      refine makes_composeNode anchors (fun child same => ?_) tree
      obtain rfl := Option.some.inj same
      exact ih

theorem fits_of_nodeOfTree {tree : Tree} {node : Node} (composed : nodeOfTree tree = .ok node) :
    node.Fits := by
  unfold nodeOfTree at composed
  rw [StateT.run'_eq] at composed
  cases run : (compose ⟨tree.anchored, aliasesPerUnit * tree.size⟩ maxDepth tree).run 0 with
  | error fault =>
      rw [run] at composed
      cases composed
  | ok pair =>
      rw [run] at composed
      cases composed
      exact makes_compose _ _ _ 0 pair.1 pair.2 run

/-- Every integer of a parsed document fits in 64 bits. -/
theorem fits_of_parse {text : List Char} {node : Node} (parsed : parse text = .ok node) :
    node.Fits := by
  unfold parse at parsed
  cases read : tokens text >>= Reader.readStream with
  | error fault =>
      rw [← bind_assoc, read] at parsed
      cases parsed
  | ok root =>
      rw [← bind_assoc, read] at parsed
      cases root with
      | none =>
          cases parsed
          trivial
      | some tree => exact fits_of_nodeOfTree parsed

end LayeredConfig.Yaml
