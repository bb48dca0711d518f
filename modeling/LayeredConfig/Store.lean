import LayeredConfig.Resolution
import LayeredConfig.Secured

/-!
# The store of configurations

Each request has a slot for its configuration.  A slot is registered before anything is resolved
for it, and a slot that stays empty is taken away again.  Reading or changing the configuration of a
request that has none is an error and changes nothing.
-/

set_option autoImplicit false

namespace LayeredConfig

structure Store where
  /-- The slots under the names of the requests.  An empty one waits for a configuration. -/
  slots : Mapping (Option RunConfig)
  deriving DecidableEq

namespace Store

def empty : Store := ⟨∅⟩

def slot? (store : Store) (id : RequestId) : Option (Option RunConfig) :=
  store.slots.get? id.text

def run? (store : Store) (id : RequestId) : Option RunConfig :=
  (store.slot? id).join

def isInitialized (store : Store) (id : RequestId) : Bool :=
  (store.run? id).isSome

def run (store : Store) (id : RequestId) : Except ConfigError RunConfig :=
  match store.run? id with
  | some run => .ok run
  | none => .error (.notInitialized id)

def put (store : Store) (id : RequestId) (run : RunConfig) : Store :=
  ⟨store.slots.insert id.text (some run)⟩

def delete (store : Store) (id : RequestId) : Store :=
  ⟨store.slots.erase id.text⟩

/-- The store with a slot for a request; one that is there stays as it is. -/
def register (store : Store) (id : RequestId) : Store :=
  match store.slot? id with
  | some _ => store
  | none => ⟨store.slots.insert id.text none⟩

/-- Runs a function on the slot of a request.  The slot is registered before, and taken away if the
function leaves it empty. -/
def withSlot {α : Type} (store : Store) (id : RequestId)
    (f : Option RunConfig → α × Option RunConfig) : α × Store :=
  let store := store.register id
  match f (store.run? id) with
  | (result, some run) => (result, store.put id run)
  | (result, none) => (result, store.delete id)

/-- The store with a new document for a request.  A request without configuration is given one
without sources. -/
def setDocument (store : Store) (id : RequestId) (document : Document) : Store :=
  (store.withSlot id fun
    | some run => ((), some { run with document })
    | none => ((), some ⟨document, ""⟩)).2

def change (store : Store) (id : RequestId) (f : Document → Document) :
    Except ConfigError Store :=
  (store.run id).map fun run => store.put id { run with document := f run.document }

def read {α : Type} (store : Store) (id : RequestId) (read : Document → Except ConfigError α) :
    Except ConfigError α :=
  match store.run id with
  | .error error => .error error
  | .ok run => read run.document

/-! ## Slots -/

theorem slot?_put (store : Store) (id other : RequestId) (run : RunConfig) :
    (store.put id run).slot? other = if other = id then some (some run) else store.slot? other := by
  rw [slot?, put, Mapping.get?_insert, slot?]
  simp only [RequestId.ext_iff]

theorem slot?_delete (store : Store) (id other : RequestId) :
    (store.delete id).slot? other = if other = id then none else store.slot? other := by
  rw [slot?, delete, Mapping.get?_erase, slot?]
  simp only [RequestId.ext_iff]

theorem run?_put (store : Store) (id : RequestId) (run : RunConfig) :
    (store.put id run).run? id = some run := by
  rw [run?, slot?_put, if_pos rfl]
  rfl

theorem put_put (store : Store) (id : RequestId) (old run : RunConfig) :
    (store.put id old).put id run = store.put id run := by
  rw [put, put, put, Mapping.insert_insert]

theorem put_of_run? {store : Store} {id : RequestId} {run : RunConfig}
    (there : store.run? id = some run) : store.put id run = store := by
  rw [put, Mapping.insert_of_get? (Option.join_eq_some_iff.mp there)]

theorem delete_of_slot? {store : Store} {id : RequestId} (absent : store.slot? id = none) :
    store.delete id = store := by
  rw [delete, Mapping.erase_of_get? absent]

/-! ## Running a function on a slot -/

theorem run?_register (store : Store) (id : RequestId) :
    (store.register id).run? id = store.run? id := by
  unfold register
  cases there : store.slot? id with
  | some slot => rfl
  | none =>
      simp only [run?, slot?, Mapping.get?_insert, ↓reduceIte] at there ⊢
      rw [there]
      rfl

theorem put_register (store : Store) (id : RequestId) (run : RunConfig) :
    (store.register id).put id run = store.put id run := by
  unfold register
  split
  · rfl
  · rw [put, put, Mapping.insert_insert]

theorem delete_register (store : Store) (id : RequestId) :
    (store.register id).delete id = store.delete id := by
  unfold register
  split
  · rfl
  · rw [delete, delete, Mapping.erase_insert]

section WithSlot

variable {α : Type} {store : Store} {id : RequestId} {f : Option RunConfig → α × Option RunConfig}
  {result : α}

theorem withSlot_of_some {run : RunConfig} (filled : f (store.run? id) = (result, some run)) :
    store.withSlot id f = (result, store.put id run) := by
  simp only [withSlot, run?_register, filled, put_register]

theorem withSlot_of_none (left : f (store.run? id) = (result, none)) :
    store.withSlot id f = (result, store.delete id) := by
  simp only [withSlot, run?_register, left, delete_register]

end WithSlot

theorem setDocument_eq_put (store : Store) (id : RequestId) (document : Document) :
    store.setDocument id document =
      store.put id ⟨document, ((store.run? id).map RunConfig.sources).getD ""⟩ := by
  cases there : store.run? id with
  | some run => rw [setDocument, withSlot_of_some (by rw [there])]; rfl
  | none => rw [setDocument, withSlot_of_some (by rw [there])]; rfl

end Store

end LayeredConfig
