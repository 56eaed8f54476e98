import Mathlib.Logic.Function.Basic
import Mathlib.Data.List.Basic

/-!
# Stores

A versioned store holds a stack of versions at each location, the newest first. Where
versioning is enabled a put adds a version; elsewhere it replaces the one whose id is the
null id. Deleting a named version removes it, deleting without a name may only hide the
object behind a delete marker. A plain store holds one content under each name; a file can
be staged there under a free name and then renamed.
-/

namespace Foundation

/-! ## Versioned objects -/

/-- Whether puts to a location keep what they replace. -/
inductive Versioning where
  | unversioned
  | enabled
  | suspended
  deriving DecidableEq, Repr

/-- A version without content is a delete marker. -/
structure Version (Id Content : Type*) where
  id : Id
  content : Option Content
  deriving DecidableEq, Repr

/-- Objects by location. The null id names the version that is not kept apart. -/
structure VersionedStore (Loc Id Content : Type*) (null : Id) where
  versioning : Loc → Versioning
  stack : Loc → List (Version Id Content)

namespace VersionedStore

variable {Loc Id Content : Type*} [DecidableEq Loc] [DecidableEq Id] {null : Id}

def without (id : Id) (stack : List (Version Id Content)) : List (Version Id Content) :=
  stack.filter fun version => version.id ≠ id

/-- A version put on top of a stack. -/
def onTop (null : Id) (versioning : Versioning) (version : Version Id Content)
    (stack : List (Version Id Content)) : List (Version Id Content) :=
  match versioning with
  | .enabled => version :: stack
  | .unversioned => { version with id := null } :: without null stack
  | .suspended => { version with id := null } :: without null stack

variable (store : VersionedStore Loc Id Content null)

def setStack (loc : Loc) (stack : List (Version Id Content)) :
    VersionedStore Loc Id Content null :=
  { store with stack := Function.update store.stack loc stack }

/-- The put of an object, which is given this id if versions are kept. -/
def put (loc : Loc) (id : Id) (content : Content) : VersionedStore Loc Id Content null :=
  store.setStack loc (onTop null (store.versioning loc) ⟨id, some content⟩ (store.stack loc))

/-- The delete of a named version, or of the object, whose marker is given this id. -/
def delete (loc : Loc) (named : Option Id) (marker : Id) : VersionedStore Loc Id Content null :=
  match named, store.versioning loc with
  | some id, _ => store.setStack loc (without id (store.stack loc))
  | none, .unversioned => store.setStack loc (without null (store.stack loc))
  | none, versioning =>
      store.setStack loc (onTop null versioning ⟨marker, none⟩ (store.stack loc))

/-- The version of this name, or else the current one. -/
def select (loc : Loc) : Option Id → Option (Version Id Content)
  | some id => (store.stack loc).find? fun version => version.id = id
  | none => (store.stack loc).head?

/-- The content of an object under a version's name, or else its current content. -/
def read (loc : Loc) (named : Option Id) : Option Content :=
  (store.select loc named).bind Version.content

/-- No version of the object has this id. -/
def Fresh (loc : Loc) (id : Id) : Prop := ∀ version ∈ store.stack loc, version.id ≠ id

variable {store} {loc other : Loc} {id named marker : Id} {content : Content}
  {version : Version Id Content}

omit [DecidableEq Id] in
@[simp] theorem stack_setStack (stack : List (Version Id Content)) :
    (store.setStack loc stack).stack loc = stack := Function.update_self _ _ _

theorem select_setStack_of_ne (hne : other ≠ loc) (stack : List (Version Id Content))
    (named? : Option Id) : (store.setStack loc stack).select other named? =
      store.select other named? := by
  cases named? <;> simp [select, setStack, Function.update_of_ne hne]

/-- A put leaves the other objects alone. -/
theorem select_put_of_ne (hne : other ≠ loc) (named? : Option Id) :
    (store.put loc id content).select other named? = store.select other named? :=
  select_setStack_of_ne hne _ _

/-- A delete leaves the other objects alone. -/
theorem select_delete_of_ne (hne : other ≠ loc) (named? deleted? : Option Id) :
    (store.delete loc deleted? marker).select other named? = store.select other named? := by
  unfold delete
  split <;> exact select_setStack_of_ne hne _ _

/-- The content that was put is current. -/
theorem read_put : (store.put loc id content).read loc none = some content := by
  simp only [put, read, select, stack_setStack]
  cases store.versioning loc <;> rfl

theorem find?_onTop (versioning : Versioning) (version : Version Id Content)
    (stack : List (Version Id Content)) (hnull : named ≠ null) (hfresh : version.id ≠ named) :
    (onTop null versioning version stack).find? (fun version => version.id = named) =
      stack.find? fun version => version.id = named := by
  have hwithout : (without null stack).find? (fun version => version.id = named) =
      stack.find? fun version => version.id = named := by
    rw [without, List.find?_filter]
    congr 1
    funext version
    by_cases hname : version.id = named
    · simp [hname, hnull]
    · simp [hname]
  cases versioning with
  | enabled => exact List.find?_cons_of_neg (by simpa using hfresh)
  | unversioned => exact (List.find?_cons_of_neg (by simpa using hnull.symm)).trans hwithout
  | suspended => exact (List.find?_cons_of_neg (by simpa using hnull.symm)).trans hwithout

/-- A version with a name of its own outlasts a put. -/
theorem select_put_named (hnull : named ≠ null) (hfresh : store.Fresh loc id)
    (hselect : store.select loc (some named) = some version) :
    (store.put loc id content).select loc (some named) = some version := by
  have hmem := List.mem_of_find?_eq_some hselect
  have hname : version.id = named := by simpa using List.find?_some hselect
  have hkept := find?_onTop (store.versioning loc) ⟨id, some content⟩ (store.stack loc) hnull
    (by rw [← hname]; exact (hfresh version hmem).symm)
  simp only [put, select, stack_setStack]
  rw [hkept]
  exact hselect

/-- Deleting a version with a name of its own after a put leaves what was put. -/
theorem read_delete_put (hnull : named ≠ null) (hname : id ≠ named) :
    ((store.put loc id content).delete loc (some named) marker).read loc none = some content := by
  simp only [delete, put, read, select, stack_setStack, onTop]
  cases store.versioning loc <;> simp [without, hname, hnull.symm]

end VersionedStore

/-! ## Staging a file

Until a staged file is renamed it can be given up without a trace: its name was free
before, so taking it away again restores the store. -/

section Staging

variable {Name Content : Type*} [DecidableEq Name]

/-- What each name of a store holds. -/
abbrev Files (Name Content : Type*) := Name → Option Content

/-- A file under a name that is free in `base`, the store from before it was made. -/
structure StagedFile (base : Files Name Content) where
  name : Name
  free : base name = none
  content : Content

namespace StagedFile

variable {base : Files Name Content}

/-- The store with the staged file in it. -/
def files (staged : StagedFile base) : Files Name Content :=
  Function.update base staged.name (some staged.content)

/-- Other bytes under the same name. -/
def write (staged : StagedFile base) (content : Content) : StagedFile base :=
  { staged with content }

/-- Deletes the staged file. -/
def discard (staged : StagedFile base) : Files Name Content :=
  Function.update staged.files staged.name none

/-- Renames the staged file, over what the target holds. -/
def persist (staged : StagedFile base) (target : Name) : Files Name Content :=
  Function.update staged.discard target (staged.files staged.name)

@[simp] theorem files_name (staged : StagedFile base) :
    staged.files staged.name = some staged.content :=
  Function.update_self _ _ _

@[simp] theorem discard_eq (staged : StagedFile base) : staged.discard = base := by
  unfold discard files
  rw [Function.update_idem, ← staged.free, Function.update_eq_self]

@[simp] theorem persist_target (staged : StagedFile base) (target : Name) :
    staged.persist target target = some staged.content := by
  rw [persist, Function.update_self, files_name]

theorem persist_of_ne (staged : StagedFile base) {target other : Name} (hne : other ≠ target) :
    staged.persist target other = base other := by
  rw [persist, Function.update_of_ne hne, discard_eq]

end StagedFile

end Staging

end Foundation
