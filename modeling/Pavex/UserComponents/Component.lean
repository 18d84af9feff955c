import Mathlib.Data.List.Basic
import Mathlib.Data.List.Nodup

/-!
# User components and the raw component database

`UserComponentDb::build` (`pavexc/src/compiler/analyses/user_components/processed_db.rs`) starts
from a `RawUserComponentDb`: every component registered against the blueprint, interned, with
the metadata recorded at registration. Neither that database nor the `Interner` it stores the
components in is under `src/`; they are modelled here after the spec's data model. That is a
dense, append-only store of component records indexed by integer ids, plus per-component
metadata maps. A component record carries the raw identifiers it was registered with and the
scope it is bound in, so the interner, which holds each value once, holds one record per
registration, however many share a kind.

Only the metadata that `processed_db.rs` reads or moves into the processed database is kept:
registration locations, lifecycles, cloning strategies, and the middleware and error-observer
lists of request handlers. The documented invariant of the location and lifecycle maps, an
entry for every component, is a field of the structure.
-/

namespace Pavex.UserComponents

/-- Modelled from the spec: `UserComponentId`, a component's position in the component
interner. -/
structure UserComponentId where
  index : Nat
  deriving DecidableEq, Repr

/-- Modelled from the spec: `Lifecycle`, how long a constructed value lives. -/
inductive Lifecycle
  | singleton
  | requestScoped
  | transient
  deriving DecidableEq, Repr

/-- Modelled from the spec: `CloningStrategy`, whether a constructed value may be cloned. -/
inductive CloningStrategy
  | neverClone
  | cloneIfNecessary
  deriving DecidableEq, Repr

/-- Modelled from the spec: `Location`, where a component was registered in the user's code. -/
structure Location where
  file : String
  line : Nat
  column : Nat
  deriving DecidableEq, Repr

/-- Modelled from the spec: `RawIdentifierId`, the id of the raw identifiers a component was
registered with, in the identifiers interner. -/
structure RawIdentifierId where
  index : Nat
  deriving DecidableEq, Repr

/-- Modelled from the spec: `ScopeId`, the scope of the blueprint a component is bound in. -/
structure ScopeId where
  index : Nat
  deriving DecidableEq, Repr

/-- Modelled from the spec: `UserComponent` is not under src/. Every component records the raw
identifiers it was registered with and the scope it is bound in, so two registrations of one
kind are two components; a configuration type also carries its key. -/
inductive UserComponent
  | requestHandler (source : RawIdentifierId) (scopeId : ScopeId)
  | fallback (source : RawIdentifierId) (scopeId : ScopeId)
  | constructor (source : RawIdentifierId) (scopeId : ScopeId)
  | prebuiltType (source : RawIdentifierId) (scopeId : ScopeId)
  | configType (key : String) (source : RawIdentifierId) (scopeId : ScopeId)
  | wrappingMiddleware (source : RawIdentifierId) (scopeId : ScopeId)
  | postProcessingMiddleware (source : RawIdentifierId) (scopeId : ScopeId)
  | preProcessingMiddleware (source : RawIdentifierId) (scopeId : ScopeId)
  | errorObserver (source : RawIdentifierId) (scopeId : ScopeId)
  deriving DecidableEq, Repr

/-- Modelled from the spec: `CallableType`, the kind of a component, as error messages name
it. -/
inductive CallableType
  | requestHandler
  | fallback
  | constructor
  | prebuiltType
  | configType
  | wrappingMiddleware
  | postProcessingMiddleware
  | preProcessingMiddleware
  | errorObserver
  deriving DecidableEq, Repr

/-- Modelled from the spec: `UserComponent::kind`. -/
def UserComponent.kind : UserComponent → CallableType
  | .requestHandler .. => .requestHandler
  | .fallback .. => .fallback
  | .constructor .. => .constructor
  | .prebuiltType .. => .prebuiltType
  | .configType .. => .configType
  | .wrappingMiddleware .. => .wrappingMiddleware
  | .postProcessingMiddleware .. => .postProcessingMiddleware
  | .preProcessingMiddleware .. => .preProcessingMiddleware
  | .errorObserver .. => .errorObserver

/-! ## Interning -/

/-- Modelled from the spec: `Interner<T>` is not under src/. A dense, append-only store
whose ids are positions; a value is interned at most once. -/
structure Interner (α : Type) where
  values : List α
  nodup : values.Nodup

namespace Interner

variable {α : Type}

/-- `Interner::get_or_intern`: the id of the value, interning it first if it is new. -/
def getOrIntern [DecidableEq α] (i : Interner α) (x : α) : Nat × Interner α :=
  if h : x ∈ i.values then (i.values.indexOf x, i)
  else (i.values.length, ⟨i.values ++ [x], i.nodup.append (List.nodup_singleton x)
    (List.disjoint_singleton.mpr h)⟩)

/-- `interner[&value]`: the id of an interned value; `none` is the panic on a value that is not
interned. -/
def indexOf? [DecidableEq α] (i : Interner α) (x : α) : Option Nat :=
  if x ∈ i.values then some (i.values.indexOf x) else none

/-- `Interner::iter`: every value with its id, in interning order. -/
def iter (i : Interner α) : List (Nat × α) := i.values.enum

variable [DecidableEq α]

/-- Interning only ever appends. -/
theorem values_prefix_getOrIntern (i : Interner α) (x : α) :
    i.values <+: (i.getOrIntern x).2.values := by
  unfold getOrIntern
  split
  · exact List.prefix_refl _
  · exact List.prefix_append _ _

/-- The id returned is the value's position. -/
theorem getElem?_getOrIntern (i : Interner α) (x : α) :
    (i.getOrIntern x).2.values[(i.getOrIntern x).1]? = some x := by
  unfold getOrIntern
  split
  · next h => rw [List.getElem?_eq_getElem (List.indexOf_lt_length.mpr h), List.getElem_indexOf]
  · simp

theorem getOrIntern_fst_lt (i : Interner α) (x : α) :
    (i.getOrIntern x).1 < (i.getOrIntern x).2.values.length :=
  (List.getElem?_eq_some_iff.mp (getElem?_getOrIntern i x)).1

/-- Ids and values determine each other: looking a value up by id and an id up by value are
inverse. -/
theorem indexOf?_eq_some_iff {i : Interner α} {x : α} {k : Nat} :
    i.indexOf? x = some k ↔ i.values[k]? = some x := by
  unfold indexOf?
  split
  · next h =>
    rw [Option.some.injEq]
    constructor
    · rintro rfl
      rw [List.getElem?_eq_getElem (List.indexOf_lt_length.mpr h), List.getElem_indexOf]
    · intro hk
      obtain ⟨hlt, rfl⟩ := List.getElem?_eq_some_iff.mp hk
      exact List.indexOf_getElem i.nodup k hlt
  · next h =>
    exact ⟨Option.noConfusion, fun hk => absurd (List.getElem?_mem hk) h⟩

end Interner

/-! ## The component tables -/

/-- The component interner and the per-component metadata maps, keyed by component id, that
`RawUserComponentDb` and `UserComponentDb` both hold. The invariants of the location and
lifecycle maps documented on `UserComponentDb`, an entry for every component, are fields. -/
structure ComponentTables where
  componentInterner : Interner UserComponent
  id2locations : List (UserComponentId × Location)
  id2lifecycle : List (UserComponentId × Lifecycle)
  id2cloningStrategy : List (UserComponentId × CloningStrategy)
  handlerId2middlewareIds : List (UserComponentId × List UserComponentId)
  handlerId2errorObserverIds : List (UserComponentId × List UserComponentId)
  /-- There is a location for every single user component. -/
  locations_complete : ∀ i < componentInterner.values.length, (id2locations.lookup ⟨i⟩).isSome
  /-- There is a lifecycle for every single user component. -/
  lifecycles_complete : ∀ i < componentInterner.values.length, (id2lifecycle.lookup ⟨i⟩).isSome

namespace ComponentTables

/-- `iter`: every component with its id, in registration order. -/
def iter (db : ComponentTables) : List (UserComponentId × UserComponent) :=
  db.componentInterner.iter.map fun (i, c) => (⟨i⟩, c)

/-- `db[component_id]`; `none` is the out-of-bounds panic. -/
def get (db : ComponentTables) (id : UserComponentId) : Option UserComponent :=
  db.componentInterner.values[id.index]?

/-- `get_location`; `none` is the panic of a missing entry. -/
def getLocation (db : ComponentTables) (id : UserComponentId) : Option Location :=
  db.id2locations.lookup id

/-- `get_lifecycle`; `none` is the panic of a missing entry. -/
def getLifecycle (db : ComponentTables) (id : UserComponentId) : Option Lifecycle :=
  db.id2lifecycle.lookup id

/-- `db[&component]`: the id of a registered component; `none` is the panic on one that is not
registered. -/
def idOf (db : ComponentTables) (c : UserComponent) : Option UserComponentId :=
  (db.componentInterner.indexOf? c).map fun i => ⟨i⟩

/-- The two indexing operations are inverse: `db[&c]` is `id` exactly when `db[id]` is `c`. -/
theorem idOf_eq_some_iff {db : ComponentTables} {c : UserComponent} {id : UserComponentId} :
    db.idOf c = some id ↔ db.get id = some c := by
  rw [idOf, get, ← Interner.indexOf?_eq_some_iff, Option.map_eq_some']
  constructor
  · rintro ⟨i, hi, rfl⟩; exact hi
  · intro h; exact ⟨id.index, h, rfl⟩

theorem mem_iter {db : ComponentTables} {id : UserComponentId} {c : UserComponent} :
    (id, c) ∈ db.iter ↔ db.get id = some c := by
  simp only [iter, Interner.iter, List.mem_map, Prod.exists, Prod.mk.injEq, get]
  constructor
  · rintro ⟨i, c', h, rfl, rfl⟩; exact List.mk_mem_enum_iff_getElem?.mp h
  · intro h; exact ⟨id.index, c, List.mk_mem_enum_iff_getElem?.mpr h, rfl, rfl⟩

/-- The ids the tables yield are distinct: they are the positions of the interner. -/
theorem nodup_iter_ids (db : ComponentTables) : (db.iter.map Prod.fst).Nodup := by
  simp only [iter, Interner.iter, List.map_map]
  have h : (Prod.fst ∘ fun p : Nat × UserComponent => (UserComponentId.mk p.1, p.2)) =
      UserComponentId.mk ∘ Prod.fst := rfl
  rw [h, ← List.map_map, List.enum_map_fst]
  exact (List.nodup_range _).map fun _ _ h => UserComponentId.mk.inj h

/-- Looking a component up by id in `iter` is indexing the tables. -/
theorem lookup_iter (db : ComponentTables) (id : UserComponentId) :
    db.iter.lookup id = db.get id := by
  cases h : db.get id with
  | none =>
    refine List.lookup_eq_none_iff.mpr fun ⟨i, c⟩ hp => bne_iff_ne.mpr fun hid => ?_
    obtain rfl : id = i := hid
    rw [mem_iter, h] at hp
    cases hp
  | some c =>
    obtain ⟨l₁, l₂, heq⟩ := List.append_of_mem (mem_iter.mpr h)
    have hnd := db.nodup_iter_ids
    rw [heq, List.map_append, List.map_cons, List.nodup_append] at hnd
    have hl₁ : List.lookup id l₁ = none := List.lookup_eq_none_iff.mpr fun p hp =>
      bne_iff_ne.mpr fun hid =>
        hnd.2.2 (List.mem_map_of_mem Prod.fst hp) (hid ▸ List.mem_cons_self _ _)
    rw [heq, List.lookup_append, hl₁]
    simp

theorem index_lt_of_mem {db : ComponentTables} {id : UserComponentId} {c : UserComponent}
    (h : (id, c) ∈ db.iter) : id.index < db.componentInterner.values.length :=
  (List.getElem?_eq_some_iff.mp (mem_iter.mp h)).1

/-- Every component the tables yield has been registered somewhere. -/
theorem getLocation_isSome_of_mem {db : ComponentTables} {id : UserComponentId}
    {c : UserComponent} (h : (id, c) ∈ db.iter) : (db.getLocation id).isSome :=
  db.locations_complete id.index (index_lt_of_mem h)

/-- Every component the tables yield has a lifecycle. -/
theorem getLifecycle_isSome_of_mem {db : ComponentTables} {id : UserComponentId}
    {c : UserComponent} (h : (id, c) ∈ db.iter) : (db.getLifecycle id).isSome :=
  db.lifecycles_complete id.index (index_lt_of_mem h)

end ComponentTables

/-- Modelled from the spec: `RawUserComponentDb` is not under src/. Every component registered
against the blueprint, with the metadata that `processed_db.rs` reads or moves. -/
structure RawUserComponentDb extends ComponentTables

end Pavex.UserComponents
