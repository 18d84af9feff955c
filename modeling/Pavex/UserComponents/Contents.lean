import Pavex.UserComponents.ResolveAndIntern

/-!
# What the databases hold after `resolve_and_intern_paths`

`ResolveAndIntern.lean` shows that every component that resolves gets interned. This file
says what the three databases hold after the loop, id by id, and so also what the loop never
writes.

A component contributes at most one entry, under its own id, and only to the database for its
kind. A prebuilt or configuration type contributes its validated type, and a component of any
other kind its resolved callable. A component that runs into a resolver error contributes
nothing. `resolveAndInternPaths_get?` reads each database after the loop as the contribution
of the raw component with that id, or else what the database held before. So a failing
component gets no entry. The computation database holds no type, the type databases hold no
callable, and no id outside the raw database gets an entry.

The proof works one id at a time. A turn writes its component's contribution at its id and
nothing elsewhere (`resolveAndInternPath_writes`). The ids of the raw database are distinct, so
the turns write at distinct ids, and the run lemma reads the result off the components with
`List.lookup` (`foldlM_resolveAndInternPath_writes`).
-/

namespace Pavex.UserComponents

/-! ## What one component contributes -/

section Contribution

variable (c : Collaborators)

/-- The entry a component registered with `path` adds to the computation database: its
resolved callable, for every kind but the two type kinds. -/
def callableOf (path : ResolvedPath) : UserComponent → Option Callable
  | .prebuiltType .. | .configType .. => none
  | _ => (c.resolveCallable path).toOption

/-- The entry a component registered with `path` adds to the prebuilt type database: its type,
resolved and validated, for a prebuilt type. -/
def prebuiltTypeOf (path : ResolvedPath) : UserComponent → Option PrebuiltType
  | .prebuiltType .. =>
    (c.resolveTypePath path).toOption.bind fun ty => (c.prebuiltTypeNew ty).toOption
  | _ => none

/-- The entry a component registered with `path` adds to the configuration type database: its
type, resolved and validated with its key, for a configuration type. -/
def configTypeOf (path : ResolvedPath) : UserComponent → Option ConfigType
  | .configType key .. =>
    (c.resolveTypePath path).toOption.bind fun ty => (c.configTypeNew ty key).toOption
  | _ => none

/-- What the components of `es`, registered with the paths of `resolvedPathDb`, contribute at
`id` through `contribution`: the contribution of the component with that id, if any. -/
def contributionAt {α : Type} (resolvedPathDb : ResolvedPathDb)
    (es : List (UserComponentId × UserComponent))
    (contribution : ResolvedPath → UserComponent → Option α) (id : UserComponentId) : Option α :=
  (es.lookup id).bind fun uc => (resolvedPathDb.get id).bind fun path => contribution path uc

end Contribution

/-- `after` is `before` with `v` written at `id`, when there is something to write. -/
def WritesAt {α : Type} (id : UserComponentId) (v : Option α)
    (before after : UserComponentId → Option α) : Prop :=
  ∀ i, after i = (if i = id then v else none).or (before i)

theorem WritesAt.of_none {α : Type} {id : UserComponentId} (f : UserComponentId → Option α) :
    WritesAt id none f f := fun i => by
  split <;> rfl

theorem writesAt_getOrIntern {α : Type} [DecidableEq α] (db : InternedDb α) (x : α)
    (id : UserComponentId) : WritesAt id (some x) db.get? (db.getOrIntern x id).2.get? := fun i => by
  rw [InternedDb.get?_getOrIntern]
  split <;> rfl

/-- The writes of the turns of `e :: es` compose into the contributions of `e :: es`, when
`e`'s id is not among those of `es`. -/
theorem writesAt_cons {α : Type} {resolvedPathDb : ResolvedPathDb}
    {contribution : ResolvedPath → UserComponent → Option α} {id : UserComponentId}
    {uc : UserComponent} {path : ResolvedPath} {es : List (UserComponentId × UserComponent)}
    {before mid after : UserComponentId → Option α} (hp : resolvedPathDb.get id = some path)
    (hid : id ∉ es.map Prod.fst) (h₁ : WritesAt id (contribution path uc) before mid)
    (h₂ : ∀ i, after i = (contributionAt resolvedPathDb es contribution i).or (mid i))
    (i : UserComponentId) :
    after i = (contributionAt resolvedPathDb ((id, uc) :: es) contribution i).or (before i) := by
  rw [h₂, h₁]
  by_cases hi : i = id
  · have hnone : es.lookup id = none := List.lookup_eq_none_iff.mpr fun p hp' =>
      bne_iff_ne.mpr fun h => hid (h ▸ List.mem_map_of_mem Prod.fst hp')
    subst hi
    simp [contributionAt, hnone, hp]
  · simp [contributionAt, List.lookup_cons, beq_false_of_ne hi, hi]

/-! ## One turn -/

section Turn

variable {c : Collaborators} {resolvedPathDb : ResolvedPathDb} {rawDb : RawUserComponentDb}
  {st st' : State}

/-- A turn that reports only pushes diagnostics. -/
theorem eq_of_report {report : Option (List Diagnostic)}
    (h : (report.bind fun ds => some { st with diagnostics := ds }) = some st') :
    ∃ ds, st' = { st with diagnostics := ds } := by
  obtain ⟨ds, -, h⟩ := Option.bind_eq_some.mp h
  exact ⟨ds, (Option.some.inj h).symm⟩

/-- **One turn writes its component's contribution at its id**, to each of the three
databases, and nothing else. -/
theorem resolveAndInternPath_writes {e : UserComponentId × UserComponent}
    (h : resolveAndInternPath c resolvedPathDb rawDb st e = some st') :
    ∃ path, resolvedPathDb.get e.1 = some path ∧
      WritesAt e.1 (callableOf c path e.2) st.computationDb.get? st'.computationDb.get? ∧
      WritesAt e.1 (prebuiltTypeOf c path e.2) st.prebuiltTypeDb.get? st'.prebuiltTypeDb.get? ∧
      WritesAt e.1 (configTypeOf c path e.2) st.configTypeDb.get? st'.configTypeDb.get? := by
  obtain ⟨id, uc⟩ := e
  simp only [resolveAndInternPath, Option.bind_eq_bind, Option.bind_eq_some,
    Option.pure_def] at h
  obtain ⟨path, hp, h⟩ := h
  refine ⟨path, hp, ?_⟩
  cases uc
  case prebuiltType =>
    simp only [callableOf, prebuiltTypeOf, configTypeOf]
    cases hty : c.resolveTypePath path with
    | error e =>
      simp only [hty] at h
      obtain ⟨ds, rfl⟩ := eq_of_report h
      exact ⟨.of_none _, .of_none _, .of_none _⟩
    | ok ty =>
      simp only [Except.toOption, Option.some_bind]
      cases hv : c.prebuiltTypeNew ty with
      | error e =>
        simp only [hty, hv] at h
        obtain ⟨ds, rfl⟩ := eq_of_report h
        exact ⟨.of_none _, .of_none _, .of_none _⟩
      | ok x =>
        simp only [hty, hv, Option.some.injEq] at h
        subst h
        exact ⟨.of_none _, writesAt_getOrIntern _ x id, .of_none _⟩
  case configType key _ _ =>
    simp only [callableOf, prebuiltTypeOf, configTypeOf]
    cases hty : c.resolveTypePath path with
    | error e =>
      simp only [hty] at h
      obtain ⟨ds, rfl⟩ := eq_of_report h
      exact ⟨.of_none _, .of_none _, .of_none _⟩
    | ok ty =>
      simp only [Except.toOption, Option.some_bind]
      cases hv : c.configTypeNew ty key with
      | error e =>
        simp only [hty, hv] at h
        obtain ⟨ds, rfl⟩ := eq_of_report h
        exact ⟨.of_none _, .of_none _, .of_none _⟩
      | ok x =>
        simp only [hty, hv, Option.some.injEq] at h
        subst h
        exact ⟨.of_none _, .of_none _, writesAt_getOrIntern _ x id⟩
  all_goals
    simp only [callableOf, prebuiltTypeOf, configTypeOf]
    cases hcall : c.resolveCallable path with
    | error e =>
      simp only [ComputationDb.resolveAndIntern_of_error hcall] at h
      obtain ⟨ds, rfl⟩ := eq_of_report h
      exact ⟨.of_none _, .of_none _, .of_none _⟩
    | ok x =>
      simp only [ComputationDb.resolveAndIntern_of_ok hcall, Option.some.injEq] at h
      subst h
      exact ⟨writesAt_getOrIntern _ x id, .of_none _, .of_none _⟩

end Turn

/-! ## The whole loop -/

section Run

variable {c : Collaborators} {resolvedPathDb : ResolvedPathDb} {rawDb : RawUserComponentDb}

/-- **The loop writes the contributions of its components.** Over components with distinct
ids, each database after the loop holds, at every id, the contribution of the component with
that id, or else what it held before. -/
theorem foldlM_resolveAndInternPath_writes :
    ∀ (es : List (UserComponentId × UserComponent)) (st st' : State),
      (es.map Prod.fst).Nodup →
      es.foldlM (resolveAndInternPath c resolvedPathDb rawDb) st = some st' → ∀ id,
      st'.computationDb.get? id =
          (contributionAt resolvedPathDb es (callableOf c) id).or (st.computationDb.get? id) ∧
        st'.prebuiltTypeDb.get? id =
          (contributionAt resolvedPathDb es (prebuiltTypeOf c) id).or (st.prebuiltTypeDb.get? id) ∧
        st'.configTypeDb.get? id =
          (contributionAt resolvedPathDb es (configTypeOf c) id).or (st.configTypeDb.get? id)
  | [], st, st', _, h, id => by
    cases h
    simp [contributionAt]
  | (id₀, uc) :: es, st, st', hnd, h, id => by
    rw [List.map_cons, List.nodup_cons] at hnd
    rw [List.foldlM_cons, Option.bind_eq_bind, Option.bind_eq_some] at h
    obtain ⟨st₁, h₁, h₂⟩ := h
    obtain ⟨path, hp, hcomp, hpre, hconf⟩ := resolveAndInternPath_writes h₁
    have ih := foldlM_resolveAndInternPath_writes es st₁ st' hnd.2 h₂
    exact ⟨writesAt_cons hp hnd.1 hcomp (fun i => (ih i).1) id,
      writesAt_cons hp hnd.1 hpre (fun i => (ih i).2.1) id,
      writesAt_cons hp hnd.1 hconf (fun i => (ih i).2.2) id⟩

/-- **What the databases hold after `resolve_and_intern_paths`.** Whenever the loop returns,
each database holds at every id the entry that the raw component with that id contributes to
it, registered with its resolved path, or else what the database held before the loop: the
resolved callable in the computation database for a component of any kind but the two type
kinds, the validated type in the prebuilt or configuration type database for those. A
component that fails, a component of another kind, or an id outside the raw database leaves the
entry as it was. -/
theorem resolveAndInternPaths_get? (c : Collaborators) (resolvedPathDb : ResolvedPathDb)
    (rawDb : RawUserComponentDb) (st st' : State)
    (h : resolveAndInternPaths c resolvedPathDb rawDb st = some st') (id : UserComponentId) :
    st'.computationDb.get? id = ((rawDb.get id).bind fun uc => (resolvedPathDb.get id).bind
        fun path => callableOf c path uc).or (st.computationDb.get? id) ∧
      st'.prebuiltTypeDb.get? id = ((rawDb.get id).bind fun uc => (resolvedPathDb.get id).bind
        fun path => prebuiltTypeOf c path uc).or (st.prebuiltTypeDb.get? id) ∧
      st'.configTypeDb.get? id = ((rawDb.get id).bind fun uc => (resolvedPathDb.get id).bind
        fun path => configTypeOf c path uc).or (st.configTypeDb.get? id) := by
  simpa only [contributionAt, ComponentTables.lookup_iter] using
    foldlM_resolveAndInternPath_writes rawDb.iter st st' rawDb.nodup_iter_ids h id

/-- After the loop on the sample, the constructor that resolved has its callable and the one
that failed has no entry; the prebuilt type that failed has an entry in no database, and the
configuration type has its validated type in its own database only. -/
theorem sampleComponents_get? :
    ∃ st', resolveAndInternPaths sampleCollaborators samplePaths sampleComponents
        emptyState = some st' ∧
      st'.computationDb.get? ⟨0⟩ = some ⟨⟨"crate::pool", []⟩, [], none⟩ ∧
      st'.computationDb.get? ⟨1⟩ = none ∧
      st'.computationDb.get? ⟨2⟩ = none ∧ st'.prebuiltTypeDb.get? ⟨2⟩ = none ∧
      st'.computationDb.get? ⟨3⟩ = none ∧
      st'.configTypeDb.get? ⟨3⟩ = some ⟨⟨"crate::PoolConfig", false, [], [], []⟩, "pool"⟩ :=
  have ⟨st', h⟩ := Option.isSome_iff_exists.mp (resolveAndInternPaths_isSome
    samplePaths_inputIndicesInRange : (resolveAndInternPaths sampleCollaborators samplePaths
      sampleComponents emptyState).isSome)
  have hget := resolveAndInternPaths_get? sampleCollaborators samplePaths sampleComponents
    emptyState st' h
  ⟨st', h, (hget ⟨0⟩).1, (hget ⟨1⟩).1, (hget ⟨2⟩).1, (hget ⟨2⟩).2.1, (hget ⟨3⟩).1,
    (hget ⟨3⟩).2.2⟩

end Run

end Pavex.UserComponents
