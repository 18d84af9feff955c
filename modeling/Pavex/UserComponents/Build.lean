import Pavex.UserComponents.Contents

/-!
# `UserComponentDb::build`

`build` runs the stages of the user-component pass in order, each to completion, with
`exit_on_errors!` between them. First `RawUserComponentDb::build`, `ResolvedPathDb::build` and
`Router::new`, then `precompute_crate_docs`, then `resolve_and_intern_paths`. The first three
and `bootstrap_collection` are not under `src/`; `Stages` models them as functions that
return a result and the diagnostics vector they leave. Every theorem holds for every value of
them.

The type's documentation promises that the callable of every component has been resolved and
added to the computation database. `build_ok_interns_every_component` proves it: an `Ok` result
means that the last `exit_on_errors!` found no diagnostic, so no turn of the loop reported. By
`foldlM_resolveAndInternPath` every component then resolved, and it is interned in the
database for its kind. `build_ok_get?` says what the databases then hold, id by id: the
resolver's value for each returned component in the database for its kind, and what was there
before everywhere else. `build_halts_before_resolution` says the other half of the staging. The
databases change only when resolution ran, and resolution runs only on an empty diagnostics
vector, that is, only once every earlier stage has finished without a diagnostic.

The scope graph, the identifiers interner, the lint overrides and the default strategies that
`build` moves into the database are left out: nothing here reads them.
-/

namespace Pavex.UserComponents

/-- `UserComponentDb`: the component tables of the raw database, kept once every component has
resolved. -/
structure UserComponentDb extends ComponentTables

namespace UserComponentDb

/-- The destructuring of the raw database at the end of `build`. -/
def ofRaw (raw : RawUserComponentDb) : UserComponentDb := ⟨raw.toComponentTables⟩

/-- The components whose kind the predicate selects: the shape of every kind iterator. -/
def filterKind (db : UserComponentDb) (p : UserComponent → Bool) :
    List (UserComponentId × UserComponent) :=
  db.iter.filter fun e => p e.2

/-- `UserComponentDb::constructors`. -/
def constructors (db : UserComponentDb) := db.filterKind fun
  | .constructor .. => true
  | _ => false

/-- `UserComponentDb::prebuilt_types`. -/
def prebuiltTypes (db : UserComponentDb) := db.filterKind fun
  | .prebuiltType .. => true
  | _ => false

/-- `UserComponentDb::config_types`. -/
def configTypes (db : UserComponentDb) := db.filterKind fun
  | .configType .. => true
  | _ => false

/-- `UserComponentDb::request_handlers`: routes and fallbacks. -/
def requestHandlers (db : UserComponentDb) := db.filterKind fun
  | .requestHandler .. | .fallback .. => true
  | _ => false

/-- `UserComponentDb::wrapping_middlewares`. -/
def wrappingMiddlewares (db : UserComponentDb) := db.filterKind fun
  | .wrappingMiddleware .. => true
  | _ => false

/-- `UserComponentDb::post_processing_middlewares`. -/
def postProcessingMiddlewares (db : UserComponentDb) := db.filterKind fun
  | .postProcessingMiddleware .. => true
  | _ => false

/-- `UserComponentDb::pre_processing_middlewares`. -/
def preProcessingMiddlewares (db : UserComponentDb) := db.filterKind fun
  | .preProcessingMiddleware .. => true
  | _ => false

/-- `UserComponentDb::error_observers`. -/
def errorObservers (db : UserComponentDb) := db.filterKind fun
  | .errorObserver .. => true
  | _ => false

/-- `UserComponentDb::get_cloning_strategy`. -/
def getCloningStrategy (db : UserComponentDb) (id : UserComponentId) : Option CloningStrategy :=
  db.id2cloningStrategy.lookup id

/-- `UserComponentDb::get_middleware_ids`; `none` is the panic on a component that is not a
request handler. -/
def getMiddlewareIds (db : UserComponentDb) (id : UserComponentId) :
    Option (List UserComponentId) :=
  db.handlerId2middlewareIds.lookup id

/-- `UserComponentDb::get_error_observer_ids`; `none` is the panic on a component that is not
a request handler. -/
def getErrorObserverIds (db : UserComponentDb) (id : UserComponentId) :
    Option (List UserComponentId) :=
  db.handlerId2errorObserverIds.lookup id

@[simp] theorem iter_ofRaw (raw : RawUserComponentDb) : (ofRaw raw).iter = raw.iter := rfl

/-- The eight kind iterators, in the order the methods are declared. -/
def kindIterators (db : UserComponentDb) : List (List (UserComponentId × UserComponent)) :=
  [db.constructors, db.prebuiltTypes, db.configTypes, db.requestHandlers, db.wrappingMiddlewares,
    db.postProcessingMiddlewares, db.preProcessingMiddlewares, db.errorObservers]

/-- Every component of the database is yielded by exactly one kind iterator. -/
theorem countP_kindIterators {db : UserComponentDb} {e : UserComponentId × UserComponent}
    (he : e ∈ db.iter) : db.kindIterators.countP (fun l => decide (e ∈ l)) = 1 := by
  have hmem : ∀ p : UserComponent → Bool, decide (e ∈ db.filterKind p) = p e.2 := fun p => by
    simp [filterKind, List.mem_filter, he]
  simp only [kindIterators, constructors, prebuiltTypes, configTypes, requestHandlers,
    wrappingMiddlewares, postProcessingMiddlewares, preProcessingMiddlewares, errorObservers,
    List.countP_cons, List.countP_nil, hmem]
  obtain ⟨id, uc⟩ := e
  cases uc <;> rfl

end UserComponentDb

/-! ## The stages -/

/-- The stages `UserComponentDb::build` runs before resolution, none of them under `src/`.
Each takes the diagnostics vector and returns it with what it pushed. -/
structure Stages (Blueprint Router ScopeGraph : Type) where
  /-- `RawUserComponentDb::build`. -/
  rawUserComponentDbBuild : Blueprint → List Diagnostic →
    RawUserComponentDb × ScopeGraph × List Diagnostic
  /-- `ResolvedPathDb::build`. -/
  resolvedPathDbBuild : RawUserComponentDb → List Diagnostic → ResolvedPathDb × List Diagnostic
  /-- `Router::new`. -/
  routerNew : RawUserComponentDb → ScopeGraph → List Diagnostic →
    Except Unit Router × List Diagnostic
  /-- `CrateCollection::bootstrap_collection`, with the message of its error. -/
  bootstrapCollection : List PackageId → Except String Unit

section Build

variable {Blueprint Router ScopeGraph : Type}

/-- `precompute_crate_docs`: compute the documentation of every package a resolved path
names, in one batch, and report a failure. -/
def precomputeCrateDocs (s : Stages Blueprint Router ScopeGraph) (resolvedPathDb : ResolvedPathDb)
    (diagnostics : List Diagnostic) : List Diagnostic :=
  let packageIds := (resolvedPathDb.iter.flatMap fun (_, path) => path.packageIds).eraseDups
  match s.bootstrapCollection packageIds with
  | .ok () => diagnostics
  | .error e => diagnostics ++ [.anyhow
      ["I failed to compute the JSON documentation for one or more crates in the workspace.", e]]

/-- `UserComponentDb::build`. `none` is a panic inside `resolve_and_intern_paths`;
`.error ()` is the `Err(())` of `Router::new` or of an `exit_on_errors!`. -/
def build (c : Collaborators) (s : Stages Blueprint Router ScopeGraph) (bp : Blueprint)
    (st : State) : Option (Except Unit (Router × UserComponentDb) × State) :=
  let (rawDb, scopeGraph, diagnostics) := s.rawUserComponentDbBuild bp st.diagnostics
  let (resolvedPathDb, diagnostics) := s.resolvedPathDbBuild rawDb diagnostics
  match s.routerNew rawDb scopeGraph diagnostics with
  | (.error (), diagnostics) => some (.error (), { st with diagnostics })
  | (.ok router, diagnostics) =>
    if !diagnostics.isEmpty then some (.error (), { st with diagnostics }) else
    let diagnostics := precomputeCrateDocs s resolvedPathDb diagnostics
    if !diagnostics.isEmpty then some (.error (), { st with diagnostics }) else do
    let st ← resolveAndInternPaths c resolvedPathDb rawDb { st with diagnostics }
    if !st.diagnostics.isEmpty then return (.error (), st)
    return (.ok (router, UserComponentDb.ofRaw rawDb), st)

/-- The shape of every run of `build`: an early stage stops it with the databases untouched, or
resolution runs on an empty diagnostics vector and `build` returns what the last
`exit_on_errors!` decides. -/
theorem build_cases {c : Collaborators} {s : Stages Blueprint Router ScopeGraph} {bp : Blueprint}
    {st st' : State} {r : Except Unit (Router × UserComponentDb)}
    (h : build c s bp st = some (r, st')) :
    (r = .error () ∧ st'.computationDb = st.computationDb ∧
        st'.prebuiltTypeDb = st.prebuiltTypeDb ∧ st'.configTypeDb = st.configTypeDb) ∨
      ∃ rawDb scopeGraph diagnostics router,
        s.rawUserComponentDbBuild bp st.diagnostics = (rawDb, scopeGraph, diagnostics) ∧
        resolveAndInternPaths c (s.resolvedPathDbBuild rawDb diagnostics).1 rawDb
          { st with diagnostics := [] } = some st' ∧
        r = (if st'.diagnostics.isEmpty then .ok (router, UserComponentDb.ofRaw rawDb)
          else .error ()) := by
  rcases hraw : s.rawUserComponentDbBuild bp st.diagnostics with ⟨rawDb, scopeGraph, ds₁⟩
  rcases hpaths : s.resolvedPathDbBuild rawDb ds₁ with ⟨resolvedPathDb, ds₂⟩
  rcases hrouter : s.routerNew rawDb scopeGraph ds₂ with ⟨_ | router, ds₃⟩
  all_goals simp only [build, hraw, hpaths, hrouter] at h
  · cases h; exact .inl ⟨rfl, rfl, rfl, rfl⟩
  · split_ifs at h with h₁ h₂
    · cases h; exact .inl ⟨rfl, rfl, rfl, rfl⟩
    · cases h; exact .inl ⟨rfl, rfl, rfl, rfl⟩
    · have hnil : precomputeCrateDocs s resolvedPathDb ds₃ = [] := by simpa using h₂
      rw [hnil, Option.bind_eq_bind, Option.bind_eq_some] at h
      obtain ⟨st'', hres, h⟩ := h
      refine .inr ⟨rawDb, scopeGraph, ds₁, router, rfl, ?_⟩
      rw [hpaths]
      split_ifs at h with h₃ <;> cases h <;> exact ⟨hres, by simp_all⟩

/-- Stages that register `sampleComponents` with the given paths and report nothing. -/
def sampleStages (paths : ResolvedPathDb) : Stages Unit Unit Unit where
  rawUserComponentDbBuild _ ds := (sampleComponents, (), ds)
  resolvedPathDbBuild _ ds := (paths, ds)
  routerNew _ _ ds := (.ok (), ds)
  bootstrapCollection _ := .ok ()

/-- Paths for `sampleComponents` that all resolve. -/
def resolvingPaths : ResolvedPathDb :=
  ⟨[(⟨0⟩, ⟨"crate::pool", []⟩), (⟨1⟩, ⟨"crate::client", []⟩), (⟨2⟩, ⟨"crate::Settings", []⟩),
    (⟨3⟩, ⟨"crate::PoolConfig", []⟩), (⟨4⟩, ⟨"crate::home", []⟩), (⟨5⟩, ⟨"crate::Clock", []⟩)]⟩

/-- **What an `Ok` result of `build` leaves in the databases.** The returned database is the
raw one, and every component of it resolves against the paths `ResolvedPathDb::build`
produced. Each database holds, at every id, what the returned component with that id
contributes to it, or else what it held before `build`: the resolved callable in the
computation database for a component of any kind but the two type kinds, the validated type
in the prebuilt or configuration type database for those. -/
theorem build_ok_get? (c : Collaborators) (s : Stages Blueprint Router ScopeGraph) (bp : Blueprint)
    (st : State) {rawDb : RawUserComponentDb} {scopeGraph : ScopeGraph} {ds : List Diagnostic}
    {router : Router} {db : UserComponentDb} {st' : State}
    (hraw : s.rawUserComponentDbBuild bp st.diagnostics = (rawDb, scopeGraph, ds))
    (h : build c s bp st = some (.ok (router, db), st')) :
    db = .ofRaw rawDb ∧
      (∀ e ∈ db.iter, componentResolves c (s.resolvedPathDbBuild rawDb ds).1 e = true) ∧
      ∀ id,
        st'.computationDb.get? id = ((db.get id).bind fun uc =>
          ((s.resolvedPathDbBuild rawDb ds).1.get id).bind fun path => callableOf c path uc).or
            (st.computationDb.get? id) ∧
        st'.prebuiltTypeDb.get? id = ((db.get id).bind fun uc =>
          ((s.resolvedPathDbBuild rawDb ds).1.get id).bind fun path => prebuiltTypeOf c path uc).or
            (st.prebuiltTypeDb.get? id) ∧
        st'.configTypeDb.get? id = ((db.get id).bind fun uc =>
          ((s.resolvedPathDbBuild rawDb ds).1.get id).bind fun path => configTypeOf c path uc).or
            (st.configTypeDb.get? id) := by
  rcases build_cases h with ⟨hr, -⟩ | ⟨rawDb', scopeGraph', ds', router', hraw', hres, hr⟩
  · cases hr
  rw [hraw] at hraw'
  cases hraw'
  by_cases hd : st'.diagnostics.isEmpty
  · rw [if_pos hd, Except.ok.injEq, Prod.mk.injEq] at hr
    obtain ⟨rfl, rfl⟩ := hr
    obtain ⟨⟨blocks, hblocks, hf⟩, -⟩ :=
      foldlM_resolveAndInternPath rawDb.iter _ st' rawDb.nodup_iter_ids hres
    have hnil : blocks.flatten = [] := by
      rw [List.isEmpty_iff.mp hd] at hblocks
      exact (List.nil_append _ ▸ hblocks).symm
    refine ⟨rfl, forall_of_forall₂_nil (hf.imp fun _ _ hb => hb.eq_nil_iff) hnil, fun id => ?_⟩
    simpa only [contributionAt, ComponentTables.lookup_iter] using
      foldlM_resolveAndInternPath_writes rawDb.iter _ st' rawDb.nodup_iter_ids hres id
  · rw [if_neg hd] at hr
    cases hr

/-- Databases that already hold a callable for id 6, past the components of the sample. -/
def seededState : State :=
  { emptyState with
    computationDb :=
      (emptyState.computationDb.getOrIntern ⟨⟨"crate::legacy", []⟩, [], none⟩ ⟨6⟩).2 }

/-- After `build` returns `Ok` on the sample, the second constructor has its callable, the
prebuilt type its validated type in the prebuilt type database only, and id 6, past the six
components, keeps the callable it held before. -/
theorem build_sampleComponents_get? :
    ∃ st', build sampleCollaborators (sampleStages resolvingPaths) () seededState =
        some (.ok ((), .ofRaw sampleComponents), st') ∧
      st'.computationDb.get? ⟨1⟩ = some ⟨⟨"crate::client", []⟩, [], none⟩ ∧
      st'.computationDb.get? ⟨2⟩ = none ∧
      st'.prebuiltTypeDb.get? ⟨2⟩ = some ⟨⟨"crate::Settings", false, [], [], []⟩⟩ ∧
      st'.computationDb.get? ⟨6⟩ = some ⟨⟨"crate::legacy", []⟩, [], none⟩ :=
  have hraw : (sampleStages resolvingPaths).rawUserComponentDbBuild () seededState.diagnostics =
      (sampleComponents, (), []) := rfl
  have ⟨st', h⟩ : ∃ st', build sampleCollaborators (sampleStages resolvingPaths) () seededState =
      some (.ok ((), .ofRaw sampleComponents), st') := ⟨_, rfl⟩
  have hget := (build_ok_get? sampleCollaborators (sampleStages resolvingPaths) () seededState hraw
    h).2.2
  ⟨st', h, (hget ⟨1⟩).1, (hget ⟨2⟩).1, (hget ⟨2⟩).2.1, (hget ⟨6⟩).1⟩

/-- **Fail-fast between stages.** When `Router::new` fails, when the first three stages leave a
diagnostic, or when the crate documentation cannot be computed, `build` returns `Err` before
resolution starts, with the three databases as they were. -/
theorem build_halts_before_resolution (c : Collaborators) (s : Stages Blueprint Router ScopeGraph)
    (bp : Blueprint) (st : State) {rawDb : RawUserComponentDb} {scopeGraph : ScopeGraph}
    {resolvedPathDb : ResolvedPathDb} {routed : Except Unit Router}
    {ds₁ ds₂ ds₃ : List Diagnostic}
    (hraw : s.rawUserComponentDbBuild bp st.diagnostics = (rawDb, scopeGraph, ds₁))
    (hpaths : s.resolvedPathDbBuild rawDb ds₁ = (resolvedPathDb, ds₂))
    (hrouter : s.routerNew rawDb scopeGraph ds₂ = (routed, ds₃))
    (hstop : routed.toBool = false ∨ ds₃ ≠ [] ∨ precomputeCrateDocs s resolvedPathDb ds₃ ≠ []) :
    ∃ ds, build c s bp st = some (.error (), { st with diagnostics := ds }) := by
  cases routed with
  | error => simp only [build, hraw, hpaths, hrouter]; exact ⟨_, rfl⟩
  | ok router =>
    have hstop : ds₃ ≠ [] ∨ precomputeCrateDocs s resolvedPathDb ds₃ ≠ [] := by
      simpa [Except.toBool] using hstop
    simp only [build, hraw, hpaths, hrouter]
    by_cases h₃ : ds₃ = []
    · rw [if_neg (by simp [h₃]), if_pos (by simpa [h₃] using hstop)]
      exact ⟨_, rfl⟩
    · rw [if_pos (by simpa using h₃)]
      exact ⟨_, rfl⟩

end Build

end Pavex.UserComponents
