import Pavex.UserComponents.Component

/-!
# What `processed_db.rs` asks of the rest of the compiler

`resolve_and_intern_paths` and its four error helpers call into code that is not under
`src/`: the rustdoc-based resolvers, the validation of prebuilt and configuration types, the
source-file reader of `try_source!`, and the span computations of the diagnostics module. They
are modelled as one structure of functions, `Collaborators`, and every theorem about
`processed_db.rs` holds for every value of it. Each resolver returns an `Except`, so every
error variant it can return is covered.

The reflection types keep only what `processed_db.rs` reads of them: the lifetime and
generic parameters of a type that the validation messages list, and the callable item and
parameter index carried by the callable errors. Their `Display` renderings are fields of
`Collaborators` as well.
-/

namespace Pavex.UserComponents

/-! ## Reflection -/

/-- A crate of the package graph. -/
structure PackageId where
  repr : String
  deriving DecidableEq, Repr

/-- Modelled from the spec: `ResolvedPath` is not under src/. A raw identifier resolved
against its module context, shown as `{resolved_path}` in messages; it lists the packages its
segments come from. -/
structure ResolvedPath where
  display : String
  packageIds : List PackageId
  deriving DecidableEq, Repr

/-- A lifetime parameter of a type. -/
inductive GenericLifetimeParameter
  | named (name : String)
  | static
  | elided
  deriving DecidableEq, Repr

/-- `GenericLifetimeParameter::is_static`. -/
def GenericLifetimeParameter.isStatic : GenericLifetimeParameter → Bool
  | .static => true
  | _ => false

/-- `GenericLifetimeParameter::is_elided`. -/
def GenericLifetimeParameter.isElided : GenericLifetimeParameter → Bool
  | .elided => true
  | _ => false

/-- A `ResolvedType`, by its name and the parameter lists the validation helpers read. -/
structure ResolvedType where
  name : String
  hasImplicitLifetimeParameters : Bool
  namedLifetimeParameters : List String
  lifetimeParameters : List GenericLifetimeParameter
  unassignedGenericTypeParameters : List String
  deriving DecidableEq, Repr

/-- `PrebuiltType`: a type validated for registration as prebuilt. -/
structure PrebuiltType where
  ty : ResolvedType
  deriving DecidableEq, Repr

/-- `ConfigType`: a type validated for registration as configuration, with its key. -/
structure ConfigType where
  ty : ResolvedType
  key : String
  deriving DecidableEq, Repr

/-- A resolved callable: its path, input types and output type. -/
structure Callable where
  path : ResolvedPath
  inputs : List ResolvedType
  output : Option ResolvedType
  deriving DecidableEq, Repr

/-! ## Errors -/

/-- `PrebuiltTypeValidationError`. -/
inductive PrebuiltTypeValidationError
  | cannotHaveLifetimeParameters (ty : ResolvedType)
  | cannotHaveUnassignedGenericTypeParameters (ty : ResolvedType)
  deriving DecidableEq, Repr

/-- `ConfigTypeValidationError`. -/
inductive ConfigTypeValidationError
  | cannotHaveAnyLifetimeParameters (ty : ResolvedType)
  | cannotHaveUnassignedGenericTypeParameters (ty : ResolvedType)
  | invalidKey (key : String)
  deriving DecidableEq, Repr

/-- `TypeResolutionError`, by its message. -/
structure TypeResolutionError where
  message : String
  deriving DecidableEq, Repr

/-- The rustdoc item of a callable. -/
structure CallableItem where
  id : String
  deriving DecidableEq, Repr

/-- `InputParameterResolutionError`: the input of the callable whose type does not resolve. -/
structure InputParameterResolutionError where
  callableItem : CallableItem
  parameterIndex : Nat
  deriving DecidableEq, Repr

/-- `UnsupportedCallableKind`: the path names an item that is not a function or method. -/
structure UnsupportedCallableKind where
  importPath : String
  itemKind : String
  deriving DecidableEq, Repr

/-- `OutputTypeResolutionError`. -/
structure OutputTypeResolutionError where
  callableItem : CallableItem
  deriving DecidableEq, Repr

/-- `CallableResolutionError`, every variant that `cannot_resolve_callable_path` matches on. -/
inductive CallableResolutionError
  | unknownCallable (message : String)
  | inputParameterResolutionError (e : InputParameterResolutionError)
  | unsupportedCallableKind (e : UnsupportedCallableKind)
  | outputTypeResolutionError (e : OutputTypeResolutionError)
  | cannotGetCrateData (message : String)
  | genericParameterResolutionError (message : String)
  deriving DecidableEq, Repr

/-! ## Diagnostics -/

/-- A byte range of a source file. -/
structure SourceSpan where
  offset : Nat
  len : Nat
  deriving DecidableEq, Repr

/-- A span with the text shown under it. -/
structure LabeledSpan where
  span : SourceSpan
  label : String
  deriving DecidableEq, Repr

/-- `OptionalSourceSpanExt::labeled`. -/
def labeled (span : Option SourceSpan) (label : String) : Option LabeledSpan :=
  span.map fun span => ⟨span, label⟩

/-- A source file read for a diagnostic. -/
structure ParsedSourceFile where
  path : String
  contents : String
  deriving DecidableEq, Repr

/-- A named piece of source text. -/
structure NamedSource where
  name : String
  contents : String
  deriving DecidableEq, Repr

/-- `AnnotatedSnippet`: a second, labelled excerpt of a diagnostic. -/
structure AnnotatedSnippet where
  namedSource : NamedSource
  label : LabeledSpan
  deriving DecidableEq, Repr

/-- `CompilerDiagnostic`: an error with its chain of contexts, outermost first, and what the
builder attached to it. -/
structure CompilerDiagnostic where
  error : List String
  source : Option ParsedSourceFile
  label : Option LabeledSpan
  help : Option String
  annotatedSnippet : Option AnnotatedSnippet
  deriving DecidableEq, Repr

/-- `miette::Error`: a compiler diagnostic, or an error chain converted by `anyhow2miette`. -/
inductive Diagnostic
  | compiler (d : CompilerDiagnostic)
  | anyhow (chain : List String)
  deriving DecidableEq, Repr

/-- An argument of a source signature, by the span `cannot_resolve_callable_path` points at:
the type of a typed argument, or the whole receiver. -/
inductive FnArg
  | typed (tySpan : SourceSpan)
  | receiver (span : SourceSpan)
  deriving DecidableEq, Repr

/-- The return type of a source signature. -/
inductive ReturnType
  | default
  | type (span : SourceSpan)
  deriving DecidableEq, Repr

/-- `CallableDefinition`: the source of a callable, with its signature. -/
structure CallableDefinition where
  namedSource : NamedSource
  inputs : List FnArg
  output : ReturnType
  deriving DecidableEq, Repr

/-! ## The collaborators -/

/-- Everything `resolve_and_intern_paths` and its error helpers call that is not under
`src/`, each as a function of what it is given. -/
structure Collaborators where
  /-- `resolve_type_path`. -/
  resolveTypePath : ResolvedPath → Except TypeResolutionError ResolvedType
  /-- `PrebuiltType::new`. -/
  prebuiltTypeNew : ResolvedType → Except PrebuiltTypeValidationError PrebuiltType
  /-- `ConfigType::new`. -/
  configTypeNew : ResolvedType → String → Except ConfigTypeValidationError ConfigType
  /-- The resolution half of `ComputationDb::resolve_and_intern`. -/
  resolveCallable : ResolvedPath → Except CallableResolutionError Callable
  /-- Modelled from the spec: `try_source!` is not under src/. It reads the source file of a
  registration location for the diagnostic's source attribution, and returns the diagnostics
  it pushed when the file cannot be read. -/
  trySource : Location → Option ParsedSourceFile × List Diagnostic
  /-- `diagnostic::get_f_macro_invocation_span`. -/
  getFMacroInvocationSpan : ParsedSourceFile → Location → Option SourceSpan
  /-- `diagnostic::get_config_key_span`. -/
  getConfigKeySpan : ParsedSourceFile → Location → Option SourceSpan
  /-- `CallableDefinition::compute_from_item`. -/
  computeFromItem : CallableItem → Option CallableDefinition
  /-- `CallableDefinition::convert_local_span`. -/
  convertLocalSpan : CallableDefinition → SourceSpan → SourceSpan
  /-- `comma_separated_list`, applied to items already formatted, with its conjunction. -/
  commaSeparatedList : List String → String → String
  /-- The `Display` of `CallableType`. -/
  displayCallableType : CallableType → String
  /-- The `Display` of `TypeResolutionError`. -/
  displayTypeResolutionError : TypeResolutionError → String
  /-- The `Display` of `PrebuiltTypeValidationError`. -/
  displayPrebuiltTypeValidationError : PrebuiltTypeValidationError → String
  /-- The `Display` of `ConfigTypeValidationError`. -/
  displayConfigTypeValidationError : ConfigTypeValidationError → String
  /-- The `Display` of `CallableResolutionError`. -/
  displayCallableResolutionError : CallableResolutionError → String

/-! ## Interned databases -/

/-- Modelled from the spec: `ComputationDb`, `PrebuiltTypeDb` and `ConfigTypeDb` are not under
src/. Each interns values and records, for a user component, the id of the value interned for
it; every recorded id is an id of the interner. -/
structure InternedDb (α : Type) where
  interner : Interner α
  componentId2Id : List (UserComponentId × Nat)
  ids_lt : ∀ p ∈ componentId2Id, p.2 < interner.values.length

namespace InternedDb

variable {α : Type} [DecidableEq α]

/-- `get_or_intern(value, component_id)`: intern the value and record its id for the component. -/
def getOrIntern (db : InternedDb α) (x : α) (componentId : UserComponentId) :
    Nat × InternedDb α :=
  ((db.interner.getOrIntern x).1,
    { interner := (db.interner.getOrIntern x).2
      componentId2Id := (componentId, (db.interner.getOrIntern x).1) :: db.componentId2Id
      ids_lt := by
        intro p hp
        rcases List.mem_cons.mp hp with rfl | hp
        · exact Interner.getOrIntern_fst_lt _ _
        · exact lt_of_lt_of_le (db.ids_lt p hp)
            (db.interner.values_prefix_getOrIntern x).length_le })

/-- The value interned for a user component, if any. -/
def get? (db : InternedDb α) (componentId : UserComponentId) : Option α :=
  (db.componentId2Id.lookup componentId).bind fun id => db.interner.values[id]?

/-- Interning a value for a component records exactly that value for it, and leaves what was
recorded for every other component. -/
theorem get?_getOrIntern (db : InternedDb α) (x : α) (componentId id : UserComponentId) :
    (db.getOrIntern x componentId).2.get? id = if id = componentId then some x else db.get? id := by
  simp only [get?, getOrIntern, List.lookup_cons]
  by_cases h : id = componentId
  · simp [h, Interner.getElem?_getOrIntern]
  · simp only [beq_false_of_ne h, if_neg h]
    cases hk : db.componentId2Id.lookup id with
    | none => rfl
    | some k =>
      obtain ⟨l₁, l₂, heq, -⟩ := List.lookup_eq_some_iff.mp hk
      have hlt : k < db.interner.values.length := db.ids_lt (id, k) (by rw [heq]; simp)
      simp only [Option.some_bind, List.getElem?_eq_getElem hlt,
        List.getElem?_eq_getElem (lt_of_lt_of_le hlt
          (db.interner.values_prefix_getOrIntern x).length_le),
        (db.interner.values_prefix_getOrIntern x).getElem hlt]

end InternedDb

/-- `ComputationDb`. -/
abbrev ComputationDb := InternedDb Callable

/-- `PrebuiltTypeDb`. -/
abbrev PrebuiltTypeDb := InternedDb PrebuiltType

/-- `ConfigTypeDb`. -/
abbrev ConfigTypeDb := InternedDb ConfigType

/-- `ComputationDb::resolve_and_intern`: resolve the callable and intern it, recording its id
for the user component when one is given. -/
def ComputationDb.resolveAndIntern (c : Collaborators) (db : ComputationDb)
    (resolvedPath : ResolvedPath) (userComponentId : Option UserComponentId) :
    Except CallableResolutionError (Nat × ComputationDb) := do
  let callable ← c.resolveCallable resolvedPath
  match userComponentId with
  | some componentId => return db.getOrIntern callable componentId
  | none =>
    return ((db.interner.getOrIntern callable).1,
      { db with
        interner := (db.interner.getOrIntern callable).2
        ids_lt := fun p hp => lt_of_lt_of_le (db.ids_lt p hp)
          (db.interner.values_prefix_getOrIntern callable).length_le })

/-- Modelled from the spec: `ResolvedPathDb` is not under src/. The resolved path of each
component, keyed by component id. -/
structure ResolvedPathDb where
  paths : List (UserComponentId × ResolvedPath)
  deriving Repr

namespace ResolvedPathDb

/-- `resolved_path_db[raw_id]`; `none` is the panic of a missing entry. -/
def get (db : ResolvedPathDb) (id : UserComponentId) : Option ResolvedPath :=
  db.paths.lookup id

/-- `ResolvedPathDb::iter`. -/
def iter (db : ResolvedPathDb) : List (UserComponentId × ResolvedPath) := db.paths

end ResolvedPathDb

end Pavex.UserComponents
