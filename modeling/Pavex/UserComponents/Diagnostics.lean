import Pavex.UserComponents.Collaborators

/-!
# The error helpers of `resolve_and_intern_paths`

A component whose type or callable does not resolve, or does not pass validation, is reported
by one of four helpers: `invalid_prebuilt_type`, `invalid_config_type`,
`cannot_resolve_type_path` and `cannot_resolve_callable_path`. They share one frame,
`pushDiagnostic`. It looks up where the component was registered and reads that file with
`try_source!`. Then it pushes one compiler diagnostic built from the error, the location and
the source. The helpers differ only in the diagnostic they build, and the messages are kept
word for word.

What `resolve_and_intern_paths` needs of them is `PushesReport`: a helper that returns leaves
the diagnostics it was given as a prefix and pushes at least one diagnostic after them. That
diagnostic's root cause is the error it reports, and it labels a span only in a source it
carries. The helpers can panic: `get_location` on a component with no location, and in
`cannot_resolve_callable_path` the index into the component database and the `unwrap` of the
input at `parameter_index`. `none` models each panic, and the `isSome` lemmas say when there
is none. For the `unwrap` that condition is also necessary
(`parameterIndexInRange_of_cannotResolveCallablePath`).
-/

namespace Pavex.UserComponents

section Helpers

variable (c : Collaborators)

/-! ## The shared frame -/

/-- What every error helper does around its diagnostic: look up where the component was
registered, read that source file with `try_source!`, and push the diagnostic built from the
location and the source. `none` is a panic: a missing location, or one inside the builder. -/
def pushDiagnostic (componentId : UserComponentId) (componentDb : RawUserComponentDb)
    (diagnostics : List Diagnostic)
    (diagnostic : Location → Option ParsedSourceFile → Option CompilerDiagnostic) :
    Option (List Diagnostic) := do
  let location ← componentDb.getLocation componentId
  let (source, pushed) := c.trySource location
  let d ← diagnostic location source
  return diagnostics ++ pushed ++ [.compiler d]

/-- `get_f_macro_invocation_span(source, location).labeled(label)`, when the source was read. -/
def fMacroLabel (source : Option ParsedSourceFile) (location : Location) (label : String) :
    Option LabeledSpan :=
  source.bind fun source => labeled (c.getFMacroInvocationSpan source location) label

/-! ## Messages -/

/-- The sentence both validation helpers append for unassigned generic type parameters. -/
def unassignedGenericsMessage (resolvedPath : ResolvedPath) : List String → String
  | [p] => "\n`" ++ resolvedPath.display ++ "` has a generic type parameter, `" ++ p ++
      "`, that you haven't assigned a concrete type to."
  | ps => "\n`" ++ resolvedPath.display ++ "` has " ++ toString ps.length ++
      " generic type parameters that you haven't assigned concrete types to: " ++
      c.commaSeparatedList (ps.map fun s => "`" ++ s ++ "`") "and" ++ "."

/-- What `invalid_prebuilt_type` appends to the error's message, and its help. -/
def invalidPrebuiltTypeDetail (resolvedPath : ResolvedPath) :
    PrebuiltTypeValidationError → String × String
  | .cannotHaveLifetimeParameters ty =>
    (if ty.hasImplicitLifetimeParameters then
        "\n`" ++ resolvedPath.display ++
          "` has elided lifetime parameters, which might be non-'static.\n"
      else match ty.namedLifetimeParameters with
        | [l] => "\n`" ++ resolvedPath.display ++ "` has a named lifetime parameter, `'" ++ l ++
            "`, that you haven't constrained to be 'static."
        | named => "\n`" ++ resolvedPath.display ++ "` has " ++ toString named.length ++
            " named lifetime parameters that you haven't constrained to be 'static: " ++
            c.commaSeparatedList (named.map fun s => "`'" ++ s ++ "`") "and" ++ ".",
      "Set the lifetime parameters to `'static` when registering the type as prebuilt. " ++
        "E.g. `bp.prebuilt(t!(crate::MyType<'static>))` for `struct MyType<'a>(&'a str)`.")
  | .cannotHaveUnassignedGenericTypeParameters ty =>
    (unassignedGenericsMessage c resolvedPath ty.unassignedGenericTypeParameters,
      "Set the generic parameters to concrete types when registering the type as prebuilt. " ++
        "E.g. `bp.prebuilt(t!(crate::MyType<std::string::String>))` for `struct MyType<T>(T)`.")

/-- `n` lifetime parameters of one kind, as `invalid_config_type` counts them. -/
def lifetimeCount (n : Nat) (kind : String) : String :=
  if n = 1 then "1 " ++ kind ++ " lifetime parameter"
  else toString n ++ " " ++ kind ++ " lifetime parameters"

/-- The parts `invalid_config_type` lists for a type with lifetime parameters: the named ones,
the elided ones, then the static ones, each part only when there are some. -/
def lifetimeParts (ty : ResolvedType) : List String :=
  let named := ty.namedLifetimeParameters
  let (elided, static_) :=
    (ty.lifetimeParameters.filter fun l => l.isStatic || l.isElided).partition (·.isElided)
  (if named.isEmpty then []
    else [match named with
      | [lifetime] => "1 named lifetime parameter (`'" ++ lifetime ++ "'`)"
      | _ => toString named.length ++ " named lifetime parameters (" ++
          c.commaSeparatedList (named.map fun s => "`'" ++ s ++ "`") "and" ++ ")"]) ++
  (if elided.isEmpty then [] else [lifetimeCount elided.length "elided"]) ++
  (if static_.isEmpty then [] else [lifetimeCount static_.length "static"])

/-- What `invalid_config_type` appends to the error's message, and its help. -/
def invalidConfigTypeDetail (resolvedPath : ResolvedPath) :
    ConfigTypeValidationError → String × Option String
  | .invalidKey _ => ("", none)
  | .cannotHaveAnyLifetimeParameters ty =>
    ("\n`" ++ resolvedPath.display ++ "` has " ++ c.commaSeparatedList (lifetimeParts c ty) "and" ++
        ".",
      some "Remove all lifetime parameters from the definition of your configuration type.")
  | .cannotHaveUnassignedGenericTypeParameters ty =>
    (unassignedGenericsMessage c resolvedPath ty.unassignedGenericTypeParameters,
      some ("Set the generic parameters to concrete types when registering the type as " ++
        "configuration. E.g. `bp.config(t!(crate::MyType<std::string::String>))` for " ++
        "`struct MyType<T>(T)`."))

/-- The label of `invalid_config_type`: the key for an invalid key, the registration otherwise. -/
def invalidConfigTypeLabel (e : ConfigTypeValidationError) (source : Option ParsedSourceFile)
    (location : Location) : Option LabeledSpan :=
  match e with
  | .invalidKey _ =>
    source.bind fun source =>
      labeled (c.getConfigKeySpan source location) "The config key was registered here"
  | _ => fMacroLabel c source location "The config type was registered here"

/-! ## The four helpers -/

/-- `UserComponentDb::invalid_prebuilt_type`. -/
def invalidPrebuiltType (e : PrebuiltTypeValidationError) (resolvedPath : ResolvedPath)
    (componentId : UserComponentId) (componentDb : RawUserComponentDb)
    (diagnostics : List Diagnostic) : Option (List Diagnostic) :=
  pushDiagnostic c componentId componentDb diagnostics fun location source =>
    let (detail, help) := invalidPrebuiltTypeDetail c resolvedPath e
    some
      { error := [c.displayPrebuiltTypeValidationError e ++ detail,
          c.displayPrebuiltTypeValidationError e]
        source
        label := fMacroLabel c source location "The prebuilt type was registered here"
        help := some help
        annotatedSnippet := none }

/-- `UserComponentDb::invalid_config_type`. -/
def invalidConfigType (e : ConfigTypeValidationError) (resolvedPath : ResolvedPath)
    (componentId : UserComponentId) (componentDb : RawUserComponentDb)
    (diagnostics : List Diagnostic) : Option (List Diagnostic) :=
  pushDiagnostic c componentId componentDb diagnostics fun location source =>
    let (detail, help) := invalidConfigTypeDetail c resolvedPath e
    some
      { error := [c.displayConfigTypeValidationError e ++ detail,
          c.displayConfigTypeValidationError e]
        source
        label := invalidConfigTypeLabel c e source location
        help
        annotatedSnippet := none }

/-- `UserComponentDb::cannot_resolve_type_path`. -/
def cannotResolveTypePath (e : TypeResolutionError) (componentId : UserComponentId)
    (componentDb : RawUserComponentDb) (diagnostics : List Diagnostic) :
    Option (List Diagnostic) :=
  pushDiagnostic c componentId componentDb diagnostics fun location source =>
    some
      { error := [c.displayTypeResolutionError e]
        source
        label := fMacroLabel c source location "The type that we can't resolve"
        help := some "Check that the path is spelled correctly and that the type is public."
        annotatedSnippet := none }

/-- The excerpt of the callable's signature for an `InputParameterResolutionError`, when its
source is found: the input at `parameter_index`. `none` is the panic of the `unwrap` when the
index is past the last input. -/
def inputParameterSnippet (inner : InputParameterResolutionError) :
    Option (Option AnnotatedSnippet) :=
  match c.computeFromItem inner.callableItem with
  | some defn => do
    let input ← defn.inputs[inner.parameterIndex]?
    let localSpan := match input with
      | .typed tySpan => tySpan
      | .receiver span => span
    return some ⟨defn.namedSource,
      ⟨c.convertLocalSpan defn localSpan, "I don't know how handle this parameter"⟩⟩
  | none => some none

/-- The excerpt of the callable's signature for an `OutputTypeResolutionError`: its output
type, when its source is found and it declares one. -/
def outputTypeSnippet (inner : OutputTypeResolutionError) : Option AnnotatedSnippet :=
  match c.computeFromItem inner.callableItem with
  | some defn =>
    (match defn.output with
      | .default => none
      | .type span => some span).map fun s =>
        ⟨defn.namedSource, ⟨c.convertLocalSpan defn s, "The output type that I can't handle"⟩⟩
  | none => none

/-- `UserComponentDb::cannot_resolve_callable_path`, one diagnostic per variant of the error. -/
def cannotResolveCallablePath (e : CallableResolutionError) (componentId : UserComponentId)
    (componentDb : RawUserComponentDb) (diagnostics : List Diagnostic) :
    Option (List Diagnostic) := do
  let component ← componentDb.get componentId
  let callableType := c.displayCallableType component.kind
  pushDiagnostic c componentId componentDb diagnostics fun location source =>
    match e with
    | .unknownCallable _ => some
      { error := [c.displayCallableResolutionError e]
        source
        label := fMacroLabel c source location ("The " ++ callableType ++ " that we can't resolve")
        help := some ("Check that the path is spelled correctly and that the function " ++
          "(or method) is public.")
        annotatedSnippet := none }
    | .inputParameterResolutionError inner => do
      let definitionSnippet ← inputParameterSnippet c inner
      return { error := [c.displayCallableResolutionError e]
               source
               label := fMacroLabel c source location
                 ("The " ++ callableType ++ " was registered here")
               help := none
               annotatedSnippet := definitionSnippet }
    | .unsupportedCallableKind inner => some
      { error := ["I can work with functions and methods, but `" ++ inner.importPath ++
            "` is neither.\nIt is " ++ inner.itemKind ++ " and I don't know how to use it as a " ++
            callableType ++ ".", c.displayCallableResolutionError e]
        source
        label := fMacroLabel c source location ("It was registered as a " ++ callableType ++ " here")
        help := none
        annotatedSnippet := none }
    | .outputTypeResolutionError inner => some
      { error := [c.displayCallableResolutionError e]
        source
        label := fMacroLabel c source location ("The " ++ callableType ++ " was registered here")
        help := none
        annotatedSnippet := outputTypeSnippet c inner }
    | .cannotGetCrateData _ => some
      { error := [c.displayCallableResolutionError e]
        source := none
        label := none
        help := none
        annotatedSnippet := none }
    | .genericParameterResolutionError _ => some
      { error := [c.displayCallableResolutionError e]
        source
        label := fMacroLabel c source location ("The " ++ callableType ++ " was registered here")
        help := none
        annotatedSnippet := none }

end Helpers

/-! ## What a helper pushes -/

/-- A block of diagnostics reporting `message`: what `try_source!` pushed, then one compiler
diagnostic whose root cause is `message` and which labels a span only in the source it
carries. -/
def Report (block : List Diagnostic) (message : String) : Prop :=
  ∃ pushed d, block = pushed ++ [Diagnostic.compiler d] ∧ d.error.getLast? = some message ∧
    (d.label.isSome → d.source.isSome)

/-- `ds'` is `ds` followed by a block reporting `message`. -/
def PushesReport (ds ds' : List Diagnostic) (message : String) : Prop :=
  ∃ block, ds' = ds ++ block ∧ Report block message

theorem Report.ne_nil {block : List Diagnostic} {message : String} (h : Report block message) :
    block ≠ [] := by
  obtain ⟨pushed, d, rfl, -⟩ := h
  simp

/-- What the `unwrap` of `cannot_resolve_callable_path` relies on: where the source of the
callable of an `InputParameterResolutionError` is found, its `parameter_index` indexes one of
the signature's inputs. -/
def ParameterIndexInRange (c : Collaborators) (inner : InputParameterResolutionError) : Prop :=
  ∀ defn, c.computeFromItem inner.callableItem = some defn →
    inner.parameterIndex < defn.inputs.length

section Lemmas

variable {c : Collaborators} {componentId : UserComponentId} {componentDb : RawUserComponentDb}
  {diagnostics ds' : List Diagnostic}

theorem pushDiagnostic_eq_some
    {f : Location → Option ParsedSourceFile → Option CompilerDiagnostic} :
    pushDiagnostic c componentId componentDb diagnostics f = some ds' ↔
      ∃ location d, componentDb.getLocation componentId = some location ∧
        f location (c.trySource location).1 = some d ∧
        ds' = diagnostics ++ (c.trySource location).2 ++ [.compiler d] := by
  simp only [pushDiagnostic, Option.bind_eq_bind, Option.bind_eq_some, Option.pure_def,
    Option.some.injEq]
  constructor
  · rintro ⟨location, hl, d, hd, rfl⟩; exact ⟨location, d, hl, hd, rfl⟩
  · rintro ⟨location, d, hl, hd, rfl⟩; exact ⟨location, hl, d, hd, rfl⟩

/-- The frame pushes a report of `message` when every diagnostic the builder makes does. -/
theorem pushesReport_of_pushDiagnostic
    {f : Location → Option ParsedSourceFile → Option CompilerDiagnostic} {message : String}
    (hf : ∀ location source d, f location source = some d →
      d.error.getLast? = some message ∧ (d.label.isSome → d.source.isSome))
    (h : pushDiagnostic c componentId componentDb diagnostics f = some ds') :
    PushesReport diagnostics ds' message := by
  obtain ⟨location, d, -, hd, rfl⟩ := pushDiagnostic_eq_some.mp h
  exact ⟨_, List.append_assoc _ _ _, _, d, rfl, hf _ _ d hd⟩

/-- The frame returns when the component has a location and the builder does not panic. -/
theorem pushDiagnostic_isSome
    {f : Location → Option ParsedSourceFile → Option CompilerDiagnostic}
    (hloc : (componentDb.getLocation componentId).isSome)
    (hf : ∀ location source, (f location source).isSome) :
    (pushDiagnostic c componentId componentDb diagnostics f).isSome := by
  obtain ⟨location, hl⟩ := Option.isSome_iff_exists.mp hloc
  obtain ⟨d, hd⟩ := Option.isSome_iff_exists.mp (hf location (c.trySource location).1)
  rw [Option.isSome_iff_exists]
  exact ⟨_, pushDiagnostic_eq_some.mpr ⟨location, d, hl, hd, rfl⟩⟩

theorem isSome_of_fMacroLabel {source : Option ParsedSourceFile} {location : Location}
    {label : String} (h : (fMacroLabel c source location label).isSome) : source.isSome := by
  cases source
  · exact absurd h (by simp [fMacroLabel])
  · rfl

theorem invalidPrebuiltType_pushesReport {e : PrebuiltTypeValidationError}
    {resolvedPath : ResolvedPath}
    (h : invalidPrebuiltType c e resolvedPath componentId componentDb diagnostics = some ds') :
    PushesReport diagnostics ds' (c.displayPrebuiltTypeValidationError e) := by
  refine pushesReport_of_pushDiagnostic (fun location source d hd => ?_) h
  cases hd
  exact ⟨rfl, isSome_of_fMacroLabel⟩

theorem invalidConfigType_pushesReport {e : ConfigTypeValidationError}
    {resolvedPath : ResolvedPath}
    (h : invalidConfigType c e resolvedPath componentId componentDb diagnostics = some ds') :
    PushesReport diagnostics ds' (c.displayConfigTypeValidationError e) := by
  refine pushesReport_of_pushDiagnostic (fun location source d hd => ?_) h
  cases hd
  refine ⟨rfl, fun hl => ?_⟩
  cases source
  · cases e <;> simp [invalidConfigTypeLabel, fMacroLabel] at hl
  · rfl

theorem cannotResolveTypePath_pushesReport {e : TypeResolutionError}
    (h : cannotResolveTypePath c e componentId componentDb diagnostics = some ds') :
    PushesReport diagnostics ds' (c.displayTypeResolutionError e) :=
  pushesReport_of_pushDiagnostic (fun _ _ _ hd => by cases hd; exact ⟨rfl, isSome_of_fMacroLabel⟩) h

theorem cannotResolveCallablePath_pushesReport {e : CallableResolutionError}
    (h : cannotResolveCallablePath c e componentId componentDb diagnostics = some ds') :
    PushesReport diagnostics ds' (c.displayCallableResolutionError e) := by
  obtain ⟨component, -, h⟩ := Option.bind_eq_some.mp h
  refine pushesReport_of_pushDiagnostic (fun location source d hd => ?_) h
  cases e with
  | inputParameterResolutionError inner =>
    obtain ⟨snippet, -, hd⟩ := Option.bind_eq_some.mp hd
    cases hd
    exact ⟨rfl, isSome_of_fMacroLabel⟩
  | cannotGetCrateData => cases hd; exact ⟨rfl, fun h => absurd h (by simp)⟩
  | _ => cases hd; exact ⟨rfl, isSome_of_fMacroLabel⟩

theorem invalidPrebuiltType_isSome {e : PrebuiltTypeValidationError}
    {resolvedPath : ResolvedPath} (hloc : (componentDb.getLocation componentId).isSome) :
    (invalidPrebuiltType c e resolvedPath componentId componentDb diagnostics).isSome :=
  pushDiagnostic_isSome hloc fun _ _ => rfl

theorem invalidConfigType_isSome {e : ConfigTypeValidationError}
    {resolvedPath : ResolvedPath} (hloc : (componentDb.getLocation componentId).isSome) :
    (invalidConfigType c e resolvedPath componentId componentDb diagnostics).isSome :=
  pushDiagnostic_isSome hloc fun _ _ => rfl

theorem cannotResolveTypePath_isSome {e : TypeResolutionError}
    (hloc : (componentDb.getLocation componentId).isSome) :
    (cannotResolveTypePath c e componentId componentDb diagnostics).isSome :=
  pushDiagnostic_isSome hloc fun _ _ => rfl

theorem inputParameterSnippet_isSome {inner : InputParameterResolutionError}
    (h : ParameterIndexInRange c inner) : (inputParameterSnippet c inner).isSome := by
  unfold inputParameterSnippet
  split
  · next defn hdefn =>
    simp [List.getElem?_eq_getElem (h defn hdefn)]
  · rfl

/-- The `unwrap` of the input at `parameter_index` panics exactly when `ParameterIndexInRange`
fails. -/
theorem parameterIndexInRange_of_isSome {inner : InputParameterResolutionError}
    (h : (inputParameterSnippet c inner).isSome) : ParameterIndexInRange c inner := by
  intro defn hdefn
  unfold inputParameterSnippet at h
  rw [hdefn] at h
  cases hi : defn.inputs[inner.parameterIndex]? with
  | none => simp [hi] at h
  | some _ => exact (List.getElem?_eq_some_iff.mp hi).1

/-- A report of an `InputParameterResolutionError` that does not panic indexes an input of
the callable's signature. -/
theorem parameterIndexInRange_of_cannotResolveCallablePath {inner : InputParameterResolutionError}
    (h : (cannotResolveCallablePath c (.inputParameterResolutionError inner) componentId
      componentDb diagnostics).isSome) : ParameterIndexInRange c inner := by
  obtain ⟨ds, h⟩ := Option.isSome_iff_exists.mp h
  obtain ⟨_, -, h⟩ := Option.bind_eq_some.mp h
  obtain ⟨_, d, -, hd, -⟩ := pushDiagnostic_eq_some.mp h
  obtain ⟨snippet, hs, -⟩ := Option.bind_eq_some.mp hd
  exact parameterIndexInRange_of_isSome (Option.isSome_iff_exists.mpr ⟨snippet, hs⟩)

/-- `cannot_resolve_callable_path` returns when the component has a location and an entry in
the database and, for an `InputParameterResolutionError`, `ParameterIndexInRange` holds. -/
theorem cannotResolveCallablePath_isSome {e : CallableResolutionError}
    (hloc : (componentDb.getLocation componentId).isSome)
    (hget : (componentDb.get componentId).isSome)
    (hidx : ∀ inner, e = .inputParameterResolutionError inner → ParameterIndexInRange c inner) :
    (cannotResolveCallablePath c e componentId componentDb diagnostics).isSome := by
  obtain ⟨component, hc⟩ := Option.isSome_iff_exists.mp hget
  simp only [cannotResolveCallablePath, hc, Option.bind_eq_bind, Option.some_bind]
  refine pushDiagnostic_isSome hloc fun location source => ?_
  cases e with
  | inputParameterResolutionError inner =>
    obtain ⟨snippet, hs⟩ := Option.isSome_iff_exists.mp (inputParameterSnippet_isSome (hidx inner rfl))
    simp [hs]
  | _ => rfl

end Lemmas

end Pavex.UserComponents
