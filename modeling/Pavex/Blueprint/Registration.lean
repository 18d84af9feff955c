import Pavex.UserComponents.Component

/-!
# Registering components against a blueprint

The blueprint is the input of the whole pass: an ordered list of registration entries. The
files of `src/` that build one are the unregistered wrapping middleware
(`pavex/src/blueprint/middleware/wrapping/unregistered.rs`) and the starter application's
`configuration::register`. The blueprint itself is not under `src/`. It is modelled after the
spec's input: each registration pushes one entry at the end, and the handle it returns holds
that entry's position.
-/

namespace Pavex.Registration

open UserComponents (Location)

/-- Modelled from the spec: `RawIdentifiers` is not under src/. The raw symbolic identifier
of a registered item, as the user wrote it. -/
structure RawIdentifiers where
  importPath : String
  deriving DecidableEq, Repr

/-- `WithLocation<T>`: a value and the location of the call that made it (`#[track_caller]`). -/
structure WithLocation (α : Type) where
  value : α
  location : Location
  deriving DecidableEq, Repr

/-- Modelled from the spec: `pavex_bp_schema::Callable` is not under src/. A callable of the
blueprint: its raw identifiers and where it was registered. -/
structure Callable where
  callable : RawIdentifiers
  location : Location
  deriving DecidableEq, Repr

/-- Modelled from the spec: `raw_identifiers2callable` is not under src/. -/
def rawIdentifiers2callable (c : WithLocation RawIdentifiers) : Callable :=
  ⟨c.value, c.location⟩

/-- Modelled from the spec: a registration entry of the blueprint, for the kinds the code
under `src/` registers. -/
inductive Component
  | wrappingMiddleware (middleware : Callable) (errorHandler : Option Callable)
  | configType (key : String) (input : WithLocation RawIdentifiers)
  deriving DecidableEq, Repr

/-- Modelled from the spec: `Blueprint` is not under src/. The ordered registration entries. -/
structure Blueprint where
  components : List Component
  deriving DecidableEq, Repr

namespace Blueprint

/-- Push one entry and return its position, the id its handle carries. -/
def pushComponent (bp : Blueprint) (component : Component) : Blueprint × Nat :=
  (⟨bp.components ++ [component]⟩, bp.components.length)

/-- Modelled from the spec: `Blueprint::config`, registering a configuration type under a
key. -/
def config (bp : Blueprint) (key : String) (type_ : WithLocation RawIdentifiers) : Blueprint × Nat :=
  bp.pushComponent (.configType key type_)

end Blueprint

/-- `WrappingMiddleware`: a middleware configured but not yet registered with a blueprint. -/
structure WrappingMiddleware where
  callable : Callable
  errorHandler : Option Callable
  deriving DecidableEq, Repr

namespace WrappingMiddleware

/-- `WrappingMiddleware::new`: no error handler yet. -/
def new (callable : WithLocation RawIdentifiers) : WrappingMiddleware :=
  { callable := rawIdentifiers2callable callable, errorHandler := none }

/-- `WrappingMiddleware::error_handler`: set the error handler, replacing any earlier one. -/
def withErrorHandler (m : WrappingMiddleware) (errorHandler : WithLocation RawIdentifiers) :
    WrappingMiddleware :=
  { m with errorHandler := some (rawIdentifiers2callable errorHandler) }

/-- `WrappingMiddleware::register`, through `Blueprint::register_wrapping_middleware`: the
blueprint with the middleware's entry pushed, and the id of that entry. -/
def register (m : WrappingMiddleware) (bp : Blueprint) : Blueprint × Nat :=
  bp.pushComponent (.wrappingMiddleware m.callable m.errorHandler)

end WrappingMiddleware

/-! ## The starter application -/

/-- The types the starter registers as configuration, each with the location of its `t!`. -/
structure StarterTypes where
  serverConfig : WithLocation RawIdentifiers
  greetConfig : WithLocation RawIdentifiers

/-- `configuration::register` of the starter application. -/
def registerConfiguration (types : StarterTypes) (bp : Blueprint) : Blueprint :=
  let (bp, _) := bp.config "server" types.serverConfig
  let (bp, _) := bp.config "greet" types.greetConfig
  bp

end Pavex.Registration
