import Nullability.Advice
import Nullability.Config.File

/-!
# Services of a run

What a run is put together from, by role. The configuration and what needs no preparation are
there from the start; ledgers, advisor and explorer are made when they are first asked for, since
opening the ledgers starts them afresh. Anything can be registered in place of a service, also a
plain value that cannot do its work.

* `Registry.create?` makes a registry, `Registry.get?` looks a service up;
* `Registry.getLedgers`, `Registry.getAdvisor` and `Registry.getExplorer` make what is missing;
* `getLedgers_of_some`: once there are ledgers they are never opened again.
-/

namespace Nullability

/-- A service. Two services are the same one when their numbers are. -/
inductive Service where
  | config (id : Nat) (value : Config)
  | console (id : Nat)
  | disk (id : Nat)
  | sites (id : Nat)
  | index (id : Nat)
  | ledgers (id : Nat) (value : Ledgers)
  | advisor (id : Nat) (config ledgers console : Service)
  | explorer (id : Nat) (advisor config sites index console : Service)
  /-- A plain number. -/
  | integer (id : Nat) (value : Int)
  /-- A plain text. -/
  | text (id : Nat) (value : Text)

/-- The number of a service. -/
def Service.id : Service → Nat
  | config id _ => id
  | console id => id
  | disk id => id
  | sites id => id
  | index id => id
  | ledgers id _ => id
  | advisor id _ _ _ => id
  | explorer id _ _ _ _ _ => id
  | integer id _ => id
  | text id _ => id

/-- What a service is registered as. -/
inductive Role where
  | config
  | console
  | disk
  | sites
  | index
  | ledgers
  | advisor
  | explorer
  /-- A role that the registry makes no use of. -/
  | other (name : Text)
  deriving DecidableEq, Repr

/-- Why a service cannot be had. -/
inductive ServiceError where
  | missing (name : Text)
  /-- A plain value stands where a service is needed. -/
  | unusable
  | opening (cause : OpenError)
  deriving DecidableEq, Repr

/-- The message for a service that cannot be had. -/
def ServiceError.message : ServiceError → Text
  | missing name => "Dependency '" ++ name ++ "' not registered."
  | unusable => "a plain value stands where a service is needed"
  | opening cause => cause.message

/-- The services of a run. -/
structure Registry where
  /-- The number of the next service. -/
  next : Nat
  config : Service
  console : Service
  disk : Service
  sites : Service
  index : Service
  ledgers : Option Service
  advisor : Option Service
  explorer : Option Service
  others : List (Text × Service)

namespace Registry

/-- The registry of a configuration. -/
def ofConfig (config : Config) : Registry where
  next := 5
  config := .config 0 config
  console := .console 1
  disk := .disk 2
  sites := .sites 3
  index := .index 4
  ledgers := none
  advisor := none
  explorer := none
  others := []

/-- The registry for a document, or for the settings of the nearest project file. -/
def create? (disk : Disk) (document : Option Document) (master : Bool) :
    Except LoadError Registry :=
  match document with
  | some document => .ok (ofConfig (Config.ofDocument document master))
  | none =>
      (Config.discover? disk).map fun document => ofConfig (Config.ofDocument document master)

/-! ## Looking up and registering -/

/-- A service that may be missing. -/
def found (name : Text) : Option Service → Except ServiceError Service
  | some s => .ok s
  | none => .error (.missing name)

/-- The service that is registered for a role. -/
def get? (r : Registry) : Role → Except ServiceError Service
  | .config => .ok r.config
  | .console => .ok r.console
  | .disk => .ok r.disk
  | .sites => .ok r.sites
  | .index => .ok r.index
  | .ledgers => found "Writer" r.ledgers
  | .advisor => found "Fixer" r.advisor
  | .explorer => found "NullCheckExplorer" r.explorer
  | .other name => found name (r.others.lookup name)

/-- Registers a service for a role, in place of one that is there. -/
def put (r : Registry) (role : Role) (s : Service) : Registry :=
  match role with
  | .config => { r with config := s }
  | .console => { r with console := s }
  | .disk => { r with disk := s }
  | .sites => { r with sites := s }
  | .index => { r with index := s }
  | .ledgers => { r with ledgers := some s }
  | .advisor => { r with advisor := some s }
  | .explorer => { r with explorer := some s }
  | .other name => { r with others := (name, s) :: r.others }

/-- Registers a service that is made from its number. -/
def register (r : Registry) (role : Role) (make : Nat → Service) : Service × Registry :=
  let s := make r.next
  (s, { r.put role s with next := r.next + 1 })

/-! ## Services made on demand -/

/-- The configuration with which only the ledger that is opened first is kept. -/
def firstLedgerOnly (config : Config) : Config :=
  if config.logErrors.isActive then { config with suggest := .off } else config

/-- Opens the ledgers where a plain value stands for the console: the first ledger is started
afresh, and the notice about it fails. -/
def openUnheard (config : Config) (run : Run) : Except ServiceError Ledgers × Run :=
  match Ledgers.open? (firstLedgerOnly config) Ledgers.defaultDelimiter run with
  | (.error e, run) => (.error (.opening e), run)
  | (.ok l, run) =>
      if config.logErrors.isActive || config.suggest.isActive then (.error .unusable, run)
      else (.ok l, run)

/-- Opens the ledgers with the services that are registered for it. -/
def openLedgers (r : Registry) (run : Run) : Except ServiceError Ledgers × Run :=
  match r.config, r.disk, r.console with
  | .config _ config, .disk _, .console _ =>
      match Ledgers.open? config Ledgers.defaultDelimiter run with
      | (.ok l, run) => (.ok l, run)
      | (.error e, run) => (.error (.opening e), run)
  -- What stands for the console is first needed when a ledger has been started.
  | .config _ config, .disk _, _ => openUnheard config run
  | _, _, _ => (.error .unusable, run)

/-- The ledgers, which are opened if there are none. -/
def getLedgers (r : Registry) (run : Run) : Except ServiceError Service × Registry × Run :=
  match r.ledgers with
  | some s => (.ok s, r, run)
  | none =>
      match r.openLedgers run with
      | (.error e, run) => (.error e, r, run)
      | (.ok l, run) =>
          let (s, r) := r.register .ledgers (.ledgers · l)
          (.ok s, r, run)

/-- The advisor, which is made if there is none. -/
def getAdvisor (r : Registry) (run : Run) : Except ServiceError Service × Registry × Run :=
  match r.advisor with
  | some s => (.ok s, r, run)
  | none =>
      match r.getLedgers run with
      | (.error e, r, run) => (.error e, r, run)
      | (.ok l, r, run) =>
          let (s, r) := r.register .advisor (.advisor · r.config l r.console)
          (.ok s, r, run)

/-- The explorer, which is made if there is none. -/
def getExplorer (r : Registry) (run : Run) : Except ServiceError Service × Registry × Run :=
  match r.explorer with
  | some s => (.ok s, r, run)
  | none =>
      match r.getAdvisor run with
      | (.error e, r, run) => (.error e, r, run)
      | (.ok a, r, run) =>
          let (s, r) := r.register .explorer (.explorer · a r.config r.sites r.index r.console)
          (.ok s, r, run)

/-- Ledgers that are there are given back, and nothing happens. -/
theorem getLedgers_of_some {r : Registry} {s : Service} (h : r.ledgers = some s) (run : Run) :
    r.getLedgers run = (.ok s, r, run) := by
  simp [getLedgers, h]

end Registry

/-! ## The shared registry -/

/-- The registry that a whole process shares, with its number, once it has been asked for. -/
structure SharedRegistry where
  /-- The number of the next shared registry. -/
  next : Nat
  current : Option (Nat × Registry)

namespace SharedRegistry

/-- No registry yet. -/
def empty : SharedRegistry := ⟨0, none⟩

/-- The shared registry, which is made from the nearest project file if there is none. -/
def get (s : SharedRegistry) (disk : Disk) : Except LoadError (Nat × Registry) × SharedRegistry :=
  match s.current with
  | some shared => (.ok shared, s)
  | none =>
      match Registry.create? disk none true with
      | .error e => (.error e, s)
      | .ok r => (.ok (s.next, r), ⟨s.next + 1, some (s.next, r)⟩)

/-- Drops the shared registry, so that the next request makes another one. -/
def reset (s : SharedRegistry) : SharedRegistry :=
  { s with current := none }

end SharedRegistry
end Nullability
