import NmDaemon.Base.Client
import NmDaemon.Base.Json

/-!
# Typed errors

The errors the daemon and its client report: a code, the operation that failed, the kind
of source it came from, a message, and details for the receiver. A `DomainError` is what
is raised, an `AnyError` what becomes of it (or of an error of another library) on its way up,
and an `ErrorReport` what is passed on of it.
-/

namespace NmDaemon

/-- What went wrong, for clients that decide by it. -/
inductive ErrorCode : Type where
  | validationError
  | networkmanagerUnavailable
  | conflict
  | authorizationRequired
  | notFound
  | timeout
  | outcomeUnknown
  | cancelled
  | secretRequired
  | wrongPassword
  | passwordUnavailable
  | unsupportedAuth
  | dhcpFailed
  | activationFailed
  | subprocessFailed
  | internalError
  | unknown
  deriving DecidableEq

/-- What was being done. -/
inductive ErrorOperation : Type where
  | initialise
  | parseRequest
  | connectSystemBus
  | createDbusProxy
  | status
  | connectivity
  | discovery
  | inventory
  | statistics
  | hotspotOperation
  | vpnOperation
  | qrOperation
  | networks
  | bandOperation
  | scan
  | connect
  | disconnect
  | profileOperation
  | subscribe
  | secretOperation
  | serializeResponse
  | emitEvent
  | unknown

inductive ErrorSource : Type where
  | validation
  | dbus
  | io
  | subprocess
  | serialization
  | networkManager
  | cancellation
  | internal

/-- A typed error. Its source kind is a field here and the variant in the source. -/
structure DomainError : Type where
  code : ErrorCode
  operation : ErrorOperation
  sourceKind : ErrorSource
  message : String
  /-- an ordered map -/
  details : List (String × Json)

namespace DomainError

def new (code : ErrorCode) (operation : ErrorOperation) (sourceKind : ErrorSource)
    (message : String) : DomainError :=
  ⟨code, operation, sourceKind, message, []⟩

def withDetail (error : DomainError) (key : String) (value : Json) : DomainError :=
  { error with details := Json.insertField key value error.details }

def validation (operation : ErrorOperation) (message : String) : DomainError :=
  new .validationError operation .validation message

def notFound (operation : ErrorOperation) (message : String) : DomainError :=
  new .notFound operation .networkManager message

def cancelledOperation (operation : ErrorOperation) (message : String) : DomainError :=
  new .cancelled operation .cancellation message

def cancelled (message : String) : DomainError := cancelledOperation .connect message

end DomainError

/-- What is passed on of an error. -/
structure ErrorReport : Type where
  code : ErrorCode
  operation : ErrorOperation
  source : ErrorSource
  message : String
  /-- an ordered map -/
  details : List (String × Json)

/-- An error on its way up (`anyhow::Error`). -/
structure AnyError : Type where
  /-- the messages of the chain, outermost first -/
  chain : List String
  /-- its first typed error, or else how what it comes from is classified -/
  kind : DomainError ⊕ (ErrorCode × ErrorSource × List (String × Json))

namespace AnyError

def ofDomain (error : DomainError) : AnyError := ⟨[error.message], .inl error⟩

def context (message : String) (error : AnyError) : AnyError :=
  { error with chain := message :: error.chain }

/-- It shows as its outermost message. -/
def display (error : AnyError) : String := error.chain.headD ""

/-- All messages. -/
def displayChain (error : AnyError) : String := ": ".intercalate error.chain

def findDomainError (error : AnyError) : Option DomainError := error.kind.getLeft?

/-- An error is typed where it leaves an operation. -/
def ensureDomain (operation : ErrorOperation) (error : AnyError) : AnyError :=
  match error.kind with
  | .inl _ => error
  | .inr (code, source, details) =>
    ⟨error.displayChain :: error.chain,
      .inl ⟨code, operation, source, error.displayChain, details⟩⟩

end AnyError

/-- The message of a typed error is its own, without the context that was added to it. -/
def ErrorReport.fromError (error : AnyError) (fallbackOperation : ErrorOperation) : ErrorReport :=
  match error.kind with
  | .inl domain => ⟨domain.code, domain.operation, domain.sourceKind, domain.message, domain.details⟩
  | .inr (code, source, details) => ⟨code, fallbackOperation, source, error.displayChain, details⟩

/-- The NetworkManager an operation is bound to is still there. A name that starts with a colon
belongs to one connection of the bus, so that its owner is compared; `failure` is how the
operation carries its errors. -/
def ensureCurrentOwner {C : Type} {R : C → Type} {ε : Type} (destination : String)
    (currentOwner : ExceptT ε (Client.Prog C R) String) (failure : DomainError → ε) :
    ExceptT ε (Client.Prog C R) Unit :=
  if destination.toList.head? = some ':' then do
    let owner ← currentOwner
    Client.ensure (owner = destination)
      (failure (.cancelled "NetworkManager changed during the operation"))
  else pure ()

end NmDaemon
