import NmDaemon.Variant

/-!
# Activation scopes

`activation.rs`: an activation the daemon started has a scope with a time budget, and the
credential requests NetworkManager makes for it are bound to that scope. Here is what a
credential request reads of a scope.

Scopes are shared objects; here they are numbered. The wake-up callback of a scope and its
count of pending credential requests, which only the activation's own verifier reads, are
left out.
-/

namespace NmDaemon

namespace Activation

/-- What is kept of the budget for NetworkManager to authenticate, in milliseconds. -/
def authenticationReserve : ℕ := 15000

inductive CredentialStop : Type where
  | cancelled
  | expired
  | unavailable

/-- One scope. Instants are in milliseconds. -/
structure State : Type where
  deadline : ℕ
  finished : Bool
  /-- no frontend was there to be asked -/
  missingFrontend : Bool
  /-- why credentials were not supplied -/
  failure : Option CredentialStop

namespace State

/-- Until when credentials can be supplied. -/
def credentialDeadline (state : State) : ℕ :=
  if authenticationReserve ≤ state.deadline then state.deadline - authenticationReserve
  else state.deadline

end State

end Activation

end NmDaemon
