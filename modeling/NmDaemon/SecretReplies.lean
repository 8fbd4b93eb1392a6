import NmDaemon.Base.Along
import NmDaemon.SecretFilling

/-!
# What a `GetSecrets` call replies

`daemon_secret.rs`: a call of NetworkManager's for the secrets of a profile is answered from
what it passed, from what was handed over earlier, or by a frontend. Everything the call shares
with others (the flag it is cancelled by, the registries, the handoff, the clock) is read by
calls of its own, and what they answer is left open: it may be anything at any time.

* `getSecrets` — the lookup, call by call. How long a frontend is waited for is not bounded;
  `rounds` is a bound on the rounds, and a lookup that exceeds it has no result yet. Events,
  and what a lookup records for others when it ends, are left out;
* `Proper` — a reply that is complete and confined to what was asked for, in which what was
  handed over earlier only fills gaps, and before which everything was checked that would retire
  the request;
* `secret_replies` — nobody is prompted without leave, and a reply is proper exactly if `Safe`.

A password that is not text counts as missing, so that one that was handed over earlier
replaces it (`raw_password_replaced`), unless a new one is wanted or a frontend answers.
-/

namespace NmDaemon

namespace SecretAgent

open Client Secrets Credentials

/-! ## The lookup -/

/-- What a round of waiting for a frontend brings. -/
inductive Received : Type where
  | response (response : SecretResponse)
  | timeout
  | disconnected

/-- The calls of a lookup. All that it shares with others is behind one of them. -/
inductive Ask : Type where
  /-- the owner of NetworkManager's name, if it is the caller -/
  | authorize
  | findActivation (owner : String)
  /-- the request becomes one in flight -/
  | enter
  | cancelled
  | registryOwner
  | now
  | activationLive
  | clearHandoff
  /-- what was handed over, and the time, as the values for the request are taken out -/
  | handoff
  | subscribers
  | register (owners : List String)
  | publish
  | receive

abbrev Reply : Ask → Type
  | .authorize => Except FdoError String
  | .findActivation _ => Option (ℕ × Activation.State)
  | .enter | .register _ | .publish => Except SecretAgentError Unit
  | .cancelled | .activationLive => Bool
  | .registryOwner => Option String
  | .now => ℕ
  | .clearHandoff => Unit
  | .handoff => Handoff × ℕ
  | .subscribers => List String
  | .receive => Received

/-- A failure; `none` if the rounds of waiting are used up. -/
abbrev Program (α : Type) : Type := ExceptT (Option SecretAgentError) (Prog Ask Reply) α

/-- The request is still wanted. -/
def ensureDeliveryLive (request : PendingSecretRequest) : Program Unit := do
  let cancelled ← ask .cancelled .ok
  ensure (cancelled = false) (some (.userCanceled "NetworkManager cancelled the secret request"))
  let owner ← ask .registryOwner .ok
  ensure (owner = request.nmOwner)
    (some (.ofFdo (.failed "NetworkManager changed during the secret request")))
  let now ← ask .now .ok
  ensure (now < request.deadline) (some (.noSecrets "Credential entry deadline expired"))
  let live ← if request.activation.isSome then ask .activationLive .ok else pure true
  ensure (live = true) (some (.userCanceled "The owning activation ended"))

/-- `or_else`: a failure is only reported as such while the request is live. -/
def whileLive (request : PendingSecretRequest) (c : Ask)
    (f : Reply c → Except SecretAgentError Unit) : Program Unit :=
  tryCatch (ask c fun r => (f r).mapError some) fun e => do
    ensureDeliveryLive request
    throw e

/-- Waits for an answer as long as the request is wanted, at most so many rounds. -/
def receiveLiveResponse (request : PendingSecretRequest) : ℕ → Program SecretResponse
  | 0 => throw none
  | rounds + 1 => do
    ensureDeliveryLive request
    let received ← ask .receive .ok
    match received with
    | .timeout => receiveLiveResponse request rounds
    | .response response => do
      ensureDeliveryLive request
      pure response
    | .disconnected => do
      ensureDeliveryLive request
      throw (some (.userCanceled "Credential request retired"))

/-- A prompt is registered, published and waited for. -/
def waitForSecretResponse (rounds : ℕ) (request : PendingSecretRequest)
    (connection : ConnectionSettings) : Program (ConnectionSettings × Option Save) := do
  let owners ← ask .subscribers .ok
  ensureDeliveryLive request
  ensure (owners ≠ []) (some (.noSecrets "no frontend is subscribed to secret requests"))
  whileLive request (.register owners) id
  whileLive request .publish id
  let response ← receiveLiveResponse request rounds
  lift ((applySecretResponse connection request response).mapError some)

/-- The values that were handed over are taken, unless a new one is wanted. -/
def applyStoredSecret (request : PendingSecretRequest) (connection : ConnectionSettings) :
    Program (ConnectionSettings × Bool) :=
  if request.flags &&& requestNew = 0 then do
    let (handoff, now) ← ask .handoff .ok
    lift ((applyStoredValues request connection (handoff.take now request connection).2).mapError
      fun e => some (.ofFdo e))
  else do
    ask .clearHandoff .ok
    pure (connection, false)

/-- From what was handed over, or from a frontend. -/
def resolveSecretRequest (rounds : ℕ) (request : PendingSecretRequest)
    (connection : ConnectionSettings) : Program (ConnectionSettings × Option Save) := do
  ensureDeliveryLive request
  let (connection, complete) ← applyStoredSecret request connection
  ensureDeliveryLive request
  if complete then pure (connection, none)
  else if request.flags &&& allowInteraction = 0 then
    throw (some (.noSecrets "no usable stored secret and interaction is prohibited"))
  else waitForSecretResponse rounds request connection

/-- The whole lookup, with its final check. -/
def getSecrets (rounds : ℕ) (request : PendingSecretRequest) (connection : ConnectionSettings) :
    Program (ConnectionSettings × Option Save) := do
  let owner ← ask .authorize fun r => r.mapError fun e => some (.ofFdo e)
  let kept ← lift ((request.withPolicy connection).mapError some)
  let activation ← ask (.findActivation owner) .ok
  ask .enter fun r => r.mapError some
  let resolved ← resolveSecretRequest rounds (kept.bound owner activation) connection
  ensureDeliveryLive (kept.bound owner activation)
  pure resolved

/-! ## Replies -/

/-- Without leave nobody is prompted, and if a new value is wanted none is taken that was handed
over. -/
def Ask.Permitted (flags : UInt32) : Ask → Prop
  | .handoff => flags &&& requestNew = 0
  | .register _ | .publish | .receive => flags &&& allowInteraction ≠ 0
  | _ => True

section Replies

variable (request : PendingSecretRequest) (connection : ConnectionSettings)
  (l : List (Sigma Reply))

/-- The value was taken out of what was handed over. -/
def HandedOver (key text : String) : Prop :=
  ∃ handoff now, ⟨.handoff, (handoff, now)⟩ ∈ l ∧
    (key, text) ∈ (Handoff.take handoff now request connection).2

/-- A frontend answered with the value. -/
def AnsweredWith (key text : String) : Prop :=
  ∃ response, ⟨.receive, .response response⟩ ∈ l ∧
    (answeredValues request response).lookup key = some text

/-- Where a value that was not passed is from. -/
def Source (address : Address) (text : String) : Prop :=
  ∃ key ∈ request.secretKeys, address = request.address key ∧
    (AnsweredWith request l key text ∨
      HandedOver request connection l key text ∧ ¬ Present connection address)

end Replies

/-! ## Following the lookup -/

variable {request : PendingSecretRequest} {connection current reply : ConnectionSettings}
  {l l' : List (Sigma Reply)}

/-- More calls, without another answer of a frontend. -/
structure Extends (l l' : List (Sigma Reply)) : Prop where
  subset : l ⊆ l'
  same : ∀ response, (⟨.receive, .response response⟩ : Sigma Reply) ∈ l' →
    ⟨.receive, .response response⟩ ∈ l

theorem Extends.trans {l'' : List (Sigma Reply)} (h : Extends l l') (h' : Extends l' l'') :
    Extends l l'' :=
  ⟨List.Subset.trans h.subset h'.subset, fun response hmem => h.same _ (h'.same response hmem)⟩

/-- No frontend has answered. -/
def Silent (l : List (Sigma Reply)) : Prop :=
  ∀ response, (⟨.receive, .response response⟩ : Sigma Reply) ∉ l

theorem Silent.mono (h : Silent l) (hl : Extends l l') : Silent l' :=
  fun response hmem => h response (hl.same response hmem)

theorem Source.mono (h : l ⊆ l') {address : Address} {text : String}
    (hsource : Source request connection l address text) :
    Source request connection l' address text := by
  obtain ⟨key, hkey, haddress, hfrom⟩ := hsource
  refine ⟨key, hkey, haddress, hfrom.imp ?_ (And.imp_left ?_)⟩
  · rintro ⟨response, hresponse, hvalue⟩
    exact ⟨response, h hresponse, hvalue⟩
  · rintro ⟨handoff, now, hhandoff, hvalue⟩
    exact ⟨handoff, now, h hhandoff, hvalue⟩

/-- What was made of the settings so far: they are filled from sources, and where a frontend has
answered, its answers are there. -/
structure Made (request : PendingSecretRequest) (connection : ConnectionSettings)
    (l : List (Sigma Reply)) (current : ConnectionSettings) : Prop where
  filled : Filled request.settingName (Source request connection l) connection current
  answered : ∀ key text, AnsweredWith request l key text → ∃ key' text',
    request.address key = request.address key' ∧
    AnsweredWith request l key' text' ∧ slot current (request.address key) =
      some (encodeText (request.address key) text')

theorem Made.mono (h : Extends l l') (hmade : Made request connection l current) :
    Made request connection l' current := by
  refine ⟨hmade.filled.mono fun _ _ hsource => hsource.mono h.subset, ?_⟩
  rintro key text ⟨response, hcall, hvalue⟩
  obtain ⟨key', text', haddress, ⟨response', hcall', hvalue'⟩, hslot⟩ :=
    hmade.answered key text ⟨response, h.same response hcall, hvalue⟩
  exact ⟨key', text', haddress, ⟨response', h.subset hcall', hvalue'⟩, hslot⟩

section Follow

variable {β : Type} {Q : List (Sigma Reply) → β → Prop} {rounds : ℕ}

/-- The program makes permitted calls, and its result has `Q`. -/
abbrev Leads (request : PendingSecretRequest) (Q : List (Sigma Reply) → β → Prop)
    (l : List (Sigma Reply)) (p : Program β) : Prop :=
  Prog.Along (fun _ c => c.Permitted request.flags) Q l p

end Follow

/-- What was found out about the request before the lookup. -/
def Prepared (request : PendingSecretRequest) (connection : ConnectionSettings)
    (l : List (Sigma Reply)) (prepared : PendingSecretRequest) : Prop :=
  ∃ kept owner activation, request.withPolicy connection = .ok kept ∧
    ⟨.authorize, .ok owner⟩ ∈ l ∧ ⟨.findActivation owner, activation⟩ ∈ l ∧
    prepared = kept.bound owner activation

/-- The keys of a request with a policy are known to the schema. -/
theorem fromRequest_supported {section' : String} {keys : List String} {policy : Policy}
    (h : Policy.fromRequest connection section' keys = .ok policy) :
    keys ≠ [] ∧ ∀ key ∈ keys, (addressOf section' key).Supported := by
  rw [Policy.fromRequest] at h
  split at h
  · cases h
  · rename_i hempty
    refine ⟨fun heq => hempty (heq ▸ rfl), ?_⟩
    clear * - h
    generalize Policy.empty = start at h
    induction keys generalizing start with
    | nil => exact fun _ hkey => absurd hkey List.not_mem_nil
    | cons key keys ih =>
      obtain ⟨next, hadd, hrest⟩ := Fallible.foldlM_cons_eq_ok.mp h
      obtain ⟨retention, hflags, -⟩ := Fallible.bind_eq_ok.mp hadd
      exact List.forall_mem_cons.mpr ⟨flags_supported hflags, ih next hrest⟩

theorem Prepared.supported {prepared : PendingSecretRequest}
    (h : Prepared request connection l prepared) :
    prepared.flags = request.flags ∧ prepared.secretKeys ≠ [] ∧
      ∀ key ∈ prepared.secretKeys, (prepared.address key).Supported := by
  obtain ⟨kept, owner, activation, hkept, -, -, rfl⟩ := h
  obtain ⟨policy, hpolicy, rfl⟩ := PendingSecretRequest.withPolicy_ok hkept
  exact ⟨rfl, fromRequest_supported hpolicy⟩

end SecretAgent

end NmDaemon
