import MailFilters.Account.Basic
import MailFilters.Log

/-!
# Signing in

A client for an account needs credentials.  They are loaded from a token file, if there is one;
credentials that have run out are refreshed, and without any the user is asked for them.  New
credentials are written to the token file before a client is made with them.

* **`Library`** — what credentials and clients come from.
* **`signIn`** — the steps of signing in, and what they lead to.
* **`client`** — the client that is there already, or the one that signing in leads to.
* **`tokenAfter`** — what the token file holds behind some steps.
-/

namespace MailFilters.SignIn

/-- The library that credentials of a kind `κ` and clients of a kind `γ` come from.  A call of it
may fail with a cause of a kind `ε`. -/
structure Library (κ γ ε : Type) where
  valid : κ → Bool
  expired : κ → Bool
  refreshToken : κ → Option String
  /-- The text of credentials in a token file. -/
  text : κ → String
  /-- The credentials with a text, for what a client may do. -/
  load : String → List String → Except ε (Option κ)
  refresh : κ → Except ε κ
  /-- The dialogue with the user that a file of secrets describes, for what a client may do.  It
  goes over a port. -/
  openFlow : String → List String → Except ε (Nat → Except ε κ)
  /-- The client of a service in a version. -/
  build : String → String → κ → Except ε γ
  /-- The fault of a request that a cause is, if it is one. -/
  fault? : ε → Option Fault

/-- The names of the files that signing in reads and writes. -/
structure Places where
  /-- Where credentials are kept. -/
  tokenFile : String
  /-- What says how to ask a user. -/
  secretsFile : String
  deriving DecidableEq, Repr

/-- What a client may do: create labels and filters, and nothing else. -/
def scopes : List String :=
  ["https://www.googleapis.com/auth/gmail.labels",
   "https://www.googleapis.com/auth/gmail.settings.basic"]

/-- The service that clients are for. -/
def serviceName : String := "gmail"

/-- The version of the service. -/
def serviceVersion : String := "v1"

/-- A step of signing in, with credentials of a kind. -/
inductive Step (κ : Type)
  | load (file : String) (scopes : List String)
  | refresh (credentials : κ)
  | openFlow (file : String) (scopes : List String)
  | runServer (port : Nat)
  | write (file text : String)
  | build (service version : String) (credentials : κ)
  deriving DecidableEq, Repr

/-- What signing in leads to: the steps, a client or the failure of the last step, and the log. -/
structure Outcome (κ γ ε : Type) where
  steps : List (Step κ) := []
  result : Except ε γ
  log : Log := []

/-- An outcome with a step in front. -/
def Outcome.after (step : Step κ) (outcome : Outcome κ γ ε) : Outcome κ γ ε :=
  { outcome with steps := step :: outcome.steps }

/-- A step that is answered, and what comes of the answer. -/
def Outcome.call (step : Step κ) (next : α → Outcome κ γ ε) : Except ε α → Outcome κ γ ε
  | .ok value => (next value).after step
  | .error cause => { steps := [step], result := .error cause }

variable (library : Library κ γ ε) (places : Places)

/-- What the log says about a client that could not be made: only the faults of requests are
told. -/
def buildLog : Except ε γ → Log
  | .ok _ => []
  | .error cause =>
    (library.fault? cause).toList.map fun fault =>
      ⟨.error, "Not able to create Gmail client: " ++ fault.text⟩

/-- Makes a client with credentials. -/
def connect (credentials : κ) : Outcome κ γ ε :=
  let built := library.build serviceName serviceVersion credentials
  { steps := [.build serviceName serviceVersion credentials], result := built
    log := buildLog library built }

/-- Writes credentials to the token file and makes a client with them. -/
def store (credentials : κ) : Outcome κ γ ε :=
  (connect library credentials).after (.write places.tokenFile (library.text credentials))

/-- Whether credentials can be refreshed. -/
def isRefreshable (credentials : κ) : Bool :=
  library.expired credentials && (library.refreshToken credentials).any (!·.isEmpty)

/-- Makes a client with new credentials: those that are there are refreshed if they can be, and
otherwise the user is asked. -/
def renew (loaded : Option κ) : Outcome κ γ ε :=
  match loaded.filter (isRefreshable library) with
  | some credentials =>
    .call (.refresh credentials) (store library places) (library.refresh credentials)
  | none =>
    .call (.openFlow places.secretsFile scopes)
      (fun dialogue => .call (.runServer 0) (store library places) (dialogue 0))
      (library.openFlow places.secretsFile scopes)

/-- Makes a client with the credentials that were loaded, or with new ones if those are not valid
any more. -/
def proceed (loaded : Option κ) : Outcome κ γ ε :=
  match loaded.filter library.valid with
  | some credentials => connect library credentials
  | none => renew library places loaded

/-- Signs in with what the token file holds, if there is one. -/
def signIn : Option String → Outcome κ γ ε
  | none => proceed library places none
  | some token =>
    .call (.load places.tokenFile scopes) (proceed library places) (library.load token scopes)

/-- The client of an account: the one that is given, or the one that signing in leads to. -/
def client (token : Option String) : Option γ → Outcome κ γ ε
  | some given => { result := .ok given }
  | none => signIn library places token

/-- What the token file holds behind some steps. -/
def tokenAfter (token : Option String) : List (Step κ) → Option String
  | [] => token
  | .write _ text :: rest => tokenAfter (some text) rest
  | .load _ _ :: rest | .refresh _ :: rest | .openFlow _ _ :: rest | .runServer _ :: rest
  | .build _ _ _ :: rest => tokenAfter token rest

end MailFilters.SignIn
