import MailFilters.Account.SignIn

/-!
# How signing in ends

* **`Loads`**, **`Obtains`** — the steps that lead to credentials: those of the token file are kept
  or refreshed, or the user is asked.
* **`Ends`**, **`signIn_ends`** — signing in tries to make a client with credentials, or it ends
  with the first step that fails and the token file is as it was.
* **`Obtains.tokenAfter`** — what the token file holds in the end.
* **`signIn_again`** — whoever has signed in is not asked again.
-/

namespace MailFilters.SignIn

variable {κ γ ε : Type}

section Relations

variable (library : Library κ γ ε) (places : Places)

/-- How the token file is loaded: there is none, or its text gives credentials or nothing. -/
inductive Loads : Option String → List (Step κ) → Option κ → Prop
  | missing : Loads none [] none
  | found {token : String} {loaded : Option κ} : library.load token scopes = .ok loaded →
      Loads (some token) [.load places.tokenFile scopes] loaded

/-- What was loaded is of no use: it is not valid and cannot be refreshed. -/
def IsStale (loaded : Option κ) : Prop :=
  ∀ old, loaded = some old → library.valid old = false ∧ isRefreshable library old = false

/-- The steps that lead from what was loaded to credentials for a client. -/
inductive Obtains (loaded : Option κ) : List (Step κ) → κ → Prop
  | kept {credentials : κ} : loaded = some credentials → library.valid credentials = true →
      Obtains loaded [] credentials
  | refreshed {old fresh : κ} : loaded = some old → library.valid old = false →
      isRefreshable library old = true → library.refresh old = .ok fresh →
      Obtains loaded [.refresh old, .write places.tokenFile (library.text fresh)] fresh
  | asked {dialogue : Nat → Except ε κ} {fresh : κ} : IsStale library loaded →
      library.openFlow places.secretsFile scopes = .ok dialogue → dialogue 0 = .ok fresh →
      Obtains loaded
        [.openFlow places.secretsFile scopes, .runServer 0,
          .write places.tokenFile (library.text fresh)] fresh

/-- The outcome of making a client with credentials behind some steps. -/
def connection (steps : List (Step κ)) (credentials : κ) : Outcome κ γ ε :=
  let built := library.build serviceName serviceVersion credentials
  { steps := steps ++ [.build serviceName serviceVersion credentials], result := built
    log := buildLog library built }

/-- How signing in ends: a client is tried to be made with credentials, or a step before that
fails. -/
inductive Ends (token : Option String) : Outcome κ γ ε → Prop
  | connected {loading steps : List (Step κ)} {loaded : Option κ} {credentials : κ} :
      Loads library places token loading loaded → Obtains library places loaded steps credentials →
      Ends token (connection library (loading ++ steps) credentials)
  | unreadable {text : String} {cause : ε} : token = some text →
      library.load text scopes = .error cause →
      Ends token { steps := [.load places.tokenFile scopes], result := .error cause }
  | unrefreshed {loading : List (Step κ)} {old : κ} {cause : ε} :
      Loads library places token loading (some old) → library.valid old = false →
      isRefreshable library old = true → library.refresh old = .error cause →
      Ends token { steps := loading ++ [.refresh old], result := .error cause }
  | unopened {loading : List (Step κ)} {loaded : Option κ} {cause : ε} :
      Loads library places token loading loaded → IsStale library loaded →
      library.openFlow places.secretsFile scopes = .error cause →
      Ends token
        { steps := loading ++ [.openFlow places.secretsFile scopes], result := .error cause }
  | unanswered {loading : List (Step κ)} {loaded : Option κ} {dialogue : Nat → Except ε κ}
      {cause : ε} :
      Loads library places token loading loaded → IsStale library loaded →
      library.openFlow places.secretsFile scopes = .ok dialogue → dialogue 0 = .error cause →
      Ends token
        { steps := loading ++ [.openFlow places.secretsFile scopes, .runServer 0]
          result := .error cause }

end Relations

variable {library : Library κ γ ε} {places : Places} {token : Option String} {loaded : Option κ}
  {loading steps : List (Step κ)} {credentials : κ}

/-! ## Credentials -/

theorem proceed_valid (given : loaded = some credentials)
    (valid : library.valid credentials = true) :
    proceed library places loaded = connect library credentials := by
  rw [proceed, given, Option.filter_some, if_pos valid]

theorem proceed_refreshable (given : loaded = some credentials)
    (spent : library.valid credentials = false)
    (refreshable : isRefreshable library credentials = true) :
    proceed library places loaded =
      .call (.refresh credentials) (store library places) (library.refresh credentials) := by
  rw [proceed, given, Option.filter_some, if_neg (by simp [spent]), renew, Option.filter_some,
    if_pos refreshable]

theorem proceed_stale (stale : IsStale library loaded) :
    proceed library places loaded =
      .call (.openFlow places.secretsFile scopes)
        (fun dialogue => .call (.runServer 0) (store library places) (dialogue 0))
        (library.openFlow places.secretsFile scopes) := by
  cases loaded with
  | none => rfl
  | some old =>
      obtain ⟨spent, lost⟩ := stale old rfl
      rw [proceed, Option.filter_some, if_neg (by simp [spent]), renew, Option.filter_some,
        if_neg (by simp [lost])]

theorem proceed_of_obtains (obtains : Obtains library places loaded steps credentials) :
    proceed library places loaded = connection library steps credentials := by
  cases obtains with
  | kept given valid => exact proceed_valid given valid
  | refreshed given spent refreshable answer =>
      rw [proceed_refreshable given spent refreshable, answer]
      rfl
  | asked stale opened answer =>
      rw [proceed_stale stale, opened, Outcome.call, answer]
      rfl

/-- What was loaded is valid, or it can be refreshed, or it is stale. -/
theorem loaded_cases (library : Library κ γ ε) (loaded : Option κ) :
    (∃ old, loaded = some old ∧ library.valid old = true) ∨
      (∃ old, loaded = some old ∧ library.valid old = false ∧ isRefreshable library old = true) ∨
      IsStale library loaded := by
  cases loaded with
  | none => exact .inr (.inr (by simp [IsStale]))
  | some old =>
      cases valid : library.valid old with
      | true => exact .inl ⟨old, rfl, valid⟩
      | false =>
          cases refreshable : isRefreshable library old with
          | true => exact .inr (.inl ⟨old, rfl, valid, refreshable⟩)
          | false =>
              refine .inr (.inr ?_)
              rintro other ⟨⟩
              exact ⟨valid, refreshable⟩

/-! ## Signing in -/

theorem signIn_of_loads (loads : Loads library places token loading loaded) :
    signIn library places token =
      { proceed library places loaded with
        steps := loading ++ (proceed library places loaded).steps } := by
  cases loads with
  | missing => rfl
  | found read =>
      rw [signIn, read]
      rfl

theorem signIn_of_obtains (loads : Loads library places token loading loaded)
    (obtains : Obtains library places loaded steps credentials) :
    signIn library places token = connection library (loading ++ steps) credentials := by
  rw [signIn_of_loads loads, proceed_of_obtains obtains]
  simp [connection]

/-- **Signing in.** It tries to make a client with credentials that are valid or new, and otherwise
ends with the first step that fails, before anything is written. -/
theorem signIn_ends (library : Library κ γ ε) (places : Places) (token : Option String) :
    Ends library places token (signIn library places token) := by
  have behind : ∀ {loading loaded}, Loads library places token loading loaded →
      Ends library places token (signIn library places token) := by
    intro loading loaded loads
    rcases loaded_cases library loaded with
      ⟨old, rfl, valid⟩ | ⟨old, rfl, spent, refreshable⟩ | stale
    · have obtains : Obtains library places (some old) [] old := .kept rfl valid
      exact signIn_of_obtains loads obtains ▸ .connected loads obtains
    · cases answer : library.refresh old with
      | ok fresh =>
          have obtains : Obtains library places (some old) _ fresh :=
            .refreshed rfl spent refreshable answer
          exact signIn_of_obtains loads obtains ▸ .connected loads obtains
      | error cause =>
          rw [signIn_of_loads loads, proceed_refreshable rfl spent refreshable, answer]
          exact .unrefreshed loads spent refreshable answer
    · cases opened : library.openFlow places.secretsFile scopes with
      | error cause =>
          rw [signIn_of_loads loads, proceed_stale stale, opened]
          exact .unopened loads stale opened
      | ok dialogue =>
          cases answer : dialogue 0 with
          | ok fresh =>
              have obtains := Obtains.asked stale opened answer
              exact signIn_of_obtains loads obtains ▸ .connected loads obtains
          | error cause =>
              rw [signIn_of_loads loads, proceed_stale stale, opened, Outcome.call, answer]
              exact .unanswered loads stale opened answer
  cases token with
  | none => exact behind .missing
  | some text =>
      cases read : library.load text scopes with
      | ok loaded => exact behind (.found read)
      | error cause =>
          rw [signIn, read]
          exact .unreadable rfl read

/-- No step is taken exactly if a client is there already. -/
theorem client_idle_iff {given : Option γ} :
    (client library places token given).steps = [] ↔ given.isSome = true := by
  cases given with
  | some given => simp [client]
  | none =>
      refine iff_of_false ?_ (by simp)
      show (signIn library places token).steps ≠ []
      have ends := signIn_ends library places token
      generalize signIn library places token = outcome at ends ⊢
      cases ends <;> simp [connection]

/-! ## The token file -/

theorem tokenAfter_append (token : Option String) (steps rest : List (Step κ)) :
    tokenAfter token (steps ++ rest) = tokenAfter (tokenAfter token steps) rest := by
  induction steps generalizing token with
  | nil => rfl
  | cons step steps ih => cases step <;> exact ih _

/-- In the end the token file holds the credentials of the client: they were read from it, or they
are new and were written to it. -/
theorem Obtains.tokenAfter (loads : Loads library places token loading loaded)
    (obtains : Obtains library places loaded steps credentials) :
    let after := SignIn.tokenAfter token (signIn library places token).steps
    (after = token ∧ ∃ text, token = some text ∧
      library.load text scopes = .ok (some credentials)) ∨
    after = some (library.text credentials) := by
  intro after
  have same : after = SignIn.tokenAfter token steps := by
    show SignIn.tokenAfter token (signIn library places token).steps = _
    rw [signIn_of_obtains loads obtains, connection, tokenAfter_append, tokenAfter_append]
    cases loads <;> rfl
  rw [same]
  cases obtains with
  | kept given _ =>
      subst given
      cases loads with
      | found read => exact .inl ⟨rfl, _, rfl, read⟩
  | refreshed _ _ _ _ => exact .inr rfl
  | asked _ _ _ => exact .inr rfl

/-- **Signing in again.** Where the text of credentials gives these again and they are valid, they
are taken from the token file the next time, and nobody is asked. -/
theorem signIn_again (loads : Loads library places token loading loaded)
    (obtains : Obtains library places loaded steps credentials)
    (kept : library.load (library.text credentials) scopes = .ok (some credentials))
    (valid : library.valid credentials = true) :
    signIn library places (tokenAfter token (signIn library places token).steps) =
      connection library [.load places.tokenFile scopes] credentials := by
  rcases obtains.tokenAfter loads with ⟨same, text, rfl, read⟩ | written
  · rw [same]
    exact signIn_of_obtains (.found read) (.kept rfl valid)
  · rw [written]
    exact signIn_of_obtains (.found kept) (.kept rfl valid)

end MailFilters.SignIn
