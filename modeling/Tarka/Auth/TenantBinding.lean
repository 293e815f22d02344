import Tarka.Json.Python
import Tarka.Lib.Loop

/-! # Tenant binding (`shared/tenant_binding.py`, `auth.py`, `auth_rbac.py`)

A caller may act for the tenants of its scope. With strict binding every request is checked
before the route runs: the middleware, or the API-key dependency, finds the tenant of the request
and compares it with the scope. The evaluate route then acts for the `tenant_id` of its body.

`accepted_spec` is what an accepted request guarantees: the tenant that `request_tenant_id` finds
is in the scope. -/

namespace Tarka.Auth

open Tarka.Lib Tarka.Json Option List

/-! ## Configuration -/

/-- The process environment; an unset variable is `""`. -/
structure Env where
  tenantBindingRequired : String
  deploymentProfile : String
  helmEnvironment : String
  environment : String
  allowInsecureNoAuth : String
  apiKeys : String
  /-- `API_KEY_TENANT_MAP` after `json.loads`: `none` if blank, `some none` if it is not JSON. -/
  apiKeyTenantMap : Option (Option Value)
  caseInternalToken : String
  oidcIssuer : String

def flag (raw : String) : Bool := ["1", "true", "yes", "on"].contains (asciiLower (strip raw))

def tenantBindingRequired (env : Env) : Bool := flag env.tenantBindingRequired

def helmEnvironmentIsProd (env : Env) : Bool :=
  let raw := if env.helmEnvironment.isEmpty then env.environment else env.helmEnvironment
  asciiLower (strip raw) == "prod"

def deploymentProfileIsProduction (env : Env) : Bool :=
  asciiLower (strip env.deploymentProfile) == "production"

def productionTenantLock (env : Env) : Bool :=
  deploymentProfileIsProduction env || helmEnvironmentIsProd env

def allowInsecureNoAuth (env : Env) : Bool :=
  !deploymentProfileIsProduction env && flag env.allowInsecureNoAuth

def getValidKeys (env : Env) : List String :=
  ((split ',' (strip env.apiKeys)).map strip).filter (fun k => !k.isEmpty)

def nonBlank (texts : List String) : List String :=
  (texts.map strip).filter (fun s => !s.isEmpty)

def scopeOf (text : PyText) : Value → List String
  | .string s => nonBlank [s]
  | .array items => nonBlank (items.map (Value.pyStr text))
  | _ => []

/-- `parse_api_key_tenant_map`. The error is the text of the `TenantMapConfigError`. -/
def parseApiKeyTenantMap (text : PyText) (env : Env) : Except String (KeyMap (List String)) :=
  match env.apiKeyTenantMap with
  | none => .ok KeyMap.empty
  | some none => .error "API_KEY_TENANT_MAP is not valid JSON (fail closed)"
  | some (some (.object payload)) =>
    let out := payload.foldl (fun (out : KeyMap (List String)) e =>
      if (strip e.1).isEmpty then out else out.insert (strip e.1) (scopeOf text e.2)) KeyMap.empty
    if productionTenantLock env && out.entries.any (fun e => e.2.contains "*") then
      .error "API_KEY_TENANT_MAP must not grant '*' tenant scope in production"
    else .ok out
  | some (some _) => .error "API_KEY_TENANT_MAP must be a JSON object"

def tenantsFromClaims (text : PyText) (claims : Value) : List String :=
  ["tenant_id", "tenant", "tenant_ids", "tenants"].flatMap (fun k =>
    ((claims.get? k).map (scopeOf text)).getD [])

/-! ## Requests -/

/-- What the checks read of a request, apart from the credentials. -/
structure Request where
  path : String
  queryTenantId : Option String
  pathTenantId : Option String
  tenantHeader : Option String
  contentType : Option String
  /-- `request.json()`, `none` if it raises. -/
  json : Option Value

/-- The credentials of a request. -/
structure Credentials where
  internalToken : Option String
  apiKey : Option String
  authorization : Option String
  accessCookie : Option String

/-- A raised `HTTPException`, or any other exception. -/
inductive Failure where
  | http (status : Nat) (detail : String)
  | other
  deriving DecidableEq

def given (raw : String) : Option String :=
  if (strip raw).isEmpty then none else some (strip raw)

/-- The tenant id of a JSON payload: `str(payload.get("tenant_id") or "").strip() or None`. -/
def payloadTenantId (text : PyText) (payload : Value) : Option String :=
  (payload.get? "tenant_id").bind (fun v => if v.truthy then given (v.pyStr text) else none)

/-- `request_tenant_id`: query, then path, then header, then body. -/
def requestTenantId (text : PyText) (req : Request) : Option String :=
  (given (req.queryTenantId.getD "")).or <|
  (given (req.pathTenantId.getD "")).or <|
  (given (req.tenantHeader.getD "")).or <|
  if strContains (asciiLower (req.contentType.getD "")) "application/json" then
    req.json.bind (payloadTenantId text)
  else none

def isTenantAllowed (allowedTenants : List String) (tenantId : String) : Bool :=
  allowedTenants.contains "*" || allowedTenants.contains tenantId

def probePaths : List String :=
  ["/v1/health", "/v1/ready", "/v1/health/deep", "/health", "/health/deep", "/metrics",
    "/decisions/v1/health", "/decisions/v1/ready", "/cases/v1/health", "/cases/v1/ready"]

def enforceTenantAccess (text : PyText) (env : Env) (req : Request)
    (allowedTenants : Option (List String)) (strict : Option Bool) : Except Failure Unit :=
  if probePaths.contains req.path then .ok ()
  else if !strict.getD (tenantBindingRequired env) then .ok ()
  else
    match requestTenantId text req, allowedTenants with
    | none, _ => .error (.http 400 "tenant_id is required")
    | some _, none =>
      .error (.http 403 "tenant binding is required but caller has no tenant scope")
    | some tenantId, some allowed =>
      if isTenantAllowed allowed tenantId then .ok ()
      else .error (.http 403 ("tenant '" ++ tenantId ++ "' is outside caller scope"))

/-! ## Authentication -/

/-- `AuthUser`, with its scope. -/
structure AuthUser where
  authType : String
  tenantIds : List String
  deriving DecidableEq

/-- `hmac.compare_digest` on strings: it raises unless both are ASCII. -/
def compareDigest (a b : String) : Except Failure Bool :=
  if (a ++ b).toList.all (fun c => decide (c.toNat < 128)) then .ok (a == b) else .error .other

def mapRequired : String :=
  "API_KEY_TENANT_MAP is required when TENANT_BINDING_REQUIRED is set"

/-- The text of a configuration error becomes a `503`. -/
def tenantMapOr503 (text : PyText) (env : Env) : Except Failure (KeyMap (List String)) :=
  (parseApiKeyTenantMap text env).mapError (Failure.http 503)

/-- The bearer token of a request, from its header or its cookie. -/
def bearerToken (cred : Credentials) : String :=
  let header := cred.authorization.getD ""
  let token :=
    if (asciiLower header).toList.take 7 == "bearer ".toList then
      strip (String.ofList (header.toList.drop 7))
    else ""
  if token.isEmpty then strip (cred.accessCookie.getD "") else token

def apiKeyScope (env : Env) (tenantMap : KeyMap (List String)) (apiKey : String) :
    Except Failure (List String) :=
  if !tenantMap.entries.isEmpty then .ok ((tenantMap.get? apiKey).getD [])
  else if tenantBindingRequired env then .error (.http 503 mapRequired)
  else .ok ["*"]

section

variable (text : PyText) (env : Env) (verifyJwt : String → Except Failure Value)

/-- The part of `_authenticate` after the API key: a token, or nothing. -/
def authenticateToken (cred : Credentials) : Except Failure AuthUser :=
  let token := bearerToken cred
  if !token.isEmpty then do
    let claims ← verifyJwt token
    let tenantIds := tenantsFromClaims text claims
    if tenantBindingRequired env && tenantIds.isEmpty then
      .error (.http 403 "tenant binding is required but caller has no tenant scope")
    else .ok ⟨"jwt", tenantIds⟩
  else if (getValidKeys env).isEmpty && env.oidcIssuer.isEmpty then
    if allowInsecureNoAuth env then .ok ⟨"none", ["*"]⟩
    else .error (.http 503 ("authentication misconfigured: set API_KEYS or OIDC_ISSUER "
      ++ "(or ALLOW_INSECURE_NO_AUTH=true for local development)"))
  else .error (.http 401 "authentication required")

/-- The part of `_authenticate` after the internal token. -/
def authenticateKey (cred : Credentials) : Except Failure AuthUser := do
  let apiKey := cred.apiKey.getD ""
  let keyTenantMap ← tenantMapOr503 text env
  if !apiKey.isEmpty && (getValidKeys env).contains apiKey then
    return ⟨"api_key", ← apiKeyScope env keyTenantMap apiKey⟩
  else if !apiKey.isEmpty && !(getValidKeys env).isEmpty then
    .error (.http 401 "invalid API key")
  else authenticateToken text env verifyJwt cred

def authenticate (cred : Credentials) : Except Failure AuthUser := do
  let internalToken := cred.internalToken.getD ""
  let expected := strip env.caseInternalToken
  let internal ←
    if internalToken.isEmpty || expected.isEmpty
      || decide (internalToken.length ≠ expected.length) then .ok false
    else compareDigest internalToken expected
  if internal then return ⟨"internal_token", ["*"]⟩
  else authenticateKey text env verifyJwt cred

/-- `AuthMiddleware.SKIP_PATHS`; there are no `SKIP_PREFIXES`. -/
def skipPaths : List String :=
  ["/v1/health", "/v1/ready", "/v1/health/deep", "/health", "/health/deep", "/metrics", "/v1/slo",
    "/v1/ops/evaluation-posture"]

/-- `AuthMiddleware.dispatch`: the user the route runs for, or the status and detail of the
response. -/
def dispatch (cred : Credentials) (req : Request) : Except (Nat × String) AuthUser :=
  if skipPaths.contains req.path then .ok ⟨"bypass", ["*"]⟩
  else
    let checked : Except Failure AuthUser := do
      let user ← authenticate text env verifyJwt cred
      if tenantBindingRequired env then enforceTenantAccess text env req (some user.tenantIds) none
      return user
    checked.mapError (fun
      | .http status detail => (status, detail)
      | .other => (401, "authentication failed"))

def enforceScope (req : Request) (scope : List String) : Except Failure (Option (List String)) :=
  (enforceTenantAccess text env req (some scope) none).map (fun _ => some scope)

/-- `require_api_key` (`auth.py`) once the tenant map is read. -/
def requireApiKeyWith (tenantMap : KeyMap (List String)) (cred : Credentials) (req : Request) :
    Except Failure (Option (List String)) :=
  if (getValidKeys env).isEmpty then
    if allowInsecureNoAuth env then
      if tenantBindingRequired env && tenantMap.entries.isEmpty then
        .error (.http 503 mapRequired)
      else enforceScope text env req ["*"]
    else .error (.http 503 ("service auth misconfigured: API_KEYS is empty "
      ++ "(set API_KEYS or ALLOW_INSECURE_NO_AUTH=true for local development)"))
  else if !(getValidKeys env).contains (cred.apiKey.getD "") then
    .error (.http 401 "invalid or missing API key")
  else if !tenantMap.entries.isEmpty then
    enforceScope text env req ((tenantMap.get? (cred.apiKey.getD "")).getD [])
  else if tenantBindingRequired env then .error (.http 503 mapRequired)
  else .ok none

/-- `require_api_key` (`auth.py`). It returns the scope it checked: none for a probe, and none
without a tenant map. -/
def requireApiKey (cred : Credentials) (req : Request) : Except Failure (Option (List String)) :=
  if ["/v1/health", "/v1/ready", "/v1/health/deep", "/health", "/health/deep", "/metrics"].contains
      req.path then .ok none
  else do
    let tenantMap ← tenantMapOr503 text env
    requireApiKeyWith text env tenantMap cred req

end

/-! ## What acceptance guarantees -/

/-- A request to a path on which the tenant is checked, as that of the evaluate route is. -/
structure Guarded (req : Request) : Prop where
  notProbe : probePaths.contains req.path = false
  notSkipped : skipPaths.contains req.path = false

/-- A request that the middleware or the API-key dependency lets through, for a caller with the
given scope. -/
def Accepted (text : PyText) (env : Env) (verifyJwt : String → Except Failure Value)
    (cred : Credentials) (req : Request) (scope : List String) : Prop :=
  (∃ user, dispatch text env verifyJwt cred req = .ok user ∧ user.tenantIds = scope)
    ∨ requireApiKey text env cred req = .ok (some scope)

section

variable {text : PyText} {env : Env} {verifyJwt : String → Except Failure Value}
  {cred : Credentials} {req : Request} {scope : List String}

theorem enforceTenantAccess_ok (hstrict : tenantBindingRequired env)
    (hpath : Guarded req) (h : enforceTenantAccess text env req (some scope) none = .ok ()) :
    ∃ tid, requestTenantId text req = some tid ∧ isTenantAllowed scope tid = true := by
  unfold enforceTenantAccess at h
  rw [hpath.notProbe] at h
  simp only [getD_none, hstrict, Bool.not_true, Bool.false_eq_true, if_false] at h
  cases htid : requestTenantId text req with
  | none =>
    rw [htid] at h
    cases h
  | some tid =>
    rw [htid] at h
    refine ⟨tid, rfl, ?_⟩
    by_contra hno
    simp [hno] at h

theorem dispatch_ok {user : AuthUser} (hstrict : tenantBindingRequired env)
    (hpath : Guarded req) (h : dispatch text env verifyJwt cred req = .ok user) :
    enforceTenantAccess text env req (some user.tenantIds) none = .ok () := by
  unfold dispatch at h
  rw [hpath.notSkipped] at h
  simp only [Bool.false_eq_true, if_false, hstrict, if_true] at h
  obtain ⟨u, -, h⟩ := except_bind_eq_ok.mp (mapError_eq_ok.mp h)
  obtain ⟨_, henf, h⟩ := except_bind_eq_ok.mp h
  cases h
  exact henf

theorem enforceScope_ok {scope' : List String}
    (h : enforceScope text env req scope' = .ok (some scope)) :
    enforceTenantAccess text env req (some scope) none = .ok () := by
  unfold enforceScope at h
  obtain ⟨_, henf, h⟩ := except_bind_eq_ok.mp h
  cases h
  exact henf

theorem requireApiKeyWith_ok {tenantMap : KeyMap (List String)}
    (h : requireApiKeyWith text env tenantMap cred req = .ok (some scope)) :
    enforceTenantAccess text env req (some scope) none = .ok () := by
  unfold requireApiKeyWith at h
  -- every branch but the two that enforce a scope ends in an error or without one
  split_ifs at h
  · exact enforceScope_ok h
  · exact enforceScope_ok h
  · cases h

theorem requireApiKey_ok (h : requireApiKey text env cred req = .ok (some scope)) :
    enforceTenantAccess text env req (some scope) none = .ok () := by
  unfold requireApiKey at h
  split_ifs at h with hprobe
  · cases h
  · obtain ⟨tenantMap, -, h⟩ := except_bind_eq_ok.mp h
    exact requireApiKeyWith_ok h

/-- **Acceptance**: the tenant the checks find in the request is in the caller's scope. -/
theorem accepted_spec (hstrict : tenantBindingRequired env) (hpath : Guarded req)
    (h : Accepted text env verifyJwt cred req scope) :
    ∃ tid, requestTenantId text req = some tid ∧ isTenantAllowed scope tid = true := by
  rcases h with ⟨user, hdispatch, rfl⟩ | hkey
  · exact enforceTenantAccess_ok hstrict hpath (dispatch_ok hstrict hpath hdispatch)
  · exact enforceTenantAccess_ok hstrict hpath (requireApiKey_ok hkey)

end

/-! ## The tenant of the body -/

/-- `body.tenant_id` of the evaluate route: the body model takes a JSON string as it is and
rejects anything else. -/
def bodyTenantId (req : Request) : Option String :=
  match req.json.bind (fun payload => payload.get? "tenant_id") with
  | some (.string s) => some s
  | _ => none

/-- A deployment with strict binding and one API key, `k`, for one tenant. -/
def oneKeyEnv (tenant : String) : Env where
  tenantBindingRequired := "true"
  deploymentProfile := ""
  helmEnvironment := ""
  environment := ""
  allowInsecureNoAuth := ""
  apiKeys := "k"
  apiKeyTenantMap := some (some (.object [("k", .string tenant)]))
  caseInternalToken := ""
  oidcIssuer := ""

def keyCredentials : Credentials := ⟨none, some "k", none, none⟩

variable {tid : String}

theorem given_eq_some {raw : String} (h : given raw = some tid) :
    strip tid = tid ∧ tid.isEmpty = false := by
  unfold given at h
  split_ifs at h with hblank
  cases h
  exact ⟨strip_strip raw, by simpa using hblank⟩

variable {req : Request}

theorem requestTenantId_trimmed {text : PyText}
    (h : requestTenantId text req = some tid) : strip tid = tid ∧ tid.isEmpty = false := by
  rcases or_eq_some_iff.mp h with hq | ⟨-, h⟩
  · exact given_eq_some hq
  rcases or_eq_some_iff.mp h with hp | ⟨-, h⟩
  · exact given_eq_some hp
  rcases or_eq_some_iff.mp h with hh | ⟨-, h⟩
  · exact given_eq_some hh
  split_ifs at h
  obtain ⟨payload, -, h⟩ := bind_eq_some_iff.mp h
  obtain ⟨v, -, h⟩ := bind_eq_some_iff.mp h
  split_ifs at h
  exact given_eq_some h

variable (tenant : String)

theorem tenantBindingRequired_oneKey :
    tenantBindingRequired (oneKeyEnv tenant) = true := by
  simp only [tenantBindingRequired, oneKeyEnv]
  decide +kernel

theorem productionTenantLock_oneKey :
    productionTenantLock (oneKeyEnv tenant) = false := by
  show (asciiLower (strip "") == "production" || asciiLower (strip "") == "prod") = false
  decide +kernel

theorem getValidKeys_oneKey : getValidKeys (oneKeyEnv tenant) = ["k"] := by
  simp only [getValidKeys, oneKeyEnv]
  decide +kernel

variable {tenant : String}

theorem tenantMapOr503_oneKey (text : PyText) (htrim : strip tenant = tenant)
    (hne : tenant.isEmpty = false) :
    tenantMapOr503 text (oneKeyEnv tenant) = .ok (KeyMap.empty.insert "k" [tenant]) := by
  have hkey : strip "k" = "k" := by decide +kernel
  have hscope : scopeOf text (.string tenant) = [tenant] := by
    simp [scopeOf, nonBlank, htrim, hne]
  have hmap : (oneKeyEnv tenant).apiKeyTenantMap
      = some (some (.object [("k", .string tenant)])) := by rw [oneKeyEnv]
  have hempty : ("k" : String).isEmpty = false := by decide
  simp only [tenantMapOr503, parseApiKeyTenantMap, hmap, productionTenantLock_oneKey, foldl_cons,
    foldl_nil, hkey, hscope, hempty, Bool.false_and, Bool.false_eq_true, if_false, Except.mapError]

theorem authenticate_oneKey (text : PyText) (verifyJwt : String → Except Failure Value)
    (htrim : strip tenant = tenant) (hne : tenant.isEmpty = false) :
    authenticate text (oneKeyEnv tenant) verifyJwt keyCredentials = .ok ⟨"api_key", [tenant]⟩ := by
  have hempty : ("k" : String).isEmpty = false := by decide
  have hcontains : ["k"].contains "k" := by decide
  have hkey : authenticateKey text (oneKeyEnv tenant) verifyJwt keyCredentials
      = .ok ⟨"api_key", [tenant]⟩ := by
    simp only [authenticateKey, tenantMapOr503_oneKey text htrim hne, getValidKeys_oneKey]
    rfl
  have htoken : keyCredentials.internalToken.getD "" = "" := by rw [keyCredentials]; rfl
  have hblank : ("" : String).isEmpty := by decide
  simp only [authenticate, htoken, hblank, Bool.true_or, if_true, bind, Except.bind,
    Bool.false_eq_true, if_false, hkey]

theorem accepted_oneKey (text : PyText) (verifyJwt : String → Except Failure Value)
    (hpath : Guarded req) (h : requestTenantId text req = some tid) :
    Accepted text (oneKeyEnv tid) verifyJwt keyCredentials req [tid] := by
  obtain ⟨htrim, hne⟩ := requestTenantId_trimmed h
  have hstrict := tenantBindingRequired_oneKey tid
  have henf : enforceTenantAccess text (oneKeyEnv tid) req (some [tid]) none = .ok () := by
    unfold enforceTenantAccess
    rw [h]
    simp [hstrict, isTenantAllowed]
  refine .inl ⟨⟨"api_key", [tid]⟩, ?_, rfl⟩
  unfold dispatch
  rw [hpath.notSkipped, authenticate_oneKey text verifyJwt htrim hne, hstrict]
  simp only [Bool.false_eq_true, if_false, if_true, bind, Except.bind, henf]
  rfl

/-- **When the body's tenant is covered**: every caller whose request is accepted may act for the
tenant of the body exactly if there is none, or no tenant is found in the request, or the one that
is found is the body's, or it is the wildcard. -/
theorem body_tenant_in_scope_iff (text : PyText) (req : Request) (hpath : Guarded req) :
    (∀ env verifyJwt cred scope, tenantBindingRequired env = true →
        Accepted text env verifyJwt cred req scope →
          ∀ tenant, bodyTenantId req = some tenant → isTenantAllowed scope tenant = true)
      ↔ bodyTenantId req = none ∨ requestTenantId text req = none
        ∨ requestTenantId text req = bodyTenantId req
        ∨ requestTenantId text req = some "*" := by
  constructor
  · intro hall
    cases hbody : bodyTenantId req with
    | none => exact Or.inl rfl
    | some tenant =>
      cases htid : requestTenantId text req with
      | none => exact Or.inr (Or.inl rfl)
      | some tid =>
        -- a caller with just the tenant that was found is accepted
        have hallowed := hall (oneKeyEnv tid) (fun _ => .error .other) keyCredentials [tid]
          (tenantBindingRequired_oneKey tid) (accepted_oneKey text _ hpath htid) tenant hbody
        have hcases : tid = "*" ∨ tid = tenant := by
          simp only [isTenantAllowed, Bool.or_eq_true, contains_iff_mem, mem_singleton] at hallowed
          exact hallowed.imp Eq.symm Eq.symm
        rcases hcases with rfl | rfl
        · exact .inr (.inr (.inr rfl))
        · exact .inr (.inr (.inl rfl))
  · intro h env verifyJwt cred scope hstrict hacc tenant hbody
    obtain ⟨tid, htid, hallowed⟩ := accepted_spec hstrict hpath hacc
    rw [htid, hbody] at h
    rcases h with h | h | h | h
    · cases h
    · cases h
    · cases h
      exact hallowed
    · cases h
      -- a scope that covers the wildcard covers every tenant
      have hstar : "*" ∈ scope := by simpa [isTenantAllowed] using hallowed
      simp [isTenantAllowed, hstar]

namespace Demo

def text : PyText := ⟨fun _ => "0.0", fun s => s⟩

/-- A body for `tenant_alpha`, with the given query parameter. -/
def request (queryTenantId : Option String) : Request where
  path := "/v1/decisions/evaluate"
  queryTenantId := queryTenantId
  pathTenantId := none
  tenantHeader := none
  contentType := some "application/json"
  json := some (.object [("tenant_id", .string "tenant_alpha")])

end Demo

open Demo

/-- A caller for `tenant_beta` names its tenant in the query and another one in the body. -/
theorem accepted_for_other_tenant :
    tenantBindingRequired (oneKeyEnv "tenant_beta") = true
      ∧ Accepted text (oneKeyEnv "tenant_beta") (fun _ => .error .other) keyCredentials
          (request (some "tenant_beta")) ["tenant_beta"]
      ∧ bodyTenantId (request (some "tenant_beta")) = some "tenant_alpha"
      ∧ isTenantAllowed ["tenant_beta"] "tenant_alpha" = false :=
  ⟨by decide +kernel,
    Or.inl ⟨⟨"api_key", ["tenant_beta"]⟩, by decide +kernel, rfl⟩, by decide +kernel,
    by decide +kernel⟩

/-- A request that names its tenant in the body alone. -/
theorem body_tenant_in_scope_alpha :
    (∀ env verifyJwt cred scope, tenantBindingRequired env = true →
        Accepted text env verifyJwt cred (request none) scope →
          ∀ tenant, bodyTenantId (request none) = some tenant →
            isTenantAllowed scope tenant = true)
      ↔ bodyTenantId (request none) = none
        ∨ requestTenantId text (request none) = none
        ∨ requestTenantId text (request none) = bodyTenantId (request none)
        ∨ requestTenantId text (request none) = some "*" :=
  body_tenant_in_scope_iff text (request none) ⟨by decide, by decide⟩

end Tarka.Auth
