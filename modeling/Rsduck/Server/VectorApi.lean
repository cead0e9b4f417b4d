import Rsduck.Db.Handed
import Rsduck.Db.Transactions
import Rsduck.Db.VectorScope

/-!
Tokens of the vector API.

A token is for some tenants, some agents or all, some vector spaces and some operations. The
pairs of tenant and agent that a request names are checked before it is handed to a worker.
-/

namespace Rsduck.Server

open Lib Lib.Eff Lib.Text Catalog Mysql Db

/-! ### Tokens -/

structure VectorApiTokenConfig where
  token : List Char
  username : String
  tenantIds : List ℤ
  agentIds : List ℤ
  vectorSpaces : List String
  permissions : List String

structure VectorServiceIdentity where
  username : String
  tenantIds : List ℤ
  agentIds : List ℤ
  vectorSpaces : List String
  permissions : List String
  deriving DecidableEq

/-- The identities, by the digests of the tokens. -/
abbrev VectorServiceTokens := List (String × VectorServiceIdentity)

def checkVectorApiToken (config : VectorApiTokenConfig) : Except String Unit :=
  if (String.ofList (trim config.token)).utf8ByteSize < 32 then
    .error "vector API token must contain at least 32 characters"
  else if trimString config.username = "" then
    .error "vector API token username cannot be empty"
  else if config.tenantIds = [] then
    .error "vector API token must allow at least one tenant_id"
  else if config.vectorSpaces = [] ∨ config.vectorSpaces.any fun space => trimString space == "" then
    .error "vector API token must allow at least one non-empty vector_space"
  else if config.permissions = [] ∨
      config.permissions.any fun permission => permission != "search" && permission != "write" then
    .error "vector API token permissions must contain search and/or write"
  else .ok ()

def VectorApiTokenConfig.identity (config : VectorApiTokenConfig) : VectorServiceIdentity :=
  ⟨config.username, config.tenantIds, config.agentIds, config.vectorSpaces, config.permissions⟩

section Tokens

-- SHA-256 of a text, in hexadecimal digits
variable (digest : List Char → String)

def insertVectorServiceToken (tokens : VectorServiceTokens) (config : VectorApiTokenConfig) :
    Except String VectorServiceTokens := do
  checkVectorApiToken config
  let digest := digest (trim config.token)
  if (tokens.lookup digest).isSome then throw "duplicate vector API token"
  return (digest, config.identity) :: tokens

def buildVectorServiceTokens (configs : List VectorApiTokenConfig) :
    Except String VectorServiceTokens :=
  configs.foldlM (insertVectorServiceToken digest) []

/-! ### Admission -/

structure WebState where
  vectorApiTokens : VectorServiceTokens
  /-- The usernames of the sessions, by their tokens. -/
  sessions : List (List Char × String)

/-- The headers that are looked at. -/
structure Headers where
  cookie : Option (List Char) := none
  authorization : Option (List Char) := none

def parseSessionToken (headers : Headers) : Option (List Char) :=
  headers.cookie.bind fun cookie =>
    (((cookie.splitOn ';').map trim).findSome? (stripPrefix "rsduck_session=")).filter (· != [])

def sessionUsername (state : WebState) (headers : Headers) : Option String :=
  (parseSessionToken headers).bind fun token => state.sessions.lookup token

def bearerToken (headers : Headers) : Option (List Char) :=
  ((headers.authorization.bind (stripPrefix "Bearer ")).map trim).filter (· != [])

/-- The identity may act for the agent of the tenant. -/
def VectorServiceIdentity.covers (identity : VectorServiceIdentity) (scope : ℤ × ℤ) : Bool :=
  identity.tenantIds.contains scope.1 &&
    (identity.agentIds.isEmpty || identity.agentIds.contains scope.2)

def vectorApiUsername (state : WebState) (headers : Headers) (vectorSpace permission : String)
    (scopes : List (ℤ × ℤ)) : Except String String :=
  match sessionUsername state headers with
  | some username => .ok username
  | none =>
    match bearerToken headers with
    | none => .error "AUTHENTICATION_FAILED: Bearer token is required"
    | some token =>
      match state.vectorApiTokens.lookup (digest token) with
      | none => .error "AUTHENTICATION_FAILED: invalid Bearer token"
      | some identity =>
        if !identity.vectorSpaces.contains vectorSpace ||
            !identity.permissions.contains permission then
          .error ("AUTHORIZATION_FAILED: vector_space=" ++ vectorSpace ++ ", permission=" ++ permission)
        else
          match scopes.find? fun scope => !identity.covers scope with
          | some scope => .error ("TENANT_SCOPE_DENIED: tenant_id=" ++ toString scope.1 ++
              ", agent_id=" ++ toString scope.2)
          | none => .ok identity.username

end Tokens

/-! ### Requests -/

inductive VectorRequest
  | search (request : VectorSearchRequest)
  | upsert (request : VectorUpsertRequest)
  | delete (request : VectorDeleteRequest)

namespace VectorRequest

def vectorSpace : VectorRequest → String
  | .search request => request.vectorSpace
  | .upsert request => request.vectorSpace
  | .delete request => request.vectorSpace

def permission : VectorRequest → String
  | .search _ => "search"
  | .upsert _ | .delete _ => "write"

/-- The pairs of tenant and agent that the request names. -/
def scopes : VectorRequest → List (ℤ × ℤ)
  | .search request => [(request.tenantId, request.agentId)]
  | .upsert request => request.items.map fun item => (item.tenantId, item.agentId)
  | .delete request => request.items.map fun item => (item.tenantId, item.agentId)

def command (username : String) : VectorRequest → SqlCommand
  | .search request => .vectorSearch username request
  | .upsert request => .vectorUpsert username request
  | .delete request => .vectorDelete username request

end VectorRequest

section Handlers

variable {C : Crates} {P K : Type} (W : Workers C P K) (digest : List Char → String)

/-- The handlers of a search, an upsert and a deletion, once the request is read. -/
def vectorHandler (state : WebState) (headers : Headers) (request : VectorRequest) :
    Eff (Conn P K) (Reply C) := do
  let username ← fromExcept (vectorApiUsername digest state headers request.vectorSpace
    request.permission request.scopes)
  handle W (request.command username)

end Handlers

/-! ### What an admission says -/

section Admission

variable {digest : List Char → String} {configs : List VectorApiTokenConfig}
  {tokens : VectorServiceTokens}

/-- Every identity is that of a configured token. -/
def Configured (digest : List Char → String) (configs : List VectorApiTokenConfig)
    (tokens : VectorServiceTokens) : Prop :=
  ∀ d identity, tokens.lookup d = some identity →
    ∃ config ∈ configs, digest (trim config.token) = d ∧ config.identity = identity

lemma configured_insert {config : VectorApiTokenConfig} {tokens' : VectorServiceTokens}
    (h : Configured digest configs tokens) (hconfig : config ∈ configs)
    (hinsert : insertVectorServiceToken digest tokens config = .ok tokens') :
    Configured digest configs tokens' := by
  unfold insertVectorServiceToken at hinsert
  rcases hcheck : checkVectorApiToken config with e | ⟨⟩
  · rw [hcheck] at hinsert
    cases hinsert
  rw [hcheck] at hinsert
  rcases hknown : tokens.lookup (digest (trim config.token)) with _ | known
  · simp only [hknown, bind, Except.bind] at hinsert
    cases hinsert
    intro d identity hlookup
    rw [List.lookup_cons] at hlookup
    rcases hd : (d == digest (trim config.token)) with _ | _
    · rw [hd] at hlookup
      exact h d identity hlookup
    · rw [hd] at hlookup
      exact ⟨config, hconfig, (eq_of_beq hd).symm, Option.some.inj hlookup⟩
  · simp only [hknown, bind, Except.bind] at hinsert
    cases hinsert

lemma configured_build (h : buildVectorServiceTokens digest configs = .ok tokens) :
    Configured digest configs tokens := by
  have hfold : ∀ (rest : List VectorApiTokenConfig) (start : VectorServiceTokens),
      (∀ config ∈ rest, config ∈ configs) → Configured digest configs start →
      rest.foldlM (insertVectorServiceToken digest) start = .ok tokens →
        Configured digest configs tokens := by
    intro rest
    induction rest with
    | nil =>
      rintro start - hstart hrun
      cases hrun
      exact hstart
    | cons config rest ih =>
      intro start hmem hstart hrun
      rw [List.foldlM_cons] at hrun
      rcases hinsert : insertVectorServiceToken digest start config with e | next
      · rw [hinsert] at hrun
        cases hrun
      · rw [hinsert] at hrun
        obtain ⟨hconfig, hrest⟩ := List.forall_mem_cons.1 hmem
        exact ih next hrest (configured_insert hstart hconfig hinsert) hrun
  exact hfold configs [] (fun _ h => h) (fun d identity h => by cases h) h

/-- The token's configuration names the tenant, and the agent if it names any. -/
def VectorApiTokenConfig.Covers (config : VectorApiTokenConfig) (scope : ℤ × ℤ) : Prop :=
  scope.1 ∈ config.tenantIds ∧ (config.agentIds = [] ∨ scope.2 ∈ config.agentIds)

lemma covers_iff (config : VectorApiTokenConfig) (scope : ℤ × ℤ) :
    config.identity.covers scope = true ↔ config.Covers scope := by
  simp [VectorServiceIdentity.covers, VectorApiTokenConfig.Covers, VectorApiTokenConfig.identity]

/-- **An admission** without a session is by a configured token that covers what is asked for. -/
lemma exists_config_of_admitted {state : WebState} {headers : Headers}
    {vectorSpace permission username : String} {scopes : List (ℤ × ℤ)}
    (hbuild : buildVectorServiceTokens digest configs = .ok state.vectorApiTokens)
    (hsession : sessionUsername state headers = none)
    (h : vectorApiUsername digest state headers vectorSpace permission scopes = .ok username) :
    ∃ config ∈ configs,
      (bearerToken headers).map digest = some (digest (trim config.token)) ∧
      username = config.username ∧ vectorSpace ∈ config.vectorSpaces ∧
      permission ∈ config.permissions ∧ ∀ scope ∈ scopes, config.Covers scope := by
  unfold vectorApiUsername at h
  rw [hsession] at h
  rcases htoken : bearerToken headers with _ | token
  · simp [htoken] at h
  rcases hlookup : state.vectorApiTokens.lookup (digest token) with _ | identity
  · simp [htoken, hlookup] at h
  obtain ⟨config, hconfig, hdigest, rfl⟩ := configured_build hbuild _ _ hlookup
  simp only [htoken, hlookup] at h
  split_ifs at h with hallowed
  rcases hdenied : scopes.find? fun scope => !config.identity.covers scope with _ | scope
  · rw [hdenied] at h
    have hspace : vectorSpace ∈ config.vectorSpaces ∧ permission ∈ config.permissions := by
      simpa [VectorApiTokenConfig.identity] using hallowed
    refine ⟨config, hconfig, by rw [hdigest]; rfl, (Except.ok.inj h).symm, hspace.1, hspace.2, ?_⟩
    intro scope hscope
    have hcovered := List.find?_eq_none.1 hdenied scope hscope
    exact (covers_iff config scope).1 (by simpa using hcovered)
  · rw [hdenied] at h
    cases h

end Admission

/-! ### What a request does and says -/

section Scope

variable {C : Crates} {P K : Type} (W : Workers C P K) (E : Distances C)

/-- What is told of a request, up to the row count of the whole table. -/
inductive VectorAnswer (C : Crates)
  | matches (result : VectorSearchResult)
  | counts (vectorSpace : String) (applied idempotent : ℕ)
  | other

def answerOf : Reply C → VectorAnswer C
  | .matches result => .matches result
  | .mutation result => .counts result.vectorSpace result.applied result.idempotent
  | _ => .other

/-- Searching changes no row of the table. -/
def SearchReads (index : VectorIndexStatus) (request : VectorRequest) (s : Conn P K) : Prop :=
  ∀ r, request = .search r →
    SearchWithin W (Same fun t => rowsOf W.vectors.toVectorEngine index t.session.now) r s

/-- Two connections that differ in the rows of the table beside the pairs that the request names,
on an engine that does what the texts of the service say. -/
structure SameScope (request : VectorRequest) (s s' : Conn P K) : Prop where
  catalog : SameButCounts s.session.now.cat s'.session.now.cat
  opened : s.session.saved.isSome = s'.session.saved.isSome
  rows : ∀ index, foundIndex s.session.now.cat request.vectorSpace = .ok index →
    AgreeOn W.vectors.toVectorEngine index request.scopes s.session.now s'.session.now
  /-- a search is exact, and is answered as its query reads -/
  searches : ∀ r, request = .search r → r.mode = "exact" ∧
    ∀ index, foundIndex s.session.now.cat request.vectorSpace = .ok index →
      AnswersSearch E W.engine W.vectors.toVectorEngine index r s ∧
        AnswersSearch E W.engine W.vectors.toVectorEngine index r s'
  /-- what is written is committed or not whatever it is -/
  commits : ∀ d d', W.vectors.refuse d = W.vectors.refuse d'

variable {W E} {request : VectorRequest} {s s' : Conn P K}

lemma exec_authorizedIndex_eq (right : Catalog → String → String → Except String Unit)
    (vectorSpace : String) (s : Conn P K) :
    exec (authorizedIndex right vectorSpace) s = ((do
      let index ← foundIndex s.session.now.cat vectorSpace
      right s.session.now.cat index.schema index.table
      return index), s) := by
  refine Prod.ext ?_ (exec_authorizedIndex right vectorSpace s)
  unfold authorizedIndex current
  rw [exec_bind, exec_onSession, exec_lookup]
  rcases foundIndex s.session.now.cat vectorSpace with e | index
  · rfl
  · simp only [exec_bind, exec_get, exec_pure, exec_fromExcept]
    rcases hright : right s.session.now.cat index.schema index.table with e | ⟨⟩
    · simp [bind, Except.bind, hright]
    · simp [bind, Except.bind, hright, pure, Except.pure]

lemma pair_mem_scopes_upsert {r : VectorUpsertRequest} {item : VectorUpsertItem}
    (h : item ∈ r.items) : pairOf item.key ∈ (VectorRequest.upsert r).scopes :=
  List.mem_map_of_mem h

lemma pair_mem_scopes_delete {r : VectorDeleteRequest} {item : VectorDeleteItem}
    (h : item ∈ r.items) : pairOf item.key ∈ (VectorRequest.delete r).scopes :=
  List.mem_map_of_mem h

lemma within_onSession {δ α : Type} {view : Session (Db P) → δ} {m : Eff (Session (Db P)) α}
    (h : Within (Same view) m s.session) :
    Within (Same fun t : Conn P K => view t.session) (onSession m) s := by
  unfold Within
  rw [exec_onSession]
  exact h

/-- A request changes rows of the pairs it names only. -/
lemma othersOf_handle {index : VectorIndexStatus} (username : String)
    (hfound : foundIndex s.session.now.cat request.vectorSpace = .ok index)
    (hreads : SearchReads W index request s) :
    Within (Same fun t => othersOf W.vectors.toVectorEngine index request.scopes t.session.now)
      (handle W (request.command username)) s := by
  cases request with
  | search r =>
    have hrows : Within (Same fun t => rowsOf W.vectors.toVectorEngine index t.session.now)
        (handle W (.vectorSearch username r)) s := within_handle (hreads r rfl) trivial
    exact within_same_of_view (rowsOutside _) hrows
  | upsert r =>
    have hbatch : Within (Same fun t => othersOf W.vectors.toVectorEngine index
        (VectorRequest.upsert r).scopes t.now) (upsertVectorsBlocking W.vectors.toVectorEngine r)
        s.session := by
      rw [upsertVectorsBlocking_eq]
      exact within_runBatch hfound fun item hitem =>
        keeps_upsertVector (pair_mem_scopes_upsert hitem)
    have hown := within_onSession hbatch
    exact within_handle (show TextsWithin W _ s (.vectorUpsert username r) from trivial) hown
  | delete r =>
    have hbatch : Within (Same fun t => othersOf W.vectors.toVectorEngine index
        (VectorRequest.delete r).scopes t.now) (deleteVectorsBlocking W.vectors.toVectorEngine r)
        s.session := by
      rw [deleteVectorsBlocking_eq]
      exact within_runBatch hfound fun item hitem =>
        keeps_deleteVector (pair_mem_scopes_delete hitem)
    have hown := within_onSession hbatch
    exact within_handle (show TextsWithin W _ s (.vectorDelete username r) from trivial) hown

/-- Commands that act on the same index, once the right to it is checked, have one outcome where
their work has. -/
lemma outcome_authorized {α β : Type} {right : Catalog → String → String → Except String Unit}
    {vectorSpace : String} {m : Eff (Conn P K) α} {reply : α → Reply C} {f : Reply C → β}
    (hcat : SameButCounts s.session.now.cat s'.session.now.cat)
    (hright : ∀ counts version c, right (withCounts counts version c) = right c)
    (h : (exec m s).1.map (fun a => f (reply a)) = (exec m s').1.map fun a => f (reply a)) :
    (exec (do
      let _ ← authorizedIndex right vectorSpace
      return reply (← m)) s).1.map f = (exec (do
      let _ ← authorizedIndex right vectorSpace
      return reply (← m)) s').1.map f := by
  obtain ⟨counts, version, hcounted⟩ := hcat
  rw [exec_bind, exec_bind, exec_authorizedIndex_eq, exec_authorizedIndex_eq, hcounted,
    foundIndex_withCounts, hright]
  rcases foundIndex s.session.now.cat vectorSpace with e | index
  · rfl
  simp only [Except.map, bind, Except.bind]
  rcases right s.session.now.cat index.schema index.table with e | ⟨⟩
  · rfl
  simp only [pure, Except.pure]
  change (exec (m >>= fun a => pure (reply a)) s).1.map f =
    (exec (m >>= fun a => pure (reply a)) s').1.map f
  rw [exec_bind, exec_bind]
  rcases hl : exec m s with ⟨r, t⟩
  rcases hr : exec m s' with ⟨r', t'⟩
  rw [hl, hr] at h
  rcases r with e | a <;> rcases r' with e' | a'
  · exact h
  · cases h
  · cases h
  · exact h

/-- What is told of a batch are its counts. -/
lemma outcome_mutation {m : Eff (Session (Db P)) VectorMutationResult}
    (h : (exec m s.session).1.map VectorMutationResult.counts =
      (exec m s'.session).1.map VectorMutationResult.counts) :
    (exec (onSession (K := K) m) s).1.map (fun a => answerOf (C := C) (.mutation a)) =
      (exec (onSession (K := K) m) s').1.map fun a => answerOf (.mutation a) := by
  have hcounts : ∀ x : Except String VectorMutationResult,
      x.map (fun a => answerOf (C := C) (.mutation a)) =
        (x.map VectorMutationResult.counts).map fun c => .counts c.1 c.2.1 c.2.2 := by
    intro x
    cases x <;> rfl
  rw [exec_onSession, exec_onSession, hcounts, hcounts, h]

lemma exec_upsert_of_authorized {username : String} {r : VectorUpsertRequest}
    {index : VectorIndexStatus} (hfound : foundIndex s.session.now.cat r.vectorSpace = .ok index)
    (hright : authorizeVectorWrite s.session.now.cat username index.schema index.table = .ok ()) :
    (exec (handle W (.vectorUpsert username r)) s).1 =
      (exec (upsertVectorsBlocking W.vectors.toVectorEngine r) s.session).1.map .mutation := by
  unfold handle
  rw [exec_bind, exec_authorizedIndex_eq, hfound]
  have hauthorized : (do
      let index ← Except.ok index
      authorizeVectorWrite s.session.now.cat username index.schema index.table
      return index) = Except.ok index := by
    simp only [bind, Except.bind, hright]
    rfl
  rw [hauthorized]
  simp only
  rw [exec_bind, exec_onSession]
  rcases (exec (upsertVectorsBlocking W.vectors.toVectorEngine r) s.session).1 with e | result
  · rfl
  · rfl

/-- **One scope, one answer**: what a request is answered comes from the rows of its pairs. -/
lemma outcome_handle (username : String) (h : SameScope W E request s s')
    (hkeys : ∀ r index, request = .upsert r →
      foundIndex s.session.now.cat request.vectorSpace = .ok index →
        KeysOver W.vectors.toVectorEngine index pairColumns s.session.now) :
    (exec (handle W (request.command username)) s).1.map answerOf =
      (exec (handle W (request.command username)) s').1.map answerOf := by
  cases request with
  | search r =>
    obtain ⟨hexact, hanswers⟩ := h.searches r rfl
    refine outcome_authorized h.catalog (fun _ _ _ => rfl) (congrArg (Except.map _) ?_)
    exact outcome_searchVectorsBlocking hexact h.catalog fun index hindex =>
      ⟨h.rows index hindex, hanswers index hindex⟩
  | upsert r =>
    refine outcome_authorized h.catalog (fun _ _ _ => rfl) (outcome_mutation ?_)
    rw [upsertVectorsBlocking_eq]
    refine outcome_runBatch (L := fun index => UpsertsAlike W.vectors.toVectorEngine index
      (VectorRequest.upsert r).scopes) h.catalog
      (fun index n => congrArg (validateBatch r.vectorSpace r.items.length >>= fun _ => ·)
        (validateUpsertItems_counted index n [] r.items)) (fun _ _ => rfl) h.opened h.commits fun index hindex => ?_
    exact ⟨⟨h.rows index hindex, hkeys r index rfl hindex⟩, fun item hitem d d' hd =>
      alike_upsertVector hd (pair_mem_scopes_upsert hitem)⟩
  | delete r =>
    refine outcome_authorized h.catalog (fun _ _ _ => rfl) (outcome_mutation ?_)
    rw [deleteVectorsBlocking_eq]
    refine outcome_runBatch (L := fun index => AgreeOn W.vectors.toVectorEngine index
      (VectorRequest.delete r).scopes) h.catalog (fun _ _ => rfl) (fun _ _ => rfl) h.opened h.commits fun index hindex => ?_
    exact ⟨h.rows index hindex, fun item hitem d d' hd =>
      alike_deleteVector hd (pair_mem_scopes_delete hitem)⟩

/-- **A token stays in its scope**: an admitted request names pairs that the token covers, changes
no row of another pair, and is answered from the rows of these pairs alone, as long as the unique
constraints of the table are over the tenant and the agent. -/
theorem token_stays_in_scope {digest : List Char → String} {configs : List VectorApiTokenConfig}
    {state : WebState} {headers : Headers} {username : String}
    (hbuild : buildVectorServiceTokens digest configs = .ok state.vectorApiTokens)
    (hsession : sessionUsername state headers = none)
    (hadmission : vectorApiUsername digest state headers request.vectorSpace request.permission
      request.scopes = .ok username) :
    (∃ config ∈ configs, (bearerToken headers).map digest = some (digest (trim config.token)) ∧
      username = config.username ∧ request.vectorSpace ∈ config.vectorSpaces ∧
      request.permission ∈ config.permissions ∧ ∀ scope ∈ request.scopes, config.Covers scope) ∧
    (∀ (s : Conn P K) (index : VectorIndexStatus),
      foundIndex s.session.now.cat request.vectorSpace = .ok index → SearchReads W index request s →
        othersOf W.vectors.toVectorEngine index request.scopes
            (exec (vectorHandler W digest state headers request) s).2.session.now =
          othersOf W.vectors.toVectorEngine index request.scopes s.session.now) ∧
    (∀ (s : Conn P K) (e : String), foundIndex s.session.now.cat request.vectorSpace = .error e →
      (exec (vectorHandler W digest state headers request) s).2 = s) ∧
    ∀ s s' : Conn P K, SameScope W E request s s' →
      (∀ r index, request = .upsert r →
        foundIndex s.session.now.cat request.vectorSpace = .ok index →
          KeysOver W.vectors.toVectorEngine index pairColumns s.session.now) →
      (exec (vectorHandler W digest state headers request) s).1.map answerOf =
        (exec (vectorHandler W digest state headers request) s').1.map answerOf := by
  have hhandler : ∀ s : Conn P K, exec (vectorHandler W digest state headers request) s =
      exec (handle W (request.command username)) s := by
    intro s
    unfold vectorHandler
    rw [hadmission, exec_bind, exec_fromExcept]
  refine ⟨exists_config_of_admitted hbuild hsession hadmission, fun s index hfound hreads => ?_,
    fun s e hfound => ?_, fun s s' h hkeys => ?_⟩
  · rw [hhandler]
    exact othersOf_handle username hfound hreads
  · rw [hhandler]
    cases request <;> unfold VectorRequest.command handle <;>
      rw [exec_bind, exec_authorizedIndex_eq] <;> rw [VectorRequest.vectorSpace] at hfound <;>
      rw [hfound] <;> rfl
  · rw [hhandler, hhandler]
    exact outcome_handle username h hkeys

end Scope

/-! ### Two tenants in one table -/

/-- One table of vectors of dimension 1, under some unique constraints. -/
def oneVectorTable (keys : List (List VectorColumn)) : IndexEngine (List VectorRow) :=
  { fullIndexes with
    uniqueKeys := fun _ _ _ => keys
    uniqueKeys_put := fun _ _ _ _ _ => rfl
    castFloatArray := fun _ => .ok [0x3f800000#32] }

def oneVectorWorkers (keys : List (List VectorColumn)) :
    Workers plainCrates (List VectorRow) Unit :=
  { fullWorkers with vectors := oneVectorTable keys }

def tenantToken : VectorApiTokenConfig :=
  ⟨"0123456789abcdef0123456789abcdef".toList, "admin", [1], [], ["v"], ["search", "write"]⟩

/-- The digest of that token, and of no other. -/
def tokenDigest (token : List Char) : String :=
  if token = tenantToken.token then
    "3eb1bd439947eb762998e566ccc2e099c791118b2f40579cc4f7da2b5061b7f9"
  else ""

def tenantState : WebState :=
  ⟨[("3eb1bd439947eb762998e566ccc2e099c791118b2f40579cc4f7da2b5061b7f9", tenantToken.identity)], []⟩

def tenantHeaders : Headers :=
  { authorization := some "Bearer 0123456789abcdef0123456789abcdef".toList }

/-- A vector of tenant 1. -/
def tenantBatch : VectorUpsertRequest := ⟨"v", [⟨1, 1, 5, 0, "h", [0x3f800000#32]⟩]⟩

def tenantUpsert : VectorRequest := .upsert tenantBatch

/-- A row of tenant 2, with the same memory. -/
def otherTenantRow : VectorRow :=
  ⟨some 2, some 2, some 5, some 0, some "g", some [some 0x3f800000#32]⟩

/-- The table with these rows, and their number in the catalog. -/
def tableConn (rows : List VectorRow) : Conn (List VectorRow) Unit :=
  ⟨⟨⟨withCounts (fun _ => rows.length) Table.empty indexedCatalog, rows⟩, none⟩, ()⟩

lemma build_tenantToken :
    buildVectorServiceTokens tokenDigest [tenantToken] = .ok tenantState.vectorApiTokens := by
  decide

lemma admit_tenantUpsert : vectorApiUsername tokenDigest tenantState tenantHeaders
    tenantUpsert.vectorSpace tenantUpsert.permission tenantUpsert.scopes = .ok "admin" := by
  decide

lemma authorizeWrite_admin (rows : List VectorRow) :
    authorizeVectorWrite (tableConn rows).session.now.cat "admin" "main" "t" = .ok () := by
  change authorizeVectorWrite indexedCatalog "admin" "main" "t" = .ok ()
  unfold authorizeVectorWrite
  rw [principal_admin]
  rfl

/-- What the upsert of tenant 1 comes to. -/
lemma exec_tenantUpsert (keys : List (List VectorColumn)) (rows : List VectorRow) :
    (exec (vectorHandler (oneVectorWorkers keys) tokenDigest tenantState tenantHeaders tenantUpsert)
      (tableConn rows)).1 = (exec (upsertVectorsBlocking (oneVectorTable keys).toVectorEngine
        tenantBatch) (tableConn rows).session).1.map .mutation := by
  unfold vectorHandler
  rw [admit_tenantUpsert, exec_bind, exec_fromExcept]
  exact exec_upsert_of_authorized (s := tableConn rows) rfl (authorizeWrite_admin rows)

/-- With a unique constraint over the memory alone, the upsert tells tenant 1 of the row of
tenant 2, though the table's rows of tenant 1 are the same. -/
theorem upsert_tells_of_other_tenant :
    buildVectorServiceTokens tokenDigest [tenantToken] = .ok tenantState.vectorApiTokens ∧
    sessionUsername tenantState tenantHeaders = none ∧
    otherTenantRow.pair = some (2, 2) ∧ ¬ tenantToken.Covers (2, 2) ∧
    rowsWithin tenantUpsert.scopes [otherTenantRow] = rowsWithin tenantUpsert.scopes [] ∧
    (exec (vectorHandler (oneVectorWorkers [keyColumns, [.memoryId]]) tokenDigest tenantState
      tenantHeaders tenantUpsert) (tableConn [])).1.isOk = true ∧
    (exec (vectorHandler (oneVectorWorkers [keyColumns, [.memoryId]]) tokenDigest tenantState
      tenantHeaders tenantUpsert) (tableConn [otherTenantRow])).1.isOk = false := by
  have hmap : ∀ x : Except String VectorMutationResult,
      (x.map fun a => (.mutation a : Reply plainCrates)).isOk = x.isOk := by
    intro x
    cases x <;> rfl
  refine ⟨build_tenantToken, by decide, rfl, ?_, by decide, ?_, ?_⟩
  · rintro ⟨htenant, -⟩
    revert htenant
    decide
  · rw [exec_tenantUpsert, hmap]
    decide
  · rw [exec_tenantUpsert, hmap]
    decide

/-- With no unique constraint but the key's, it is answered alike. -/
theorem upsert_alike_beside_other_tenant :
    tenantToken.Covers (1, 1) ∧
    (exec (vectorHandler (oneVectorWorkers [keyColumns]) tokenDigest tenantState tenantHeaders
      tenantUpsert) (tableConn [])).1.map answerOf =
      (exec (vectorHandler (oneVectorWorkers [keyColumns]) tokenDigest tenantState tenantHeaders
        tenantUpsert) (tableConn [otherTenantRow])).1.map answerOf := by
  have hsession : sessionUsername tenantState tenantHeaders = none := by decide
  have hscope : SameScope (oneVectorWorkers [keyColumns])
      (⟨fun _ _ _ => .error "", fun _ _ => false, []⟩ : Distances plainCrates) tenantUpsert
      (tableConn []) (tableConn [otherTenantRow]) :=
    ⟨⟨fun _ => 1, Table.empty, rfl⟩, rfl, fun _ _ => ⟨rfl, rfl⟩, (by rintro r ⟨⟩), fun _ _ => rfl⟩
  obtain ⟨⟨config, hconfig, -, -, -, -, hcovers⟩, -, -, hsame⟩ :=
    token_stays_in_scope (W := oneVectorWorkers [keyColumns])
      (E := (⟨fun _ _ _ => .error "", fun _ _ => false, []⟩ : Distances plainCrates))
      build_tenantToken hsession admit_tenantUpsert
  obtain rfl := List.mem_singleton.1 hconfig
  refine ⟨hcovers _ (by decide), hsame _ _ hscope ?_⟩
  rintro r index - - key hkey
  obtain rfl := List.mem_singleton.1 hkey
  decide

end Rsduck.Server
