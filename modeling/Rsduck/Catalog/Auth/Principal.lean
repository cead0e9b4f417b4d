import Rsduck.Catalog.Auth.Authorize

/-!
Authentication: a name and a credential against the row of the user.
-/

namespace Rsduck.Catalog

open Lib Lib.Eff

inductive AuthProtocol
  | webApi | mySqlWire
  deriving DecidableEq

inductive AuthCredential
  | cleartextPassword (password : String)
  | mySqlNativePassword (nonce response : List UInt8)
  | mySqlCachingSha2Password (nonce response : List UInt8)

structure AuthRequest where
  protocol : AuthProtocol
  username : String
  credential : AuthCredential

structure AuthenticatedPrincipal where
  userId : ℤ
  username : String
  deriving DecidableEq

/-- Whether a credential fits what is stored of the password. -/
structure PasswordCheck where
  verifyPassword : (password encodedHash : String) → Bool
  verifyMysqlCachingSha2Password : (nonce response : List UInt8) → (verifier : String) → Bool

def authFailed : String := "invalid username or password"

def mysqlDefaultAuthPlugin : String := "caching_sha2_password"

section Authenticate

variable (A : PasswordCheck) (time : ℤ)

def finishSuccessfulAuth (username : String) (userId : ℤ) :
    Eff Catalog AuthenticatedPrincipal := do
  updateRows Slot.user (·.userId == userId) (fun u => { u with lastLoginAt := some time })
    fun _ _ => rfl
  return { userId, username }

def authenticateCleartextUser (username password : String) :
    Eff Catalog AuthenticatedPrincipal := do
  match (← get).rsUser.find (·.username == username) with
  | none => throw authFailed
  | some u =>
    ensure (u.status == "active") authFailed
    ensure (u.passwordAlgo == "argon2id") authFailed
    ensure (A.verifyPassword password u.passwordHash) authFailed
    finishSuccessfulAuth time username u.userId

def authenticateMysqlCachingSha2User (username : String) (nonce response : List UInt8) :
    Eff Catalog AuthenticatedPrincipal := do
  match (← get).rsUser.find (·.username == username) with
  | none => throw authFailed
  | some u =>
    ensure (u.status == "active") authFailed
    ensure (u.mysqlAuthPlugin == mysqlDefaultAuthPlugin && u.mysqlAuthString != "") authFailed
    ensure (A.verifyMysqlCachingSha2Password nonce response u.mysqlAuthString) authFailed
    finishSuccessfulAuth time username u.userId

def authenticate (request : AuthRequest) : Eff Catalog AuthenticatedPrincipal :=
  match request.protocol, request.credential with
  | .webApi, .cleartextPassword password =>
    authenticateCleartextUser A time request.username password
  | .mySqlWire, .mySqlCachingSha2Password nonce response =>
    authenticateMysqlCachingSha2User A time request.username nonce response
  | _, _ => throw authFailed

/-- The credential of a request lets it in as the user. -/
def credentialFits (request : AuthRequest) (u : UserRow) : Bool :=
  u.status == "active" &&
    match request.protocol, request.credential with
    | .webApi, .cleartextPassword password =>
      u.passwordAlgo == "argon2id" && A.verifyPassword password u.passwordHash
    | .mySqlWire, .mySqlCachingSha2Password nonce response =>
      u.mysqlAuthPlugin == mysqlDefaultAuthPlugin && u.mysqlAuthString != "" &&
        A.verifyMysqlCachingSha2Password nonce response u.mysqlAuthString
    | _, _ => false

/-- The catalog after a login. -/
def recordLogin (userId : ℤ) (c : Catalog) : Catalog :=
  { c with
    rsUser := c.rsUser.update (·.userId == userId) (fun u => { u with lastLoginAt := some time })
      fun _ _ => rfl }

lemma rows_recordLogin (userId : ℤ) (c : Catalog) :
    (recordLogin time userId c).rsUser.rows = c.rsUser.rows.map fun u =>
      if u.userId == userId then { u with lastLoginAt := some time } else u := rfl

lemma runs_finishSuccessfulAuth {username : String} {userId : ℤ} {c c' : Catalog}
    {p : AuthenticatedPrincipal} :
    Runs (finishSuccessfulAuth time username userId) c p c' ↔
      p = ⟨userId, username⟩ ∧ c' = recordLogin time userId c := by
  unfold finishSuccessfulAuth
  rw [runs_bind]
  constructor
  · rintro ⟨_, t, h, h'⟩
    obtain rfl := runs_updateRows.1 h
    exact runs_pure.1 h'
  · rintro ⟨rfl, rfl⟩
    exact ⟨⟨⟩, _, runs_updateRows.2 rfl, runs_pure.2 ⟨rfl, rfl⟩⟩

/-- **Authentication**: the user of that name whose credential fits, and the time of the login. -/
lemma runs_authenticate {request : AuthRequest} {c c' : Catalog} {p : AuthenticatedPrincipal} :
    Runs (authenticate A time request) c p c' ↔
      ∃ u, c.rsUser.find (·.username == request.username) = some u ∧
        credentialFits A request u = true ∧ p = ⟨u.userId, request.username⟩ ∧
        c' = recordLogin time u.userId c := by
  obtain ⟨protocol, username, credential⟩ := request
  unfold authenticate credentialFits
  rcases protocol with _ | _ <;> rcases credential with password | ⟨nonce, response⟩ | ⟨nonce, response⟩
  case webApi.cleartextPassword =>
    simp only [authenticateCleartextUser, runs_bind, runs_get]
    rcases hfind : c.rsUser.find (·.username == username) with _ | u
    · simp [hfind]
    · simp [hfind, runs_bind, runs_finishSuccessfulAuth, and_assoc]
  case mySqlWire.mySqlCachingSha2Password =>
    simp only [authenticateMysqlCachingSha2User, runs_bind, runs_get]
    rcases hfind : c.rsUser.find (·.username == username) with _ | u
    · simp [hfind]
    · simp [hfind, runs_bind, runs_finishSuccessfulAuth, and_assoc]
  all_goals simp

end Authenticate

end Rsduck.Catalog
