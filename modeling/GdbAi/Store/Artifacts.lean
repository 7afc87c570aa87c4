import GdbAi.Domain
import GdbAi.Library.Tables
import GdbAi.Output.Ring

/-!
# The artifact tables

`put_artifact`, `set_session_owner`, `prune_session` and `delete_unowned_artifact` of
`gdb-ai-core/src/persistence.rs`, over the tables `artifacts`, `artifact_owners` and
`session_owners` and the directory of digest files.  Each call keeps the mutex of the connection
to its end, so calls are the steps.  The digest is a parameter; nothing rests on its being
injective.  Faults of the database and of the file system are parameters of the calls.
-/

namespace GdbAi

/-! ### The tables -/

/-- A row of `artifacts`; `sessionId` is written by the first registration only. -/
structure ArtifactRow where
  uri : String
  sessionId : Option String
  size : ℕ
  sensitivity : String
  deriving DecidableEq, Repr

/-- A row of `artifact_owners`. -/
structure Ownership where
  uri : String
  sessionId : String
  deriving DecidableEq, Repr

/-- A row of `session_owners`. -/
structure SessionOwner where
  sessionId : String
  owner : String
  deriving DecidableEq, Repr

/-- The tables, and the URIs that have a digest file. -/
structure ArtifactStore where
  artifacts : Table ArtifactRow.uri
  artifactOwners : Table (id : Ownership → Ownership)
  sessionOwners : Table SessionOwner.sessionId
  files : List String

/-- A new store. -/
def ArtifactStore.empty : ArtifactStore := ⟨.empty, .empty, .empty, []⟩

/-- `ArtifactLimits`. -/
structure ArtifactLimits where
  sessionBytes : ℕ
  ownerBytes : ℕ
  totalBytes : ℕ
  deriving DecidableEq, Repr

/-- `artifact_sensitivity_rank`. -/
def artifactSensitivityRank : String → Option ℕ
  | "public" => some 0
  | "source" => some 1
  | "transcript" => some 2
  | "target-io" => some 3
  | "protocol-response" | "probe-observations" | "target-value" | "tracked-memory"
  | "target-memory" => some 4
  | "secret" => some 5
  | _ => none

/-- The rank a stored label counts as: one that is not known is never replaced. -/
def storedRank (sensitivity : String) : ℕ := (artifactSensitivityRank sensitivity).getD 255

/-- `ArtifactStore::uri`, over the digest in hexadecimal. -/
def artifactUri (digest : List UInt8 → String) (bytes : List UInt8) : String :=
  "gdbai://artifact/sha256:" ++ digest bytes

/-- `sql_error`. -/
def sqlError (message : String) : Error := { code := .internal, message := message }

namespace ArtifactStore

variable (s : ArtifactStore)

/-! ### Queries -/

/-- The row `(uri, session_id)` of `artifact_owners`. -/
def owns (sessionId uri : String) : Bool := ⟨uri, sessionId⟩ ∈ s.artifactOwners.rows

/-- The owner of a session. -/
def sessionOwner (sessionId : String) : Option String :=
  (s.sessionOwners.lookup sessionId).map SessionOwner.owner

/-- `artifact_owners JOIN session_owners USING (session_id)` has the URI for the owner. -/
def ownerHas (owner uri : String) : Bool :=
  s.artifactOwners.rows.any fun ownership => ownership.uri = uri &&
    s.sessionOwners.rows.any fun row =>
      row.sessionId = ownership.sessionId && row.owner = owner

/-- `SUM(artifacts.size)` over `artifacts JOIN artifact_owners` for one session: a row counts
once for each ownership it is joined with. -/
def sessionUsed (sessionId : String) : ℕ :=
  (s.artifacts.rows.flatMap fun row =>
    (s.artifactOwners.rows.filter fun ownership =>
      ownership.uri = row.uri && ownership.sessionId = sessionId).map fun _ => row.size).sum

/-- `SUM(size)` over the artifacts whose URI some session of the owner has. -/
def ownerUsed (owner : String) : ℕ :=
  s.artifacts.total ArtifactRow.size fun row => s.ownerHas owner row.uri

/-- `SUM(size)` over all artifacts. -/
def totalUsed : ℕ := s.artifacts.total ArtifactRow.size fun _ => true

/-! ### Registration -/

/-- Room for `length` more bytes beside `used`.  A sum beyond `i64` fails in SQLite. -/
def reserve (used length limit : ℕ) (message : String) : Except Error Unit :=
  if 2 ^ 63 ≤ used then .error (sqlError "integer overflow")
  else if limit < saturatingAdd used length then
    .error { code := .outputLimit, message := message }
  else .ok ()

/-- The row that the URI has already is of the same size. -/
def checkSize (uri : String) (length : ℕ) : Except Error Unit :=
  match s.artifacts.lookup uri with
  | some row =>
    if row.size ≠ length then
      .error { code := .internal,
               message := "artifact metadata size does not match its digest content" }
    else .ok ()
  | none => .ok ()

/-- The quota of the session, unless it has the artifact. -/
def checkSession (limits : ArtifactLimits) (uri : String) (length : ℕ) (sessionId : String) :
    Except Error Unit :=
  if s.owns sessionId uri then .ok ()
  else reserve (s.sessionUsed sessionId) length limits.sessionBytes
    "session artifact quota exceeded"

/-- The quota of the session's owner, unless one of its sessions has the artifact. -/
def checkOwner (limits : ArtifactLimits) (uri : String) (length : ℕ) (sessionId : String) :
    Except Error Unit :=
  match s.sessionOwner sessionId with
  | none => .error { code := .internal, message := "artifact session has no owner" }
  | some owner =>
    if s.ownerHas owner uri then .ok ()
    else reserve (s.ownerUsed owner) length limits.ownerBytes "owner artifact quota exceeded"

/-- The quota of the store, unless there is a row. -/
def checkTotal (limits : ArtifactLimits) (uri : String) (length : ℕ) : Except Error Unit :=
  match s.artifacts.lookup uri with
  | some _ => .ok ()
  | none => reserve s.totalUsed length limits.totalBytes "global artifact quota exceeded"

/-- All checks of `put_artifact`, in its order. -/
def admission (limits : ArtifactLimits) (uri : String) (length : ℕ) :
    Option String → Except Error Unit
  | none => do
    s.checkSize uri length
    s.checkTotal limits uri length
  | some sessionId => do
    s.checkSize uri length
    s.checkSession limits uri length sessionId
    s.checkOwner limits uri length sessionId
    s.checkTotal limits uri length

/-- `put_prehashed`, when it succeeds. -/
def publish (uri : String) : ArtifactStore :=
  { s with files := if uri ∈ s.files then s.files else uri :: s.files }

/-- The label to be stored: the one that is there, unless the incoming one ranks higher. -/
def retainedSensitivity (uri sensitivity : String) (incomingRank : ℕ) : String :=
  match s.artifacts.lookup uri with
  | some row => if incomingRank ≤ storedRank row.sensitivity then row.sensitivity else sensitivity
  | none => sensitivity

/-- The two statements that write. -/
def register (uri : String) (length : ℕ) (sessionId : Option String) (sensitivity : String) :
    ArtifactStore :=
  { s with
    artifacts := s.artifacts.upsert ⟨uri, sessionId, length, sensitivity⟩
      (fun row => { row with sensitivity := sensitivity }) fun _ => rfl
    artifactOwners :=
      match sessionId with
      | some sessionId => s.artifactOwners.insertOrIgnore ⟨uri, sessionId⟩
      | none => s.artifactOwners }

end ArtifactStore

/-- What goes wrong outside the checks of `put_artifact`. -/
inductive PutArtifactFault where
  /-- A query fails. -/
  | query (error : Error)
  /-- `put_prehashed` fails, before or after the file has its name. -/
  | file (error : Error) (published : Bool)
  /-- A statement that writes, or the commit, fails. -/
  | commit (error : Error)
  deriving DecidableEq, Repr

namespace ArtifactStore

variable (s : ArtifactStore)

/-- `Store::put_artifact`. -/
def putArtifact (digest : List UInt8 → String) (bytes : List UInt8) (sessionId : Option String)
    (sensitivity : String) (limits : ArtifactLimits) (fault : Option PutArtifactFault) :
    Except Error String × ArtifactStore :=
  match artifactSensitivityRank sensitivity with
  | none => (.error { code := .invalidArgument,
                      message := "unknown artifact sensitivity " ++ sensitivity }, s)
  | some incomingRank =>
    let uri := artifactUri digest bytes
    match fault with
    | some (.query error) => (.error error, s)
    | fault =>
      match s.admission limits uri bytes.length sessionId with
      | .error error => (.error error, s)
      | .ok () =>
        match fault with
        | some (.file error published) =>
          (.error error, if published then s.publish uri else s)
        | some (.commit error) => (.error error, s.publish uri)
        | _ =>
          -- the size is a parameter of the insertion and has to fit an `i64`
          if 2 ^ 63 ≤ bytes.length then (.error (sqlError "integer out of range"), s.publish uri)
          else (.ok uri, (s.publish uri).register uri bytes.length sessionId
            (s.retainedSensitivity uri sensitivity incomingRank))

/-! ### The other operations -/

/-- `Store::set_session_owner`. -/
def setSessionOwner (sessionId owner : String) (fault : Option Error) :
    Except Error Unit × ArtifactStore :=
  match fault with
  | some error => (.error error, s)
  | none => (.ok (), { s with sessionOwners := s.sessionOwners.insertOrIgnore ⟨sessionId, owner⟩ })

/-- A row that came with a session and has no ownership. -/
def orphan (row : ArtifactRow) : Bool :=
  row.sessionId.isSome && !s.artifactOwners.rows.any fun ownership => ownership.uri = row.uri

/-- The transaction of `prune_session`: the orphaned URIs in order, and the store. -/
def prune (sessionId : String) : List String × ArtifactStore :=
  let released : ArtifactStore :=
    { s with artifactOwners := s.artifactOwners.deleteWhere fun ownership =>
        ownership.sessionId = sessionId }
  let orphaned := ((released.artifacts.rows.filter released.orphan).map ArtifactRow.uri).insertionSort
    (· ≤ ·)
  (orphaned,
    { released with
      sessionOwners := released.sessionOwners.deleteWhere fun row => row.sessionId = sessionId
      artifacts := released.artifacts.deleteWhere fun row => row.uri ∈ orphaned })

end ArtifactStore

/-- What goes wrong in `prune_session`. -/
inductive PruneFault where
  /-- The transaction is rolled back. -/
  | transaction (error : Error)
  /-- The transaction is committed and `remove_if_exists` fails after `removed` files. -/
  | unlink (error : Error) (removed : ℕ)
  deriving DecidableEq, Repr

namespace ArtifactStore

variable (s : ArtifactStore)

/-- `Store::prune_session`. -/
def pruneSession (sessionId : String) (fault : Option PruneFault) :
    Except Error ℕ × ArtifactStore :=
  match fault with
  | some (.transaction error) => (.error error, s)
  | some (.unlink error removed) =>
    let (orphaned, pruned) := s.prune sessionId
    (.error error, { pruned with
      files := pruned.files.filter fun uri => uri ∉ orphaned.take removed })
  | none =>
    let (orphaned, pruned) := s.prune sessionId
    (.ok orphaned.length, { pruned with files := pruned.files.filter fun uri => uri ∉ orphaned })

/-- `Store::delete_unowned_artifact`; the file is left to the caller. -/
def deleteUnownedArtifact (uri : String) (fault : Option Error) :
    Except Error Bool × ArtifactStore :=
  match fault with
  | some error => (.error error, s)
  | none =>
    (.ok (s.artifacts.rows.any fun row => row.uri = uri && s.orphan row),
      { s with artifacts := s.artifacts.deleteWhere fun row => row.uri = uri && s.orphan row })

end ArtifactStore

/-! ### Runs -/

/-- A call of the store. -/
inductive StoreCall where
  | putArtifact (bytes : List UInt8) (sessionId : Option String) (sensitivity : String)
      (limits : ArtifactLimits) (fault : Option PutArtifactFault)
  | setSessionOwner (sessionId owner : String) (fault : Option Error)
  | pruneSession (sessionId : String) (fault : Option PruneFault)
  | deleteUnownedArtifact (uri : String) (fault : Option Error)

/-- A store and what was registered: the URIs registered globally, and those registered by
sessions that were not pruned since. -/
structure Registered where
  store : ArtifactStore
  globals : List String
  claims : List Ownership

/-- Nothing is registered yet. -/
def Registered.start : Registered := ⟨.empty, [], []⟩

namespace Registered

/-- The registration of a URI is noted. -/
def note (r : Registered) (uri : String) : Option String → Registered
  | none => { r with globals := uri :: r.globals }
  | some sessionId => { r with claims := ⟨uri, sessionId⟩ :: r.claims }

/-- One call. -/
def perform (digest : List UInt8 → String) (r : Registered) : StoreCall → Registered
  | .putArtifact bytes sessionId sensitivity limits fault =>
    match r.store.putArtifact digest bytes sessionId sensitivity limits fault with
    | (.ok uri, store) => { r with store := store }.note uri sessionId
    | (.error _, store) => { r with store := store }
  | .setSessionOwner sessionId owner fault =>
    { r with store := (r.store.setSessionOwner sessionId owner fault).2 }
  | .pruneSession sessionId (some (.transaction error)) =>
    { r with store := (r.store.pruneSession sessionId (some (.transaction error))).2 }
  | .pruneSession sessionId fault =>
    { r with
      store := (r.store.pruneSession sessionId fault).2
      claims := r.claims.filter fun ownership => ownership.sessionId ≠ sessionId }
  | .deleteUnownedArtifact uri fault =>
    { r with store := (r.store.deleteUnownedArtifact uri fault).2 }

/-- Any number of calls. -/
def run (digest : List UInt8 → String) (r : Registered) (calls : List StoreCall) : Registered :=
  calls.foldl (perform digest) r

end Registered

end GdbAi
