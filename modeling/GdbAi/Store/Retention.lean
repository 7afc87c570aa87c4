import GdbAi.Store.Artifacts

/-!
# What the artifact tables retain

A registration by a session stands in `artifact_owners` until the session is pruned, and a row
with an ownership is never an orphan: so it is kept, with its digest file.  A global registration
leaves nothing behind when the URI has a row: the column `session_id` of a row is written by the
first registration only, and a row that came with a session is deleted with the last session
that has it.
-/

namespace GdbAi

open Table

variable {digest : List UInt8 → String}

/-! ### What a call does -/

/-- The effects a call can have on the tables, whatever it answers. -/
inductive StoreEffect (digest : List UInt8 → String) (r : Registered) :
    StoreCall → Registered → Prop
  /-- Only files were added. -/
  | quiet (call : StoreCall) (files : List String) (hfiles : r.store.files ⊆ files) :
      StoreEffect digest r call { r with store := { r.store with files := files } }
  | registered (bytes : List UInt8) (sessionId : Option String) (sensitivity : String)
      (limits : ArtifactLimits) (fault : Option PutArtifactFault) (incomingRank : ℕ)
      (hrank : artifactSensitivityRank sensitivity = some incomingRank)
      (hadmission : r.store.admission limits (artifactUri digest bytes) bytes.length sessionId = .ok ())
      (hlength : bytes.length < 2 ^ 63) :
      StoreEffect digest r (.putArtifact bytes sessionId sensitivity limits fault)
        ({ r with
          store := (r.store.publish (artifactUri digest bytes)).register
            (artifactUri digest bytes) bytes.length sessionId
            (r.store.retainedSensitivity (artifactUri digest bytes) sensitivity incomingRank) }.note
          (artifactUri digest bytes) sessionId)
  | owner (sessionId owner : String) :
      StoreEffect digest r (.setSessionOwner sessionId owner none)
        { r with store := { r.store with
            sessionOwners := r.store.sessionOwners.insertOrIgnore ⟨sessionId, owner⟩ } }
  /-- At most the files of the orphans were removed. -/
  | pruned (sessionId : String) (fault : Option PruneFault) (files : List String)
      (hfiles : ∀ uri ∈ r.store.files, uri ∉ (r.store.prune sessionId).1 → uri ∈ files) :
      StoreEffect digest r (.pruneSession sessionId fault)
        { r with
          store := { (r.store.prune sessionId).2 with files := files }
          claims := r.claims.filter fun ownership => ownership.sessionId ≠ sessionId }
  | deleted (uri : String) :
      StoreEffect digest r (.deleteUnownedArtifact uri none)
        { r with store := { r.store with
            artifacts := r.store.artifacts.deleteWhere fun row =>
              row.uri = uri && r.store.orphan row } }

namespace ArtifactStore

lemma files_subset_publish (s : ArtifactStore) (uri : String) : s.files ⊆ (s.publish uri).files := by
  intro file hfile
  rw [publish]
  split
  · exact hfile
  · exact List.mem_cons_of_mem _ hfile

lemma mem_files_publish (s : ArtifactStore) (uri : String) : uri ∈ (s.publish uri).files := by
  rw [publish]
  split
  · assumption
  · exact List.mem_cons_self ..

end ArtifactStore

/-- A call that publishes a file and changes nothing else. -/
lemma StoreEffect.published (r : Registered) (call : StoreCall) (uri : String) :
    StoreEffect digest r call { r with store := r.store.publish uri } :=
  .quiet call _ (r.store.files_subset_publish uri)

/-- A call without effect. -/
lemma StoreEffect.refused (r : Registered) (call : StoreCall) : StoreEffect digest r call r :=
  .quiet call r.store.files (List.Subset.refl _)

/-- Every call has one of the effects. -/
theorem storeEffect_perform (digest : List UInt8 → String) (r : Registered) (call : StoreCall) :
    StoreEffect digest r call (r.perform digest call) := by
  cases call with
  | putArtifact bytes sessionId sensitivity limits fault =>
    simp only [Registered.perform, ArtifactStore.putArtifact]
    cases hrank : artifactSensitivityRank sensitivity with
    | none => exact .refused r _
    | some incomingRank =>
      cases hadmission : r.store.admission limits (artifactUri digest bytes) bytes.length sessionId with
      | error error =>
        rcases fault with _ | _ | _ | _ <;> exact .refused r _
      | ok =>
        rcases fault with _ | error | ⟨error, published⟩ | error
        · by_cases hlength : 2 ^ 63 ≤ bytes.length
          · simp only [hlength, if_true]
            exact .published r _ _
          · simp only [hlength, if_false]
            exact .registered bytes sessionId sensitivity limits none incomingRank hrank hadmission
              (not_le.mp hlength)
        · exact .refused r _
        · cases published with
          | false => exact .refused r _
          | true => exact .published r _ _
        · exact .published r _ _
  | setSessionOwner sessionId owner fault =>
    cases fault with
    | none => exact .owner sessionId owner
    | some error => exact .refused r _
  | pruneSession sessionId fault =>
    rcases fault with _ | error | ⟨error, removed⟩
    · refine .pruned sessionId none _ fun uri huri hkeep => ?_
      exact List.mem_filter.mpr ⟨huri, decide_eq_true hkeep⟩
    · exact .refused r _
    · refine .pruned sessionId _ _ fun uri huri hkeep => ?_
      have htaken : uri ∉ (r.store.prune sessionId).1.take removed := fun htake =>
        hkeep (List.mem_of_mem_take htake)
      exact List.mem_filter.mpr ⟨huri, decide_eq_true htaken⟩
  | deleteUnownedArtifact uri fault =>
    cases fault with
    | none => exact .deleted uri
    | some error => exact .refused r _

/-! ### Orphans -/

namespace ArtifactStore

variable {s : ArtifactStore}

variable {row : ArtifactRow} {ownership : Ownership}

/-- A row with an ownership is no orphan. -/
lemma not_orphan (h : ownership ∈ s.artifactOwners.rows) (huri : ownership.uri = row.uri) :
    s.orphan row = false := by
  have hany : (s.artifactOwners.rows.any fun o => decide (o.uri = row.uri)) = true :=
    List.any_eq_true.mpr ⟨ownership, h, decide_eq_true huri⟩
  rw [orphan, hany]
  simp

/-- A row that came without a session is no orphan. -/
lemma not_orphan_of_global (h : row.sessionId = none) : s.orphan row = false := by
  simp [orphan, h]

/-- The ownerships that a pruned session leaves. -/
@[simp] lemma mem_prune_owners {sessionId : String} :
    ownership ∈ (s.prune sessionId).2.artifactOwners.rows ↔
      ownership ∈ s.artifactOwners.rows ∧ ownership.sessionId ≠ sessionId := by
  simp [prune]

/-- The orphans are URIs of rows that are orphaned once the session's ownerships are gone. -/
lemma mem_prune_orphaned {sessionId uri : String} :
    uri ∈ (s.prune sessionId).1 ↔ ∃ row ∈ s.artifacts.rows, row.uri = uri ∧
      { s with artifactOwners := s.artifactOwners.deleteWhere fun ownership =>
          ownership.sessionId = sessionId }.orphan row = true := by
  simp only [prune, List.mem_insertionSort, List.mem_map, List.mem_filter]
  constructor
  · rintro ⟨row, ⟨hrow, horphan⟩, huri⟩
    exact ⟨row, hrow, huri, horphan⟩
  · rintro ⟨row, hrow, huri, horphan⟩
    exact ⟨row, ⟨hrow, horphan⟩, huri⟩

/-- The rows that pruning leaves are those whose URI is not orphaned. -/
@[simp] lemma mem_prune_artifacts {sessionId : String} :
    row ∈ (s.prune sessionId).2.artifacts.rows ↔
      row ∈ s.artifacts.rows ∧ row.uri ∉ (s.prune sessionId).1 := by
  simp [prune]

/-- A row that is not an orphan of the pruned store is kept. -/
lemma mem_prune_of_not_orphan (sessionId : String) (hrow : row ∈ s.artifacts.rows)
    (h : { s with artifactOwners := s.artifactOwners.deleteWhere fun ownership =>
      ownership.sessionId = sessionId }.orphan row = false) :
    row ∈ (s.prune sessionId).2.artifacts.rows := by
  refine mem_prune_artifacts.mpr ⟨hrow, fun horphaned => ?_⟩
  obtain ⟨row', hrow', huri, horphan⟩ := mem_prune_orphaned.mp horphaned
  have hsame : row' = row := eq_of_key_eq hrow' hrow huri
  rw [hsame, h] at horphan
  exact absurd horphan Bool.false_ne_true

/-! ### The rows of a registration -/

variable {length : ℕ} {sessionId : Option String}

/-- The URIs after a registration. -/
lemma mem_uris_register {uri uri' sensitivity : String} :
    uri' ∈ (s.register uri length sessionId sensitivity).artifacts.rows.map ArtifactRow.uri ↔
      uri' ∈ s.artifacts.rows.map ArtifactRow.uri ∨ uri' = uri := by
  simp only [register]
  exact mem_keys_upsert

variable {uri sensitivity : String}

/-- The ownerships after a registration. -/
lemma mem_owners_register :
    ownership ∈ (s.register uri length sessionId sensitivity).artifactOwners.rows ↔
      ownership ∈ s.artifactOwners.rows ∨
        ownership.uri = uri ∧ some ownership.sessionId = sessionId := by
  cases sessionId with
  | none => simp [register]
  | some sessionId =>
    obtain ⟨ownedUri, owner⟩ := ownership
    simp [register, mem_insertOrIgnore]

/-- A row after a registration: the first of its URI, the old one with another label, or that of
another URI. -/
lemma mem_register (h : row ∈ (s.register uri length sessionId sensitivity).artifacts.rows) :
    (row = ⟨uri, sessionId, length, sensitivity⟩ ∧
        uri ∉ s.artifacts.rows.map ArtifactRow.uri) ∨
      (∃ old ∈ s.artifacts.rows, old.uri = uri ∧ row = { old with sensitivity := sensitivity }) ∨
      row ∈ s.artifacts.rows ∧ row.uri ≠ uri := by
  simp only [register] at h
  exact mem_upsert h

/-- The rows after a registration keep their `session_id`. -/
lemma exists_register_of_mem (h : row ∈ s.artifacts.rows) :
    ∃ row' ∈ (s.register uri length sessionId sensitivity).artifacts.rows,
      row'.uri = row.uri ∧ row'.sessionId = row.sessionId := by
  by_cases hmem : uri ∈ s.artifacts.rows.map ArtifactRow.uri
  · refine ⟨if row.uri = uri then { row with sensitivity := sensitivity } else row, ?_, ?_, ?_⟩
    · simp only [register]
      rw [upsert_rows_of_mem hmem]
      exact List.mem_map_of_mem h
    · split <;> rfl
    · split <;> rfl
  · refine ⟨row, ?_, rfl, rfl⟩
    simp only [register]
    rw [upsert_rows_of_not_mem hmem]
    exact List.mem_append_left _ h

/-- A first registration writes its own `session_id`. -/
lemma mem_register_of_not_mem (h : uri ∉ s.artifacts.rows.map ArtifactRow.uri) :
    ⟨uri, sessionId, length, sensitivity⟩ ∈
      (s.register uri length sessionId sensitivity).artifacts.rows := by
  simp only [register]
  rw [upsert_rows_of_not_mem h]
  exact List.mem_append_right _ (List.mem_singleton.mpr rfl)

end ArtifactStore

/-! ### Ownership keeps rows and files -/

/-- What a run keeps: sessions have what they registered, what is owned has a row, and what has a
row has a file. -/
structure Retained (r : Registered) : Prop where
  claimed : r.claims ⊆ r.store.artifactOwners.rows
  owned : ∀ ownership ∈ r.store.artifactOwners.rows,
    ownership.uri ∈ r.store.artifacts.rows.map ArtifactRow.uri
  filed : ∀ row ∈ r.store.artifacts.rows, row.uri ∈ r.store.files

lemma retained_start : Retained .start where
  claimed := List.nil_subset _
  owned := by simp [Registered.start, ArtifactStore.empty, Table.empty]
  filed := by simp [Registered.start, ArtifactStore.empty, Table.empty]

/-- Noting a registration leaves the store. -/
@[simp] lemma Registered.note_store (r : Registered) (uri : String) (sessionId : Option String) :
    (r.note uri sessionId).store = r.store := by
  cases sessionId <;> rfl

variable {r : Registered}

/-- The claims after a registration. -/
lemma Registered.mem_claims_note {uri : String} {sessionId : Option String} {ownership : Ownership}
    (h : ownership ∈ (r.note uri sessionId).claims) :
    ownership ∈ r.claims ∨ ownership.uri = uri ∧ some ownership.sessionId = sessionId := by
  cases sessionId with
  | none => exact .inl h
  | some sessionId =>
    rcases List.mem_cons.mp h with rfl | hold
    · exact .inr ⟨rfl, rfl⟩
    · exact .inl hold

variable {call : StoreCall}

/-- One call retains. -/
lemma Retained.step {r r' : Registered} (h : Retained r) (heffect : StoreEffect digest r call r') :
    Retained r' := by
  cases heffect with
  | quiet call files hfiles => exact ⟨h.claimed, h.owned, fun row hrow => hfiles (h.filed row hrow)⟩
  | registered bytes sessionId sensitivity limits fault incomingRank hrank hadmission hlength =>
    set uri := artifactUri digest bytes
    refine ⟨?_, ?_, ?_⟩
    · intro ownership hclaim
      rw [Registered.note_store, ArtifactStore.mem_owners_register]
      exact (Registered.mem_claims_note hclaim).imp_left fun hold => h.claimed hold
    · intro ownership howned
      rw [Registered.note_store] at howned ⊢
      rw [ArtifactStore.mem_uris_register]
      rcases ArtifactStore.mem_owners_register.mp howned with hold | ⟨huri, _⟩
      · exact .inl (h.owned ownership hold)
      · exact .inr huri
    · intro row hrow
      rw [Registered.note_store] at hrow ⊢
      have hfiles := r.store.files_subset_publish uri
      rcases ArtifactStore.mem_register hrow with ⟨rfl, _⟩ | ⟨old, hold, huri, rfl⟩ | ⟨hold, _⟩
      · exact r.store.mem_files_publish uri
      · exact hfiles (h.filed old hold)
      · exact hfiles (h.filed row hold)
  | owner sessionId owner => exact ⟨h.claimed, h.owned, h.filed⟩
  | pruned sessionId fault files hfiles =>
    refine ⟨?_, ?_, ?_⟩
    · intro ownership hclaim
      obtain ⟨hold, hother⟩ := List.mem_filter.mp hclaim
      exact ArtifactStore.mem_prune_owners.mpr ⟨h.claimed hold, by simpa using hother⟩
    · -- a row that some other session owns is no orphan of the pruned store
      intro ownership howned
      obtain ⟨hold, hother⟩ := ArtifactStore.mem_prune_owners.mp howned
      obtain ⟨row, hrow, huri⟩ := List.mem_map.mp (h.owned ownership hold)
      have hkept := ArtifactStore.mem_prune_of_not_orphan sessionId hrow
        (ArtifactStore.not_orphan (mem_deleteWhere.mpr ⟨hold, decide_eq_false hother⟩) huri.symm)
      exact List.mem_map.mpr ⟨row, hkept, huri⟩
    · intro row hrow
      obtain ⟨hold, hkept⟩ := ArtifactStore.mem_prune_artifacts.mp hrow
      exact hfiles _ (h.filed row hold) hkept
  | deleted uri =>
    refine ⟨h.claimed, ?_, ?_⟩
    · intro ownership (howned : ownership ∈ r.store.artifactOwners.rows)
      obtain ⟨row, hrow, huri⟩ := List.mem_map.mp (h.owned ownership howned)
      have hkeep : (decide (row.uri = uri) && r.store.orphan row) = false := by
        rw [ArtifactStore.not_orphan howned huri.symm, Bool.and_false]
      exact List.mem_map.mpr ⟨row, mem_deleteWhere.mpr ⟨hrow, hkeep⟩, huri⟩
    · intro row hrow
      exact h.filed row (mem_deleteWhere.mp hrow).1

/-- What every call keeps holds after any number of them. -/
lemma Registered.run_invariant {P : Registered → Prop}
    (hstep : ∀ r call, P r → P (r.perform digest call)) (h : P r) (calls : List StoreCall) :
    P (r.run digest calls) := by
  induction calls generalizing r with
  | nil => exact h
  | cons call calls ih => exact ih (hstep r call h)

lemma retained_run (calls : List StoreCall) : Retained (Registered.start.run digest calls) :=
  Registered.run_invariant (fun r call h => h.step (storeEffect_perform digest r call)) retained_start calls

/-! ### Labels only rise -/

/-- The label that a registration stores ranks at least as high as the one that was there. -/
lemma ArtifactStore.storedRank_retainedSensitivity {s : ArtifactStore} {row : ArtifactRow}
    {sensitivity : String} {incomingRank : ℕ} (hrow : row ∈ s.artifacts.rows)
    (hrank : artifactSensitivityRank sensitivity = some incomingRank) :
    storedRank row.sensitivity ≤
      storedRank (s.retainedSensitivity row.uri sensitivity incomingRank) := by
  rw [retainedSensitivity, lookup_of_mem hrow]
  simp only
  split
  · exact le_rfl
  · rename_i hlower
    have hincoming : storedRank sensitivity = incomingRank := by simp [storedRank, hrank]
    omega

/-- No call lowers the label of a row. -/
lemma StoreEffect.rank_le {r r' : Registered} (heffect : StoreEffect digest r call r')
    {row row' : ArtifactRow} (hrow : row ∈ r.store.artifacts.rows)
    (hrow' : row' ∈ r'.store.artifacts.rows) (huri : row'.uri = row.uri) :
    storedRank row.sensitivity ≤ storedRank row'.sensitivity := by
  have hkept : row' ∈ r.store.artifacts.rows →
      storedRank row.sensitivity ≤ storedRank row'.sensitivity := by
    intro hold
    rw [eq_of_key_eq hold hrow huri]
  cases heffect with
  | quiet call files hfiles => exact hkept hrow'
  | registered bytes sessionId sensitivity limits fault incomingRank hrank hadmission hlength =>
    rw [Registered.note_store] at hrow'
    rcases ArtifactStore.mem_register hrow' with ⟨rfl, habsent⟩ | ⟨old, hold, hold_uri, rfl⟩ |
      ⟨hold, _⟩
    · have huri : artifactUri digest bytes = row.uri := huri
      rw [huri] at habsent
      exact absurd (List.mem_map_of_mem hrow) habsent
    · have hsame : old = row := eq_of_key_eq hold hrow huri
      rw [hsame] at hold_uri
      rw [← hold_uri]
      exact ArtifactStore.storedRank_retainedSensitivity hrow hrank
    · exact hkept hold
  | owner sessionId owner => exact hkept hrow'
  | pruned sessionId fault files hfiles =>
    exact hkept (ArtifactStore.mem_prune_artifacts.mp hrow').1
  | deleted uri => exact hkept (mem_deleteWhere.mp hrow').1

/-- While a URI keeps a row, its label does not fall. -/
lemma Registered.rank_le_run {calls : List StoreCall} {row row' : ArtifactRow}
    (hrow : row ∈ r.store.artifacts.rows)
    (hlives : ∀ n ≤ calls.length, row.uri ∈ (r.run digest (calls.take n)).store.artifacts.rows.map
      ArtifactRow.uri) (hrow' : row' ∈ (r.run digest calls).store.artifacts.rows)
    (huri : row'.uri = row.uri) : storedRank row.sensitivity ≤ storedRank row'.sensitivity := by
  induction calls generalizing r row with
  | nil => rw [eq_of_key_eq hrow' hrow huri]
  | cons call calls ih =>
    -- the row of the URI after the first call
    obtain ⟨next, hnext, hnext_uri⟩ := List.mem_map.mp (hlives 1 (by simp))
    have hfirst := (storeEffect_perform digest r call).rank_le hrow hnext hnext_uri
    have hrest := ih hnext (fun n hn => by
      have hlater := hlives (n + 1) (by simpa using hn)
      rw [hnext_uri]
      exact hlater) hrow' (huri.trans hnext_uri.symm)
    exact hfirst.trans hrest

/-! ### Global registrations -/

/-- The call registers globally only what has no row, or a row that came without a session. -/
def GloballyFirst (digest : List UInt8 → String) (r : Registered) : StoreCall → Prop
  | .putArtifact bytes none _ _ _ =>
    ∀ row ∈ r.store.artifacts.rows, row.uri = artifactUri digest bytes → row.sessionId = none
  | _ => True

/-- What was registered globally has a row that came without a session. -/
def GlobalsKept (r : Registered) : Prop :=
  ∀ uri ∈ r.globals, ∃ row ∈ r.store.artifacts.rows, row.uri = uri ∧ row.sessionId = none

lemma GlobalsKept.step {r r' : Registered} (h : GlobalsKept r)
    (hfirst : GloballyFirst digest r call) (heffect : StoreEffect digest r call r') :
    GlobalsKept r' := by
  cases heffect with
  | quiet call files hfiles => exact h
  | registered bytes sessionId sensitivity limits fault incomingRank hrank hadmission hlength =>
    have hold : ∀ {uri}, (∃ row ∈ r.store.artifacts.rows, row.uri = uri ∧ row.sessionId = none) →
        ∃ row ∈ ((r.store.publish (artifactUri digest bytes)).register (artifactUri digest bytes)
            bytes.length sessionId (r.store.retainedSensitivity (artifactUri digest bytes)
              sensitivity incomingRank)).artifacts.rows, row.uri = uri ∧ row.sessionId = none := by
      rintro _ ⟨row, hrow, rfl, hglobal⟩
      obtain ⟨row', hrow', huri, hsession⟩ :=
        ArtifactStore.exists_register_of_mem (s := r.store.publish (artifactUri digest bytes)) hrow
      exact ⟨row', hrow', huri, hsession.trans hglobal⟩
    intro uri hglobal
    rw [Registered.note_store]
    cases sessionId with
    | some sessionId => exact hold (h uri hglobal)
    | none =>
      rcases List.mem_cons.mp hglobal with rfl | hglobal
      · by_cases hmem : artifactUri digest bytes ∈ r.store.artifacts.rows.map ArtifactRow.uri
        · obtain ⟨row, hrow, huri⟩ := List.mem_map.mp hmem
          exact hold ⟨row, hrow, huri, hfirst row hrow huri⟩
        · exact ⟨_, ArtifactStore.mem_register_of_not_mem
            (s := r.store.publish (artifactUri digest bytes)) hmem, rfl, rfl⟩
      · exact hold (h uri hglobal)
  | owner sessionId owner => exact h
  | pruned sessionId fault files hfiles =>
    intro uri hglobal
    obtain ⟨row, hrow, huri, hsession⟩ := h uri hglobal
    exact ⟨row, ArtifactStore.mem_prune_of_not_orphan sessionId hrow
      (ArtifactStore.not_orphan_of_global hsession), huri, hsession⟩
  | deleted uri =>
    intro uri' hglobal
    obtain ⟨row, hrow, huri, hsession⟩ := h uri' hglobal
    have hkeep : (decide (row.uri = uri) && r.store.orphan row) = false := by
      rw [ArtifactStore.not_orphan_of_global hsession, Bool.and_false]
    exact ⟨row, mem_deleteWhere.mpr ⟨hrow, hkeep⟩, huri, hsession⟩

/-- Every call of a run is made in a state where it meets the condition. -/
def GloballyFirstRun (digest : List UInt8 → String) : Registered → List StoreCall → Prop
  | _, [] => True
  | r, call :: calls =>
    GloballyFirst digest r call ∧ GloballyFirstRun digest (r.perform digest call) calls

lemma GlobalsKept.run {calls : List StoreCall} (h : GlobalsKept r)
    (hfirst : GloballyFirstRun digest r calls) : GlobalsKept (r.run digest calls) := by
  induction calls generalizing r with
  | nil => exact h
  | cons call calls ih => exact ih (h.step hfirst.1 (storeEffect_perform digest r call)) hfirst.2

/-! ### Retention -/

/-- The URI has a row. -/
def ArtifactStore.HasRow (s : ArtifactStore) (uri : String) : Prop :=
  uri ∈ s.artifacts.rows.map ArtifactRow.uri

instance (s : ArtifactStore) (uri : String) : Decidable (s.HasRow uri) :=
  inferInstanceAs (Decidable (uri ∈ s.artifacts.rows.map ArtifactRow.uri))

/-- After any calls on a new store: what a session registered that was not pruned since has a
row, every row has its digest file, and along any further calls under which a URI keeps its row
the label of the row does not fall in rank.  What was registered globally has a row too, if each
global registration was of content without a row or with one that came without a session. -/
theorem artifacts_retained (digest : List UInt8 → String) (calls : List StoreCall) :
    let r := Registered.start.run digest calls
    (∀ claim ∈ r.claims, r.store.HasRow claim.uri) ∧
    (∀ row ∈ r.store.artifacts.rows, row.uri ∈ r.store.files) ∧
    (∀ (later : List StoreCall) (row row' : ArtifactRow), row ∈ r.store.artifacts.rows →
      (∀ n ≤ later.length, (r.run digest (later.take n)).store.HasRow row.uri) →
      row' ∈ (r.run digest later).store.artifacts.rows → row'.uri = row.uri →
      storedRank row.sensitivity ≤ storedRank row'.sensitivity) ∧
    (GloballyFirstRun digest .start calls → ∀ uri ∈ r.globals, r.store.HasRow uri) := by
  intro r
  have hretained : Retained r := retained_run calls
  refine ⟨?_, hretained.filed, ?_, ?_⟩
  · intro claim hclaim
    exact hretained.owned claim (hretained.claimed hclaim)
  · intro later row row' hrow hlives hrow' huri
    exact Registered.rank_le_run hrow hlives hrow' huri
  · intro hfirst uri hglobal
    have hstart : GlobalsKept .start := by
      intro uri hnone
      exact absurd hnone List.not_mem_nil
    obtain ⟨row, hrow, huri, _⟩ := hstart.run hfirst uri hglobal
    exact List.mem_map.mpr ⟨row, hrow, huri⟩

/-- Limits that no run below comes near. -/
def roomyLimits : ArtifactLimits := ⟨1024, 4096, 16384⟩

/-- A session registers three bytes, the same bytes are registered globally, and the session is
pruned. -/
def sharedThenPruned : List StoreCall :=
  [.setSessionOwner "dbg_a" "agent" none,
   .putArtifact [1, 2, 3] (some "dbg_a") "target-memory" roomyLimits none,
   .putArtifact [1, 2, 3] none "public" roomyLimits none,
   .pruneSession "dbg_a" none]

/-- Both registrations succeed, the content is among those registered globally, and pruning the
session deletes its row and its file. -/
theorem global_registration_pruned :
    let r := Registered.start.run (fun _ => "00") sharedThenPruned
    r.globals = ["gdbai://artifact/sha256:00"] ∧
    ¬ r.store.HasRow "gdbai://artifact/sha256:00" ∧ r.store.files = [] := by
  decide +kernel

/-- A run in which the content is registered globally first. -/
def globalThenShared : List StoreCall :=
  [.setSessionOwner "dbg_a" "agent" none,
   .putArtifact [1, 2, 3] none "public" roomyLimits none,
   .putArtifact [1, 2, 3] (some "dbg_a") "target-memory" roomyLimits none,
   .pruneSession "dbg_a" none]

/-- Registered globally first, the content survives the session. -/
theorem global_first_survives :
    "gdbai://artifact/sha256:00" ∈ (Registered.start.run (fun _ => "00") globalThenShared).globals ∧
    (Registered.start.run (fun _ => "00") globalThenShared).store.HasRow
      "gdbai://artifact/sha256:00" := by
  have hglobal : "gdbai://artifact/sha256:00" ∈
      (Registered.start.run (fun _ => "00") globalThenShared).globals := by
    decide +kernel
  refine ⟨hglobal, (artifacts_retained (fun _ => "00") globalThenShared).2.2.2 ?_ _ hglobal⟩
  refine ⟨trivial, ?_, trivial, trivial, trivial⟩
  intro row hrow
  exact absurd hrow List.not_mem_nil

end GdbAi
