import GdbAi.Store.Retention

/-!
# The artifact quotas

The three sums that `put_artifact` queries are sums over distinct artifacts: the join with
`artifact_owners` meets a row once, because the ownerships are a primary key.  A registration
adds the size of the content to a sum exactly where the content did not count before, and there
the sum was checked; where it did count it has a row already.  A session that has artifacts has
an owner, so a later `set_session_owner` gives no owner more than it had.
-/

namespace GdbAi

open Table

variable {digest : List UInt8 → String}

/-! ### Sums over sets of artifacts -/

namespace ArtifactStore

variable {s : ArtifactStore}

/-- The artifacts, as a set. -/
def artifactSet (s : ArtifactStore) : Finset ArtifactRow := s.artifacts.rows.toFinset

/-- Some session of the owner has the URI. -/
def OwnerHas (s : ArtifactStore) (owner uri : String) : Prop :=
  ∃ sessionId, ⟨uri, sessionId⟩ ∈ s.artifactOwners.rows ∧
    ⟨sessionId, owner⟩ ∈ s.sessionOwners.rows

lemma ownerHas_iff {owner uri : String} : s.ownerHas owner uri = true ↔ s.OwnerHas owner uri := by
  simp only [ownerHas, List.any_eq_true, Bool.and_eq_true, decide_eq_true_eq, OwnerHas]
  constructor
  · rintro ⟨⟨ownedUri, sessionId⟩, howned, huri, ⟨id, owner'⟩, hrow, hid, howner⟩
    subst huri hid howner
    exact ⟨id, howned, hrow⟩
  · rintro ⟨sessionId, howned, hrow⟩
    exact ⟨⟨uri, sessionId⟩, howned, rfl, ⟨sessionId, owner⟩, hrow, rfl, rfl⟩

instance (s : ArtifactStore) (owner uri : String) : Decidable (s.OwnerHas owner uri) :=
  decidable_of_iff _ ownerHas_iff

/-- A total over the rows is the sum over the set of them. -/
lemma total_eq_sum (s : ArtifactStore) (p : ArtifactRow → Prop) [DecidablePred p] :
    s.artifacts.total ArtifactRow.size (fun row => p row) =
      ∑ row ∈ s.artifactSet with p row, row.size := by
  have hnodup : s.artifacts.rows.Nodup := s.artifacts.unique.of_map
  have hset := List.toFinset_filter s.artifacts.rows fun row => decide (p row)
  simp only [decide_eq_true_eq] at hset
  rw [artifactSet, ← hset, List.sum_toFinset _ (hnodup.filter _)]
  rfl

/-- Each row is joined with one ownership of the session at most. -/
lemma length_joined (s : ArtifactStore) (sessionId uri : String) :
    (s.artifactOwners.rows.filter fun ownership =>
      ownership.uri = uri && ownership.sessionId = sessionId).length =
        if s.owns sessionId uri then 1 else 0 := by
  have hnodup : s.artifactOwners.rows.Nodup := s.artifactOwners.unique.of_map
  have hcond : (fun ownership : Ownership =>
      decide (ownership.uri = uri) && decide (ownership.sessionId = sessionId)) =
      fun ownership => ownership == ⟨uri, sessionId⟩ := by
    funext ⟨ownedUri, owner⟩
    rw [Bool.eq_iff_iff]
    simp
  rw [hcond, ← List.countP_eq_length_filter, ← List.count, owns]
  split
  · rename_i hmem
    exact List.count_eq_one_of_mem hnodup (of_decide_eq_true hmem)
  · rename_i hmem
    exact List.count_eq_zero_of_not_mem fun h => hmem (decide_eq_true h)

/-- The sum over the join is the sum over the artifacts that the session has. -/
lemma sessionUsed_eq (s : ArtifactStore) (sessionId : String) :
    s.sessionUsed sessionId =
      s.artifacts.total ArtifactRow.size fun row => s.owns sessionId row.uri := by
  rw [sessionUsed, total]
  induction s.artifacts.rows with
  | nil => rfl
  | cons row rows ih =>
    rw [List.flatMap_cons, List.sum_append, ih, List.map_const', List.sum_replicate,
      length_joined, List.filter_cons]
    split <;> simp

/-! ### The checks -/

/-- A reservation that succeeds leaves room. -/
lemma reserve_ok {used length limit : ℕ} {message : String}
    (h : reserve used length limit message = .ok ()) (hlength : length < 2 ^ 63) :
    used + length ≤ limit := by
  unfold reserve at h
  split at h
  · cases h
  · rename_i hused
    split at h
    · cases h
    · rename_i hlimit
      rw [saturatingAdd_eq (by omega)] at hlimit
      omega

/-- What an admitted registration has passed. -/
structure Admitted (s : ArtifactStore) (limits : ArtifactLimits) (uri : String) (length : ℕ)
    (sessionId : Option String) : Prop where
  size : ∀ row ∈ s.artifacts.rows, row.uri = uri → row.size = length
  session : ∀ id, sessionId = some id → s.owns id uri = true ∨
    s.sessionUsed id + length ≤ limits.sessionBytes
  owner : ∀ id, sessionId = some id → ∃ owner, ⟨id, owner⟩ ∈ s.sessionOwners.rows ∧
    (s.ownerHas owner uri = true ∨ s.ownerUsed owner + length ≤ limits.ownerBytes)
  total : uri ∈ s.artifacts.rows.map ArtifactRow.uri ∨ s.totalUsed + length ≤ limits.totalBytes

variable {uri : String} {length : ℕ}

lemma checkSize_ok (h : s.checkSize uri length = .ok ()) :
    ∀ row ∈ s.artifacts.rows, row.uri = uri → row.size = length := by
  rintro row hrow rfl
  rw [checkSize, lookup_of_mem hrow] at h
  by_contra hne
  simp [hne] at h

variable {limits : ArtifactLimits}

lemma checkSession_ok {uri sessionId : String}
    (h : s.checkSession limits uri length sessionId = .ok ()) (hlength : length < 2 ^ 63) :
    s.owns sessionId uri = true ∨ s.sessionUsed sessionId + length ≤ limits.sessionBytes := by
  unfold checkSession at h
  split at h
  · exact .inl ‹_›
  · exact .inr (reserve_ok h hlength)

lemma checkOwner_ok {uri sessionId : String} (h : s.checkOwner limits uri length sessionId = .ok ())
    (hlength : length < 2 ^ 63) : ∃ owner, ⟨sessionId, owner⟩ ∈ s.sessionOwners.rows ∧
      (s.ownerHas owner uri = true ∨ s.ownerUsed owner + length ≤ limits.ownerBytes) := by
  unfold checkOwner at h
  cases howner : s.sessionOwner sessionId with
  | none =>
    rw [howner] at h
    cases h
  | some owner =>
    rw [howner] at h
    obtain ⟨⟨_, _⟩, hlookup, rfl⟩ := Option.map_eq_some_iff.mp howner
    obtain ⟨hrow, rfl⟩ := lookup_eq_some hlookup
    refine ⟨_, hrow, ?_⟩
    simp only at h
    split at h
    · exact .inl ‹_›
    · exact .inr (reserve_ok h hlength)

lemma checkTotal_ok (h : s.checkTotal limits uri length = .ok ()) (hlength : length < 2 ^ 63) :
    uri ∈ s.artifacts.rows.map ArtifactRow.uri ∨ s.totalUsed + length ≤ limits.totalBytes := by
  unfold checkTotal at h
  cases hrow : s.artifacts.lookup uri with
  | some row =>
    obtain ⟨hmem, huri⟩ := lookup_eq_some hrow
    exact .inl (List.mem_map.mpr ⟨row, hmem, huri⟩)
  | none =>
    rw [hrow] at h
    exact .inr (reserve_ok h hlength)

/-- Both parts of a sequence of checks that succeeds succeed. -/
lemma check_bind_ok {first second : Except Error Unit}
    (h : (do first; second) = .ok ()) : first = .ok () ∧ second = .ok () := by
  cases first with
  | error error => cases h
  | ok => exact ⟨rfl, h⟩

lemma admission_ok {sessionId : Option String}
    (h : s.admission limits uri length sessionId = .ok ()) (hlength : length < 2 ^ 63) :
    s.Admitted limits uri length sessionId := by
  cases sessionId with
  | none =>
    obtain ⟨hsize, htotal⟩ := check_bind_ok h
    exact ⟨checkSize_ok hsize, nofun, nofun, checkTotal_ok htotal hlength⟩
  | some sessionId =>
    obtain ⟨hsize, h⟩ := check_bind_ok h
    obtain ⟨hsession, h⟩ := check_bind_ok h
    obtain ⟨howner, htotal⟩ := check_bind_ok h
    refine ⟨checkSize_ok hsize, ?_, ?_, checkTotal_ok htotal hlength⟩
    · rintro _ ⟨⟩
      exact checkSession_ok hsession hlength
    · rintro _ ⟨⟩
      exact checkOwner_ok howner hlength

/-! ### The quotas along the calls -/

/-- The sums are within the limits, and sessions that have artifacts have owners. -/
structure WithinQuotas (s : ArtifactStore) (limits : ArtifactLimits) : Prop where
  total : s.totalUsed ≤ limits.totalBytes
  session : ∀ sessionId, s.sessionUsed sessionId ≤ limits.sessionBytes
  owner : ∀ owner, s.ownerUsed owner ≤ limits.ownerBytes
  sessions : ∀ ownership ∈ s.artifactOwners.rows,
    ownership.sessionId ∈ s.sessionOwners.rows.map SessionOwner.sessionId

lemma withinQuotas_empty (limits : ArtifactLimits) : empty.WithinQuotas limits := by
  constructor <;> simp [empty, totalUsed, sessionUsed, ownerUsed, Table.empty, Table.total]

/-- Fewer artifacts and fewer ownerships stay within the quotas. -/
lemma WithinQuotas.of_fewer {s' : ArtifactStore} (h : s.WithinQuotas limits)
    (hrows : s'.artifacts.rows.Sublist s.artifacts.rows)
    (howns : ∀ ownership ∈ s'.artifactOwners.rows, ownership ∈ s.artifactOwners.rows)
    (hhas : ∀ owner uri, s'.OwnerHas owner uri → s.OwnerHas owner uri)
    (hsessions : ∀ ownership ∈ s'.artifactOwners.rows, ownership.sessionId ∈
      s'.sessionOwners.rows.map SessionOwner.sessionId) : s'.WithinQuotas limits := by
  refine ⟨?_, ?_, ?_, hsessions⟩
  · exact (total_le_of_sublist hrows fun _ _ => id).trans h.total
  · intro sessionId
    have hle := h.session sessionId
    rw [sessionUsed_eq] at hle ⊢
    refine (total_le_of_sublist hrows fun row _ hcounts => ?_).trans hle
    exact decide_eq_true (howns _ (of_decide_eq_true hcounts))
  · intro owner
    refine (total_le_of_sublist hrows fun row _ hcounts => ?_).trans (h.owner owner)
    exact ownerHas_iff.mpr (hhas owner row.uri (ownerHas_iff.mp hcounts))

/-- Files do not count. -/
lemma WithinQuotas.of_files (h : s.WithinQuotas limits) (files : List String) :
    { s with files := files }.WithinQuotas limits :=
  ⟨h.total, h.session, h.owner, h.sessions⟩

section Registration

variable {limits : ArtifactLimits} {uri sensitivity : String} {length : ℕ}
  {sessionId : Option String}

/-- What a session has after a registration. -/
lemma owns_register {id k : String} :
    (s.register uri length sessionId sensitivity).owns id k = true ↔
      s.owns id k = true ∨ k = uri ∧ some id = sessionId := by
  simp only [owns, decide_eq_true_eq, mem_owners_register]

/-- What an owner has after a registration. -/
lemma ownerHas_register {owner k : String} :
    (s.register uri length sessionId sensitivity).ownerHas owner k = true ↔
      s.ownerHas owner k = true ∨
        k = uri ∧ ∃ id, sessionId = some id ∧ ⟨id, owner⟩ ∈ s.sessionOwners.rows := by
  simp only [ownerHas_iff, OwnerHas, mem_owners_register]
  constructor
  · rintro ⟨id, hold | ⟨hk, hid⟩, howner⟩
    · exact .inl ⟨id, hold, howner⟩
    · exact .inr ⟨hk, id, hid.symm, howner⟩
  · rintro (⟨id, hold, howner⟩ | ⟨hk, id, hid, howner⟩)
    · exact ⟨id, .inl hold, howner⟩
    · exact ⟨id, .inr ⟨hk, hid.symm⟩, howner⟩

/-- A condition on URIs under which at most the registered one counts newly: the sum grows by
the length at most. -/
lemma total_register_le_add (hsize : ∀ row ∈ s.artifacts.rows, row.uri = uri → row.size = length)
    {q q' : String → Bool} (hq : ∀ k, k ≠ uri → q' k = true → q k = true) :
    (s.register uri length sessionId sensitivity).artifacts.total ArtifactRow.size
        (fun row => q' row.uri) ≤
      s.artifacts.total ArtifactRow.size (fun row => q row.uri) + length := by
  simp only [register]
  exact total_upsert_le_add (fun _ => rfl) hsize hq

/-- A condition on URIs under which nothing counts newly: the sum does not grow. -/
lemma total_register_le {q q' : String → Bool} (hq : ∀ k, q' k = true → q k = true)
    (hrow : q' uri = true → uri ∈ s.artifacts.rows.map ArtifactRow.uri) :
    (s.register uri length sessionId sensitivity).artifacts.total ArtifactRow.size
        (fun row => q' row.uri) ≤
      s.artifacts.total ArtifactRow.size (fun row => q row.uri) := by
  simp only [register]
  exact total_upsert_le (fun _ => rfl) hq hrow

/-- An admitted registration stays within the total. -/
lemma totalUsed_register_le (h : s.totalUsed ≤ limits.totalBytes)
    (hadmitted : s.Admitted limits uri length sessionId) :
    (s.register uri length sessionId sensitivity).totalUsed ≤ limits.totalBytes := by
  rcases hadmitted.total with hrow | hroom
  · exact (total_register_le (q := fun _ => true) (fun _ => id) fun _ => hrow).trans h
  · refine le_trans ?_ hroom
    exact total_register_le_add (q := fun _ => true) hadmitted.size fun _ _ => id

/-- An admitted registration stays within the quota of every session. -/
lemma sessionUsed_register_le
    (howned : ∀ ownership ∈ s.artifactOwners.rows,
      ownership.uri ∈ s.artifacts.rows.map ArtifactRow.uri)
    {id : String} (h : s.sessionUsed id ≤ limits.sessionBytes)
    (hadmitted : s.Admitted limits uri length sessionId) :
    (s.register uri length sessionId sensitivity).sessionUsed id ≤ limits.sessionBytes := by
  rw [sessionUsed_eq] at h ⊢
  -- the content is new to the session, or it counted before and has a row
  by_cases hnew : sessionId = some id ∧ s.owns id uri = false
  · have hroom := (hadmitted.session id hnew.1).resolve_left (by simp [hnew.2])
    rw [sessionUsed_eq] at hroom
    refine le_trans (total_register_le_add hadmitted.size fun k hk hcounts => ?_) hroom
    exact (owns_register.mp hcounts).resolve_right fun hsame => hk hsame.1
  · have hold : ∀ k, (s.register uri length sessionId sensitivity).owns id k = true →
        s.owns id k = true := by
      intro k hcounts
      rcases owns_register.mp hcounts with hold | ⟨rfl, hid⟩
      · exact hold
      · by_contra hfalse
        exact hnew ⟨hid.symm, by simpa using hfalse⟩
    refine (total_register_le hold fun hcounts => ?_).trans h
    exact howned _ (of_decide_eq_true (hold uri hcounts))

/-- An admitted registration stays within the quota of every owner. -/
lemma ownerUsed_register_le
    (howned : ∀ ownership ∈ s.artifactOwners.rows,
      ownership.uri ∈ s.artifacts.rows.map ArtifactRow.uri)
    {owner : String} (h : s.ownerUsed owner ≤ limits.ownerBytes)
    (hadmitted : s.Admitted limits uri length sessionId) :
    (s.register uri length sessionId sensitivity).ownerUsed owner ≤ limits.ownerBytes := by
  by_cases hnew : (∃ id, sessionId = some id ∧ ⟨id, owner⟩ ∈ s.sessionOwners.rows) ∧
      s.ownerHas owner uri = false
  · obtain ⟨⟨id, hid, hrow⟩, hlacks⟩ := hnew
    obtain ⟨owner', hrow', hroom⟩ := hadmitted.owner id hid
    -- a session has one owner
    obtain ⟨-, rfl⟩ := SessionOwner.mk.inj (eq_of_key_eq hrow' hrow rfl)
    have hroom := hroom.resolve_left (by simp [hlacks])
    refine le_trans (total_register_le_add hadmitted.size fun k hk hcounts => ?_) hroom
    exact (ownerHas_register.mp hcounts).resolve_right fun hsame => hk hsame.1
  · have hold : ∀ k, (s.register uri length sessionId sensitivity).ownerHas owner k = true →
        s.ownerHas owner k = true := by
      intro k hcounts
      rcases ownerHas_register.mp hcounts with hold | ⟨rfl, hsession⟩
      · exact hold
      · by_contra hfalse
        exact hnew ⟨hsession, by simpa using hfalse⟩
    refine (total_register_le hold fun hcounts => ?_).trans h
    obtain ⟨id, hmem, _⟩ := ownerHas_iff.mp (hold uri hcounts)
    exact howned _ hmem

/-- An admitted registration stays within the quotas. -/
lemma WithinQuotas.register (h : s.WithinQuotas limits)
    (howned : ∀ ownership ∈ s.artifactOwners.rows,
      ownership.uri ∈ s.artifacts.rows.map ArtifactRow.uri)
    (hadmitted : s.Admitted limits uri length sessionId) :
    (s.register uri length sessionId sensitivity).WithinQuotas limits := by
  refine ⟨totalUsed_register_le h.total hadmitted,
    fun id => sessionUsed_register_le howned (h.session id) hadmitted,
    fun owner => ownerUsed_register_le howned (h.owner owner) hadmitted, ?_⟩
  intro ownership hmem
  rcases mem_owners_register.mp hmem with hold | ⟨_, hid⟩
  · exact h.sessions ownership hold
  · obtain ⟨owner, hrow, _⟩ := hadmitted.owner ownership.sessionId hid.symm
    exact List.mem_map.mpr ⟨_, hrow, rfl⟩

end Registration

/-- A session that gets an owner has no artifacts, so no owner gets more. -/
lemma WithinQuotas.setOwner (h : s.WithinQuotas limits) (row : SessionOwner) :
    { s with sessionOwners := s.sessionOwners.insertOrIgnore row }.WithinQuotas limits := by
  refine h.of_fewer (List.Sublist.refl _) (fun _ => id) ?_ ?_
  · rintro owner uri ⟨sessionId, howned, hrow⟩
    refine ⟨sessionId, howned, ?_⟩
    simp only [insertOrIgnore] at hrow
    rcases mem_upsert hrow with ⟨rfl, habsent⟩ | ⟨old, hold, _, rfl⟩ | ⟨hold, _⟩
    · exact absurd (h.sessions _ howned) habsent
    · exact hold
    · exact hold
  · intro ownership howned
    simp only [insertOrIgnore]
    rw [mem_keys_upsert]
    exact .inl (h.sessions ownership howned)

/-- Pruning stays within the quotas. -/
lemma WithinQuotas.prune (h : s.WithinQuotas limits) (sessionId : String) :
    (s.prune sessionId).2.WithinQuotas limits := by
  refine h.of_fewer List.filter_sublist ?_ ?_ ?_
  · intro ownership howned
    exact (mem_prune_owners.mp howned).1
  · rintro owner uri ⟨id, howned, hrow⟩
    exact ⟨id, (mem_prune_owners.mp howned).1, (mem_deleteWhere.mp hrow).1⟩
  · intro ownership howned
    obtain ⟨hold, hother⟩ := mem_prune_owners.mp howned
    obtain ⟨row, hrow, hid⟩ := List.mem_map.mp (h.sessions ownership hold)
    have hkeep : decide (row.sessionId = sessionId) = false := decide_eq_false (hid ▸ hother)
    exact List.mem_map.mpr ⟨row, mem_deleteWhere.mpr ⟨hrow, hkeep⟩, hid⟩

end ArtifactStore

/-- The limits a call is made with. -/
def StoreCall.Uses (limits : ArtifactLimits) : StoreCall → Prop
  | .putArtifact _ _ _ limits' _ => limits' = limits
  | _ => True

instance (limits : ArtifactLimits) : (call : StoreCall) → Decidable (call.Uses limits)
  | .putArtifact _ _ _ limits' _ => inferInstanceAs (Decidable (limits' = limits))
  | .setSessionOwner .. | .pruneSession .. | .deleteUnownedArtifact .. => .isTrue trivial

variable {limits : ArtifactLimits}

/-- One call stays within the quotas. -/
lemma withinQuotas_step {r r' : Registered} {call : StoreCall} (hretained : Retained r)
    (h : r.store.WithinQuotas limits) (huses : call.Uses limits)
    (heffect : StoreEffect digest r call r') : r'.store.WithinQuotas limits := by
  cases heffect with
  | quiet call files hfiles => exact h.of_files files
  | registered bytes sessionId sensitivity limits' fault incomingRank hrank hadmission hlength =>
    rw [Registered.note_store]
    have hlimits : limits' = limits := huses
    rw [hlimits] at hadmission
    exact (h.of_files _).register hretained.owned
      (ArtifactStore.admission_ok (s := r.store.publish (artifactUri digest bytes)) hadmission hlength)
  | owner sessionId owner => exact h.setOwner _
  | pruned sessionId fault files hfiles => exact (h.prune sessionId).of_files files
  | deleted uri => exact h.of_fewer List.filter_sublist (fun _ => id) (fun _ _ => id) h.sessions

lemma withinQuotas_run {r : Registered} (hretained : Retained r) (h : r.store.WithinQuotas limits)
    {calls : List StoreCall} (huses : ∀ call ∈ calls, call.Uses limits) :
    (r.run digest calls).store.WithinQuotas limits := by
  induction calls generalizing r with
  | nil => exact h
  | cons call calls ih =>
    have heffect := storeEffect_perform digest r call
    exact ih (hretained.step heffect)
      (withinQuotas_step hretained h (huses call (List.mem_cons_self ..)) heffect)
      fun call hcall => huses call (List.mem_cons_of_mem _ hcall)

/-- A registration that fails leaves the tables. -/
lemma ArtifactStore.putArtifact_error {s : ArtifactStore} {bytes : List UInt8}
    {sessionId : Option String} {sensitivity : String} {fault : Option PutArtifactFault}
    {error : Error}
    (h : (s.putArtifact digest bytes sessionId sensitivity limits fault).1 = .error error) :
    ∃ files, (s.putArtifact digest bytes sessionId sensitivity limits fault).2 =
      { s with files := files } := by
  revert h
  cases hrank : artifactSensitivityRank sensitivity with
  | none =>
    simp only [putArtifact, hrank]
    exact fun _ => ⟨_, rfl⟩
  | some incomingRank =>
    cases hadmission : s.admission limits (artifactUri digest bytes) bytes.length sessionId with
    | error refusal =>
      simp only [putArtifact, hrank, hadmission]
      rcases fault with _ | _ | _ | _ <;> exact fun _ => ⟨_, rfl⟩
    | ok =>
      simp only [putArtifact, hrank, hadmission]
      rcases fault with _ | _ | ⟨_, published⟩ | _
      · simp only
        split
        · exact fun _ => ⟨_, rfl⟩
        · intro h
          cases h
      · exact fun _ => ⟨_, rfl⟩
      · cases published <;> exact fun _ => ⟨_, rfl⟩
      · exact fun _ => ⟨_, rfl⟩

/-- After any calls with the same limits on a new store: the artifacts together, the artifacts of
every session and those that any session of an owner has are within their limits, each artifact
counted once; and a registration that fails changes no table. -/
theorem artifact_quotas (digest : List UInt8 → String) (limits : ArtifactLimits)
    (calls : List StoreCall) (huses : ∀ call ∈ calls, call.Uses limits) :
    let s := (Registered.start.run digest calls).store
    ∑ row ∈ s.artifactSet, row.size ≤ limits.totalBytes ∧
    (∀ sessionId, ∑ row ∈ s.artifactSet with ⟨row.uri, sessionId⟩ ∈ s.artifactOwners.rows,
      row.size ≤ limits.sessionBytes) ∧
    (∀ owner, ∑ row ∈ s.artifactSet with s.OwnerHas owner row.uri, row.size ≤
      limits.ownerBytes) ∧
    ∀ bytes sessionId sensitivity fault error,
      (s.putArtifact digest bytes sessionId sensitivity limits fault).1 = .error error →
      ∃ files, (s.putArtifact digest bytes sessionId sensitivity limits fault).2 =
        { s with files := files } := by
  intro s
  have hquotas : s.WithinQuotas limits :=
    withinQuotas_run retained_start (ArtifactStore.withinQuotas_empty limits) huses
  refine ⟨?_, ?_, ?_, ?_⟩
  · have htotal := s.total_eq_sum fun _ => True
    rw [Finset.filter_true] at htotal
    rw [← htotal]
    simpa [ArtifactStore.totalUsed] using hquotas.total
  · intro sessionId
    rw [← s.total_eq_sum fun row => ⟨row.uri, sessionId⟩ ∈ s.artifactOwners.rows]
    have hsession := hquotas.session sessionId
    rw [ArtifactStore.sessionUsed_eq] at hsession
    exact hsession
  · intro owner
    rw [← s.total_eq_sum fun row => s.OwnerHas owner row.uri]
    have hcond : (fun row : ArtifactRow => decide (s.OwnerHas owner row.uri)) =
        fun row => s.ownerHas owner row.uri := by
      funext row
      rw [Bool.eq_iff_iff, decide_eq_true_iff, ArtifactStore.ownerHas_iff]
    rw [hcond]
    exact hquotas.owner owner
  · intro bytes sessionId sensitivity fault error herror
    exact ArtifactStore.putArtifact_error herror

/-- Two sessions of one owner register the same three bytes, and the first of them a fourth. -/
def sharedRegistrations (limits : ArtifactLimits) : List StoreCall :=
  [.setSessionOwner "dbg_a" "agent" none, .setSessionOwner "dbg_b" "agent" none,
   .putArtifact [1, 2, 3] (some "dbg_a") "target-memory" limits none,
   .putArtifact [1, 2, 3] (some "dbg_b") "public" limits none,
   .putArtifact [4] (some "dbg_a") "public" limits none]

/-- Behind these registrations the artifacts are together within eight bytes. -/
theorem shared_registrations_within_quotas :
    (∀ call ∈ sharedRegistrations ⟨4, 3, 8⟩, call.Uses ⟨4, 3, 8⟩) ∧
    ∑ row ∈ (Registered.start.run (fun bytes => toString bytes.length)
      (sharedRegistrations ⟨4, 3, 8⟩)).store.artifactSet, row.size ≤ 8 := by
  have huses : ∀ call ∈ sharedRegistrations ⟨4, 3, 8⟩, call.Uses ⟨4, 3, 8⟩ := by decide
  exact ⟨huses, (artifact_quotas (fun bytes => toString bytes.length) ⟨4, 3, 8⟩ _ huses).1⟩

end GdbAi
