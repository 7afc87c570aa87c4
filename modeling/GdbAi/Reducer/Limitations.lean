import GdbAi.Reducer.Effects

/-!
# The list of limitations

Two disciplines fill the list of limitations.  `push_limitation` appends and keeps the last place
for a marker, behind which it accepts nothing; an evidence gap is put in front, and a list that
gets too long is cut and closed with the marker.  A restored consistency drops all but the gaps.

The marker is always the last entry, the entries are distinct, and whatever was left out or cut off
has the marker stand for it.  The bound has a hole: gaps can fill the last place without the
marker, and the next limitation that is pushed puts the marker behind a full list.
-/

namespace GdbAi

open Runs

/-- The limitations that an event reports. -/
def DomainEvent.limitations : DomainEvent → List String
  | .consistencyDirty reason | .consistencyTainted reason | .consistencyLost reason => [reason]
  | .consistencyRestored warnings => warnings
  | .evidenceGap reason => [evidenceGapPrefix ++ reason]
  | .unknownBackendEvent cls => ["unknown backend event: " ++ cls]
  | .unknownBackendNotification cls => ["unknown backend notification: " ++ cls]
  | _ => []

/-- Whether the event is an evidence gap, which is put in front. -/
def DomainEvent.isEvidenceGap : DomainEvent → Bool
  | .evidenceGap _ => true
  | _ => false

namespace SessionState

/-- `ConsistencyRestored` clears the list unless the session is tainted. -/
def clearsLimitations (s : SessionState) : DomainEvent → Bool
  | .consistencyRestored _ => s.consistency ≠ .tainted
  | _ => false

/-- The limitations that stay when an event comes, before its own are added. -/
def retainedLimitations (s : SessionState) (e : DomainEvent) : List String :=
  if s.clearsLimitations e then
    s.limitations.filter fun limitation => (stripPrefix evidenceGapPrefix limitation).isSome
  else s.limitations

/-- The limitations behind an event. -/
def nextLimitations (s : SessionState) : DomainEvent → List String
  | .evidenceGap reason => pushEvidenceGap s.limitations reason
  | e => e.limitations.foldl pushLimitation (s.retainedLimitations e)

lemma markDirty_limitations (s : SessionState) : s.markDirty.limitations = s.limitations := by
  unfold markDirty
  split <;> rfl

/-- What every event does to the limitations. -/
lemma reduce_limitations (s : SessionState) (e : DomainEvent) :
    (s.reduce e).1.limitations = s.nextLimitations e := by
  cases e with
  | commandOutcomeUnknown token => exact markDirty_limitations _
  | consistencyDirty reason => exact congrArg (pushLimitation · reason) s.markDirty_limitations
  | unknownBackendNotification cls =>
    exact congrArg (pushLimitation · ("unknown backend notification: " ++ cls))
      s.markDirty_limitations
  | consistencyRestored warnings =>
    by_cases h : s.consistency = .tainted
    · have hkept : s.clearsLimitations (.consistencyRestored warnings) = false := by
        simp [clearsLimitations, h]
      simp only [reduce, restoreConsistency, nextLimitations, retainedLimitations, hkept, if_pos h]
      rfl
    · have hclears : s.clearsLimitations (.consistencyRestored warnings) = true := by
        simp [clearsLimitations, h]
      simp only [reduce, restoreConsistency, nextLimitations, retainedLimitations, hclears, if_neg h]
      rfl
  | commandOutcomeResolved | snapshotStarted | snapshotReady | snapshotFailed | inferiorRemoved
  | inferiorExited | threadCreated | threadExited | consistencyReconciling =>
    simp only [reduce, removeInferior, exitInferior, createThread, exitThread]
    repeat' split
    all_goals rfl
  | _ => rfl

end SessionState

/-! ### The list -/

/-- The entries are distinct, the marker is the last of them, and a list that is longer than the
bound has the marker. -/
structure Listed (limitations : List String) : Prop where
  nodup : limitations.Nodup
  marker : limitationsOmitted ∈ limitations → limitations.getLast? = some limitationsOmitted
  length : limitations.length ≤ maxLimitations + 1
  overlong : limitations.length = maxLimitations + 1 → limitationsOmitted ∈ limitations

lemma listed_nil : Listed [] where
  nodup := .nil
  marker h := absurd h List.not_mem_nil
  length := by decide
  overlong h := absurd h (by decide)

section Push

variable {limitations : List String}

/-- A list that ends with an entry it did not hold. -/
lemma Listed.snoc (h : limitations.Nodup) {limitation : String} (hnew : limitation ∉ limitations)
    (hmarker : limitationsOmitted ∉ limitations) (hlength : limitations.length ≤ maxLimitations)
    (hoverlong : limitations.length = maxLimitations → limitation = limitationsOmitted) :
    Listed (limitations ++ [limitation]) where
  nodup := by
    refine List.nodup_append.mpr ⟨h, List.nodup_singleton _, fun a ha b hb => ?_⟩
    rintro rfl
    exact hnew (List.mem_singleton.mp hb ▸ ha)
  marker hmem := by
    rcases List.mem_append.mp hmem with hold | hlast
    · exact absurd hold hmarker
    · rw [List.getLast?_concat, List.mem_singleton.mp hlast]
  length := by
    rw [List.length_append, List.length_singleton]
    omega
  overlong hfull := by
    rw [List.length_append, List.length_singleton] at hfull
    rw [hoverlong (by omega)]
    exact List.mem_append_right _ (List.mem_singleton_self _)

lemma Listed.push (h : Listed limitations) (limitation : String) :
    Listed (pushLimitation limitations limitation) := by
  unfold pushLimitation
  split
  · exact h
  rename_i hknown
  obtain ⟨hnew, hmarker⟩ := not_or.mp hknown
  have hlength : limitations.length ≤ maxLimitations := by
    by_contra hlong
    have hbound := h.length
    exact hmarker (h.overlong (by omega))
  split
  · rename_i hroom
    refine Listed.snoc h.nodup hnew hmarker hlength fun hfull => ?_
    have hpositive : 0 < maxLimitations := by decide
    omega
  · exact Listed.snoc h.nodup hmarker hmarker hlength fun _ => rfl

/-- A list with the marker ends with it and holds it nowhere else. -/
lemma Listed.exists_front (h : Listed limitations) (hmarker : limitationsOmitted ∈ limitations) :
    ∃ front, limitations = front ++ [limitationsOmitted] ∧ limitationsOmitted ∉ front := by
  obtain ⟨front, hfront⟩ := List.getLast?_eq_some_iff.mp (h.marker hmarker)
  refine ⟨front, hfront, fun hmem => ?_⟩
  have hnodup := h.nodup
  rw [hfront] at hnodup
  exact (List.nodup_append.mp hnodup).2.2 _ hmem _ (List.mem_singleton_self _) rfl

/-- Cutting a list that has become too long cuts off its marker. -/
lemma Listed.marker_notMem_take (h : Listed limitations) {first : String}
    (hfirst : first ≠ limitationsOmitted) (hlong : maxLimitations < limitations.length + 1) :
    limitationsOmitted ∉ (first :: limitations).take (maxLimitations - 1) := by
  intro hmem
  by_cases hmarker : limitationsOmitted ∈ limitations
  · obtain ⟨front, rfl, hfront⟩ := h.exists_front hmarker
    rw [List.length_append, List.length_singleton] at hlong
    have hcut : maxLimitations - 1 ≤ (first :: front).length := by
      rw [List.length_cons]
      omega
    rw [← List.cons_append, List.take_append_of_le_length hcut] at hmem
    rcases List.mem_cons.mp (List.mem_of_mem_take hmem) with heq | hold
    · exact hfirst heq.symm
    · exact hfront hold
  · rcases List.mem_cons.mp (List.mem_of_mem_take hmem) with heq | hold
    · exact hfirst heq.symm
    · exact hmarker hold

/-- A gap is not the marker. -/
lemma gap_ne_marker (reason : String) : evidenceGapPrefix ++ reason ≠ limitationsOmitted := by
  intro h
  have hgap : evidenceGapPrefix.toList.head? = some 'e' := by decide
  have hmarker : limitationsOmitted.toList.head? = some 'a' := by decide
  have hhead := congrArg (fun text => text.toList.head?) h
  simp only [String.toList_append, List.head?_append, hgap, hmarker, Option.some_or] at hhead
  exact absurd hhead (by decide)

lemma Listed.gap (h : Listed limitations) (reason : String) :
    Listed (pushEvidenceGap limitations reason) := by
  have hpositive : 0 < maxLimitations := by decide
  unfold pushEvidenceGap
  simp only
  split
  · exact h
  rename_i hnew
  have hnodup : ((evidenceGapPrefix ++ reason) :: limitations).Nodup :=
    List.nodup_cons.mpr ⟨hnew, h.nodup⟩
  split
  · rename_i hlong
    rw [List.length_cons] at hlong
    have hmarker := h.marker_notMem_take (gap_ne_marker reason) hlong
    refine Listed.snoc (hnodup.sublist (List.take_sublist _ _)) hmarker hmarker ?_ fun _ => rfl
    rw [List.length_take]
    omega
  · rename_i hroom
    rw [List.length_cons] at hroom
    refine ⟨hnodup, fun hmem => ?_, ?_, fun hfull => ?_⟩
    · rcases List.mem_cons.mp hmem with heq | hold
      · exact absurd heq.symm (gap_ne_marker reason)
      · obtain ⟨front, rfl, -⟩ := h.exists_front hold
        rw [← List.cons_append, List.getLast?_concat]
    · rw [List.length_cons]
      omega
    · rw [List.length_cons] at hfull
      omega

/-- Reconciliation drops the marker with the rest. -/
lemma Listed.retained (h : Listed limitations) :
    Listed (limitations.filter fun limitation =>
      (stripPrefix evidenceGapPrefix limitation).isSome) := by
  have hmarker : limitationsOmitted ∉ limitations.filter fun limitation =>
      (stripPrefix evidenceGapPrefix limitation).isSome := fun hmem =>
    absurd (List.mem_filter.mp hmem).2 (by decide)
  refine ⟨h.nodup.sublist List.filter_sublist, fun hmem => absurd hmem hmarker, ?_, fun hfull => ?_⟩
  · exact le_trans (List.length_filter_le _ _) h.length
  · -- a list that long has the marker, which is dropped
    have hall : limitations.filter (fun limitation =>
        (stripPrefix evidenceGapPrefix limitation).isSome) = limitations := by
      refine List.filter_sublist.eq_of_length_le ?_
      rw [hfull]
      exact h.length
    rw [hall] at hfull hmarker
    exact absurd (h.overlong hfull) hmarker

lemma Listed.foldl_push (h : Listed limitations) (reported : List String) :
    Listed (reported.foldl pushLimitation limitations) := by
  induction reported generalizing limitations with
  | nil => exact h
  | cons limitation reported ih => exact ih (h.push limitation)

/-! ### What is left out -/

lemma subset_push (limitations : List String) (limitation : String) :
    limitations ⊆ pushLimitation limitations limitation := by
  unfold pushLimitation
  split
  · exact List.Subset.refl _
  split <;> exact List.subset_append_left _ _

lemma mem_push_or_marker (limitations : List String) (limitation : String) :
    limitation ∈ pushLimitation limitations limitation ∨
      limitationsOmitted ∈ pushLimitation limitations limitation := by
  unfold pushLimitation
  split
  · assumption
  split
  · exact .inl (List.mem_append_right _ (List.mem_singleton_self _))
  · exact .inr (List.mem_append_right _ (List.mem_singleton_self _))

lemma subset_foldl_push (limitations reported : List String) :
    limitations ⊆ reported.foldl pushLimitation limitations := by
  induction reported generalizing limitations with
  | nil => exact List.Subset.refl _
  | cons limitation reported ih =>
    exact List.Subset.trans (subset_push limitations limitation) (ih _)

/-- Whatever was in the list or is reported is in the list, or the marker stands for it. -/
lemma mem_foldl_push_or_marker {limitations reported : List String} {limitation : String}
    (h : limitation ∈ limitations ++ reported) :
    limitation ∈ reported.foldl pushLimitation limitations ∨
      limitationsOmitted ∈ reported.foldl pushLimitation limitations := by
  rcases List.mem_append.mp h with hold | hreported
  · exact .inl (subset_foldl_push _ _ hold)
  induction reported generalizing limitations with
  | nil => exact absurd hreported List.not_mem_nil
  | cons first reported ih =>
    rw [List.foldl_cons]
    rcases List.mem_cons.mp hreported with rfl | hlater
    · exact (mem_push_or_marker limitations limitation).imp
        (fun hmem => subset_foldl_push _ _ hmem) fun hmem => subset_foldl_push _ _ hmem
    · exact ih (List.mem_append_right _ hlater) hlater

/-- A new gap leaves out nothing, or the marker stands for it. -/
lemma mem_gap_or_marker {limitations : List String} {reason limitation : String}
    (h : limitation ∈ limitations ++ [evidenceGapPrefix ++ reason]) :
    limitation ∈ pushEvidenceGap limitations reason ∨
      limitationsOmitted ∈ pushEvidenceGap limitations reason := by
  have hcons : limitation ∈ (evidenceGapPrefix ++ reason) :: limitations := by
    rw [List.mem_append, List.mem_singleton] at h
    exact List.mem_cons.mpr h.symm
  unfold pushEvidenceGap
  simp only
  split
  · rename_i hknown
    left
    rcases List.mem_cons.mp hcons with rfl | hold
    · exact hknown
    · exact hold
  split
  · exact .inr (List.mem_append_right _ (List.mem_singleton_self _))
  · exact .inl hcons

/-- Nothing but an overlong list loses its marker to a new gap, and that gets it back. -/
lemma marker_mem_gap (h : limitationsOmitted ∈ limitations) (reason : String) :
    limitationsOmitted ∈ pushEvidenceGap limitations reason := by
  unfold pushEvidenceGap
  simp only
  split
  · exact h
  split
  · exact List.mem_append_right _ (List.mem_singleton_self _)
  · exact List.mem_cons_of_mem _ h

/-! ### The bound -/

lemma length_gap_le (h : limitations.length ≤ maxLimitations) (reason : String) :
    (pushEvidenceGap limitations reason).length ≤ maxLimitations := by
  have hpositive : 0 < maxLimitations := by decide
  unfold pushEvidenceGap
  simp only
  split
  · exact h
  split
  · rw [List.length_append, List.length_take, List.length_singleton]
    omega
  · omega

/-- A list with the marker accepts nothing. -/
lemma foldl_push_of_marker (h : limitationsOmitted ∈ limitations) (reported : List String) :
    reported.foldl pushLimitation limitations = limitations := by
  induction reported with
  | nil => rfl
  | cons limitation reported ih =>
    rw [List.foldl_cons, pushLimitation, if_pos (.inr h)]
    exact ih

/-- Reports of what the list holds change nothing. -/
lemma foldl_push_of_subset {reported : List String} (h : ∀ x ∈ reported, x ∈ limitations) :
    reported.foldl pushLimitation limitations = limitations := by
  induction reported with
  | nil => rfl
  | cons limitation reported ih =>
    rw [List.foldl_cons, pushLimitation, if_pos (.inl (h _ List.mem_cons_self))]
    exact ih fun x hx => h x (List.mem_cons_of_mem _ hx)

/-- A list with room for the marker stays within the bound. -/
lemma length_foldl_push_le (h : limitations.length < maxLimitations) (reported : List String) :
    (reported.foldl pushLimitation limitations).length ≤ maxLimitations := by
  induction reported generalizing limitations with
  | nil => exact h.le
  | cons limitation reported ih =>
    rw [List.foldl_cons]
    by_cases hknown : limitation ∈ limitations ∨ limitationsOmitted ∈ limitations
    · rw [pushLimitation, if_pos hknown]
      exact ih h
    by_cases hroom : limitations.length < maxLimitations - 1
    · rw [pushLimitation, if_neg hknown, if_pos hroom]
      refine ih ?_
      rw [List.length_append, List.length_singleton]
      omega
    · rw [pushLimitation, if_neg hknown, if_neg hroom,
        foldl_push_of_marker (List.mem_append_right _ (List.mem_singleton_self _)),
        List.length_append, List.length_singleton]
      omega

end Push

namespace SessionState

/-- The event reports something new to a list that is full and has no marker. -/
def Overflows (s : SessionState) (e : DomainEvent) : Prop :=
  e.isEvidenceGap = false ∧ (s.retainedLimitations e).length = maxLimitations ∧
    limitationsOmitted ∉ s.retainedLimitations e ∧
    ∃ limitation ∈ e.limitations, limitation ∉ s.retainedLimitations e

instance (s : SessionState) (e : DomainEvent) : Decidable (s.Overflows e) :=
  inferInstanceAs (Decidable (_ ∧ _ ∧ _ ∧ _))

variable {s : SessionState}

lemma listed_retained (h : Listed s.limitations) (e : DomainEvent) :
    Listed (s.retainedLimitations e) := by
  unfold retainedLimitations
  split
  · exact h.retained
  · exact h

variable {e : DomainEvent}

/-- An event other than a gap pushes what it reports. -/
lemma nextLimitations_of_not_gap (h : e.isEvidenceGap = false) :
    s.nextLimitations e = e.limitations.foldl pushLimitation (s.retainedLimitations e) := by
  cases e with
  | evidenceGap reason => exact absurd h (by simp [DomainEvent.isEvidenceGap])
  | _ => rfl

lemma exists_of_isEvidenceGap (h : e.isEvidenceGap = true) : ∃ reason, e = .evidenceGap reason := by
  cases e with
  | evidenceGap reason => exact ⟨reason, rfl⟩
  | _ => exact absurd h (by simp [DomainEvent.isEvidenceGap])

lemma listed_next (h : Listed s.limitations) (e : DomainEvent) : Listed (s.nextLimitations e) := by
  cases hgap : e.isEvidenceGap with
  | true =>
    obtain ⟨reason, rfl⟩ := exists_of_isEvidenceGap hgap
    exact h.gap reason
  | false =>
    rw [nextLimitations_of_not_gap hgap]
    exact (listed_retained h e).foldl_push _

/-- Without an overflow the bound is kept. -/
lemma length_next_le (h : s.limitations.length ≤ maxLimitations) (hroom : ¬ s.Overflows e) :
    (s.nextLimitations e).length ≤ maxLimitations := by
  cases hgap : e.isEvidenceGap with
  | true =>
    obtain ⟨reason, rfl⟩ := exists_of_isEvidenceGap hgap
    exact length_gap_le h reason
  | false =>
    rw [nextLimitations_of_not_gap hgap]
    have hretained : (s.retainedLimitations e).length ≤ maxLimitations := by
      unfold retainedLimitations
      split
      · exact le_trans (List.length_filter_le _ _) h
      · exact h
    rcases lt_or_eq_of_le hretained with hlt | hfull
    · exact length_foldl_push_le hlt _
    · by_cases hmarker : limitationsOmitted ∈ s.retainedLimitations e
      · rw [foldl_push_of_marker hmarker]
        exact hretained
      · rw [foldl_push_of_subset fun x hx => ?_]
        · exact hretained
        · by_contra hnew
          exact hroom ⟨hgap, hfull, hmarker, x, hx, hnew⟩

/-- Some limitation that stays or is reported is not in the list behind the event. -/
def omits (s : SessionState) (e : DomainEvent) (s' : SessionState) : Bool :=
  (s.retainedLimitations e ++ e.limitations).any fun limitation => limitation ∉ s'.limitations

/-- Whatever an event leaves out has the marker stand for it. -/
lemma marker_of_omits {s s' : SessionState} (hnext : s'.limitations = s.nextLimitations e)
    (h : s.omits e s' = true) : limitationsOmitted ∈ s'.limitations := by
  obtain ⟨limitation, hmem, hout⟩ := List.any_eq_true.mp h
  rw [decide_eq_true_eq] at hout
  rw [hnext] at hout ⊢
  cases hgap : e.isEvidenceGap with
  | true =>
    obtain ⟨reason, rfl⟩ := exists_of_isEvidenceGap hgap
    exact (mem_gap_or_marker hmem).resolve_left hout
  | false =>
    rw [nextLimitations_of_not_gap hgap] at hout ⊢
    exact (mem_foldl_push_or_marker hmem).resolve_left hout

/-- The marker stays until the list is cleared. -/
lemma marker_stays (h : limitationsOmitted ∈ s.limitations) (hkept : s.clearsLimitations e = false) :
     limitationsOmitted ∈ s.nextLimitations e := by
  cases hgap : e.isEvidenceGap with
  | true =>
    obtain ⟨reason, rfl⟩ := exists_of_isEvidenceGap hgap
    exact marker_mem_gap h reason
  | false =>
    rw [nextLimitations_of_not_gap hgap, retainedLimitations, if_neg (by simp [hkept])]
    exact subset_foldl_push _ _ h

lemma Applies.limitations {s s' : SessionState} {journaled : ℕ × DomainEvent}
    (h : s.Applies journaled s') : s'.limitations = s.nextLimitations journaled.2 := by
  obtain ⟨seq, e⟩ := journaled
  obtain ⟨-, revision, rfl⟩ := h.reduce
  have hnext := { s with eventSeq := seq }.reduce_limitations e
  have hsame : { s with eventSeq := seq }.nextLimitations e = s.nextLimitations e := by
    cases e <;> rfl
  exact hnext.trans hsame

end SessionState

/-! ### Runs -/

/-- A session state, and whether a limitation was refused or evicted since the list was last
cleared. -/
structure Reported where
  state : SessionState
  omitted : Bool

namespace Reported

/-- One event applied at its sequence number. -/
def Applies (r : Reported) (journaled : ℕ × DomainEvent) (r' : Reported) : Prop :=
  r.state.Applies journaled r'.state ∧
    r'.omitted = ((r.omitted && !r.state.clearsLimitations journaled.2) ||
      r.state.omits journaled.2 r'.state)

/-- One event that does not overflow the list. -/
def AppliesWithRoom (r : Reported) (journaled : ℕ × DomainEvent) (r' : Reported) : Prop :=
  r.Applies journaled r' ∧ ¬ r.state.Overflows journaled.2

/-- The step of an event, computed. -/
def apply (r : Reported) (journaled : ℕ × DomainEvent) : Option Reported :=
  match r.state.applyEvent journaled.1 journaled.2 with
  | .ok (s, _) => some ⟨s, (r.omitted && !r.state.clearsLimitations journaled.2) ||
      r.state.omits journaled.2 s⟩
  | .error _ => none

lemma applies_of_apply {r r' : Reported} {journaled : ℕ × DomainEvent}
    (h : r.apply journaled = some r') : r.Applies journaled r' := by
  unfold apply at h
  split at h
  · rename_i s changed happlies
    obtain rfl := Option.some.inj h
    exact ⟨⟨changed, happlies⟩, rfl⟩
  · cases h

/-- A new session has reported nothing. -/
def creating (session : SessionId) : Reported := ⟨.creating session, false⟩

/-- The marker stands for what was left out. -/
def Marked (r : Reported) : Prop :=
  Listed r.state.limitations ∧ (r.omitted = true → limitationsOmitted ∈ r.state.limitations)

lemma Marked.applies {r r' : Reported} {journaled : ℕ × DomainEvent} (h : r.Marked)
    (hstep : r.Applies journaled r') : r'.Marked := by
  obtain ⟨happlies, homitted⟩ := hstep
  have hnext := happlies.limitations
  refine ⟨?_, fun hout => ?_⟩
  · rw [hnext]
    exact SessionState.listed_next h.1 journaled.2
  · rw [homitted, Bool.or_eq_true, Bool.and_eq_true, Bool.not_eq_true'] at hout
    rcases hout with ⟨hbefore, hkept⟩ | hnow
    · rw [hnext]
      exact SessionState.marker_stays (h.2 hbefore) hkept
    · exact SessionState.marker_of_omits hnext hnow

end Reported

/-- In every run the limitations are distinct, and if one was refused or evicted since the list was
last cleared, then the last entry is the marker.  There are at most `maxLimitations` of them if no
event of the run reports something new to a full list without marker. -/
theorem limitations_marked_and_bounded (session : SessionId) (es : List (ℕ × DomainEvent))
    (r : Reported) (hrun : Run Reported.Applies (.creating session) es r) :
    r.state.limitations.Nodup ∧
      (r.omitted = true → r.state.limitations.getLast? = some limitationsOmitted) ∧
      (Run Reported.AppliesWithRoom (.creating session) es r →
        r.state.limitations.length ≤ maxLimitations) := by
  have hmarked : r.Marked := by
    refine hrun.invariant ⟨listed_nil, fun h => absurd h Bool.false_ne_true⟩ ?_
    exact fun _ _ _ hr hstep => hr.applies hstep
  refine ⟨hmarked.1.nodup, fun hout => hmarked.1.marker (hmarked.2 hout), fun hroom => ?_⟩
  refine hroom.invariant (P := fun r => r.state.limitations.length ≤ maxLimitations)
    (Nat.zero_le _) ?_
  rintro r journaled r' hr ⟨hstep, hsafe⟩
  rw [hstep.1.limitations]
  exact SessionState.length_next_le hr hsafe

/-- As many anomalies as there are limitations beside the marker, each with a reason of its own. -/
def anomalies : List (ℕ × DomainEvent) :=
  (List.range 63).map fun n => (n + 1, .consistencyDirty (toString n))

/-- An evidence gap takes the place of the marker, and one more anomaly comes. -/
def gapThenAnomaly : List (ℕ × DomainEvent) :=
  anomalies ++ [(64, .evidenceGap "spool full"), (65, .consistencyDirty "one more")]

/-- The marker is put behind the gap and makes the list longer than its bound. -/
theorem gapThenAnomaly_overflows :
    ∃ r, Run Reported.Applies (.creating ⟨"sess_x"⟩) gapThenAnomaly r ∧
      r.state.limitations.length = maxLimitations + 1 := by
  have hany : (gapThenAnomaly.foldlM Reported.apply (.creating ⟨"sess_x"⟩)).any
      (fun r => r.state.limitations.length = maxLimitations + 1) = true := by decide +kernel
  obtain ⟨r, hr, hlength⟩ := (Option.any_eq_true _ _).mp hany
  exact ⟨r, (Run.of_foldlM hr).mono fun _ _ _ h => Reported.applies_of_apply h,
    of_decide_eq_true hlength⟩

/-- An event that does not overflow the list, computed. -/
def Reported.applyWithRoom (r : Reported) (journaled : ℕ × DomainEvent) : Option Reported :=
  if r.state.Overflows journaled.2 then none else r.apply journaled

lemma Reported.appliesWithRoom_of_apply {r r' : Reported} {journaled : ℕ × DomainEvent}
    (h : r.applyWithRoom journaled = some r') : r.AppliesWithRoom journaled r' := by
  unfold applyWithRoom at h
  split at h
  · cases h
  · exact ⟨applies_of_apply h, ‹_›⟩

/-- The anomaly comes before the gap. -/
def anomalyThenGap : List (ℕ × DomainEvent) :=
  anomalies ++ [(64, .consistencyDirty "one more"), (65, .evidenceGap "spool full")]

/-- In this order the marker closes the list, and the gap keeps to the bound. -/
theorem anomalyThenGap_bounded :
    ∃ r, Run Reported.Applies (.creating ⟨"sess_x"⟩) anomalyThenGap r ∧ r.omitted = true ∧
      r.state.limitations.getLast? = some limitationsOmitted ∧
      r.state.limitations.length ≤ maxLimitations := by
  have hany : (anomalyThenGap.foldlM Reported.applyWithRoom (.creating ⟨"sess_x"⟩)).any
      (fun r => r.omitted) = true := by decide +kernel
  obtain ⟨r, hr, homitted⟩ := (Option.any_eq_true _ _).mp hany
  have hroom := (Run.of_foldlM hr).mono fun _ _ _ h => Reported.appliesWithRoom_of_apply h
  have hrun := hroom.mono fun _ _ _ h => h.1
  obtain ⟨-, hmarked, hbounded⟩ := limitations_marked_and_bounded ⟨"sess_x"⟩ _ r hrun
  exact ⟨r, hrun, homitted, hmarked homitted, hbounded hroom⟩

end GdbAi
