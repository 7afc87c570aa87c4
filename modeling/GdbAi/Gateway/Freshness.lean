import GdbAi.Gateway.SharedReads

/-!
# Freshness of shared reads

The fence of the cache pairs the revision after a capture with the generation before it.  The
revision numbers the events that changed it, so a hit is at the event that the capture closed
at; and the generation was loaded before the capture read anything, so no mutation was admitted
since.  What the fence does not see is an event between the last read of a capture and the sample
that closes it: the revision of that sample has it, and the facts have not.
-/

namespace GdbAi

namespace SessionState

/-! ### Revisions and stops -/

/-- An event that reports no change leaves the stop. -/
lemma applyEvent_stop {s s' : SessionState} (hs : s.Coherent) {seq : ℕ} {e : DomainEvent}
    (h : s.applyEvent seq e = .ok (s', false)) : s'.stopId = s.stopId := by
  have hseq : s.eventSeq < seq := (applies_iff.mp ⟨false, h⟩).1
  have hat : { s with eventSeq := seq }.Coherent :=
    { hs with
      fresh := fun id hid => by
        obtain ⟨n, hn, rfl⟩ := hs.fresh id hid
        exact ⟨n, le_trans hn hseq.le, rfl⟩ }
  obtain ⟨hfalse, rfl⟩ := (applyEvent_eq_ok_false hseq).mp h
  by_cases hsilent : { s with eventSeq := seq }.SilentChange e
  · -- the two silent changes are no events of the target
    have htarget : e.isTargetEvent = false := by
      cases e with
      | commandOutcomeResolved _ | consistencyRestored _ => rfl
      | _ => exact hsilent.elim
    exact congrArg Target.stopId (reduce_target _ htarget)
  · rw [reduce_false hat hsilent hfalse]

end SessionState

/-- The key of a result determines what it was captured for. -/
lemma sharedKey_inj {left right : ApiRequest} (h : sharedKey left = sharedKey right) :
    left.method = right.method ∧ left.parameters = right.parameters := by
  have hlist := congrArg String.toList h
  simp only [sharedKey, String.toList_append, List.append_assoc] at hlist
  obtain ⟨hmethod, hparameters⟩ :=
    Numerals.split_first left.method.colon_notMem right.method.colon_notMem hlist
  refine ⟨CanonicalMethod.asStr_injective (String.toList_injective hmethod), ?_⟩
  simp only [String.toList_ofList] at hparameters
  exact Json.render_injective hparameters

namespace Sharing

variable {maximum : ℕ} {start : SessionState}

/-! ### What a step can do -/

/-- The steps, by what they change. -/
inductive SharingStep (maximum : ℕ) (s : Sharing) : SharingAct → Sharing → Prop
  | event (sequence : ℕ) (event : DomainEvent) (session : SessionState) (changed : Bool)
      (h : s.session.applyEvent sequence event = .ok (session, changed)) :
      SharingStep maximum s (.event sequence event) (s.advance session changed)
  | guarded (act : SharingAct) (guard : TargetGuard) (waiting : List SharedReader) :
      SharingStep maximum s act { s with guard := guard, waiting := waiting }
  | admitted (act : SharingAct) (guard : TargetGuard) :
      SharingStep maximum s act { s.countMutation with guard := guard }
  | locked (i : ℕ) (reader : SharedReader) (waiting : List SharedReader) :
      SharingStep maximum s (.lock i)
        { s with waiting := waiting, holder := some ⟨reader, .locked⟩ }
  | released (act : SharingAct) : SharingStep maximum s act s.release
  | sampled (reader : SharedReader) :
      SharingStep maximum s .sample (s.proceed ⟨reader, .locked⟩ (.sampled
        ⟨s.session.revision, s.session.stopId, s.session.executionEpoch, s.moments.length⟩))
  | loaded (reader : SharedReader) (sample : StateSample)
      (h : s.holder = some ⟨reader, .sampled sample⟩) :
      SharingStep maximum s .load
        ({ s with shared :=
            if s.shared.fence ≠ some (sample.revision, s.generation) then {} else s.shared }.proceed
          ⟨reader, .sampled sample⟩ (.loaded sample ⟨s.generation, s.mutations⟩))
  | hit (reader : SharedReader) (sample : StateSample) (load : GenerationLoad) (result : SharedResult)
      (h : s.holder = some ⟨reader, .loaded sample load⟩)
      (hfound : s.shared.results.lookup (sharedKey reader.request) = some result) :
      SharingStep maximum s .look
        { s.release with
          hits := s.hits ++
            [⟨reader.request, sample, load, result, s.session.stopId, s.moments.length,
              s.mutations⟩] }
  | missed (reader : SharedReader) (sample : StateSample) (load : GenerationLoad)
      (h : s.holder = some ⟨reader, .loaded sample load⟩)
      (hmissed : s.shared.results.lookup (sharedKey reader.request) = none) :
      SharingStep maximum s .look (s.proceed ⟨reader, .loaded sample load⟩
        (.capturing sample load ⟨s.moments.length, 0, s.mutations⟩))
  | read (reader : SharedReader) (sample : StateSample) (load : GenerationLoad) (capture : Capture)
      (h : s.holder = some ⟨reader, .capturing sample load capture⟩) :
      SharingStep maximum s .read (s.proceed ⟨reader, .capturing sample load capture⟩
        (.capturing sample load ⟨s.moments.length, 0, s.mutations⟩))
  | committed (reader : SharedReader) (sample : StateSample) (load : GenerationLoad) (capture : Capture)
      (sequence : ℕ) (event : DomainEvent) (session : SessionState) (changed : Bool)
      (h : s.holder = some ⟨reader, .capturing sample load capture⟩)
      (happlied : s.session.applyEvent sequence event = .ok (session, changed)) :
      SharingStep maximum s (.commit sequence event)
        ((s.advance session changed).proceed ⟨reader, .capturing sample load capture⟩
          (.capturing sample load
            { capture with own := if changed then capture.own + 1 else capture.own }))
  | closed (reader : SharedReader) (sample : StateSample) (load : GenerationLoad) (capture : Capture)
      (h : s.holder = some ⟨reader, .capturing sample load capture⟩)
      (hstop : s.session.stopId = sample.stopId) :
      SharingStep maximum s .close (s.proceed ⟨reader, .capturing sample load capture⟩
        (.closed sample load capture s.session.revision))
  | stored (reader : SharedReader) (sample : StateSample) (load : GenerationLoad) (capture : Capture)
      (revision : ℕ) (facts : Json) (complete : Bool)
      (h : s.holder = some ⟨reader, .closed sample load capture revision⟩) :
      SharingStep maximum s (.finish facts complete)
        { s.release with
          shared := s.shared.store maximum (revision, load.generation)
            (result reader.request sample capture facts) }

variable {act : SharingAct}

/-- Every step is one of these. -/
theorem sharingStep_perform {s s' : Sharing} (h : s.perform maximum act = some s') :
    SharingStep maximum s act s' := by
  cases act with
  | event sequence event =>
    simp only [perform] at h
    split at h
    · rename_i session changed happlied
      obtain rfl := Option.some.inj h
      exact .event sequence event session changed happlied
    · cases h
  | beginMutation =>
    simp only [perform] at h
    split at h
    · obtain rfl := Option.some.inj h
      exact .guarded _ (.mutating false) s.waiting
    · cases h
  | admitMutation =>
    simp only [perform] at h
    split at h
    · obtain rfl := Option.some.inj h
      exact .admitted _ (.mutating true)
    · cases h
  | endMutation =>
    simp only [perform] at h
    split at h
    · obtain rfl := Option.some.inj h
      exact .guarded _ (.shared 0) s.waiting
    · cases h
  | admitOutOfBand =>
    obtain rfl := Option.some.inj h
    exact .admitted _ s.guard
  | arrive request exclusive =>
    simp only [perform] at h
    split at h
    · split at h
      · obtain rfl := Option.some.inj h
        exact .guarded _ _ _
      · obtain rfl := Option.some.inj h
        exact .guarded _ _ _
      · cases h
    · cases h
  | leave i =>
    obtain ⟨_, _, rfl⟩ := Option.map_eq_some_iff.mp h
    exact .guarded _ _ _
  | lock i =>
    simp only [perform] at h
    split at h
    · obtain rfl := Option.some.inj h
      exact .locked i _ _
    · cases h
  | fail =>
    obtain ⟨_, _, rfl⟩ := Option.map_eq_some_iff.mp h
    exact .released _
  | sample =>
    simp only [perform] at h
    split at h
    · obtain rfl := Option.some.inj h
      exact .sampled _
    · cases h
  | load =>
    simp only [perform] at h
    split at h
    · rename_i hholder
      obtain rfl := Option.some.inj h
      exact .loaded _ _ hholder
    · cases h
  | look =>
    simp only [perform] at h
    split at h
    · rename_i hholder
      split at h
      · rename_i hfound
        obtain rfl := Option.some.inj h
        exact .hit _ _ _ _ hholder hfound
      · rename_i hmissed
        obtain rfl := Option.some.inj h
        exact .missed _ _ _ hholder hmissed
    · cases h
  | read =>
    simp only [perform] at h
    split at h
    · rename_i hholder
      obtain rfl := Option.some.inj h
      exact .read _ _ _ _ hholder
    · cases h
  | commit sequence event =>
    simp only [perform] at h
    split at h
    · rename_i hholder
      split at h
      · rename_i happlied
        obtain rfl := Option.some.inj h
        exact .committed _ _ _ _ _ _ _ _ hholder happlied
      · cases h
    · cases h
  | close =>
    simp only [perform] at h
    split at h
    · rename_i hholder
      split at h
      · obtain rfl := Option.some.inj h
        exact .released _
      · rename_i hsame
        obtain rfl := Option.some.inj h
        exact .closed _ _ _ _ hholder (not_not.mp (not_or.mp hsame).1)
    · cases h
  | finish facts complete =>
    simp only [perform] at h
    split at h
    · rename_i hholder
      split at h
      · obtain rfl := Option.some.inj h
        exact .released _
      · obtain rfl := Option.some.inj h
        exact .stored _ _ _ _ _ _ _ hholder
    · cases h

/-! ### The bounds of the cache -/

/-- The cache is small, and its bytes are those of its results. -/
structure Bounded (maximum : ℕ) (shared : SharedReads) : Prop where
  count : shared.results.rows.length ≤ 16
  sum : shared.bytes = (shared.results.rows.map SharedResult.bytes).sum
  bytes : shared.bytes ≤ maximum

lemma bounded_default (maximum : ℕ) : Bounded maximum {} :=
  ⟨Nat.zero_le _, rfl, Nat.zero_le _⟩

/-- What `store` puts the result into. -/
lemma store_eq (shared : SharedReads) (maximum : ℕ) (fence : ℕ × ℕ) (result : SharedResult) :
    (shared.store maximum fence result = shared ∧ maximum < result.bytes) ∨
    ∃ kept : SharedReads, result.bytes ≤ maximum ∧
      (kept = {} ∨ kept = shared ∧ shared.fence = some fence ∧ shared.results.rows.length < 16 ∧
        saturatingAdd shared.bytes result.bytes ≤ maximum) ∧
      shared.store maximum fence result =
        { fence := some fence
          bytes := kept.bytes + result.bytes
          results := kept.results.upsert result (fun old => { result with key := old.key })
            fun _ => rfl } := by
  unfold SharedReads.store
  split
  · rename_i hlarge
    exact .inl ⟨rfl, hlarge⟩
  · rename_i hfits
    refine .inr ⟨_, not_lt.mp hfits, ?_, rfl⟩
    split
    · exact .inl rfl
    · rename_i hkept
      simp only [not_or, not_not, not_le, not_lt] at hkept
      exact .inr ⟨rfl, hkept.1, hkept.2.1, hkept.2.2⟩

/-- Storing a result that the cache does not have keeps its bounds. -/
lemma Bounded.store {shared : SharedReads} (h : Bounded maximum shared) (hmaximum : maximum < 2 ^ 64 - 1)
    (fence : ℕ × ℕ) {result : SharedResult}
    (hnew : result.key ∉ shared.results.rows.map SharedResult.key) :
    Bounded maximum (shared.store maximum fence result) := by
  rcases store_eq shared maximum fence result with ⟨heq, _⟩ | ⟨kept, hfits, hkept, heq⟩
  · rw [heq]
    exact h
  · have hbounded : Bounded maximum kept ∧ kept.results.rows.length < 16 ∧
        kept.bytes + result.bytes ≤ maximum ∧
        result.key ∉ kept.results.rows.map SharedResult.key := by
      rcases hkept with rfl | ⟨rfl, _, hcount, hroom⟩
      · exact ⟨bounded_default maximum, by decide, by simpa using hfits, List.not_mem_nil⟩
      · unfold saturatingAdd at hroom
        have hbytes := h.bytes
        exact ⟨h, hcount, by omega, hnew⟩
    obtain ⟨hkept, hcount, hroom, hnew⟩ := hbounded
    rw [heq]
    refine ⟨?_, ?_, hroom⟩
    · simp only
      rw [Table.upsert_rows_of_not_mem hnew]
      simpa using hcount
    · simp only
      rw [Table.upsert_rows_of_not_mem hnew, List.map_append, List.sum_append, ← hkept.sum]
      simp

/-- A read that captures has found no result of its key. -/
def Missed (s : Sharing) : Prop :=
  ∀ holder, s.holder = some holder →
    match holder.phase with
    | .capturing .. | .closed .. =>
      sharedKey holder.reader.request ∉ s.shared.results.rows.map SharedResult.key
    | _ => True

variable {s : Sharing}

lemma Missed.of_none (h : s.holder = none) : Missed s := by
  intro holder hholder
  rw [h] at hholder
  cases hholder

/-- One step keeps the bounds. -/
lemma bounded_step {s s' : Sharing} (hmaximum : maximum < 2 ^ 64 - 1)
    (h : Bounded maximum s.shared ∧ Missed s) (hstep : SharingStep maximum s act s') :
    Bounded maximum s'.shared ∧ Missed s' := by
  obtain ⟨hbounded, hmissed⟩ := h
  cases hstep with
  | event sequence event session changed happlied => exact ⟨hbounded, hmissed⟩
  | guarded act guard waiting => exact ⟨hbounded, hmissed⟩
  | admitted act guard => exact ⟨hbounded, hmissed⟩
  | locked i reader waiting =>
    refine ⟨hbounded, ?_⟩
    rintro _ ⟨⟩
    trivial
  | released act => exact ⟨hbounded, .of_none rfl⟩
  | sampled reader =>
    refine ⟨hbounded, ?_⟩
    rintro _ ⟨⟩
    trivial
  | loaded reader sample hholder =>
    refine ⟨?_, ?_⟩
    · simp only [proceed]
      split
      · exact bounded_default maximum
      · exact hbounded
    · rintro _ ⟨⟩
      trivial
  | hit reader sample load result hholder hfound => exact ⟨hbounded, .of_none rfl⟩
  | missed reader sample load hholder hnone =>
    refine ⟨hbounded, ?_⟩
    rintro _ ⟨⟩
    exact Table.lookup_eq_none.mp hnone
  | read reader sample load capture hholder =>
    refine ⟨hbounded, ?_⟩
    rintro _ ⟨⟩
    exact hmissed _ hholder
  | committed reader sample load capture sequence event session changed hholder happlied =>
    refine ⟨hbounded, ?_⟩
    rintro _ ⟨⟩
    exact hmissed _ hholder
  | closed reader sample load capture hholder hstop =>
    refine ⟨hbounded, ?_⟩
    rintro _ ⟨⟩
    exact hmissed _ hholder
  | stored reader sample load capture revision facts complete hholder =>
    exact ⟨hbounded.store hmaximum _ (hmissed _ hholder), .of_none rfl⟩

/-! ### What a hit can rely on -/

/-- The generation after a number of admissions. -/
@[irreducible] def generationAfter (mutations : ℕ) : ℕ := mutations % 2 ^ 64

lemma generationAfter_zero : generationAfter 0 = 0 := by
  simp [generationAfter]

lemma fetchAdd_generationAfter (mutations : ℕ) :
    fetchAdd (generationAfter mutations) 1 = generationAfter (mutations + 1) := by
  unfold generationAfter fetchAdd
  exact Nat.mod_add_mod _ _ _

/-- Before the counter comes around, the generation is the number of admissions. -/
lemma generationAfter_of_lt {mutations : ℕ} (h : mutations < 2 ^ 64) :
    generationAfter mutations = mutations := by
  unfold generationAfter
  exact Nat.mod_eq_of_lt h

/-- What a sample says about the events so far. -/
structure SampleSound (start : SessionState) (s : Sharing) (sample : StateSample) : Prop where
  revision : sample.revision + 1 = start.revision + sample.moment
  stop : s.moments[sample.moment - 1]? = some sample.stopId

/-- What a loaded generation says about the admissions so far. -/
structure LoadSound (s : Sharing) (load : GenerationLoad) : Prop where
  generation : load.generation = generationAfter load.mutations
  mutations : load.mutations ≤ s.mutations

/-- A capture has read after the load. -/
structure CaptureSound (s : Sharing) (load : GenerationLoad) (capture : Capture) : Prop where
  since : load.mutations ≤ capture.mutations
  mutations : capture.mutations ≤ s.mutations

/-- A result of the cache: the fence is the event that its capture closed at, and a generation
from before the capture. -/
structure ResultSound (start : SessionState) (s : Sharing) (result : SharedResult) : Prop where
  key : result.key = sharedKey result.request
  fence : ∃ revision generation, s.shared.fence = some (revision, generation) ∧
    revision + 1 = start.revision + (result.capture.moment + result.capture.own) ∧
    ∃ m ≤ result.capture.mutations, generationAfter m = generation
  mutations : result.capture.mutations ≤ s.mutations
  stop : s.moments[result.capture.moment + result.capture.own - 1]? = some result.stopId

/-- What holds of the read that has the mutex. -/
def PhaseSound (start : SessionState) (s : Sharing) : SharedPhase → Prop
  | .locked => True
  | .sampled sample => SampleSound start s sample
  | .loaded sample load =>
    SampleSound start s sample ∧ LoadSound s load ∧
    (∀ result ∈ s.shared.results.rows, result.capture.mutations ≤ load.mutations ∧
      s.shared.fence = some (sample.revision, load.generation))
  | .capturing sample load capture =>
    SampleSound start s sample ∧ LoadSound s load ∧ CaptureSound s load capture
  | .closed sample load capture revision =>
    LoadSound s load ∧ CaptureSound s load capture ∧
    revision + 1 = start.revision + (capture.moment + capture.own) ∧
    s.moments[capture.moment + capture.own - 1]? = some sample.stopId

/-- The result was captured for the same method and parameters at the stop the read has sampled;
since its last read no event but its own commits was applied before that sample, and no mutation
was admitted before the generation was loaded.  If no event came between the sample and the
lookup, the stop is also the one at the lookup. -/
structure Hit.Fresh (hit : Hit) : Prop where
  method : hit.result.request.method = hit.request.method
  parameters : hit.result.request.parameters = hit.request.parameters
  stop : hit.result.stopId = hit.sample.stopId
  events : hit.sample.moment = hit.result.capture.moment + hit.result.capture.own
  mutations : hit.load.mutations = hit.result.capture.mutations
  current : hit.moment = hit.sample.moment → hit.stopId = hit.sample.stopId

/-- What holds along undisturbed runs. -/
structure Sound (start : SessionState) (s : Sharing) : Prop where
  coherent : s.session.Coherent
  revision : s.session.revision + 1 = start.revision + s.moments.length
  current : s.moments.getLast? = some s.session.stopId
  generation : s.generation = generationAfter s.mutations
  results : ∀ result ∈ s.shared.results.rows, ResultSound start s result
  holder : ∀ holder, s.holder = some holder → PhaseSound start s holder.phase
  hits : ∀ hit ∈ s.hits, Hit.Fresh hit

lemma sound_start (hstart : start.Coherent) : Sound start (.start start) where
  coherent := hstart
  revision := by simp [Sharing.start]
  current := by simp [Sharing.start]
  generation := generationAfter_zero.symm
  results := by simp [Sharing.start, Table.empty]
  holder := by simp [Sharing.start]
  hits := by simp [Sharing.start]

/-! ### More events and admissions -/

/-- `s'` has the cache of `s` and at least its events and admissions. -/
structure Later (s s' : Sharing) : Prop where
  moments : s.moments <+: s'.moments
  mutations : s.mutations ≤ s'.mutations

lemma getElem?_of_later {s s' : Sharing} (h : Later s s') {n : ℕ} {stop : Option StopId}
    (hstop : s.moments[n]? = some stop) : s'.moments[n]? = some stop := by
  obtain ⟨more, hmore⟩ := h.moments
  obtain ⟨hn, -⟩ := List.getElem?_eq_some_iff.mp hstop
  rw [← hmore, List.getElem?_append_left hn]
  exact hstop

variable {sample : StateSample}

lemma SampleSound.later {s s' : Sharing} (h : SampleSound start s sample) (hlater : Later s s') :
    SampleSound start s' sample :=
  ⟨h.revision, getElem?_of_later hlater h.stop⟩

lemma LoadSound.later {s s' : Sharing} {load : GenerationLoad} (h : LoadSound s load)
    (hlater : Later s s') : LoadSound s' load :=
  ⟨h.generation, h.mutations.trans hlater.mutations⟩

lemma CaptureSound.later {s s' : Sharing} {load : GenerationLoad} {capture : Capture}
    (h : CaptureSound s load capture) (hlater : Later s s') : CaptureSound s' load capture :=
  ⟨h.since, h.mutations.trans hlater.mutations⟩

lemma ResultSound.later {s s' : Sharing} {result : SharedResult} (h : ResultSound start s result)
    (hlater : Later s s') (hfence : s'.shared.fence = s.shared.fence) :
    ResultSound start s' result :=
  ⟨h.key, by rw [hfence]; exact h.fence, h.mutations.trans hlater.mutations,
    getElem?_of_later hlater h.stop⟩

lemma PhaseSound.later {s s' : Sharing} {phase : SharedPhase} (h : PhaseSound start s phase)
    (hlater : Later s s') (hshared : s'.shared = s.shared) : PhaseSound start s' phase := by
  cases phase with
  | locked => trivial
  | sampled sample => exact SampleSound.later h hlater
  | loaded sample load =>
    obtain ⟨hsample, hload, hresults⟩ := h
    refine ⟨hsample.later hlater, hload.later hlater, ?_⟩
    rw [hshared]
    exact hresults
  | capturing sample load capture =>
    obtain ⟨hsample, hload, hcapture⟩ := h
    exact ⟨hsample.later hlater, hload.later hlater, hcapture.later hlater⟩
  | closed sample load capture revision =>
    obtain ⟨hload, hcapture, hrevision, hstop⟩ := h
    exact ⟨hload.later hlater, hcapture.later hlater, hrevision, getElem?_of_later hlater hstop⟩

lemma later_advance (s : Sharing) (session : SessionState) (changed : Bool) :
    Later s (s.advance session changed) := by
  refine ⟨?_, le_rfl⟩
  cases changed with
  | false => exact List.prefix_rfl
  | true => exact List.prefix_append _ _

lemma later_countMutation (s : Sharing) : Later s s.countMutation := ⟨List.prefix_rfl, Nat.le_succ _⟩

lemma later_of_same {s s' : Sharing} (hmoments : s'.moments = s.moments)
    (hmutations : s'.mutations = s.mutations) : Later s s' :=
  ⟨hmoments ▸ List.prefix_rfl, hmutations.ge⟩

/-! ### One step -/

/-- The stop after the last event is the current one. -/
lemma Sound.getElem?_current (h : Sound start s) :
    s.moments[s.moments.length - 1]? = some s.session.stopId := by
  rw [← List.getLast?_eq_getElem?]
  exact h.current

variable {session : SessionState}

/-- An event is applied. -/
lemma Sound.advance (h : Sound start s) {sequence : ℕ} {event : DomainEvent} {changed : Bool}
    (happlied : s.session.applyEvent sequence event = .ok (session, changed)) :
    Sound start (s.advance session changed) := by
  have hlater := s.later_advance session changed
  have hrevision := SessionState.applyEvent_revision happlied
  have hold := h.revision
  have hstep : s.session.Applies (sequence, event) session := ⟨changed, happlied⟩
  refine ⟨h.coherent.applies hstep, ?_, ?_,
    h.generation, fun result hresult => (h.results result hresult).later hlater rfl,
    fun holder hholder => (h.holder holder hholder).later hlater rfl, h.hits⟩
  · cases changed with
    | false =>
      simp only [Sharing.advance, Bool.false_eq_true, if_false] at hrevision ⊢
      omega
    | true =>
      simp only [Sharing.advance, if_true, List.length_append, List.length_singleton]
        at hrevision ⊢
      omega
  · cases changed with
    | false =>
      have hstop := SessionState.applyEvent_stop h.coherent happlied
      simp only [Sharing.advance, Bool.false_eq_true, if_false, hstop]
      exact h.current
    | true => simp [Sharing.advance]

/-- A mutation is admitted. -/
lemma Sound.countMutation (h : Sound start s) : Sound start s.countMutation := by
  have hlater := s.later_countMutation
  have hgeneration := h.generation
  refine ⟨h.coherent, h.revision, h.current, ?_,
    fun result hresult => (h.results result hresult).later hlater rfl,
    fun holder hholder => (h.holder holder hholder).later hlater rfl, h.hits⟩
  simp only [Sharing.countMutation, hgeneration]
  exact fetchAdd_generationAfter _

/-- The guards and the queue do not matter. -/
lemma Sound.guarded (h : Sound start s) (guard : TargetGuard) (waiting : List SharedReader) :
    Sound start { s with guard := guard, waiting := waiting } := by
  have hlater : Later s { s with guard := guard, waiting := waiting } := later_of_same rfl rfl
  exact ⟨h.coherent, h.revision, h.current, h.generation,
    fun result hresult => (h.results result hresult).later hlater rfl,
    fun holder hholder => (h.holder holder hholder).later hlater rfl, h.hits⟩

/-- The mutex passes to a read in a phase that is sound. -/
lemma Sound.hold (h : Sound start s) (holder : Holder) (hphase : PhaseSound start s holder.phase) :
    Sound start { s with holder := some holder } := by
  have hlater : Later s { s with holder := some holder } := later_of_same rfl rfl
  refine ⟨h.coherent, h.revision, h.current, h.generation,
    fun result hresult => (h.results result hresult).later hlater rfl, ?_, h.hits⟩
  rintro _ ⟨⟩
  exact hphase.later hlater rfl

/-- Without a read that has the mutex there is nothing to say about it. -/
lemma phaseSound_of_none (h : s.holder = none) (holder : Holder) (hholder : s.holder = some holder) :
    PhaseSound start s holder.phase := by
  rw [h] at hholder
  cases hholder

/-- The read that has the mutex returns. -/
lemma Sound.release (h : Sound start s) : Sound start s.release := by
  have hlater : Later s s.release := later_of_same rfl rfl
  exact ⟨h.coherent, h.revision, h.current, h.generation,
    fun result hresult => (h.results result hresult).later hlater rfl,
    phaseSound_of_none rfl, h.hits⟩

variable {reader : SharedReader}

/-- The generation is loaded: the cache keeps its results only behind this fence. -/
lemma Sound.load (h : Sound start s) (hholder : s.holder = some ⟨reader, .sampled sample⟩) :
    Sound start ({ s with shared :=
        if s.shared.fence ≠ some (sample.revision, s.generation) then {} else s.shared }.proceed
      ⟨reader, .sampled sample⟩ (.loaded sample ⟨s.generation, s.mutations⟩)) := by
  have hsample : SampleSound start s sample := h.holder _ hholder
  have hload : LoadSound s ⟨s.generation, s.mutations⟩ := ⟨h.generation, le_rfl⟩
  by_cases hfence : s.shared.fence = some (sample.revision, s.generation)
  · rw [if_neg (not_not.mpr hfence)]
    refine h.hold ⟨reader, _⟩ ⟨hsample, hload, ?_⟩
    intro result hresult
    exact ⟨(h.results result hresult).mutations, hfence⟩
  · rw [if_pos hfence]
    have hlater : Later s { s with shared := {} } := later_of_same rfl rfl
    have hempty : Sound start { s with shared := {}, holder := none } :=
      ⟨h.coherent, h.revision, h.current, h.generation, fun _ hnone => absurd hnone List.not_mem_nil,
        phaseSound_of_none rfl, h.hits⟩
    have hlater' : Later s { s with shared := {}, holder := none } := later_of_same rfl rfl
    refine hempty.hold ⟨reader, _⟩
      ⟨hsample.later hlater', hload.later hlater', ?_⟩
    intro result hresult
    exact absurd hresult List.not_mem_nil

/-- A lookup finds a result: the fence makes it fresh. -/
lemma Sound.fresh (h : Sound start s) (hbound : s.mutations < 2 ^ 64) {load : GenerationLoad}
    {result : SharedResult} (hholder : s.holder = some ⟨reader, .loaded sample load⟩)
    (hfound : s.shared.results.lookup (sharedKey reader.request) = some result) :
    Hit.Fresh ⟨reader.request, sample, load, result, s.session.stopId, s.moments.length,
      s.mutations⟩ := by
  obtain ⟨hrow, hkey⟩ := Table.lookup_eq_some hfound
  obtain ⟨hsample, hload, hresults⟩ := h.holder _ hholder
  obtain ⟨hcaptured, hfence⟩ := hresults result hrow
  have hresult := h.results result hrow
  obtain ⟨revision, generation, hfence', hrevision, m, hm, hgeneration⟩ := hresult.fence
  rw [hfence] at hfence'
  obtain ⟨rfl, rfl⟩ := Prod.mk.inj (Option.some.inj hfence')
  obtain ⟨hmethod, hparameters⟩ := sharedKey_inj (hresult.key.symm.trans hkey)
  -- the revisions agree, so sample and capture are at the same event
  have hevents : sample.moment = result.capture.moment + result.capture.own := by
    have hsampled := hsample.revision
    omega
  -- the generations agree, and the counter has not come around
  have hmutations : load.mutations = result.capture.mutations := by
    have hloaded := hload.generation
    have hlast := hload.mutations
    rw [generationAfter_of_lt (by omega)] at hloaded hgeneration
    omega
  refine ⟨hmethod, hparameters, ?_, hevents, hmutations, ?_⟩
  · have hstop := hsample.stop
    rw [hevents, hresult.stop] at hstop
    exact Option.some.inj hstop
  · intro hmoment
    have hcurrent := h.getElem?_current
    rw [show s.moments.length = sample.moment from hmoment, hsample.stop] at hcurrent
    exact (Option.some.inj hcurrent).symm

/-- A captured result is stored behind its own fence. -/
lemma Sound.store (h : Sound start s) {load : GenerationLoad} {capture : Capture} {revision : ℕ}
    (facts : Json) (hholder : s.holder = some ⟨reader, .closed sample load capture revision⟩) :
    Sound start { s.release with
      shared := s.shared.store maximum (revision, load.generation)
        (result reader.request sample capture facts) } := by
  obtain ⟨hload, hcapture, hrevision, hstop⟩ := h.holder _ hholder
  refine ⟨h.coherent, h.revision, h.current, h.generation, ?_, phaseSound_of_none rfl, h.hits⟩
  set stored := s.shared.store maximum (revision, load.generation)
    (result reader.request sample capture facts) with hstored
  have hlater : Later s { s.release with shared := stored } := later_of_same rfl rfl
  rcases store_eq s.shared maximum (revision, load.generation)
    (result reader.request sample capture facts) with ⟨heq, _⟩ | ⟨kept, _, hkept, heq⟩
  · intro cached hcached
    rw [← hstored] at heq
    rw [heq] at hcached
    exact (h.results cached hcached).later hlater (by rw [heq])
  · rw [← hstored] at heq
    have hfence : stored.fence = some (revision, load.generation) := by rw [heq]
    have hnew : ∀ key, key = sharedKey reader.request → ResultSound start
        { s.release with shared := stored }
        { result reader.request sample capture facts with key := key } := by
      rintro _ rfl
      exact ⟨rfl, ⟨_, _, hfence, hrevision, load.mutations, hcapture.since,
        hload.generation.symm⟩, hcapture.mutations, hstop⟩
    intro cached hcached
    simp only [heq] at hcached
    rcases Table.mem_upsert hcached with ⟨rfl, _⟩ | ⟨old, hold, hkey, rfl⟩ | ⟨hold, _⟩
    · exact hnew _ rfl
    · exact hnew _ hkey
    · rcases hkept with rfl | ⟨rfl, hsame, _⟩
      · exact absurd hold List.not_mem_nil
      · exact (h.results cached hold).later hlater (hfence.trans hsame.symm)

/-! ### Runs -/

/-- No event but the capture's own commits is applied between its last read and the sample that
closes it, and the admissions have not exhausted the generation. -/
def undisturbed (s : Sharing) : SharingAct → Bool
  | .close =>
    match s.holder with
    | some ⟨_, .capturing _ _ capture⟩ => s.moments.length = capture.moment + capture.own
    | _ => true
  | .look => s.mutations < 2 ^ 64
  | _ => true

/-- One undisturbed step. -/
lemma Sound.step {s s' : Sharing} (h : Sound start s) (hundisturbed : s.undisturbed act = true)
    (hstep : SharingStep maximum s act s') : Sound start s' := by
  cases hstep with
  | event sequence event session changed happlied => exact h.advance happlied
  | guarded act guard waiting => exact h.guarded guard waiting
  | admitted act guard => exact h.countMutation.guarded guard _
  | locked i reader waiting => exact (h.guarded s.guard waiting).hold _ trivial
  | released act => exact h.release
  | sampled reader => exact h.hold _ ⟨h.revision, h.getElem?_current⟩
  | loaded reader sample hholder => exact h.load hholder
  | hit reader sample load result hholder hfound =>
    have hlater : Later s { s.release with
        hits := s.hits ++
          [⟨reader.request, sample, load, result, s.session.stopId, s.moments.length,
            s.mutations⟩] } :=
      later_of_same rfl rfl
    refine ⟨h.coherent, h.revision, h.current, h.generation,
      fun cached hcached => (h.results cached hcached).later hlater rfl, phaseSound_of_none rfl, ?_⟩
    intro hit hmem
    rcases List.mem_append.mp hmem with hold | hnew
    · exact h.hits hit hold
    · rw [List.mem_singleton.mp hnew]
      exact h.fresh (of_decide_eq_true hundisturbed) hholder hfound
  | missed reader sample load hholder hnone =>
    obtain ⟨hsample, hload, _⟩ := h.holder _ hholder
    exact h.hold _ ⟨hsample, hload, hload.mutations, le_rfl⟩
  | read reader sample load capture hholder =>
    obtain ⟨hsample, hload, _⟩ := h.holder _ hholder
    exact h.hold _ ⟨hsample, hload, hload.mutations, le_rfl⟩
  | committed reader sample load capture sequence event session changed hholder happlied =>
    obtain ⟨hsample, hload, hcapture⟩ := h.holder _ hholder
    have hlater := s.later_advance session changed
    exact (h.advance happlied).hold _
      ⟨hsample.later hlater, hload.later hlater, hcapture.since, hcapture.mutations⟩
  | closed reader sample load capture hholder hstop =>
    obtain ⟨hsample, hload, hcapture⟩ := h.holder _ hholder
    have hmoment : s.moments.length = capture.moment + capture.own := by
      simpa only [undisturbed, hholder, decide_eq_true_eq] using hundisturbed
    have hcurrent := h.getElem?_current
    rw [hmoment, hstop] at hcurrent
    exact h.hold _ ⟨hload, hcapture, hmoment ▸ h.revision, hcurrent⟩
  | stored reader sample load capture revision facts complete hholder =>
    exact h.store facts hholder

/-- The step relation of an entry. -/
def Takes (maximum : ℕ) (s : Sharing) (act : SharingAct) (s' : Sharing) : Prop :=
  s.perform maximum act = some s'

/-- A step that is taken undisturbed. -/
def TakesUndisturbed (maximum : ℕ) (s : Sharing) (act : SharingAct) (s' : Sharing) : Prop :=
  s.perform maximum act = some s' ∧ s.undisturbed act = true

lemma bounded_run {acts : List SharingAct} (hmaximum : maximum < 2 ^ 64 - 1)
    (hrun : Runs.Run (Takes maximum) (.start session) acts s) : Bounded maximum s.shared := by
  have hstart : Bounded maximum (Sharing.start session).shared ∧ Missed (.start session) :=
    ⟨bounded_default maximum, .of_none rfl⟩
  exact (hrun.invariant hstart fun s act s' h hstep =>
    bounded_step hmaximum h (sharingStep_perform hstep)).1

lemma sound_run {acts : List SharingAct} (hsession : session.Reachable)
    (hrun : Runs.Run (TakesUndisturbed maximum) (.start session) acts s) : Sound session s :=
  hrun.invariant (sound_start hsession.coherent) fun _ _ _ h hstep =>
    h.step hstep.2 (sharingStep_perform hstep.1)

end Sharing

open Runs Sharing

/-- In every run the cache has at most 16 results, and its bytes are theirs and within the limit.
In every run in which no event but the capture's own commits is applied between the last read of
a capture and the sample that closes it, and with fewer than `2 ^ 64` admissions, every result
from the cache is fresh at the samples of the read, and at its lookup if nothing came between. -/
theorem shared_reads_fresh (maximum : ℕ) (hmaximum : maximum < 2 ^ 64 - 1)
    (session : SessionState) (hsession : session.Reachable) :
    (∀ acts s, Run (Takes maximum) (.start session) acts s →
      s.shared.results.rows.length ≤ 16 ∧
      s.shared.bytes = (s.shared.results.rows.map SharedResult.bytes).sum ∧
      s.shared.bytes ≤ maximum) ∧
    (∀ acts s, Run (TakesUndisturbed maximum) (.start session) acts s → ∀ hit ∈ s.hits,
      Hit.Fresh hit ∧
      (hit.moment = hit.sample.moment → hit.mutations = hit.load.mutations →
        hit.moment = hit.result.capture.moment + hit.result.capture.own ∧
        hit.mutations = hit.result.capture.mutations ∧ hit.result.stopId = hit.stopId)) := by
  refine ⟨?_, ?_⟩
  · intro acts s hrun
    have hbounded := bounded_run hmaximum hrun
    exact ⟨hbounded.count, hbounded.sum, hbounded.bytes⟩
  · intro acts s hrun hit hhit
    have hfresh := (sound_run hsession hrun).hits hit hhit
    refine ⟨hfresh, fun hmoment hmutations => ⟨?_, ?_, ?_⟩⟩
    · rw [hmoment, hfresh.events]
    · rw [hmutations, hfresh.mutations]
    · rw [hfresh.current hmoment, hfresh.stop]

/-- A read of the registers of the top frame. -/
def registersRequest : ApiRequest where
  requestId := "r"
  sessionId := some "sess_x"
  method := .registerRead
  parameters := .object []

/-- A read takes the mutex, finds nothing and reads the target. -/
def captureActs : List SharingAct :=
  [.arrive registersRequest false, .lock 0, .sample, .load, .look, .read]

/-- The capture closes and is stored, and the next read takes its result. -/
def reuseActs : List SharingAct :=
  [.close, .finish (.object [("rip", .string "0x401000")]) true,
   .arrive registersRequest false, .lock 0, .sample, .load, .look]

lemma reachable_stoppedSession : SessionState.stoppedSession.Reachable :=
  ⟨⟨"sess_x"⟩, [(1, .targetStopped (some "i1") (some "1") "breakpoint-hit" none none)],
    .cons SessionState.applies_stoppedSession (.nil _)⟩

/-- Memory changes after the last read of a capture and before its closing sample: the next read
takes the result from the cache, one event after it was read. -/
theorem event_before_close_hidden :
    ∃ s, Run (Takes 4096) (.start SessionState.stoppedSession)
        (captureActs ++ .event 2 .memoryChanged :: reuseActs) s ∧
      ∃ hit ∈ s.hits, hit.result.capture.moment + hit.result.capture.own < hit.sample.moment := by
  have hany : ((captureActs ++ .event 2 .memoryChanged :: reuseActs).foldlM (perform 4096)
      (.start SessionState.stoppedSession)).any (fun s => s.hits.any fun hit =>
        decide (hit.result.capture.moment + hit.result.capture.own < hit.sample.moment)) = true := by
    decide +kernel
  obtain ⟨s, hs, hhits⟩ := (Option.any_eq_true _ _).mp hany
  obtain ⟨hit, hhit, hlate⟩ := List.any_eq_true.mp hhits
  exact ⟨s, Run.of_foldlM hs, hit, hhit, of_decide_eq_true hlate⟩

/-- A step, if it can be taken undisturbed. -/
def performUndisturbed (maximum : ℕ) (s : Sharing) (act : SharingAct) : Option Sharing :=
  if s.undisturbed act then s.perform maximum act else none

/-- A fold over undisturbed steps is an undisturbed run. -/
lemma run_of_performUndisturbed {maximum : ℕ} {s s' : Sharing} {acts : List SharingAct}
    (h : acts.foldlM (performUndisturbed maximum) s = some s') :
    Run (TakesUndisturbed maximum) s acts s' := by
  refine (Run.of_foldlM h).mono fun s act s' hstep => ?_
  simp only [performUndisturbed] at hstep
  split at hstep
  · exact ⟨hstep, ‹_›⟩
  · cases hstep

/-- The capture commits its own observation, which leaves an evidence gap; the next read takes the
result, and it is fresh. -/
theorem committed_read_fresh :
    ∃ s, Run (TakesUndisturbed 4096) (.start SessionState.stoppedSession)
        (captureActs ++ .commit 2 (.evidenceGap "snapshot") :: reuseActs) s ∧
      ∃ hit ∈ s.hits, Hit.Fresh hit := by
  have hany : ((captureActs ++ .commit 2 (.evidenceGap "snapshot") :: reuseActs).foldlM
      (performUndisturbed 4096) (.start SessionState.stoppedSession)).any
        (fun s => !s.hits.isEmpty) = true := by
    decide +kernel
  obtain ⟨s, hs, hhits⟩ := (Option.any_eq_true _ _).mp hany
  have hrun := run_of_performUndisturbed hs
  obtain ⟨hit, hhit⟩ := List.exists_mem_of_ne_nil s.hits (by simpa using hhits)
  exact ⟨s, hrun, hit, hhit, ((shared_reads_fresh 4096 (by decide) SessionState.stoppedSession
    reachable_stoppedSession).2 _ s hrun hit hhit).1⟩

end GdbAi
