import GdbAi.Gateway.MemoryReads

/-!
# What every route preserves

An invariant of the steps of a request holds behind the whole request once it holds behind the
steps that matter to it: the reads of memory and the classifications.  The views, plans and probes
in which these stand are gone through here, for an arbitrary invariant (`Kept`), and so are all
requests for one that every step keeps (`Closed`).
-/

namespace GdbAi

open Procedure

/-- A property of every entry of a list and the entries before it holds of a longer list if it
holds of the last entry. -/
lemma forall_split_append {α : Type} {Q : List α → α → Prop} {l : List α} {a : α}
    (h : ∀ before b after, l = before ++ b :: after → Q before b) (ha : Q l a) :
    ∀ before b after, l ++ [a] = before ++ b :: after → Q before b := by
  intro before b after heq
  rcases List.eq_nil_or_concat after with rfl | ⟨after, last, rfl⟩
  · obtain ⟨rfl, hlast⟩ := List.append_inj' heq rfl
    rwa [List.singleton_inj.mp hlast] at ha
  · have hsplit : l ++ [a] = (before ++ b :: after) ++ [last] := by simpa using heq
    exact h before b after (List.append_inj' hsplit rfl).1

namespace Access

variable {host : MemoryHost} {I P : List MemoryAccess → Prop} {parameters : Json}

/-! ### Steps that neither read nor classify -/

/-- Steps that neither read a range of the request nor classify one keep `I`. -/
structure Steady (I : List MemoryAccess → Prop) : Prop where
  evaluated : ∀ trace expression, I trace → I (trace ++ [.evaluated expression])
  image : ∀ trace start length, I trace → I (trace ++ [.readImage start length])
  other : ∀ trace, I trace → I (trace ++ [.other])

/-- Two such properties together. -/
lemma Steady.and {J : List MemoryAccess → Prop} (hI : Steady I) (hJ : Steady J) :
    Steady fun trace => I trace ∧ J trace where
  evaluated trace expression h := ⟨hI.evaluated trace expression h.1, hJ.evaluated trace _ h.2⟩
  image trace start length h := ⟨hI.image trace start length h.1, hJ.image trace start length h.2⟩
  other trace h := ⟨hI.other trace h.1, hJ.other trace h.2⟩

/-- Such a property under a condition. -/
lemma Steady.imp (hI : Steady I) (p : Prop) : Steady fun trace => p → I trace where
  evaluated trace expression h hp := hI.evaluated trace expression (h hp)
  image trace start length h hp := hI.image trace start length (h hp)
  other trace h hp := hI.other trace (h hp)

/-- A step that keeps `I` may be recorded. -/
lemma record_preserves {entry : MemoryAccess} (h : ∀ trace, I trace → I (trace ++ [entry])) :
    Preserves P host I (record entry) :=
  preserves_update h

/-- A step that reads no memory. -/
lemma step_preserves (hI : Steady I) : Preserves P host I step :=
  (record_preserves hI.other).bind fun _ => .reading fun _ => preserves_ofExcept _

/-- The check for a stop records nothing. -/
lemma stoppedState_preserves : Preserves P host I (stoppedState parameters) :=
  .reading fun _ => .taking fun _ => preserves_pure _

/-- Neither does the resolution of a context. -/
lemma resolveContext_preserves : Preserves P host I (resolveContext parameters) :=
  .reading fun _ => .taking fun _ => preserves_pure _

/-- An attribution keeps what the read before it keeps. -/
lemma attributed_meets (hI : Steady I) {m : Access Unit} {trace : List MemoryAccess}
    (hm : Meets P host m (fun _ => I) (fun _ => I) trace) (parameters : Json) :
    Meets P host (attributed m parameters) (fun _ => I) (fun _ => I) trace :=
  hm.seq (fun _ s₁ h₁ => (step_preserves hI s₁ h₁).seq
    (fun _ s₂ h₂ => resolveContext_preserves s₂ h₂))

/-- The evaluation of an address. -/
lemma evaluateAddress_preserves (hI : Steady I) (expression missing : String) :
    Preserves P host I (evaluateAddress expression missing) := by
  refine (record_preserves fun trace => hI.evaluated trace expression).bind fun _ =>
    .reading fun _ => .taking fun value => ?_
  cases value with
  | none => exact preserves_fail _
  | some value => exact preserves_ofExcept _

/-- A tolerated failure. -/
lemma tolerate_preserves {m : Access Unit} (hm : Preserves P host I m) :
    Preserves P host I (tolerate m) := by
  refine hm.attempt.bind fun result => ?_
  cases result with
  | ok => exact preserves_pure _
  | error error =>
    simp only
    split
    · exact preserves_pure _
    · exact preserves_fail _

/-- A loop keeps what its body keeps. -/
lemma forEach_preserves {α : Type} {f : α → Access Unit} (hf : ∀ a, Preserves P host I (f a))
    (as : List α) : Preserves P host I (forEach as f) :=
  fun _ hs => meets_forEach (fun a s hs => hf a s hs) as hs

/-- The version of a kernel is read off its image. -/
lemma kernelInspect_preserves (hI : Steady I) : Preserves P host I (kernelInspect parameters) := by
  refine (step_preserves hI).bind fun _ => stoppedState_preserves.bind fun _ =>
    (step_preserves hI).bind fun _ => .reading fun banners =>
      Preserves.bind (forEach_preserves ?_ banners) fun _ => step_preserves hI
  rintro ⟨start, length⟩
  exact (record_preserves fun trace => hI.image trace start length).bind fun _ =>
    .reading fun _ => preserves_ofExcept _

/-! ### Plans -/

/-- The observations of memory in a plan keep `I`. -/
structure Kept (P : List MemoryAccess → Prop) (host : MemoryHost)
    (I : List MemoryAccess → Prop) : Prop where
  steady : Steady I
  memory : ∀ parameters, Preserves P host I (observationMemoryRead parameters)
  definition : ∀ definition, Preserves P host I (captureDefinition definition)

namespace Kept

variable (hkept : Kept P host I)
include hkept

/-- Their steps. -/
lemma step : Preserves P host I step := step_preserves hkept.steady

/-- The tracked definitions. -/
lemma captureTracking : Preserves P host I captureTracking :=
  hkept.step.bind fun _ => .reading fun definitions =>
    (forEach_preserves hkept.definition definitions).bind fun _ => hkept.step

section Captured

variable {inspect : Json → Access Unit}
  (hinspect : ∀ parameters, Preserves P host I (inspect parameters))
include hinspect

/-- One observation of a plan. -/
lemma executeObservation (request : ObservationRequest) :
    Preserves P host I (executeObservation inspect request) := by
  unfold Access.executeObservation
  cases request.kind with
  | inspection => exact hinspect _
  | memory =>
    exact hkept.step.bind fun _ => resolveContext_preserves.bind fun _ => hkept.memory _
  | evaluate | disassembly | diff => exact hkept.step

/-- The loop over a plan. -/
lemma captureRequests (requests : List ObservationRequest) (cache : List String) :
    Preserves P host I (captureRequests inspect requests cache) := by
  induction requests generalizing cache with
  | nil => exact hkept.step
  | cons request requests ih =>
    refine hkept.step.bind fun _ => ?_
    split
    · exact ih cache
    · exact (tolerate_preserves (hkept.executeObservation hinspect request)).bind fun _ => ih _

/-- A plan that is captured at a stop. -/
lemma captureObservations (parent : Json) (baseline : SessionState) (items : Json) :
    Preserves P host I (captureObservations inspect parent baseline items) := by
  unfold Access.captureObservations
  cases baseline.stopId with
  | none => exact preserves_fail _
  | some stopId =>
    exact .reading fun _ => .taking fun requests =>
      hkept.step.bind fun _ => (hkept.captureRequests hinspect requests []).bind fun _ => hkept.step

/-- The plan of a snapshot. -/
lemma inspectionSnapshot (parameters : Json) :
    Preserves P host I (inspectionSnapshot inspect parameters) := by
  refine hkept.step.bind fun _ => stoppedState_preserves.bind fun state =>
    .reading fun _ => .taking fun _ =>
      .taking fun _ => hkept.step.bind fun _ =>
        (hkept.captureObservations hinspect _ state _).attempt.bind fun built => ?_
  cases built with
  | ok => exact hkept.step
  | error error => exact hkept.step.bind fun _ => preserves_fail error

/-- The plan of a batch. -/
lemma inspectionBatch (parameters : Json) :
    Preserves P host I (inspectionBatch inspect parameters) := by
  refine hkept.step.bind fun _ => stoppedState_preserves.bind fun baseline => ?_
  cases parameters.get "requests" with
  | none => exact preserves_fail _
  | some requests => exact hkept.captureObservations hinspect _ _ _

/-- The plan for the stop that a turn has led to. -/
lemma appendStopObservations (parameters : Json) :
    Preserves P host I (appendStopObservations inspect parameters) := by
  unfold Access.appendStopObservations
  cases parameters.get "inspect" with
  | none => exact preserves_pure ()
  | some requests =>
    refine .reading fun state => ?_
    split
    · exact (hkept.step.bind fun _ =>
        hkept.captureObservations hinspect _ _ _).attempt.bind fun _ => preserves_pure _
    · exact preserves_pure _

end Captured

/-- A view. -/
lemma inspectionView {crash : Access Unit} (hcrash : Preserves P host I crash) (parameters : Json)
    (view : String) : Preserves P host I (inspectionView crash parameters view) := by
  unfold Access.inspectionView
  split_ifs
  · exact hcrash
  · exact hkept.memory parameters
  · exact stoppedState_preserves.bind fun _ => hkept.step.bind fun _ =>
      hkept.captureTracking
  · exact hkept.step

/-- Views of any depth. -/
lemma inspectionResult (depth : ℕ) (parameters : Json) :
    Preserves P host I (inspectionResult depth parameters) := by
  induction depth generalizing parameters with
  | zero =>
    exact .taking fun view => hkept.inspectionView hkept.step parameters view
  | succ depth ih =>
    exact .taking fun view =>
      hkept.inspectionView (hkept.inspectionSnapshot ih parameters) parameters view

end Kept

/-! ### Probes -/

/-- What a probe checks before its first capture. -/
structure Probes (limits : MemoryLimits) (parameters : Json) (budget : ProbeBudget) : Prop where
  inspect : validateInspect parameters limits.maximum = .ok ()
  budget_eq : probeBudget parameters limits = .ok budget
  policy : probeStopPolicy parameters ∈ stopPolicies
  values : (captureItems parameters).length ≤ budget.maxValues

/-- The captures of a hit keep `I`, and the calls that they make are counted. -/
def Captures (P : List MemoryAccess → Prop) (host : MemoryHost) (I : List MemoryAccess → Prop)
    (budget : ProbeBudget) (items : List Json) (calls : ℕ) : Prop :=
  ∀ trace, I trace → Meets P host (captureProbeItems budget items calls)
    (fun calls' s => I s ∧ calls ≤ calls') (fun _ => I) trace

section Probes

variable (hkept : Kept P host I)
  (hcapture : ∀ budget, Probes host.toMemoryLimits parameters budget → ∀ calls, 1 ≤ calls →
    Captures P host I budget (captureItems parameters) calls)
include hkept hcapture

/-- The hits of a probe, one after the other. -/
lemma probeHits_preserves {budget : ProbeBudget}
    (hprobe : (captureItems parameters).length ≤ budget.maxValues →
      Probes host.toMemoryLimits parameters budget) (onCondition : Bool) (hits : ℕ) {calls : ℕ}
    (hcalls : 1 ≤ calls) :
    Preserves P host I (probeHits parameters budget onCondition hits calls) := by
  induction hits generalizing calls with
  | zero => exact preserves_pure _
  | succ hits ih =>
    refine .reading fun baseline => ?_
    simp only
    split
    · exact preserves_fail _
    · refine hkept.step.bind fun _ trace h => ?_
      refine Meets.seq (V := fun calls' s => I s ∧ 1 ≤ calls') (E := fun _ => I) ?_
        (fun calls' s hs => ?_)
      · unfold captureProbeObservation
        simp only
        split
        · exact meets_fail h
        · rename_i hvalues
          refine (hcapture budget (hprobe (not_lt.mp hvalues)) _ ?_ trace h).mono
            (fun calls' s hs => ⟨hs.1, hs.2.trans' ?_⟩) fun _ _ he => he
          all_goals split <;> omega
      · split
        · exact meets_pure hs.1
        · exact ih hs.2 s hs.1

/-- A probe, from its checks to the plan for its last stop. -/
lemma agentProbe_preserves : Preserves P host I (agentProbe parameters) := by
  have happend : ∀ parameters, Preserves P host I
      (appendStopObservations (inspectionResult 2) parameters) :=
    hkept.appendStopObservations (hkept.inspectionResult 2)
  intro trace h
  refine meets_reads_bind (meets_ofExcept_bind (fun _ hinspect => ?_) fun _ _ => h)
  refine (hkept.step trace h).seq fun _ s₁ h₁ => ?_
  refine meets_ofExcept_bind (fun budget hbudget => ?_) fun _ _ => h₁
  refine meets_ofExcept_bind (fun _ hpolicy => ?_) fun _ _ => h₁
  have hprobe : (captureItems parameters).length ≤ budget.maxValues →
      Probes host.toMemoryLimits parameters budget :=
    fun hvalues => ⟨hinspect, hbudget, by simpa [ensure] using hpolicy, hvalues⟩
  refine (hkept.step s₁ h₁).seq fun _ s₂ h₂ => ?_
  have hhits := (probeHits_preserves hkept hcapture hprobe
    (decide (probeStopPolicy parameters = "on_condition")) (max 1 (min 100
      (((parameters.get "max_hits").bind Json.asUnsigned).getD 1))) le_rfl).bind fun _ =>
    (happend parameters).onlyIf (decide (probeStopPolicy parameters ≠ "continue_to_stop"))
  refine (hhits.attempt.bind fun outcome => hkept.step.bind fun _ =>
    .taking fun _ => Preserves.bind (Preserves.onlyIf _ ?_) fun _ =>
      hkept.step) s₂ h₂
  exact hkept.step.bind fun _ => happend _

end Probes

/-! ### Properties that every step keeps -/

/-- The effect that the host gives a range. -/
def classification (host : MemoryHost) (trace : List MemoryAccess) (start length : ℕ) :
    MemoryRangeEffect :=
  rangeEffect (host.state trace).targetOrigin
    (((host.state trace).inferiors.toList.map Prod.snd).findSome? InferiorState.pid)
    (host.maps trace) start length

/-- Whatever a request does next keeps `I`. -/
structure Closed (host : MemoryHost) (I : List MemoryAccess → Prop) : Prop extends Steady I where
  read : ∀ trace start length, I trace → I (trace ++ [.read start length])
  classified : ∀ trace start length, I trace →
    I (trace ++ [.classified start length (classification host trace start length)])

namespace Closed

variable (hI : Closed host I)
include hI

/-- A classification. -/
lemma classifyMemoryRange (field : String) :
    Preserves P host I (classifyMemoryRange parameters field) := fun trace h =>
  meets_ofExcept_bind (fun range _ => meets_reads_bind (meets_reads_bind (meets_update_bind
    (meets_pure (hI.classified trace range.1 range.2 h))))) fun _ _ => h

/-- A classification and what it entails. -/
lemma authorizeObservationMemory : Preserves P host I (authorizeObservationMemory parameters) :=
  (hI.classifyMemoryRange _).bind fun _ => .reading fun _ =>
    Preserves.onlyIf _ (preserves_ofExcept _)

/-- A read. -/
lemma readMemoryBytes (start length : ℕ) : Preserves P host I (readMemoryBytes start length) :=
  .taking fun _ =>
    Preserves.bind (record_preserves fun trace => hI.read trace start length) fun _ =>
      .reading fun _ => preserves_ofExcept _

/-- A step that reads no memory. -/
lemma step : Preserves P host I step := step_preserves hI.toSteady

/-- `memory_read`. -/
lemma memoryRead : Preserves P host I (memoryRead parameters) := by
  refine .taking fun _ => hI.step.bind fun _ =>
    stoppedState_preserves.bind fun _ => .taking fun length =>
      .reading fun _ => .taking fun _ =>
        hI.step.bind fun _ => ?_
  have hread : ∀ address, Preserves P host I (do
      Access.readMemoryBytes address length
      Access.step) :=
    fun address => (hI.readMemoryBytes address length).bind fun _ => hI.step
  cases (parameters.get "address_expression").bind Json.asStr with
  | some expression =>
    exact .taking fun _ => .taking fun _ =>
      (evaluateAddress_preserves hI.toSteady _ _).bind hread
  | none => exact .taking fun _ => (preserves_ofExcept _).bind hread

/-- `memory_compare`. -/
lemma memoryCompare : Preserves P host I (memoryCompare parameters) :=
  hI.step.bind fun _ => stoppedState_preserves.bind fun _ =>
    .taking fun _ => .taking fun _ =>
      .taking fun _ => .reading fun _ =>
        .taking fun _ => (hI.readMemoryBytes _ _).bind fun _ => hI.step

/-- `memory_write`. -/
lemma memoryWrite : Preserves P host I (memoryWrite parameters) :=
  hI.step.bind fun _ => stoppedState_preserves.bind fun _ =>
    .taking fun _ => .taking fun _ =>
      .reading fun _ => .taking fun _ =>
        .taking fun _ => hI.step.bind fun _ =>
          (hI.readMemoryBytes _ _).bind fun _ => hI.step

/-- An observation of memory. -/
lemma observationMemoryRead (parameters : Json) :
    Preserves P host I (observationMemoryRead parameters) := by
  refine stoppedState_preserves.bind fun _ => hI.step.bind fun _ =>
    Preserves.bind ?_ fun resolved => hI.authorizeObservationMemory.bind
      fun _ => hI.memoryRead
  unfold resolveAddress
  cases (parameters.get "address_expression").bind Json.asStr with
  | none => exact preserves_pure _
  | some expression =>
    exact .taking fun _ =>
      (evaluateAddress_preserves hI.toSteady _ _).bind fun _ => preserves_pure _

/-- A tracked definition. -/
lemma captureDefinition (definition : TrackingDefinition) :
    Preserves P host I (captureDefinition definition) := by
  cases definition with
  | expression _ expression _ =>
    refine (tolerate_preserves ?_).bind fun _ => hI.step
    exact (record_preserves fun trace => hI.evaluated trace expression).bind
      fun _ => .reading fun _ => .taking fun _ =>
        preserves_pure _
  | memory _ expression length _ =>
    refine (tolerate_preserves ?_).bind fun _ => hI.step
    exact (evaluateAddress_preserves hI.toSteady _ _).bind fun _ =>
      hI.authorizeObservationMemory.bind fun _ => hI.readMemoryBytes _ _

/-- The observations of a plan. -/
lemma kept : Kept P host I where
  steady := hI.toSteady
  memory := hI.observationMemoryRead
  definition := hI.captureDefinition

/-- The captures of a hit. -/
lemma captureProbeItems (budget : ProbeBudget) (items : List Json) (calls : ℕ) :
    Captures P host I budget items calls := by
  intro trace h
  induction items generalizing calls trace with
  | nil => exact meets_pure ⟨h, le_rfl⟩
  | cons item items ih =>
    refine Meets.seq (V := fun calls' s => I s ∧ calls ≤ calls') (E := fun _ => I) ?_
      (fun calls' s hs => (ih calls' s hs.1).mono (fun _ _ hs' => ⟨hs'.1, hs.2.trans hs'.2⟩)
        fun _ _ he => he)
    unfold captureProbeItem
    split
    · exact meets_fail h
    split
    · rename_i expression _
      refine meets_ofExcept_bind (fun _ _ => ?_) fun _ _ => h
      refine meets_update_bind (meets_reads_bind ?_)
      have hnext := hI.evaluated trace expression h
      exact meets_ofExcept_bind (fun _ _ => meets_pure ⟨hnext, Nat.le_succ _⟩) fun _ _ => hnext
    · exact (hI.step trace h).seq fun _ s hs => meets_pure ⟨hs, Nat.le_succ _⟩
    · refine meets_ofExcept_bind (fun expression _ => ?_) fun _ _ => h
      refine meets_ofExcept_bind (fun _ _ => ?_) fun _ _ => h
      refine meets_ofExcept_bind (fun length _ => ?_) fun _ _ => h
      split
      · exact meets_fail h
      simp only
      split
      · exact meets_fail h
      refine (evaluateAddress_preserves hI.toSteady _ _ trace h).seq fun address s hs => ?_
      exact (hI.readMemoryBytes address length s hs).seq
        (fun _ s' hs' => meets_pure ⟨hs', by omega⟩)
    · exact meets_fail h

/-- The operation of a request. -/
lemma operation (request : ApiRequest) : Preserves P host I (operation request) := by
  have hkept : Kept P host I := hI.kept
  have hinspect := hkept.inspectionResult 2
  have hprobe : Preserves P host I (agentProbe request.parameters) :=
    agentProbe_preserves hkept fun budget _ calls _ => hI.captureProbeItems budget _ calls
  have happend : Preserves P host I (do
      Access.step
      appendStopObservations (inspectionResult 2) request.parameters) :=
    hkept.step.bind fun _ => hkept.appendStopObservations hinspect _
  unfold Access.operation
  split
  · exact fun trace h => attributed_meets hI.toSteady (hI.memoryRead trace h) _
  · exact fun trace h => attributed_meets hI.toSteady (hI.memoryCompare trace h) _
  · exact hI.memoryWrite
  · exact hinspect _
  · exact hkept.inspectionSnapshot hinspect _
  · exact hkept.inspectionBatch hinspect _
  · exact happend
  · exact happend
  · exact happend
  · exact happend
  · exact hprobe
  · exact hprobe
  · exact kernelInspect_preserves hI.toSteady
  · exact hI.step

/-- The classification when a request is admitted. -/
lemma admittedEffect (request : ApiRequest) : Preserves P host I (admittedEffect request) := by
  refine .reading fun profile => ?_
  simp only
  split
  · exact (hI.classifyMemoryRange _).bind fun _ => preserves_pure _
  · exact preserves_pure _

/-- A whole request. -/
lemma dispatch (request : ApiRequest) (caller : Caller) :
    Preserves P host I (dispatch request caller) := by
  refine .taking fun _ => hI.step.bind fun _ =>
    (hI.admittedEffect request).bind fun _ => .reading fun _ => ?_
  split
  · exact preserves_fail _
  · exact .taking fun _ => hI.step.bind fun _ => hI.operation request

end Closed

end Access

end GdbAi
