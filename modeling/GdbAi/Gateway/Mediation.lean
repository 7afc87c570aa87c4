import GdbAi.Gateway.ObservationPlans
import GdbAi.Gateway.Routes

/-!
# Every explicit read is classified first

A session whose profile does not permit volatile reads reads a range only after
`classify_memory_range` has called exactly this range ordinary, within the same request.  Top-level
reads are classified when they are admitted, observations once their address is known.  The
captures of a probe are the exception: they read the memory an expression leads to at each hit
without a classification.  `reads_mediated_iff` says for which requests that can happen.
-/

namespace GdbAi

open Procedure

/-- Every range that was read had been classified before, start and length alike, as ordinary. -/
def Mediated (trace : List MemoryAccess) : Prop :=
  ∀ before after start length, trace = before ++ .read start length :: after →
    .classified start length .ordinary ∈ before

namespace Mediated

variable {trace : List MemoryAccess}

/-- Nothing is read in an empty trace. -/
lemma nil : Mediated [] := by
  intro before after start length h
  simp at h

/-- A step may follow unless it reads a range that has not been classified as ordinary. -/
lemma append (h : Mediated trace) {step : MemoryAccess}
    (hstep : ∀ start length, step = .read start length →
      .classified start length .ordinary ∈ trace) : Mediated (trace ++ [step]) := by
  have hall := forall_split_append
    (Q := fun before step => ∀ start length, step = .read start length →
      .classified start length .ordinary ∈ before)
    (fun before step after heq start length hread => h before after start length (hread ▸ heq)) hstep
  exact fun before after start length heq => hall before _ after heq start length rfl

/-- What was mediated before the last step. -/
lemma of_append {step : MemoryAccess} (h : Mediated (trace ++ [step])) : Mediated trace := by
  intro before after start length heq
  exact h before (after ++ [step]) start length (by rw [heq, List.append_assoc]; rfl)

end Mediated

/-! ### Probes that capture memory -/

namespace Access

/-- An item of a capture that lets the next one follow: a valid expression, or a stack. -/
def Passes (item : Json) : Prop :=
  (∃ expression, (item.get "expression").bind Json.asStr = some expression ∧
      validateExpression expression = .ok ()) ∨
    (item.get "expression").bind Json.asStr = none ∧ (item.get "stack").isSome

/-- The item captures memory. -/
def CapturesMemory (item memory : Json) : Prop :=
  (item.get "expression").bind Json.asStr = none ∧ item.get "stack" = none ∧
    item.get "memory" = some memory

/-- The capture is well formed and, behind that many calls, within the budget: one call evaluates
the expression and one reads each chunk of 64 KiB. -/
def Fits (budget : ProbeBudget) (memory : Json) (calls : ℕ) : Prop :=
  ∃ expression length, requiredString memory "address_expression" = .ok expression ∧
    validateExpression expression = .ok () ∧ requiredUnsigned memory "length" = .ok length ∧
    0 < length ∧ length ≤ budget.maxMemoryBytes ∧
    calls + (1 + (length + (64 * 1024 - 1)) / (64 * 1024)) ≤ budget.maxCalls

end Access

/-- The request is a probe that is admitted and valid, and the first memory among its captures is
well formed and within the budget when the target has stopped there without a resume. -/
def ApiRequest.ProbesMemory (request : ApiRequest) (limits : MemoryLimits) : Prop :=
  (request.method = .agentProbe ∨ request.method = .agentExperiment) ∧
    limits.profile = .debugControl ∧ request.parameters.get "input" = none ∧
    request.method.validateParameters request.parameters = .ok () ∧
    ∃ budget before item after memory, Access.Probes limits request.parameters budget ∧
      Access.captureItems request.parameters = before ++ item :: after ∧
      (∀ other ∈ before, Access.Passes other) ∧ Access.CapturesMemory item memory ∧
      Access.Fits budget memory (1 + before.length)

/-! ### Ranges that were cleared -/

/-- The range among the parameters has been classified as ordinary. -/
def Cleared (parameters : Json) (trace : List MemoryAccess) : Prop :=
  ∃ start length, memoryRange parameters "address" = .ok (start, length) ∧
    .classified start length .ordinary ∈ trace

/-- The fields of a range. -/
lemma memoryRange_ok {parameters : Json} {field : String} {start length : ℕ}
    (h : memoryRange parameters field = .ok (start, length)) :
    ∃ text, (parameters.get field).bind Json.asStr = some text ∧
      Address.parse text = .ok start ∧
      (parameters.get "length").bind Json.asUnsigned = some length := by
  unfold memoryRange at h
  split at h
  · cases h
  · rename_i text htext
    obtain ⟨address, haddress, h⟩ := except_bind_ok h
    split at h
    · cases h
    · rename_i number hnumber
      obtain ⟨_, _, h⟩ := except_bind_ok h
      obtain ⟨rfl, rfl⟩ := Prod.mk.inj (Except.ok.inj h)
      exact ⟨text, htext, haddress, hnumber⟩

namespace Access

/-- A text that is required is there. -/
lemma requiredString_ok {parameters : Json} {name text : String}
    (h : requiredString parameters name = .ok text) :
    (parameters.get name).bind Json.asStr = some text := by
  unfold requiredString at h
  split at h
  · split at h
    · rw [← Except.ok.inj h]
      assumption
    · cases h
  · cases h

/-- A number that is required is there. -/
lemma requiredUnsigned_ok {parameters : Json} {name : String} {number : ℕ}
    (h : requiredUnsigned parameters name = .ok number) :
    (parameters.get name).bind Json.asUnsigned = some number := by
  unfold requiredUnsigned at h
  split at h
  · rw [← Except.ok.inj h]
    assumption
  · cases h

/-! ### Steps without a read -/

/-- A step that reads nothing is mediated. -/
lemma steady_mediated : Steady Mediated where
  evaluated _ _ h := h.append (by simp)
  image _ _ _ h := h.append (by simp)
  other _ h := h.append (by simp)

/-- A range stays cleared. -/
lemma steady_cleared (parameters : Json) : Steady (Cleared parameters) := by
  have happend : ∀ trace step, Cleared parameters trace → Cleared parameters (trace ++ [step]) := by
    rintro trace step ⟨start, length, hrange, hmem⟩
    exact ⟨start, length, hrange, List.mem_append_left _ hmem⟩
  exact ⟨fun trace _ => happend trace _, fun trace _ _ => happend trace _,
    fun trace => happend trace _⟩

/-! ### Reads -/

section Reads

variable {host : MemoryHost}

variable {trace : List MemoryAccess}

/-- A read of a range that has been classified as ordinary. -/
lemma readMemoryBytes_mediated {start length : ℕ} (h : Mediated trace)
    (hclassified : .classified start length .ordinary ∈ trace) :
    Meets Mediated host (readMemoryBytes start length) (fun _ => Mediated) (fun _ => Mediated)
      trace := by
  refine meets_ofExcept_bind (fun _ _ => ?_) fun _ _ => h
  refine meets_update_bind (meets_reads_bind (preserves_ofExcept _ _ (h.append ?_)))
  rintro _ _ ⟨⟩
  exact hclassified

variable {parameters : Json}

/-- The range of the parameters, read off field by field, is the one that has been classified. -/
lemma classified_of_cleared (h : Cleared parameters trace) {text : String} {address length : ℕ}
    (htext : requiredString parameters "address" = .ok text)
    (haddress : Address.parse text = .ok address)
    (hlength : requiredUnsigned parameters "length" = .ok length) :
    .classified address length .ordinary ∈ trace := by
  obtain ⟨start, count, hrange, hmem⟩ := h
  obtain ⟨text', htext', hstart, hcount⟩ := memoryRange_ok hrange
  obtain rfl : text' = text := Option.some.inj (htext'.symm.trans (requiredString_ok htext))
  obtain rfl : start = address := Except.ok.inj (hstart.symm.trans haddress)
  obtain rfl : count = length := Option.some.inj (hcount.symm.trans (requiredUnsigned_ok hlength))
  exact hmem

/-- Up to a read both facts are kept; behind it only the first one is needed. -/
lemma steady_both : Steady fun trace => Mediated trace ∧ Cleared parameters trace :=
  steady_mediated.and (steady_cleared parameters)

/-- What the parameters call for is read once it has been cleared. -/
lemma memoryRead_mediated (hliteral : (parameters.get "address_expression").bind Json.asStr = none)
    (h : Mediated trace) (hcleared : Cleared parameters trace) :
    Meets Mediated host (memoryRead parameters) (fun _ => Mediated) (fun _ => Mediated) trace := by
  unfold memoryRead
  rw [hliteral]
  refine meets_ofExcept_bind (fun _ _ => ?_) fun _ _ => h
  refine (step_preserves steady_both trace ⟨h, hcleared⟩).bind (fun _ s₁ h₁ => ?_) fun _ _ => And.left
  refine (stoppedState_preserves s₁ h₁).bind (fun _ s₂ h₂ => ?_) fun _ _ => And.left
  refine meets_ofExcept_bind (fun length hlength => ?_) fun _ _ => h₂.1
  refine meets_reads_bind (meets_ofExcept_bind (fun _ _ => ?_) fun _ _ => h₂.1)
  refine (step_preserves steady_both s₂ h₂).bind (fun _ s₃ h₃ => ?_) fun _ _ => And.left
  refine meets_ofExcept_bind (fun text htext => ?_) fun _ _ => h₃.1
  refine meets_ofExcept_bind (fun address haddress => ?_) fun _ _ => h₃.1
  have hclassified := classified_of_cleared h₃.2 htext haddress hlength
  exact (readMemoryBytes_mediated h₃.1 hclassified).seq
    (fun _ s₄ h₄ => step_preserves steady_mediated s₄ h₄)

/-- So is what it compares with. -/
lemma memoryCompare_mediated (h : Mediated trace) (hcleared : Cleared parameters trace) :
    Meets Mediated host (memoryCompare parameters) (fun _ => Mediated) (fun _ => Mediated)
      trace := by
  refine (step_preserves steady_both trace ⟨h, hcleared⟩).bind (fun _ s₁ h₁ => ?_) fun _ _ => And.left
  refine (stoppedState_preserves s₁ h₁).bind (fun _ s₂ h₂ => ?_) fun _ _ => And.left
  refine meets_ofExcept_bind (fun text htext => ?_) fun _ _ => h₂.1
  refine meets_ofExcept_bind (fun address haddress => ?_) fun _ _ => h₂.1
  refine meets_ofExcept_bind (fun length hlength => ?_) fun _ _ => h₂.1
  refine meets_reads_bind (meets_ofExcept_bind (fun _ _ => ?_) fun _ _ => h₂.1)
  have hclassified := classified_of_cleared h₂.2 htext haddress hlength
  exact (readMemoryBytes_mediated h₂.1 hclassified).seq
    (fun _ s₃ h₃ => step_preserves steady_mediated s₃ h₃)

end Reads

/-! ### Observations -/

section Observations

variable {host : MemoryHost}

/-- A classification records the range of the parameters with its effect. -/
lemma classifyMemoryRange_meets {parameters : Json} {field : String} {trace : List MemoryAccess}
    (h : Mediated trace) :
    Meets Mediated host (classifyMemoryRange parameters field)
      (fun effect s => Mediated s ∧ ∃ start length,
        memoryRange parameters field = .ok (start, length) ∧ .classified start length effect ∈ s)
      (fun _ => Mediated) trace := by
  refine meets_ofExcept_bind (fun range hrange => ?_) fun _ _ => h
  refine meets_reads_bind (meets_reads_bind (meets_update_bind (meets_pure ?_)))
  exact ⟨h.append (by simp), range.1, range.2, hrange, by simp⟩

variable (hprofile : host.profile.permits .volatileTargetRead = false)
include hprofile

/-- What passes `authorize_observation_memory` is an ordinary range. -/
lemma authorizeObservationMemory_meets {parameters : Json} {trace : List MemoryAccess}
    (h : Mediated trace) :
    Meets Mediated host (authorizeObservationMemory parameters)
      (fun _ s => Mediated s ∧ Cleared parameters s) (fun _ => Mediated) trace := by
  refine (classifyMemoryRange_meets h).seq ?_
  rintro effect s ⟨hs, start, length, hrange, hmem⟩
  refine meets_reads_bind (Meets.onlyIf (fun heffect => ?_) fun heffect => ?_)
  · refine meets_ofExcept (fun _ hok => ?_) fun _ _ => hs
    exact absurd hok (Profile.authorizeMethod_volatile hprofile (.inl rfl))
  · obtain rfl : effect = .ordinary := by simpa using heffect
    exact ⟨hs, start, length, hrange, hmem⟩

/-- An observation of memory, once its address is known. -/
lemma authorizedRead_mediated {resolved : Json}
    (hliteral : (resolved.get "address_expression").bind Json.asStr = none) :
    Preserves Mediated host Mediated (do
      authorizeObservationMemory resolved
      memoryRead resolved) :=
  fun _ h => (authorizeObservationMemory_meets hprofile h).seq
    (fun _ _ hs => memoryRead_mediated hliteral hs.1 hs.2)

/-- An observation of memory is classified once its address is known. -/
lemma observationMemoryRead_mediated (parameters : Json) :
    Preserves Mediated host Mediated (observationMemoryRead parameters) := by
  refine stoppedState_preserves.bind fun _ =>
    (step_preserves steady_mediated).bind fun _ => ?_
  -- Whichever way the address is found, the parameters hold no expression afterwards.
  intro trace h
  refine Meets.seq (V := fun resolved s => Mediated s ∧
    (resolved.get "address_expression").bind Json.asStr = none) (E := fun _ => Mediated) ?_
    (fun resolved s hs => authorizedRead_mediated hprofile hs.2 s hs.1)
  unfold resolveAddress
  cases hexpression : (parameters.get "address_expression").bind Json.asStr with
  | none => exact meets_pure ⟨h, hexpression⟩
  | some expression =>
    refine meets_ofExcept_bind (fun _ _ => ?_) fun _ _ => h
    refine (evaluateAddress_preserves steady_mediated _ _ trace h).seq fun address s hs => ?_
    refine meets_pure ⟨hs, ?_⟩
    simp [withAddress, Json.get, Json.lookup_set, Json.lookup_erase]

end Observations

/-! ### Tracked memory -/

/-- A digit that is written is read back. -/
lemma hexDigitValue_digitChar {digit : ℕ} (h : digit < 16) :
    hexDigitValue (Nat.digitChar digit) = some digit := by
  interval_cases digit <;> decide

/-- The text of an address stands for it. -/
lemma foldl_toDigits (address : ℕ) :
    (Nat.toDigits 16 address).foldl (fun number c => number * 16 + (hexDigitValue c).getD 0) 0 =
      address := by
  -- Induction over the leading digits.
  induction address using Nat.strongRecOn with
  | _ address ih =>
    rw [Nat.toDigits_eq_if (by decide)]
    split
    · rename_i hsmall
      simp [hexDigitValue_digitChar hsmall]
    · rw [List.foldl_append, ih (address / 16) (by omega)]
      simp only [List.foldl_cons, List.foldl_nil,
        hexDigitValue_digitChar (Nat.mod_lt address (by decide)), Option.getD_some]
      omega

/-- The text of an address leads to no other one. -/
lemma parse_addressText {address number : ℕ}
    (h : Address.parse (addressText address) = .ok number) : number = address := by
  have hlist : (addressText address).toList = '0' :: 'x' :: Nat.toDigits 16 address := by
    simp [addressText]
  unfold Address.parse at h
  rw [hlist] at h
  obtain ⟨_, _, h⟩ := except_bind_ok h
  rw [foldl_toDigits] at h
  exact (Except.ok.inj h).symm

section Tracking

variable {host : MemoryHost} (hprofile : host.profile.permits .volatileTargetRead = false)
include hprofile

/-- Tracked memory is classified at the address that its expression has led to. -/
lemma captureDefinition_mediated (definition : TrackingDefinition) :
    Preserves Mediated host Mediated (captureDefinition definition) := by
  cases definition with
  | expression _ expression _ =>
    refine (tolerate_preserves ?_).bind fun _ => step_preserves steady_mediated
    exact (record_preserves fun trace => steady_mediated.evaluated trace expression).bind fun _ =>
      .reading fun _ => .taking fun _ => preserves_pure _
  | memory _ expression length _ =>
    refine (tolerate_preserves ?_).bind fun _ => step_preserves steady_mediated
    refine (evaluateAddress_preserves steady_mediated _ _).bind fun address trace h => ?_
    refine (authorizeObservationMemory_meets hprofile h).seq ?_
    rintro _ s ⟨hs, start, count, hrange, hmem⟩
    obtain ⟨text, htext, hstart, hcount⟩ := memoryRange_ok hrange
    obtain rfl : addressText address = text := by simpa [Json.get, Json.lookup, Json.asStr] using htext
    obtain rfl := parse_addressText hstart
    obtain rfl : count = length := by
      simp [Json.get, Json.lookup, Json.asUnsigned] at hcount
      exact hcount.2.symm
    exact readMemoryBytes_mediated hs hmem

/-- The observations of a plan are mediated. -/
lemma kept_mediated : Kept Mediated host Mediated where
  steady := steady_mediated
  memory := observationMemoryRead_mediated hprofile
  definition := captureDefinition_mediated hprofile

end Tracking

/-! ### Captures that are refused -/

section Refused

variable {host : MemoryHost} {I P : List MemoryAccess → Prop} {budget : ProbeBudget}

/-- Earlier captures fit where later ones do. -/
lemma Fits.anti {memory : Json} {calls calls' : ℕ} (h : Fits budget memory calls')
    (hle : calls ≤ calls') : Fits budget memory calls := by
  obtain ⟨expression, length, hexpression, hvalid, hlength, hpositive, hwithin, hcalls⟩ := h
  exact ⟨expression, length, hexpression, hvalid, hlength, hpositive, hwithin, by omega⟩

/-- A capture of memory that does not fit fails before it evaluates anything. -/
lemma captureProbeMemory_refused {memory : Json} {calls : ℕ} {trace : List MemoryAccess}
    {V : ℕ → List MemoryAccess → Prop} (h : I trace) (hfits : ¬ Fits budget memory calls) :
    Meets P host (captureProbeMemory budget memory calls) V (fun _ => I) trace := by
  refine meets_ofExcept_bind (fun expression hexpression => ?_) fun _ _ => h
  refine meets_ofExcept_bind (fun _ hvalid => ?_) fun _ _ => h
  refine meets_ofExcept_bind (fun length hlength => ?_) fun _ _ => h
  split
  · exact meets_fail h
  rename_i hwithin
  simp only
  split
  · exact meets_fail h
  rename_i hcalls
  simp only [Bool.or_eq_true, decide_eq_true_eq, not_or, not_lt] at hwithin
  exact absurd ⟨expression, length, hexpression, hvalid, hlength, Nat.pos_of_ne_zero hwithin.1,
    hwithin.2, by omega⟩ hfits

/-- Captures read nothing if the first memory among them does not fit. -/
lemma captures_of_not_fits (hI : Steady I) (items : List Json) (calls : ℕ)
    (hnone : ∀ before item after memory, items = before ++ item :: after →
      (∀ other ∈ before, Passes other) → CapturesMemory item memory →
        ¬ Fits budget memory (calls + before.length)) :
    Captures P host I budget items calls := by
  intro trace h
  induction items generalizing calls trace with
  | nil => exact meets_pure ⟨h, le_rfl⟩
  | cons item items ih =>
    refine Meets.seq (V := fun calls' s => I s ∧ calls' = calls + 1 ∧ Passes item)
      (E := fun _ => I) ?_ (fun calls' s hs => ?_)
    · unfold captureProbeItem
      split
      · exact meets_fail h
      split
      · rename_i expression hexpression
        refine meets_ofExcept_bind (fun _ hvalid => ?_) fun _ _ => h
        refine meets_update_bind (meets_reads_bind ?_)
        have hnext := hI.evaluated trace expression h
        exact meets_ofExcept_bind (fun _ _ => meets_pure
          ⟨hnext, rfl, .inl ⟨expression, hexpression, hvalid⟩⟩) fun _ _ => hnext
      · rename_i hexpression hstack
        exact (step_preserves hI trace h).seq (fun _ s hs => meets_pure
          ⟨hs, rfl, .inr ⟨hexpression, by rw [hstack]; rfl⟩⟩)
      · rename_i hexpression hstack hmemory
        exact captureProbeMemory_refused h (hnone [] item items _ rfl (by simp)
          ⟨hexpression, hstack, hmemory⟩)
      · exact meets_fail h
    · obtain ⟨hs, rfl, hpasses⟩ := hs
      refine (ih (calls + 1) (fun before item' after memory hsplit hbefore hmemory => ?_) s hs).mono
        (fun _ _ hs' => ⟨hs'.1, by omega⟩) fun _ _ he => he
      have hlater := hnone (item :: before) item' after memory (by rw [hsplit]; rfl)
        (List.forall_mem_cons.mpr ⟨hpasses, hbefore⟩) hmemory
      rwa [List.length_cons, Nat.add_comm before.length, ← Nat.add_assoc] at hlater

end Refused

/-! ### Requests -/

section Requests

variable {host : MemoryHost} {request : ApiRequest}

variable {trace : List MemoryAccess}

/-- A request that is cleared by its address has no expression for it. -/
lemma literal_of_cleared
    (hvalid : CanonicalMethod.memoryRead.validateParameters request.parameters = .ok ())
    (hcleared : Cleared request.parameters trace) :
    (request.parameters.get "address_expression").bind Json.asStr = none := by
  obtain ⟨start, length, hrange, -⟩ := hcleared
  obtain ⟨text, htext, -, -⟩ := memoryRange_ok hrange
  obtain ⟨object, hobject, haccepted⟩ := MethodContract.validate_ok_iff.mp hvalid
  rw [hobject] at htext ⊢
  have hgroup := haccepted.groups ["address", "address_expression"] (by decide)
  have haddress : Json.hasField object "address" = true := by
    obtain ⟨value, hvalue, -⟩ := Option.bind_eq_some_iff.mp htext
    exact Option.isSome_iff_exists.mpr ⟨value, hvalue⟩
  have hexpression : Json.hasField object "address_expression" = false := by
    simpa [List.countP_cons, haddress] using hgroup
  have hnone : Json.lookup object "address_expression" = none := by
    simpa [Json.hasField] using hexpression
  simp [Json.get, hnone]

/-- A read or a comparison has been cleared when it is admitted. -/
def Admitted (request : ApiRequest) (trace : List MemoryAccess) : Prop :=
  Mediated trace ∧
    (request.method = .memoryRead ∨ request.method = .memoryCompare →
      Cleared request.parameters trace)

/-- It stays admitted up to the read. -/
lemma steady_admitted (request : ApiRequest) : Steady (Admitted request) :=
  steady_mediated.and ((steady_cleared request.parameters).imp _)

/-- The effect of a probe without input. -/
lemma effectForRequest_probe
    (hmethod : request.method = .agentProbe ∨ request.method = .agentExperiment)
    (hinput : request.parameters.get "input" = none) : effectForRequest request = .control := by
  rcases hmethod with hmethod | hmethod <;>
    simp [effectForRequest, hmethod, hinput, effectForMethod]

variable (hprofile : host.profile.permits .volatileTargetRead = false)
include hprofile

/-- Either the effect is that of the request, which is then cleared, or it is volatile. -/
lemma admittedEffect_meets (h : Mediated trace) : Meets Mediated host (admittedEffect request)
      (fun effect s => (effect = effectForRequest request ∧ Admitted request s) ∨
        (Mediated s ∧ effect = .volatileTargetRead ∧ (request.method = .memoryRead ∨
          request.method = .memorySearch ∨ request.method = .memoryCompare)))
      (fun _ => Mediated) trace := by
  have hobserver : host.profile ≠ .labMutation ∧ host.profile ≠ .rawAdmin := by
    cases hcase : host.profile <;> rw [hcase] at hprofile <;> first | decide | cases hprofile
  refine meets_reads_bind ?_
  simp only
  split
  · rename_i hclassifies
    have hmethod : request.method = .memoryRead ∨ request.method = .memorySearch ∨
        request.method = .memoryCompare := by
      simpa [hobserver, or_assoc] using hclassifies
    refine (classifyMemoryRange_meets h).seq ?_
    rintro effect s ⟨hs, start, length, hrange, hmem⟩
    refine meets_pure ?_
    by_cases heffect : effect = .ordinary
    · subst heffect
      refine .inl ⟨if_neg (by simp), hs, fun hread => ⟨start, length, ?_, hmem⟩⟩
      have hsearch : request.method ≠ .memorySearch := by
        rcases hread with hread | hread <;> rw [hread] <;> decide
      rwa [if_neg hsearch] at hrange
    · exact .inr ⟨hs, if_pos heffect, hmethod⟩
  · rename_i hclassifies
    refine meets_pure (.inl ⟨rfl, h, fun hread => absurd ?_ hclassifies⟩)
    rcases hread with hread | hread <;> simp [hread, hobserver]

/-- Among the profiles without volatile reads one alone admits a probe, if it has no input. -/
lemma probe_admitted (hmethod : request.method = .agentProbe ∨ request.method = .agentExperiment)
    (h : host.profile.authorizeMethod request.method (effectForRequest request) = .ok ()) :
    host.profile = .debugControl ∧ request.parameters.get "input" = none := by
  have hpermits : host.profile.permits (effectForRequest request) = true := by
    by_contra hdenied
    rcases hmethod with hmethod | hmethod <;> rw [hmethod] at h <;>
      simp [Profile.authorizeMethod, Profile.authorize, hdenied, CanonicalMethod.unrestricted] at h
  cases hinput : request.parameters.get "input" with
  | none =>
    rw [effectForRequest_probe hmethod hinput] at hpermits
    refine ⟨?_, rfl⟩
    cases hcase : host.profile <;> rw [hcase] at hpermits hprofile <;>
      first | rfl | exact absurd hpermits (by decide) | exact absurd hprofile (by decide)
  | some input =>
    have heffect : effectForRequest request = .targetMutation := by
      rcases hmethod with hmethod | hmethod <;>
        simp [effectForRequest, hmethod, hinput, CanonicalMethod.takesInput]
    rw [heffect] at hpermits
    cases hcase : host.profile <;> rw [hcase] at hpermits hprofile <;>
      first | exact absurd hpermits (by decide) | exact absurd hprofile (by decide)

/-- A profile without volatile reads does not write memory. -/
lemma write_denied (hmethod : request.method = .memoryWrite) :
    host.profile.authorizeMethod request.method (effectForRequest request) ≠ .ok () := by
  have heffect : effectForRequest request = .targetMutation := by
    simp [effectForRequest, hmethod, CanonicalMethod.takesInput, effectForMethod]
  have hpermits : host.profile.permits .targetMutation = false := by
    cases hcase : host.profile <;> rw [hcase] at hprofile <;> first | rfl | cases hprofile
  rw [heffect, hmethod]
  simp [Profile.authorizeMethod, Profile.authorize, hpermits, CanonicalMethod.unrestricted]

/-- What an authorized request does. -/
lemma operation_mediated (hprobe : ¬ request.ProbesMemory host.toMemoryLimits)
    (hvalid : request.method.validateParameters request.parameters = .ok ())
    (hauthorized : host.profile.authorizeMethod request.method (effectForRequest request) = .ok ())
    (h : Admitted request trace) :
    Meets Mediated host (operation request) (fun _ => Mediated) (fun _ => Mediated) trace := by
  have hkept : Kept Mediated host Mediated := kept_mediated hprofile
  have hinspect := hkept.inspectionResult 2
  have happend : Preserves Mediated host Mediated (do
      step
      appendStopObservations (inspectionResult 2) request.parameters) :=
    hkept.step.bind fun _ => hkept.appendStopObservations hinspect _
  have hagent : request.method = .agentProbe ∨ request.method = .agentExperiment →
      Preserves Mediated host Mediated (agentProbe request.parameters) := by
    refine fun hmethod => agentProbe_preserves hkept fun budget hchecks calls hcalls =>
      captures_of_not_fits steady_mediated _ calls fun before item after memory hsplit hbefore
        hmemory hfits => hprobe ?_
    obtain ⟨hdebug, hinput⟩ := probe_admitted hprofile hmethod hauthorized
    exact ⟨hmethod, hdebug, hinput, hvalid, budget, before, item, after, memory, hchecks, hsplit,
      hbefore, hmemory, hfits.anti (by omega)⟩
  unfold operation
  split
  · rename_i hmethod
    have hcleared := h.2 (.inl hmethod)
    rw [hmethod] at hvalid
    exact attributed_meets steady_mediated
      (memoryRead_mediated (literal_of_cleared hvalid hcleared) h.1 hcleared) _
  · rename_i hmethod
    exact attributed_meets steady_mediated (memoryCompare_mediated h.1 (h.2 (.inr hmethod))) _
  · rename_i hmethod
    exact absurd hauthorized (write_denied hprofile hmethod)
  · exact hinspect _ trace h.1
  · exact hkept.inspectionSnapshot hinspect _ trace h.1
  · exact hkept.inspectionBatch hinspect _ trace h.1
  · exact happend trace h.1
  · exact happend trace h.1
  · exact happend trace h.1
  · exact happend trace h.1
  · rename_i hmethod
    exact hagent (.inl hmethod) trace h.1
  · rename_i hmethod
    exact hagent (.inr hmethod) trace h.1
  · exact kernelInspect_preserves steady_mediated trace h.1
  · exact step_preserves steady_mediated trace h.1

/-- A whole request. -/
lemma dispatch_mediated (hprobe : ¬ request.ProbesMemory host.toMemoryLimits) (caller : Caller) :
    Meets Mediated host (dispatch request caller) (fun _ => Mediated) (fun _ => Mediated) [] := by
  refine meets_ofExcept_bind (fun _ hvalid => ?_) fun _ _ => Mediated.nil
  refine (step_preserves steady_mediated [] Mediated.nil).seq fun _ s₁ h₁ => ?_
  refine (admittedEffect_meets hprofile h₁).seq fun effect s₂ h₂ => ?_
  have hmediated : Mediated s₂ := h₂.elim (fun hown => hown.2.1) fun hvolatile => hvolatile.1
  refine meets_reads_bind ?_
  split
  · exact meets_fail hmediated
  · refine meets_ofExcept_bind (fun _ hauthorized => ?_) fun _ _ => hmediated
    rcases h₂ with ⟨rfl, hadmitted⟩ | ⟨-, rfl, hmethod⟩
    · exact (step_preserves (steady_admitted request) s₂ hadmitted).bind
        (fun _ s₃ h₃ => operation_mediated hprofile hprobe hvalid hauthorized h₃)
        fun _ _ he => he.1
    · exact absurd hauthorized (Profile.authorizeMethod_volatile hprofile hmethod)

end Requests

/-! ### Captures that are made -/

/-- Nothing has been classified. -/
def Unclassified (trace : List MemoryAccess) : Prop :=
  ∀ start length effect, .classified start length effect ∉ trace

/-- A session with a running process. -/
def runningState : SessionState :=
  { SessionState.creating ⟨"session"⟩ with
    inferiors := (∅ : Registry InferiorState).insert "i1"
      ⟨⟨"i1"⟩, "i1", some 7, 1, .running, none, ∅⟩ }

/-- A host of a running target on which every step succeeds; expressions lead to the address 0. -/
def obligingHost (limits : MemoryLimits) : MemoryHost where
  toMemoryLimits := limits
  state := fun _ => runningState
  maps := fun _ _ => none
  value := fun _ => .ok (some "0x0")
  contents := fun _ => .ok ()
  tracking := fun _ => []
  inputBytes := fun _ => .ok 0
  banners := fun _ => []
  proceeds := fun _ => .ok ()

section Captured

/-- Nothing that follows mends a read that is not mediated. -/
lemma closed_not_mediated (host : MemoryHost) : Closed host fun trace => ¬ Mediated trace where
  evaluated _ _ h hafter := h hafter.of_append
  image _ _ _ h hafter := h hafter.of_append
  other _ h hafter := h hafter.of_append
  read _ _ _ h hafter := h hafter.of_append
  classified _ _ _ h hafter := h hafter.of_append

variable {limits : MemoryLimits} {P : List MemoryAccess → Prop}
  {E : Error → List MemoryAccess → Prop} {budget : ProbeBudget} {before after : List Json}
  {item memory : Json} {calls : ℕ} {trace : List MemoryAccess} (h : Unclassified trace)
include h

/-- A step that classifies nothing. -/
lemma Unclassified.append {step : MemoryAccess}
    (hstep : ∀ start length effect, step ≠ .classified start length effect) :
    Unclassified (trace ++ [step]) := by
  intro start length effect hmem
  rcases List.mem_append.mp hmem with hmem | hmem
  · exact h start length effect hmem
  · exact hstep start length effect (List.mem_singleton.mp hmem).symm

/-- A read without a classification is not mediated. -/
lemma Unclassified.not_mediated (start length : ℕ) :
    ¬ Mediated (trace ++ [.read start length]) :=
  fun hmediated => h start length .ordinary (hmediated trace [] start length rfl)

/-- The steps of the host succeed. -/
lemma obliging_step : Meets P (obligingHost limits) step (fun _ => Unclassified) E trace := by
  unfold Meets
  exact h.append (by simp)

/-- Its expressions have the value 0. -/
lemma obliging_address (expression missing : String) :
    Meets P (obligingHost limits) (evaluateAddress expression missing)
      (fun address s => address = 0 ∧ Unclassified s) E trace := by
  have hparse : parseAddress "0x0" = .ok 0 := by decide +kernel
  refine meets_update_bind (meets_reads_bind ?_)
  change Meets P _ (ofExcept (parseAddress "0x0")) _ _ _
  rw [hparse]
  unfold Meets
  exact ⟨rfl, h.append (by simp)⟩

/-- A capture that fits reads memory that has not been classified. -/
lemma obliging_memory (hfits : Fits budget memory calls) :
    Meets P (obligingHost limits) (captureProbeMemory budget memory calls)
      (fun calls' s => ¬ Mediated s ∧ 1 ≤ calls') (fun _ s => ¬ Mediated s) trace := by
  obtain ⟨expression, length, hexpression, hvalid, hlength, hpositive, hwithin, hcalls⟩ := hfits
  have hnumber := Json.lt_of_asUnsigned (requiredUnsigned_ok hlength)
  unfold captureProbeMemory
  rw [hexpression]
  change Meets P _ (ofExcept (validateExpression expression) >>= _) _ _ _
  rw [hvalid]
  change Meets P _ (ofExcept (requiredUnsigned memory "length") >>= _) _ _ _
  rw [hlength]
  change Meets P _ (if _ then _ else if _ then _ else _) _ _ _
  rw [if_neg (by simp only [Bool.or_eq_true, decide_eq_true_eq]; omega), if_neg (by omega)]
  refine (obliging_address h _ _).seq fun address s hs => ?_
  obtain ⟨rfl, hs⟩ := hs
  unfold readMemoryBytes ensure
  rw [if_pos (by simp only [decide_eq_true_eq]; omega)]
  unfold Meets
  exact ⟨hs.not_mediated 0 length, by omega⟩

/-- The items before the memory let it follow. -/
lemma obliging_captures (hbefore : ∀ other ∈ before, Passes other)
    (hmemory : CapturesMemory item memory) (hfits : Fits budget memory (calls + before.length)) :
    Meets P (obligingHost limits) (captureProbeItems budget (before ++ item :: after) calls)
      (fun calls' s => ¬ Mediated s ∧ 1 ≤ calls') (fun _ s => ¬ Mediated s) trace := by
  have hroom : calls + before.length < budget.maxCalls := by
    obtain ⟨_, _, -, -, -, -, -, hcalls⟩ := hfits
    omega
  induction before generalizing calls trace with
  | nil =>
    refine Meets.seq (V := fun calls' s => ¬ Mediated s ∧ 1 ≤ calls')
      (E := fun _ s => ¬ Mediated s) ?_ (fun calls' s hs => ?_)
    · unfold captureProbeItem
      rw [if_neg (not_le.mpr (show calls < budget.maxCalls from hroom)), hmemory.1, hmemory.2.1,
        hmemory.2.2]
      exact obliging_memory h hfits
    · exact ((closed_not_mediated _).captureProbeItems budget after calls' s hs.1).mono
        (fun _ _ hs' => ⟨hs'.1, hs.2.trans hs'.2⟩) fun _ _ he => he
  | cons other before ih =>
    rw [List.forall_mem_cons] at hbefore
    rw [List.length_cons] at hfits hroom
    refine Meets.seq (V := fun calls' s => Unclassified s ∧ calls' = calls + 1) ?_
      fun calls' s hs => ?_
    · unfold captureProbeItem
      rw [if_neg (by omega)]
      rcases hbefore.1 with ⟨expression, hexpression, hvalid⟩ | ⟨hexpression, hstack⟩
      · rw [hexpression]
        simp only [hvalid]
        unfold Meets
        exact ⟨h.append (by simp), rfl⟩
      · obtain ⟨stack, hstack⟩ := Option.isSome_iff_exists.mp hstack
        rw [hexpression, hstack]
        unfold Meets
        exact ⟨h.append (by simp), rfl⟩
    · obtain ⟨hs, rfl⟩ := hs
      exact ih hs hbefore.2 (by rwa [Nat.add_comm before.length, ← Nat.add_assoc] at hfits)
        (by omega)

variable {parameters : Json} (hchecks : Probes limits parameters budget)
  (hsplit : captureItems parameters = before ++ item :: after)
  (hbefore : ∀ other ∈ before, Passes other) (hmemory : CapturesMemory item memory)
  (hfits : Fits budget memory (1 + before.length))
include hchecks hsplit hbefore hmemory hfits

/-- The target runs already, so the first hit comes without a call. -/
lemma obliging_hits (onCondition : Bool) (hits : ℕ) :
    Meets P (obligingHost limits) (probeHits parameters budget onCondition (hits + 1) 1)
      (fun _ s => ¬ Mediated s) (fun _ s => ¬ Mediated s) trace := by
  have hrunning : ((runningState.inferiors.toList.map Prod.snd).any fun inferior =>
      inferior.status = .running) = true := by decide +kernel
  have hstate : (obligingHost limits).state trace = runningState := rfl
  refine meets_reads_bind ?_
  simp only [hstate, hrunning, Bool.not_true, Bool.false_and, Bool.false_eq_true, if_false, if_true]
  refine (obliging_step h).seq fun _ s₁ h₁ => ?_
  refine Meets.seq (V := fun calls s => ¬ Mediated s ∧ 1 ≤ calls)
    (E := fun _ s => ¬ Mediated s) ?_ (fun calls s₂ h₂ => ?_)
  · unfold captureProbeObservation
    simp only
    rw [if_neg (not_lt.mpr hchecks.values), hsplit]
    exact obliging_captures h₁ hbefore hmemory hfits
  · have hclosed := closed_not_mediated (obligingHost limits)
    split
    · exact meets_pure h₂.1
    · exact probeHits_preserves hclosed.kept (fun budget _ calls _ =>
        hclosed.captureProbeItems budget _ calls) (fun _ => hchecks) onCondition hits h₂.2 s₂ h₂.1

/-- So the probe reads memory that has not been classified. -/
lemma obliging_probe : Meets P (obligingHost limits) (agentProbe parameters)
    (fun _ s => ¬ Mediated s) (fun _ s => ¬ Mediated s) trace := by
  have hkept : Kept P (obligingHost limits) fun s => ¬ Mediated s := (closed_not_mediated _).kept
  have happend : ∀ parameters, Preserves P (obligingHost limits) (fun s => ¬ Mediated s)
      (appendStopObservations (inspectionResult 2) parameters) :=
    hkept.appendStopObservations (hkept.inspectionResult 2)
  unfold agentProbe
  refine meets_reads_bind ?_
  change Meets P _ (ofExcept (validateInspect parameters limits.maximum) >>= _) _ _ _
  rw [hchecks.inspect]
  change Meets P _ (step >>= _) _ _ _
  refine (obliging_step h).seq fun _ s₁ h₁ => ?_
  change Meets P _ (ofExcept (probeBudget parameters limits) >>= _) _ _ _
  rw [hchecks.budget_eq]
  change Meets P _ (ofExcept (ensure (decide (probeStopPolicy parameters ∈ stopPolicies)) _) >>= _)
    _ _ _
  rw [ensure, if_pos (decide_eq_true hchecks.policy)]
  change Meets P _ (step >>= _) _ _ _
  refine (obliging_step h₁).seq fun _ s₂ h₂ => ?_
  obtain ⟨hits, hhits⟩ : ∃ hits, max 1 (min 100
      (((parameters.get "max_hits").bind Json.asUnsigned).getD 1)) = hits + 1 :=
    Nat.exists_eq_succ_of_ne_zero (by omega)
  rw [hhits]
  refine Meets.seq (V := fun _ s => ¬ Mediated s) (E := fun _ s => ¬ Mediated s) ?_
    (fun outcome s₃ h₃ => ?_)
  · exact ((obliging_hits h₂ hchecks hsplit hbefore hmemory hfits _ hits).seq
      (fun _ s hs => (happend parameters).onlyIf _ s hs)).attempt
      (fun _ _ hs => hs) fun _ _ hs => hs
  · exact (hkept.step.bind fun _ => .taking fun _ =>
      ((hkept.step.bind fun _ => happend _).onlyIf _).bind fun _ => hkept.step) s₃ h₃

end Captured

/-- On the obliging host the first hit of the probe reads memory that was not classified. -/
lemma obliging_dispatch {limits : MemoryLimits} {request : ApiRequest}
    (h : request.ProbesMemory limits) (caller : Caller) :
    Meets (fun s => ¬ Mediated s) (obligingHost limits) (dispatch request caller)
      (fun _ s => ¬ Mediated s) (fun _ s => ¬ Mediated s) [] := by
  obtain ⟨hmethod, hdebug, hinput, hvalid, budget, before, item, after, memory, hchecks, hsplit,
    hbefore, hmemory, hfits⟩ := h
  have hplain : (decide (request.method = .memoryRead) || decide (request.method = .memorySearch) ||
      decide (request.method = .memoryCompare)) = false := by
    rcases hmethod with hmethod | hmethod <;> rw [hmethod] <;> rfl
  have hauthorized : limits.profile.authorizeMethod request.method .control = .ok () := by
    rcases hmethod with hmethod | hmethod <;> rw [hdebug, hmethod] <;> rfl
  have hoperation : operation request = agentProbe request.parameters := by
    unfold operation
    rcases hmethod with hmethod | hmethod <;> rw [hmethod]
  have hstart : Unclassified [] := fun _ _ _ => List.not_mem_nil
  unfold dispatch
  rw [hvalid, hoperation]
  change Meets _ _ (step >>= _) _ _ _
  refine (obliging_step hstart).seq fun _ s₁ h₁ => ?_
  refine Meets.seq (V := fun effect s => effect = .control ∧ Unclassified s) ?_
    fun effect s₂ h₂ => ?_
  · refine meets_reads_bind ?_
    simp only [hplain, Bool.false_and, Bool.false_eq_true, if_false]
    exact meets_pure ⟨effectForRequest_probe hmethod hinput, h₁⟩
  · obtain ⟨rfl, h₂⟩ := h₂
    refine meets_reads_bind ?_
    change Meets _ _ (if (decide (limits.profile = .rawAdmin) && _) = true then _ else
      (ofExcept (limits.profile.authorizeMethod request.method .control) >>= _)) _ _ _
    rw [if_neg (by rw [hdebug]; simp), hauthorized]
    change Meets _ _ (step >>= _) _ _ _
    exact (obliging_step h₂).seq fun _ s₃ h₃ =>
      obliging_probe h₃ hchecks hsplit hbefore hmemory hfits

end Access

/-- A process that is stopped at `s1`, under the profile `debugControl`: expressions lead to the
device that is mapped at `0x7000`. -/
def stoppedHost : MemoryHost where
  profile := .debugControl
  maximum := 1024 * 1024
  stackFrames := 64
  responseBytes := 1024 * 1024
  state := fun _ => { SessionState.creating ⟨"session"⟩ with
    stopId := some ⟨"s1"⟩
    targetOrigin := .local
    inferiors := (∅ : Registry InferiorState).insert "i1"
      ⟨⟨"i1"⟩, "i1", some 7, 1, .stopped, none, ∅⟩ }
  maps := fun _ pid => if pid = 7 then
    some "1000-2000 r--p 0 08:01 9 /bin/x\n7000-8000 rw-s 0 00:05 4 /dev/mem\n" else none
  value := fun _ => .ok (some "0x7000")
  contents := fun _ => .ok ()
  tracking := fun _ => []
  inputBytes := fun _ => .ok 0
  banners := fun _ => []
  proceeds := fun _ => .ok ()

/-- A read of eight bytes at `0x1000`. -/
def literalRead : ApiRequest where
  requestId := "r1"
  sessionId := some "session"
  method := .memoryRead
  parameters := .object [("stop_id", .string "s1"), ("address", .string "0x1000"),
    ("length", .unsigned 8)]

/-- A probe of a function that captures eight bytes of memory at its hit. -/
def memoryProbe : ApiRequest where
  requestId := "r2"
  sessionId := some "session"
  method := .agentProbe
  parameters := .object [("stop_id", .string "s1"), ("function", .string "handler"),
    ("capture", .array [.object [("memory", .object
      [("address_expression", .string "device"), ("length", .unsigned 8)])]])]

end GdbAi
