import GdbAi.Gateway.Observation

/-!
# Plans that were validated before a resume

A plan is validated without a parent and at a made-up stop, and parsed again at the stop that the
resume leads to, with the selection of the parent.  The selection is accepted by the contracts of
all kinds but one: a diff has no context, so an item for a diff that inherits a selection is
rejected although its plan was validated.  The checks beyond the contracts read none of the fields
that differ.
-/

namespace GdbAi

open MethodContract

/-! ### Sequences of checks -/

lemma ensure_ok {condition : Bool} {message : String} (h : ensure condition message = .ok ()) :
    condition = true := by
  unfold ensure at h
  split at h
  · assumption
  · cases h

lemma ensure_of {condition : Bool} {message : String} (h : condition = true) :
    ensure condition message = .ok () := by
  rw [ensure, if_pos h]

/-! ### What a selection changes -/

variable {defaults : Json} {object : List (String × Json)} {entry : String × Json}

/-- Inheriting one field sets it, if the parent has it. -/
lemma mem_inheritField {field : String} (h : entry ∈ inheritField defaults object field) :
    entry ∈ object ∨ entry.1 = field ∧ defaults.get field = some entry.2 := by
  unfold inheritField at h
  cases hvalue : defaults.get field with
  | none =>
    rw [hvalue] at h
    exact .inl h
  | some value =>
    rw [hvalue] at h
    rcases Json.mem_set.mp h with rfl | ⟨hold, _⟩
    · exact .inr ⟨rfl, rfl⟩
    · exact .inl hold

lemma lookup_inheritField {field name : String} :
    Json.lookup (inheritField defaults object field) name =
      if name = field then (defaults.get field).or (Json.lookup object name)
      else Json.lookup object name := by
  unfold inheritField
  cases hvalue : defaults.get field with
  | none => simp
  | some value => simp [Json.lookup_set]

variable {fields : List String}

lemma mem_foldl_inheritField (h : entry ∈ fields.foldl (inheritField defaults) object) :
    entry ∈ object ∨ entry.1 ∈ fields ∧ defaults.get entry.1 = some entry.2 := by
  induction fields generalizing object with
  | nil => exact .inl h
  | cons field fields ih =>
    rcases ih h with hold | ⟨hfield, hvalue⟩
    · rcases mem_inheritField hold with hold | ⟨rfl, hvalue⟩
      · exact .inl hold
      · exact .inr ⟨List.mem_cons_self, hvalue⟩
    · exact .inr ⟨List.mem_cons_of_mem _ hfield, hvalue⟩

variable {name : String}

lemma lookup_foldl_inheritField (h : name ∉ fields) :
    Json.lookup (fields.foldl (inheritField defaults) object) name = Json.lookup object name := by
  induction fields generalizing object with
  | nil => rfl
  | cons field fields ih =>
    obtain ⟨hne, hrest⟩ : name ≠ field ∧ name ∉ fields := by
      rwa [List.mem_cons, not_or] at h
    rw [List.foldl_cons, ih hrest, lookup_inheritField, if_neg hne]

lemma hasField_foldl_inheritField (h : Json.hasField object name = true) :
    Json.hasField (fields.foldl (inheritField defaults) object) name = true := by
  induction fields generalizing object with
  | nil => exact h
  | cons field fields ih =>
    refine ih ?_
    unfold Json.hasField at h ⊢
    rw [lookup_inheritField]
    split
    · cases defaults.get field with
      | none => simpa using h
      | some value => rfl
    · exact h

/-- The entries of an item with its selection. -/
lemma mem_inheritSelection (h : entry ∈ inheritSelection object defaults) :
    entry ∈ object ∨ entry.1 ∈ selectionFields ∧ defaults.get entry.1 = some entry.2 := by
  unfold inheritSelection at h
  split at h
  · exact .inl h
  · exact mem_foldl_inheritField h

/-- A selection leaves the other fields. -/
lemma lookup_inheritSelection (h : name ∉ selectionFields) :
    Json.lookup (inheritSelection object defaults) name = Json.lookup object name := by
  unfold inheritSelection
  split
  · rfl
  · exact lookup_foldl_inheritField h

lemma hasField_inheritSelection (h : Json.hasField object name = true) :
    Json.hasField (inheritSelection object defaults) name = true := by
  unfold inheritSelection
  split
  · exact h
  · exact hasField_foldl_inheritField h

/-- Without a parent there is no selection to inherit. -/
lemma inheritSelection_null (object : List (String × Json)) :
    inheritSelection object .null = object := by
  unfold inheritSelection
  split
  · rfl
  · rfl

/-- A parent without a selection leaves an item as it is. -/
lemma inheritSelection_of_none (object : List (String × Json))
    (h : ∀ field ∈ selectionFields, defaults.get field = none) :
    inheritSelection object defaults = object := by
  have hfield : ∀ (object : List (String × Json)), ∀ field ∈ selectionFields,
      inheritField defaults object field = object := by
    intro object field hfield
    rw [inheritField, h field hfield]
  unfold inheritSelection
  split
  · rfl
  · simp only [selectionFields, List.foldl_cons, List.foldl_nil]
    rw [hfield object _ (by decide), hfield object _ (by decide), hfield object _ (by decide),
      hfield object _ (by decide)]

/-! ### What arranging changes -/

section Arranging

variable {kind : ObservationKind} {stopId : StopId} {object : List (String × Json)}

/-- Arranging keeps the fields that are not its own. -/
lemma lookup_arrange {name : String} (h : name ∉ ["name", "stop_id", "view"]) :
    Json.lookup (arrange kind stopId object) name = Json.lookup object name := by
  simp only [List.mem_cons, List.not_mem_nil, or_false, not_or] at h
  obtain ⟨hname, hstop, hview⟩ := h
  unfold arrange
  simp only
  split <;> split <;> simp [Json.lookup_erase, Json.lookup_set, hname, hstop, hview]

/-- An entry is the stop, or an entry of the item that is not replaced. -/
lemma mem_arrange {entry : String × Json} :
    entry ∈ arrange kind stopId object ↔
      (kind ≠ .diff ∧ entry = ("stop_id", .string stopId.text)) ∨
      (entry ∈ object ∧ entry.1 ≠ "name" ∧ (kind ≠ .diff → entry.1 ≠ "stop_id") ∧
        (kind ≠ .inspection → entry.1 ≠ "view")) := by
  unfold arrange
  simp only
  by_cases hdiff : kind = .diff
  · subst hdiff
    simp [Json.mem_erase]
    tauto
  · by_cases hinspection : kind = .inspection
    · subst hinspection
      simp [Json.mem_erase, Json.mem_set]
      tauto
    · simp only [ne_eq, hdiff, hinspection, not_false_eq_true, if_true, Json.mem_erase,
        Json.mem_set, true_and, forall_const]
      constructor
      · rintro ⟨rfl | ⟨⟨hmem, hname⟩, hstop⟩, hview⟩
        · exact .inl rfl
        · exact .inr ⟨hmem, hname, hstop, hview⟩
      · rintro (rfl | ⟨hmem, hname, hstop, hview⟩)
        · exact ⟨.inl rfl, show ¬ "stop_id" = "view" by decide⟩
        · exact ⟨.inr ⟨⟨hmem, hname⟩, hstop⟩, hview⟩

/-- Whether a field is there does not depend on the stop. -/
lemma hasField_arrange {name : String} :
    Json.hasField (arrange kind stopId object) name = true ↔
      (kind ≠ .diff ∧ name = "stop_id") ∨
      (Json.hasField object name = true ∧ name ≠ "name" ∧ (kind ≠ .diff → name ≠ "stop_id") ∧
        (kind ≠ .inspection → name ≠ "view")) := by
  rw [Json.hasField_iff, Json.hasField_iff]
  constructor
  · rintro ⟨value, hmem⟩
    rcases mem_arrange.mp hmem with ⟨hkind, heq⟩ | ⟨hmem, hrest⟩
    · exact .inl ⟨hkind, (Prod.mk.inj heq).1⟩
    · exact .inr ⟨⟨value, hmem⟩, hrest⟩
  · rintro (⟨hkind, rfl⟩ | ⟨⟨value, hmem⟩, hrest⟩)
    · exact ⟨_, mem_arrange.mpr (.inl ⟨hkind, rfl⟩)⟩
    · exact ⟨value, mem_arrange.mpr (.inr ⟨hmem, hrest⟩)⟩

end Arranging

/-! ### Contracts -/

/-- The kind that every contract has for a field of the selection. -/
def isSelectionKind (field : String) : ParameterKind → Bool
  | .string => field ≠ "frame_level"
  | .unsigned => field = "frame_level"
  | _ => false

/-- All contracts agree on the kinds of the selection. -/
lemma selection_kinds (method : CanonicalMethod) (hname : name ∈ selectionFields)
    {field : ParameterField} (hfield : method.contract.field name = some field) :
    isSelectionKind name field.kind = true := by
  have hall : ∀ method ∈ CanonicalMethod.all, ∀ name ∈ selectionFields,
      (method.contract.field name).all (fun field => isSelectionKind name field.kind) = true := by
    decide
  have hmem : method ∈ CanonicalMethod.all := by
    cases method <;> decide
  have hone := hall method hmem name hname
  rw [hfield] at hone
  exact hone

/-- What a kind of the selection accepts, every such kind accepts. -/
lemma isSelectionKind_accepts {kind kind' : ParameterKind} {value : Json}
    (h : isSelectionKind name kind = true) (h' : isSelectionKind name kind' = true)
    (haccepts : kind.accepts value = true) : kind'.accepts value = true := by
  cases kind <;> simp [isSelectionKind] at h <;> cases kind' <;> simp [isSelectionKind, h] at h' <;>
    exact haccepts

variable {kind : ObservationKind}

/-- The kinds that have a context accept a selection, and have it in no group. -/
lemma context_fields (h : kind ≠ .diff) :
    (∀ name ∈ selectionFields, (kind.method.contract.field name).isSome = true) ∧
    (∃ field, kind.method.contract.field "stop_id" = some field ∧ field.kind = .string) ∧
    ∀ group ∈ kind.method.contract.exactlyOneOf, ∀ name ∈ group,
      name ∉ "stop_id" :: selectionFields := by
  cases kind with
  | diff => exact absurd rfl h
  | inspection | evaluate | memory | disassembly =>
    exact ⟨by decide, ⟨_, rfl, rfl⟩, by decide +kernel⟩

/-- The parent is accepted by some contract, so its selection is of the common kinds. -/
def SelectionAccepted (defaults : Json) : Prop :=
  ∀ name ∈ selectionFields, ∀ value, defaults.get name = some value →
    ∃ kind, isSelectionKind name kind = true ∧ kind.accepts value = true

lemma selectionAccepted_of_validate {method : CanonicalMethod} {parameters : Json}
    (h : method.validateParameters parameters = .ok ()) : SelectionAccepted parameters := by
  intro name hname value hvalue
  obtain ⟨object, rfl, haccepted⟩ := validate_ok_iff.mp h
  obtain ⟨field, hfield, haccepts⟩ := haccepted.kinds (name, value) (Json.mem_of_lookup hvalue)
  exact ⟨field.kind, selection_kinds method hname hfield, haccepts⟩

/-- An item whose kind has a context is accepted with the selection of its parent, at any stop. -/
lemma accepted_with_selection (hkind : kind ≠ .diff) {stopId stopId' : StopId}
    (hdefaults : SelectionAccepted defaults)
    (h : kind.method.contract.Accepted (arrange kind stopId object)) :
    kind.method.contract.Accepted (arrange kind stopId' (inheritSelection object defaults)) := by
  obtain ⟨hselection, ⟨stop, hstop, hstop_kind⟩, hgroups⟩ := context_fields hkind
  refine h.extend ?_ ?_ ?_
  · intro entry hentry
    rcases mem_arrange.mp hentry with ⟨_, rfl⟩ | ⟨hmem, hrest⟩
    · exact .inr ⟨stop, hstop, by rw [hstop_kind]; rfl⟩
    · rcases mem_inheritSelection hmem with hold | ⟨hname, hvalue⟩
      · exact .inl (mem_arrange.mpr (.inr ⟨hold, hrest⟩))
      · obtain ⟨field, hfield⟩ := Option.isSome_iff_exists.mp (hselection entry.1 hname)
        obtain ⟨kind', hkind', haccepts⟩ := hdefaults entry.1 hname entry.2 hvalue
        exact .inr ⟨field, hfield,
          isSelectionKind_accepts hkind' (selection_kinds _ hname hfield) haccepts⟩
  · intro name hname
    rw [hasField_arrange] at hname ⊢
    exact hname.imp_right fun hrest => ⟨hasField_inheritSelection hrest.1, hrest.2⟩
  · intro group hgroup name hname
    have hother : name ∉ selectionFields := fun hmem =>
      hgroups group hgroup name hname (List.mem_cons_of_mem _ hmem)
    rw [Bool.eq_iff_iff, hasField_arrange, hasField_arrange]
    unfold Json.hasField
    rw [lookup_inheritSelection hother]

/-! ### The checks beyond the contracts -/

/-- The fields that the two passes may differ in. -/
def variedFields : List String := ["name", "stop_id", "view"] ++ selectionFields

/-- The checks read none of the fields that the two passes differ in. -/
lemma check_congr {object object' : List (String × Json)}
    (h : ∀ name, name ∉ variedFields → Json.lookup object' name = Json.lookup object name)
    (maximum : ℕ) (budgets : Budgets) :
    kind.check object' maximum budgets = kind.check object maximum budgets := by
  cases kind with
  | inspection | diff => rfl
  | evaluate =>
    have hexpressions := h "expressions" (by decide)
    have hexpression := h "expression" (by decide)
    unfold ObservationKind.check checkEvaluate expressionCount
    rw [hexpressions, hexpression]
  | memory =>
    have hlength := h "length" (by decide)
    have haddress := h "address" (by decide)
    have hexpression := h "address_expression" (by decide)
    unfold ObservationKind.check checkMemory memoryLength checkAddress
    rw [hlength, haddress, hexpression]
  | disassembly =>
    have haround := h "around" (by decide)
    have hrange := h "range" (by decide)
    unfold ObservationKind.check checkDisassembly
    rw [haround, hrange]

/-- A kind and the object of its request; what `parse` computes of an item. -/
structure Parsed (item : Json) (stopId : StopId) (budgets : Budgets) (maximum : ℕ)
    (defaults : Json) (request : ObservationRequest) (budgets' : Budgets) : Prop where
  parsed : ∃ fields view, item = .object fields ∧
    (Json.lookup fields "view").bind Json.asStr = some view ∧
    request.kind = .ofView view ∧
    request.name = ((Json.lookup fields "name").bind Json.asStr).getD view ∧
    request.name ≠ "" ∧
    request = .ofObject request.name request.kind
      (arrange request.kind stopId (inheritSelection fields defaults)) ∧
    request.kind.method.contract.Accepted
      (arrange request.kind stopId (inheritSelection fields defaults)) ∧
    request.kind.check (arrange request.kind stopId (inheritSelection fields defaults)) maximum
      budgets = .ok budgets'

variable {item : Json} {stopId : StopId} {budgets budgets' : Budgets} {maximum : ℕ}

/-- What a successful parse of an item has checked. -/
lemma parse_ok_iff {request : ObservationRequest} :
    ObservationRequest.parse item stopId budgets maximum defaults = .ok (request, budgets') ↔
      Parsed item stopId budgets maximum defaults request budgets' := by
  unfold ObservationRequest.parse
  constructor
  · intro h
    cases item with
    | object fields =>
      simp only [Json.asObject] at h
      rw [lookup_inheritSelection (by decide), lookup_inheritSelection (by decide)] at h
      cases hview : (Json.lookup fields "view").bind Json.asStr with
      | none =>
        rw [hview] at h
        cases h
      | some view =>
        simp only [hview] at h
        obtain ⟨_, hname, h⟩ := except_bind_ok h
        obtain ⟨_, hvalid, h⟩ := except_bind_ok h
        obtain ⟨checked, hcheck, h⟩ := except_bind_ok h
        obtain ⟨rfl, rfl⟩ := Prod.mk.inj (Except.ok.inj h)
        obtain ⟨object, hobject, haccepted⟩ := validate_ok_iff.mp hvalid
        obtain rfl := Json.object.inj hobject
        exact ⟨fields, view, rfl, hview, rfl, rfl, of_decide_eq_true (ensure_ok hname), rfl,
          haccepted, hcheck⟩
    | null | bool _ | unsigned _ | negative _ | decimal _ | string _ | array _ => cases h
  · rintro ⟨fields, view, rfl, hview, hkind, hname, hne, hrequest, haccepted, hcheck⟩
    simp only [Json.asObject]
    rw [lookup_inheritSelection (by decide), lookup_inheritSelection (by decide), hview]
    simp only
    rw [← hname, ← hkind, ensure_of (by simpa using hne)]
    have hvalid : request.kind.method.validateParameters (.object
        (arrange request.kind stopId (inheritSelection fields defaults))) = .ok () :=
      validate_ok_iff.mpr ⟨_, rfl, haccepted⟩
    simp only [bind, Except.bind, hvalid, hcheck]
    rw [← hrequest]

/-- The item was validated; with the selection of the parent it is parsed exactly if the kind is
not a diff or the parent has no selection, and then to the same name and budgets. -/
lemma parse_with_selection (stopId' : StopId) {request : ObservationRequest}
    (hdefaults : SelectionAccepted defaults)
    (h : ObservationRequest.parse item stopId budgets maximum .null = .ok (request, budgets'))
    (hkind : request.kind ≠ .diff ∨ ∀ field ∈ selectionFields, defaults.get field = none) :
    ∃ request', ObservationRequest.parse item stopId' budgets maximum defaults =
        .ok (request', budgets') ∧ request'.name = request.name ∧ request'.kind = request.kind := by
  obtain ⟨fields, view, rfl, hview, hview_kind, hname, hne, hrequest, haccepted, hcheck⟩ :=
    parse_ok_iff.mp h
  rw [inheritSelection_null] at haccepted hcheck
  set object' := arrange request.kind stopId' (inheritSelection fields defaults)
  refine ⟨.ofObject request.name request.kind object', parse_ok_iff.mpr ?_, rfl, rfl⟩
  have haccepted' : request.kind.method.contract.Accepted object' := by
    by_cases hdiff : request.kind = .diff
    · -- a diff has no stop, and without a selection nothing else changes
      have hsame := inheritSelection_of_none fields (hkind.resolve_left (not_not.mpr hdiff))
      have harranged : object' = arrange request.kind stopId fields := by
        simp only [object', hsame, hdiff, arrange]
        rfl
      rw [harranged]
      exact haccepted
    · exact accepted_with_selection hdiff hdefaults haccepted
  refine ⟨fields, view, rfl, hview, hview_kind, hname, hne, rfl, haccepted', ?_⟩
  rw [← hcheck]
  refine check_congr (fun name hother => ?_) maximum budgets
  have harranged : name ∉ ["name", "stop_id", "view"] := fun hmem =>
    hother (List.mem_append_left _ hmem)
  have hselection : name ∉ selectionFields := fun hmem => hother (List.mem_append_right _ hmem)
  rw [lookup_arrange harranged, lookup_arrange harranged, lookup_inheritSelection hselection]

/-- The selection of the parent reaches an item that has none. -/
lemma hasField_of_inherited {defaults value : Json} (hname : name ∈ fields)
    (hvalue : defaults.get name = some value) :
    Json.hasField (fields.foldl (inheritField defaults) object) name = true := by
  induction fields generalizing object with
  | nil => cases hname
  | cons field fields ih =>
    rw [List.foldl_cons]
    by_cases hrest : name ∈ fields
    · exact ih hrest
    · obtain rfl := (List.mem_cons.mp hname).resolve_right hrest
      refine hasField_foldl_inheritField ?_
      rw [Json.hasField, lookup_inheritField, if_pos rfl, hvalue]
      rfl

/-- The contract of a diff knows no selection. -/
lemma diff_without_selection (h : name ∈ selectionFields) :
    CanonicalMethod.inspectionDiff.contract.field name = none := by
  have hall : ∀ name ∈ selectionFields,
      (CanonicalMethod.inspectionDiff.contract.field name).isNone = true := by decide
  exact Option.isNone_iff_eq_none.mp (hall name h)

/-- A diff that is accepted has no field of the selection. -/
lemma hasField_of_accepted_diff
    (h : CanonicalMethod.inspectionDiff.contract.Accepted (arrange .diff stopId object))
    (hname : name ∈ selectionFields) : Json.hasField object name = false := by
  by_contra htrue
  have harranged : Json.hasField (arrange .diff stopId object) name = true := by
    have hother : name ≠ "name" ∧ name ≠ "view" := by
      refine ⟨?_, ?_⟩ <;> rintro rfl <;> revert hname <;> decide
    rw [hasField_arrange]
    exact .inr ⟨by simpa using htrue, hother.1, fun hdiff => absurd rfl hdiff, fun _ => hother.2⟩
  obtain ⟨value, hmem⟩ := Json.hasField_iff.mp harranged
  obtain ⟨field, hfield, _⟩ := h.kinds _ hmem
  rw [diff_without_selection hname] at hfield
  cases hfield

/-- A diff that was validated is parsed only under a parent without a selection. -/
lemma parse_diff {stopId stopId' : StopId} {budgets budgets' budgets₁ budgets₁' : Budgets}
    {request request' : ObservationRequest}
    (h : ObservationRequest.parse item stopId budgets maximum .null = .ok (request, budgets'))
    (hdiff : request.kind = .diff)
    (h' : ObservationRequest.parse item stopId' budgets₁ maximum defaults = .ok (request',
      budgets₁')) : ∀ field ∈ selectionFields, defaults.get field = none := by
  obtain ⟨fields, view, rfl, hview, hkind, _, _, _, haccepted, _⟩ := parse_ok_iff.mp h
  obtain ⟨fields', view', hitem, hview', hkind', _, _, _, haccepted', _⟩ := parse_ok_iff.mp h'
  obtain rfl := Json.object.inj hitem
  rw [hview] at hview'
  obtain rfl := Option.some.inj hview'
  rw [hkind', ← hkind, hdiff] at haccepted'
  rw [hdiff, inheritSelection_null] at haccepted
  intro field hfield
  by_contra hsome
  obtain ⟨value, hvalue⟩ := Option.ne_none_iff_exists'.mp hsome
  have hnone := hasField_of_accepted_diff haccepted' hfield
  rw [inheritSelection, if_neg, hasField_of_inherited hfield hvalue] at hnone
  · cases hnone
  · rw [Bool.not_eq_true, List.any_eq_false]
    intro name hname
    rw [hasField_of_accepted_diff haccepted hname]
    exact Bool.false_ne_true

/-! ### Plans -/

variable {items : List Json} {names : List String} {requests : List ObservationRequest}

/-- A step of the loop that succeeds. -/
lemma parseItems_cons_ok {defaults item : Json} {budgets : Budgets}
    (h : parseItems stopId maximum defaults (item :: items) names budgets = .ok requests) :
    ∃ request budgets' name rest,
      ObservationRequest.parse item stopId budgets maximum defaults = .ok (request, budgets') ∧
      settleName item names request.name = .ok name ∧
      parseItems stopId maximum defaults items (name :: names) budgets' = .ok rest ∧
      requests = { request with name := name } :: rest := by
  rw [parseItems] at h
  obtain ⟨⟨request, budgets'⟩, hparse, h⟩ := except_bind_ok h
  obtain ⟨name, hname, h⟩ := except_bind_ok h
  obtain ⟨rest, hrest, h⟩ := except_bind_ok h
  exact ⟨request, budgets', name, rest, hparse, hname, hrest, (Except.ok.inj h).symm⟩

/-- A plan that was validated is parsed to the same names. -/
lemma parseItems_with_selection {stopId stopId' : StopId} (hdefaults : SelectionAccepted defaults)
    {budgets : Budgets} (h : parseItems stopId maximum .null items names budgets = .ok requests)
    (hkind : (∀ request ∈ requests, request.kind ≠ .diff) ∨ ∀ field ∈ selectionFields, defaults.get
      field = none) :
    ∃ requests', parseItems stopId' maximum defaults items names budgets = .ok requests' ∧
      requests'.map ObservationRequest.name = requests.map ObservationRequest.name := by
  induction items generalizing names budgets requests with
  | nil =>
    obtain rfl := Except.ok.inj h
    exact ⟨[], rfl, rfl⟩
  | cons item items ih =>
    obtain ⟨request, budgets', name, rest, hparse, hname, hrest, rfl⟩ := parseItems_cons_ok h
    obtain ⟨request', hparse', hname', _⟩ := parse_with_selection stopId' hdefaults
      hparse (hkind.imp_left fun hall => hall { request with name := name } List.mem_cons_self)
    obtain ⟨rest', hrest', hnames⟩ := ih hrest
      (hkind.imp_left fun hall request hmem => hall request (List.mem_cons_of_mem _ hmem))
    refine ⟨{ request' with name := name } :: rest', ?_, ?_⟩
    · rw [parseItems, hparse']
      simp only [bind, Except.bind, hname', hname, hrest']
    · rw [List.map_cons, List.map_cons, hnames]

/-- A plan with a diff is parsed only under a parent without a selection. -/
lemma parseItems_diff {stopId stopId' : StopId} {names names' : List String}
    {requests requests' : List ObservationRequest}
    (h : parseItems stopId maximum .null items names budgets = .ok requests)
    (h' : parseItems stopId' maximum defaults items names' budgets' = .ok requests')
    (hdiff : ∃ request ∈ requests, request.kind = .diff) :
    ∀ field ∈ selectionFields, defaults.get field = none := by
  induction items generalizing names names' budgets budgets' requests requests' with
  | nil =>
    obtain rfl := Except.ok.inj h
    obtain ⟨_, hnone, _⟩ := hdiff
    cases hnone
  | cons item items ih =>
    obtain ⟨request, _, name, rest, hparse, _, hrest, rfl⟩ := parseItems_cons_ok h
    obtain ⟨request', _, name', rest', hparse', _, hrest', rfl⟩ := parseItems_cons_ok h'
    obtain ⟨found, hmem, hkind⟩ := hdiff
    rcases List.mem_cons.mp hmem with rfl | hmem
    · exact parse_diff hparse hkind hparse'
    · exact ih hrest hrest' ⟨found, hmem, hkind⟩

/-! ### Names -/

lemma suffixed_injective (base : String) : Function.Injective (suffixed base) := by
  intro i j h
  have hnumbers := (Numerals.trailing h).2
  omega

/-- Among one more names than are taken there is a new one. -/
lemma freshName_notMem (names : List String) (base : String) : freshName names base ∉ names := by
  set tried := (List.range (names.length + 1)).map (suffixed base) with htried
  have hnodup : tried.Nodup := List.nodup_range.map (suffixed_injective base)
  cases hfound : tried.find? fun name => name ∉ names with
  | some name =>
    rw [freshName, ← htried, hfound]
    simpa using List.find?_some hfound
  | none =>
    have hsubset : tried ⊆ names := by
      intro name hname
      simpa using List.find?_eq_none.mp hfound name hname
    have hlength := (hnodup.subperm hsubset).length_le
    rw [htried, List.length_map, List.length_range] at hlength
    omega

/-- A settled name is new, and is the given one if one was given. -/
lemma settleName_ok {name name' : String} (h : settleName item names name = .ok name') :
    name' ∉ names ∧ ((item.get "name").isSome = true → name' = name) := by
  unfold settleName at h
  split at h
  · rename_i hnew
    obtain rfl := Except.ok.inj h
    exact ⟨hnew, fun _ => rfl⟩
  · split at h
    · cases h
    · rename_i hunnamed
      obtain rfl := Except.ok.inj h
      exact ⟨freshName_notMem _ _, fun hnamed => absurd hnamed hunnamed⟩

/-! ### Budgets -/

/-- What the checks of a kind add to the budgets. -/
lemma check_budgets (h : kind.check object maximum budgets = .ok budgets')
    (hmemory : budgets.memory ≤ maximum) (hexpressions : budgets.expressions ≤ 16) :
    budgets'.memory = budgets.memory + (if kind = .memory then memoryLength object else 0) ∧
    budgets'.expressions =
      budgets.expressions + (if kind = .evaluate then expressionCount object else 0) ∧
    budgets'.memory ≤ maximum ∧ budgets'.expressions ≤ 16 := by
  cases kind with
  | inspection | diff =>
    obtain rfl := Except.ok.inj h
    exact ⟨rfl, rfl, hmemory, hexpressions⟩
  | evaluate =>
    simp only [ObservationKind.check, checkEvaluate] at h
    iterate 2 obtain ⟨_, _, h⟩ := except_bind_ok h
    obtain ⟨_, hbound, h⟩ := except_bind_ok h
    iterate 2 obtain ⟨_, _, h⟩ := except_bind_ok h
    obtain rfl := Except.ok.inj h
    exact ⟨rfl, rfl, hmemory, of_decide_eq_true (ensure_ok hbound)⟩
  | memory =>
    simp only [ObservationKind.check, checkMemory] at h
    iterate 2 obtain ⟨_, _, h⟩ := except_bind_ok h
    obtain ⟨_, hbound, h⟩ := except_bind_ok h
    iterate 2 obtain ⟨_, _, h⟩ := except_bind_ok h
    obtain rfl := Except.ok.inj h
    exact ⟨rfl, rfl, of_decide_eq_true (ensure_ok hbound), hexpressions⟩
  | disassembly =>
    simp only [ObservationKind.check] at h
    obtain ⟨_, _, h⟩ := except_bind_ok h
    obtain rfl := Except.ok.inj h
    exact ⟨rfl, rfl, hmemory, hexpressions⟩

/-- What an item asks for by name is kept. -/
def KeepsName (item : Json) (request : ObservationRequest) : Prop :=
  ∀ name, item.get "name" = some (.string name) → request.name = name

/-- What the loop of a plan guarantees. -/
lemma parseItems_ok {budgets : Budgets}
    (h : parseItems stopId maximum defaults items names budgets = .ok requests)
    (hmemory : budgets.memory ≤ maximum) (hexpressions : budgets.expressions ≤ 16) :
    (requests.map ObservationRequest.name).Nodup ∧
    (∀ request ∈ requests, request.name ∉ names) ∧
    List.Forall₂ KeepsName items requests ∧
    budgets.memory + (requests.map ObservationRequest.memoryBytes).sum ≤ maximum ∧
    budgets.expressions + (requests.map ObservationRequest.expressions).sum ≤ 16 := by
  induction items generalizing names budgets requests with
  | nil =>
    obtain rfl := Except.ok.inj h
    exact ⟨List.nodup_nil, nofun, .nil, hmemory, hexpressions⟩
  | cons item items ih =>
    obtain ⟨request, budgets', name, rest, hparse, hname, hrest, rfl⟩ := parseItems_cons_ok h
    obtain ⟨fields, view, rfl, _, _, hparsed, _, hrequest, _, hcheck⟩ := parse_ok_iff.mp hparse
    obtain ⟨hmemory', hexpressions', hmaximum, hlimit⟩ :=
      check_budgets hcheck hmemory hexpressions
    obtain ⟨hnodup, hnew, hkeeps, hsum, hcount⟩ := ih hrest hmaximum hlimit
    obtain ⟨hfresh, hgiven⟩ := settleName_ok hname
    have hbytes : request.memoryBytes =
        if request.kind = .memory then memoryLength (arrange request.kind stopId
          (inheritSelection fields defaults)) else 0 := by
      rw [hrequest]
      rfl
    have hevaluated : request.expressions =
        if request.kind = .evaluate then expressionCount (arrange request.kind stopId
          (inheritSelection fields defaults)) else 0 := by
      rw [hrequest]
      rfl
    refine ⟨?_, ?_, .cons ?_ hkeeps, ?_, ?_⟩
    · rw [List.map_cons, List.nodup_cons]
      refine ⟨fun hmem => ?_, hnodup⟩
      obtain ⟨other, hother, heq⟩ := List.mem_map.mp hmem
      exact hnew other hother (heq ▸ List.mem_cons_self)
    · intro other hother
      rcases List.mem_cons.mp hother with rfl | hother
      · exact hfresh
      · exact fun hmem => hnew other hother (List.mem_cons_of_mem _ hmem)
    · intro given hgiven_name
      have hsome : (Json.get (.object fields) "name").isSome = true := by rw [hgiven_name]; rfl
      have hlookup : Json.lookup fields "name" = some (.string given) := hgiven_name
      rw [hlookup] at hparsed
      exact (hgiven hsome).trans hparsed
    · rw [List.map_cons, List.sum_cons]
      have hkeep : ObservationRequest.memoryBytes { request with name := name } =
          request.memoryBytes := rfl
      omega
    · rw [List.map_cons, List.sum_cons]
      have hkeep : ObservationRequest.expressions { request with name := name } =
          request.expressions := rfl
      omega

/-- The parent has no selection, or the plan no diff. -/
def Inheritable (parameters : Json) (plan : List ObservationRequest) : Prop :=
  (∀ request ∈ plan, request.kind ≠ .diff) ∨
    ∀ field ∈ selectionFields, parameters.get field = none

/-- The names of the plan are distinct and those that its items ask for, it has one to sixteen
reads, and their memory and expressions are within the budgets. -/
structure WellFormedPlan (items : List Json) (maximum : ℕ) (plan : List ObservationRequest) :
    Prop where
  distinct : (plan.map ObservationRequest.name).Nodup
  named : List.Forall₂ KeepsName items plan
  nonempty : 1 ≤ plan.length
  count : plan.length ≤ 16
  memory : (plan.map ObservationRequest.memoryBytes).sum ≤ maximum
  expressions : (plan.map ObservationRequest.expressions).sum ≤ 16

/-- A plan that is parsed is well formed. -/
lemma parseObservationRequests_ok {value : Json} {plan : List ObservationRequest}
    (h : parseObservationRequests value stopId maximum defaults = .ok plan) :
    ∃ items, value = .array items ∧ WellFormedPlan items maximum plan := by
  cases value with
  | array items =>
    simp only [parseObservationRequests, Json.asArray] at h
    obtain ⟨_, hcount, h⟩ := except_bind_ok h
    obtain ⟨hdistinct, _, hnamed, hmemory, hexpressions⟩ :=
      parseItems_ok h (Nat.zero_le _) (Nat.zero_le _)
    have hlength := hnamed.length_eq
    have hbounds := ensure_ok hcount
    simp only [Bool.and_eq_true, Bool.not_eq_true', List.isEmpty_eq_false_iff,
      decide_eq_true_eq] at hbounds
    have hpositive := List.length_pos_of_ne_nil hbounds.1
    refine ⟨items, rfl, hdistinct, hnamed, by omega, by omega, ?_, ?_⟩
    · simpa using hmemory
    · simpa using hexpressions
  | null | bool _ | unsigned _ | negative _ | decimal _ | string _ | object _ => cases h

/-- A plan that was validated is parsed at any stop, under a parent that its contract accepts,
exactly if the parent has no selection or the plan no diff; and then to the same names.  Every
plan that is parsed, whether it was validated or not, is well formed. -/
theorem validated_plan_parses (items : Json) (maximum : ℕ) :
    (∀ (stopId : StopId) (method : CanonicalMethod) (parameters : Json),
      method.validateParameters parameters = .ok () →
      validateObservationRequests items maximum = .ok () →
      ∃ plan, parseObservationRequests items validationStop maximum .null = .ok plan ∧
        ((∃ requests, parseObservationRequests items stopId maximum parameters = .ok requests) ↔
          Inheritable parameters plan) ∧
        (Inheritable parameters plan → ∃ requests,
          parseObservationRequests items stopId maximum parameters = .ok requests ∧
          requests.map ObservationRequest.name = plan.map ObservationRequest.name)) ∧
    (∀ stopId defaults requests,
      parseObservationRequests items stopId maximum defaults = .ok requests →
      ∃ array, items = .array array ∧ WellFormedPlan array maximum requests) := by
  refine ⟨fun stopId method parameters haccepted hvalidated => ?_,
    fun stopId defaults requests h => parseObservationRequests_ok h⟩
  obtain ⟨plan, hplan, _⟩ := except_bind_ok hvalidated
  have hselection := selectionAccepted_of_validate haccepted
  refine ⟨plan, hplan, ?_⟩
  cases items with
  | array array =>
    simp only [parseObservationRequests, Json.asArray] at hplan ⊢
    obtain ⟨_, hcount, hplan⟩ := except_bind_ok hplan
    rw [hcount]
    have hforward : Inheritable parameters plan → ∃ requests,
        parseItems stopId maximum parameters array [] {} = .ok requests ∧
        requests.map ObservationRequest.name = plan.map ObservationRequest.name :=
      fun hinheritable => parseItems_with_selection hselection hplan hinheritable
    refine ⟨⟨?_, ?_⟩, hforward⟩
    · rintro ⟨requests, hrequests⟩
      by_cases hdiff : ∃ request ∈ plan, request.kind = .diff
      · exact .inr (parseItems_diff hplan hrequests hdiff)
      · refine .inl fun request hrequest hkind => hdiff ⟨request, hrequest, hkind⟩
    · intro hinheritable
      obtain ⟨requests, hrequests, _⟩ := hforward hinheritable
      exact ⟨requests, hrequests⟩
  | null | bool _ | unsigned _ | negative _ | decimal _ | string _ | object _ => cases hplan

/-- A comparison of two snapshots and a read of the registers. -/
def diffPlan : Json := .array [
  .object [("view", .string "diff"), ("before_snapshot_id", .string "snap_1"),
    ("after_snapshot_id", .string "snap_2")],
  .object [("view", .string "registers")]]

/-- A step of one thread, with the plan. -/
def stepThread (plan : Json) : Json := .object
  [("action", .string "step"), ("thread_id", .string "thr_1"), ("inspect", plan),
   ("wait", .object [("until", .string "stopped")])]

/-- Whether a check succeeds. -/
def succeeds {α : Type} : Except Error α → Bool
  | .ok _ => true
  | .error _ => false

lemma ok_of_succeeds {x : Except Error Unit} (h : succeeds x = true) : x = .ok () := by
  cases x with
  | error error => cases h
  | ok => rfl

/-- The step of a thread and its plan are both accepted before the target is resumed, and the plan
is rejected at the stop, because the diff has inherited the thread. -/
theorem validated_diff_rejected :
    CanonicalMethod.executionControl.validateParameters (stepThread diffPlan) = .ok () ∧
    validateObservationRequests diffPlan 4096 = .ok () ∧
    (match parseObservationRequests diffPlan ⟨"stop_1"⟩ 4096 (stepThread diffPlan) with
      | .ok _ => none
      | .error error => some error) =
        some { code := .invalidArgument, message := "unknown parameter thread_id" } := by
  refine ⟨ok_of_succeeds ?_, ok_of_succeeds ?_, ?_⟩ <;> decide

/-- Two reads of the registers and an expression with a name. -/
def registersPlan : Json := .array [
  .object [("view", .string "registers")],
  .object [("view", .string "registers")],
  .object [("view", .string "evaluate"), ("name", .string "x"), ("expression", .string "x + 1")]]

/-- A plan without a diff is parsed at the stop of a thread's step. -/
theorem registersPlan_parses :
    CanonicalMethod.executionControl.validateParameters (stepThread registersPlan) = .ok () ∧
    validateObservationRequests registersPlan 4096 = .ok () ∧
    ∃ requests, parseObservationRequests registersPlan ⟨"stop_1"⟩ 4096
      (stepThread registersPlan) = .ok requests := by
  have haccepted : CanonicalMethod.executionControl.validateParameters
      (stepThread registersPlan) = .ok () := ok_of_succeeds (by decide)
  have hvalidated : validateObservationRequests registersPlan 4096 = .ok () :=
    ok_of_succeeds (by decide)
  have hkinds : (match parseObservationRequests registersPlan validationStop 4096 .null with
      | .ok plan => plan.all fun request => request.kind ≠ .diff
      | .error _ => false) = true := by decide
  obtain ⟨plan, hplan, hiff, _⟩ := (validated_plan_parses registersPlan 4096).1 ⟨"stop_1"⟩
    .executionControl (stepThread registersPlan) haccepted hvalidated
  rw [hplan] at hkinds
  refine ⟨haccepted, hvalidated, hiff.mpr (.inl fun request hrequest => ?_)⟩
  exact of_decide_eq_true (List.all_eq_true.mp hkinds request hrequest)

end GdbAi
