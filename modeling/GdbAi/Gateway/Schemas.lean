import GdbAi.Gateway.Contracts
import GdbAi.Library.Schema

/-!
# The published schemas

Each contract is also published as a JSON schema, built by a second recursion over the kinds.
Both readings of a contract accept the same values, provided that fields of one name are of one
kind: the check of an object takes the first field of a name, and the schema keeps the last.
-/

namespace GdbAi

open Schema

/-! ### Schemas of contracts -/

/-- The keywords that every object contract publishes. -/
def objectKeywords (properties : List (String × Json)) (required : List String) :
    List (String × Json) :=
  [("type", .string "object"), ("properties", .object properties),
    ("required", .array (required.map .string)), ("additionalProperties", .bool false)]

/-- One of the names has to be there. -/
def oneRequired (names : List String) : Json :=
  .array (names.map fun name => .object [("required", .array [.string name])])

def requiredNames (fields : List ParameterField) : List String :=
  (fields.filter fun field => field.required).map fun field => field.name

mutual

/-- `ParameterKind::schema`. -/
def ParameterKind.schema : ParameterKind → Json
  | .string => .object [("type", .string "string")]
  | .boolean => .object [("type", .string "boolean")]
  | .unsigned => .object [("type", .string "integer"), ("minimum", .unsigned 0)]
  | .positive => .object [("type", .string "integer"), ("minimum", .unsigned 1)]
  | .stringArray =>
    .object [("type", .string "array"), ("items", .object [("type", .string "string")])]
  | .shape contract => objectSchema contract
  | .arrayOf kind => .object [("type", .string "array"), ("items", kind.schema)]
  | .boundedArray kind maximum =>
    .object [("type", .string "array"), ("items", kind.schema), ("maxItems", .unsigned maximum)]
  | .mapOf kind => .object [("type", .string "object"), ("additionalProperties", kind.schema)]
  | .oneOf kinds => .object [("oneOf", .array (schemas kinds))]
  | .booleanOrEnum values =>
    .object [("oneOf", .array [.object [("type", .string "boolean")],
      .object [("type", .string "string"), ("enum", .array (values.map .string))]])]
  | .enum values => .object [("type", .string "string"), ("enum", .array (values.map .string))]

/-- `ObjectContract::schema`. -/
def objectSchema : ObjectContract → Json
  | ⟨fields, minProperties, exactlyOneOf⟩ =>
    .object (objectKeywords (properties fields []) (requiredNames fields) ++
      (if minProperties > 0 then [("minProperties", .unsigned minProperties)] else []) ++
      (if exactlyOneOf.isEmpty then [] else [("oneOf", oneRequired exactlyOneOf)]))

/-- The properties of further fields. A name that is there already gets a new schema. -/
def properties : List ParameterField → List (String × Json) → List (String × Json)
  | [], declared => declared
  | field :: fields, declared => properties fields (declare field declared)

def declare : ParameterField → List (String × Json) → List (String × Json)
  | ⟨name, kind, _⟩, declared => Json.set declared name kind.schema

def schemas : List ParameterKind → List Json
  | [] => []
  | kind :: kinds => kind.schema :: schemas kinds

end

/-- `MethodContract::schema`. -/
def MethodContract.schema (contract : MethodContract) : Json :=
  .object (objectKeywords (properties contract.fields []) (requiredNames contract.fields) ++
    if contract.exactlyOneOf.isEmpty then []
    else [("allOf", .array (contract.exactlyOneOf.map fun names =>
      .object [("oneOf", oneRequired names)]))])

/-! ### Contracts without ambiguity -/

/-- Fields of one name are of one kind, in a kind and all that it is made of. -/
inductive ParameterKind.Coherent : ParameterKind → Prop
  | string : Coherent .string
  | boolean : Coherent .boolean
  | unsigned : Coherent .unsigned
  | positive : Coherent .positive
  | stringArray : Coherent .stringArray
  | shape {contract : ObjectContract} :
      (∀ field ∈ contract.fields, ∀ other ∈ contract.fields,
        field.name = other.name → field.kind = other.kind) →
      (∀ field ∈ contract.fields, Coherent field.kind) → Coherent (.shape contract)
  | arrayOf {kind : ParameterKind} : Coherent kind → Coherent (.arrayOf kind)
  | boundedArray {kind : ParameterKind} (maximum : ℕ) :
      Coherent kind → Coherent (.boundedArray kind maximum)
  | mapOf {kind : ParameterKind} : Coherent kind → Coherent (.mapOf kind)
  | oneOf {kinds : List ParameterKind} : (∀ kind ∈ kinds, Coherent kind) → Coherent (.oneOf kinds)
  | booleanOrEnum (values : List String) : Coherent (.booleanOrEnum values)
  | enum (values : List String) : Coherent (.enum values)

/-- The numbers of a value are integers of 64 bits. -/
inductive Integral : Json → Prop
  | null : Integral .null
  | bool (value : Bool) : Integral (.bool value)
  | unsigned {value : ℕ} : value < 2 ^ 64 → Integral (.unsigned value)
  | negative {magnitude : ℕ} : magnitude < 2 ^ 63 → Integral (.negative magnitude)
  | string (text : String) : Integral (.string text)
  | array {items : List Json} : (∀ item ∈ items, Integral item) → Integral (.array items)
  | object {fields : List (String × Json)} :
      (∀ field ∈ fields, Integral field.2) → Integral (.object fields)

/-- Fields of one name are of one kind. -/
def Unambiguous (fields : List ParameterField) : Prop :=
  ∀ field ∈ fields, ∀ other ∈ fields, field.name = other.name → field.kind = other.kind

section Objects

variable {fields : List ParameterField} {object : List (String × Json)} {name : String}
  {value : Json}

lemma mem_declare {field : ParameterField} {declared : List (String × Json)}
    {property : String × Json} :
    property ∈ declare field declared ↔
      property = (field.name, field.kind.schema) ∨
        property ∈ declared ∧ property.1 ≠ field.name := by
  rw [declare, Json.mem_set]

lemma mem_properties {declared : List (String × Json)} {property : String × Json}
    (h : property ∈ properties fields declared) :
    (∃ field ∈ fields, property = (field.name, field.kind.schema)) ∨ property ∈ declared := by
  induction fields generalizing declared with
  | nil => exact .inr h
  | cons field fields ih =>
    obtain ⟨other, hother, rfl⟩ | hdeclared := ih h
    · exact .inl ⟨other, .tail _ hother, rfl⟩
    · obtain rfl | ⟨hold, -⟩ := mem_declare.mp hdeclared
      · exact .inl ⟨field, .head _, rfl⟩
      · exact .inr hold

/-- A name that was declared stays declared. -/
lemma exists_property {declared : List (String × Json)}
    (h : (∃ schema, (name, schema) ∈ declared) ∨ ∃ field ∈ fields, field.name = name) :
    ∃ schema, (name, schema) ∈ properties fields declared := by
  induction fields generalizing declared with
  | nil => exact h.resolve_right fun ⟨_, hmem, _⟩ => nomatch hmem
  | cons field fields ih =>
    refine ih ?_
    by_cases hname : field.name = name
    · exact .inl ⟨_, mem_declare.mpr (.inl (Prod.ext hname.symm rfl))⟩
    · obtain ⟨schema, hschema⟩ | ⟨other, hother, hsame⟩ := h
      · exact .inl ⟨schema, mem_declare.mpr (.inr ⟨hschema, Ne.symm hname⟩)⟩
      · obtain rfl | htail := List.mem_cons.mp hother
        · exact absurd hsame hname
        · exact .inr ⟨other, htail, hsame⟩

/-- The schema of a field is among the properties, as no other field of its name has another
kind. -/
lemma Unambiguous.declared (h : Unambiguous fields) {field : ParameterField}
    (hfield : field ∈ fields) : (field.name, field.kind.schema) ∈ properties fields [] := by
  have hdeclared : ∃ schema, (field.name, schema) ∈ properties fields [] :=
    exists_property (.inr ⟨field, hfield, rfl⟩)
  obtain ⟨schema, hschema⟩ := hdeclared
  obtain ⟨other, hother, hsame⟩ | hnil := mem_properties hschema
  · obtain ⟨hname, rfl⟩ := Prod.mk.inj hsame
    rwa [h field hfield other hother hname]
  · cases hnil

lemma mem_requiredNames : name ∈ requiredNames fields ↔
    ∃ field ∈ fields, field.required = true ∧ field.name = name := by
  simp [requiredNames, and_assoc]

/-- What the keywords of an object contract say of an object. -/
lemma Unambiguous.satisfies_object (h : Unambiguous fields) (more : List (String × Json)) :
    satisfies (.object (objectKeywords (properties fields []) (requiredNames fields) ++ more))
        (.object object) = true ↔
      (∀ entry ∈ object, ∃ field ∈ fields, field.name = entry.1 ∧
        satisfies field.kind.schema entry.2 = true) ∧
      (∀ field ∈ fields, field.required = true → Json.hasField object field.name = true) ∧
      satisfiesAll ((properties fields []).map Prod.fst) more (.object object) = true := by
  have hnames : Schema.declared (objectKeywords (properties fields []) (requiredNames fields) ++
      more) = (properties fields []).map Prod.fst := rfl
  rw [satisfies, hnames, satisfiesAll_append, Bool.and_eq_true]
  simp only [objectKeywords, satisfiesAll, satisfiesKeyword_type,
    satisfiesKeyword_properties, satisfiesKeyword_required,
    satisfiesKeyword_additionalProperties, satisfies, hasType, decide_true,
    Bool.true_and, Bool.and_true, Bool.or_false, Bool.and_eq_true, List.all_eq_true,
    decide_eq_true_eq, satisfiesProperties_iff, mem_requiredNames, and_assoc]
  constructor
  · rintro ⟨hproperties, hrequired, hdeclared, hmore⟩
    refine ⟨fun entry hentry => ?_, fun field hfield hneeded => ?_, hmore⟩
    · obtain ⟨property, hproperty, hname⟩ := List.mem_map.mp (hdeclared entry hentry)
      obtain ⟨field, hfield, rfl⟩ | hnil := mem_properties hproperty
      · exact ⟨field, hfield, hname, hproperties _ hproperty entry hentry hname.symm⟩
      · cases hnil
    · exact hrequired field.name ⟨field, hfield, hneeded, rfl⟩
  · rintro ⟨hentries, hrequired, hmore⟩
    refine ⟨fun property hproperty entry hentry hname => ?_, ?_, fun entry hentry => ?_, hmore⟩
    · obtain ⟨field, hfield, rfl⟩ | hnil := mem_properties hproperty
      · obtain ⟨other, hother, hsame, hsatisfied⟩ := hentries entry hentry
        rwa [h field hfield other hother (hname.symm.trans hsame.symm)]
      · cases hnil
    · rintro _ ⟨field, hfield, hneeded, rfl⟩
      exact hrequired field hfield hneeded
    · obtain ⟨field, hfield, hname, -⟩ := hentries entry hentry
      exact List.mem_map.mpr ⟨_, h.declared hfield, hname⟩

lemma satisfies_not_object {properties more : List (String × Json)} {required : List String}
    (h : value.asObject = none) :
    satisfies (.object (objectKeywords properties required ++ more)) value = false := by
  rw [satisfies, objectKeywords, List.cons_append, satisfiesAll,
    satisfiesKeyword_type]
  cases value with
  | object fields => cases h
  | null | bool _ | unsigned _ | negative _ | decimal _ | string _ | array _ =>
    exact Bool.false_and _

/-- Exactly one of a group of names is there. -/
lemma satisfiesKeyword_oneRequired (declared names : List String) :
    satisfiesKeyword declared ("oneOf", oneRequired names) (.object object) =
      decide ((names.countP fun name => Json.hasField object name) = 1) := by
  have hone (name : String) : satisfies (.object [("required", .array [.string name])])
      (.object object) = Json.hasField object name := by
    rw [satisfies, satisfiesAll, satisfiesAll, Bool.and_true]
    exact (satisfiesKeyword_required [name]).trans (Bool.and_true _)
  rw [oneRequired, satisfiesKeyword_oneOf, countSatisfied_map]
  simp only [hone]

lemma acceptsNamed_eq (fields : List ParameterField) (name : String) (value : Json) :
    acceptsNamed fields name value =
      (fields.find? fun field => field.name = name).any fun field => field.kind.accepts value := by
  induction fields with
  | nil => rfl
  | cons field fields ih =>
    rw [acceptsNamed, List.find?_cons]
    split
    · rename_i hname
      rw [decide_eq_true hname, acceptsField]
      rfl
    · rename_i hname
      simp [hname, ih]

/-- The first field of a name accepts what any field of the name accepts. -/
lemma Unambiguous.find_accepts (h : Unambiguous fields) :
    (∃ field, (fields.find? fun field => field.name = name) = some field ∧
        field.kind.accepts value = true) ↔
      ∃ field ∈ fields, field.name = name ∧ field.kind.accepts value = true := by
  constructor
  · rintro ⟨field, hfind, haccepts⟩
    exact ⟨field, List.mem_of_find?_eq_some hfind, by simpa using List.find?_some hfind, haccepts⟩
  · rintro ⟨field, hfield, hname, haccepts⟩
    have hsome : (fields.find? fun field => field.name = name).isSome = true :=
      List.find?_isSome.mpr ⟨field, hfield, decide_eq_true hname⟩
    obtain ⟨first, hfirst⟩ := Option.isSome_iff_exists.mp hsome
    have hsame : first.name = name := by simpa using List.find?_some hfirst
    have hkind :=
      h field hfield first (List.mem_of_find?_eq_some hfirst) (hname.trans hsame.symm)
    exact ⟨first, hfirst, hkind ▸ haccepts⟩

end Objects

/-! ### Both readings agree -/

lemma schemas_eq (kinds : List ParameterKind) : schemas kinds = kinds.map ParameterKind.schema := by
  induction kinds with
  | nil => rfl
  | cons kind kinds ih => rw [schemas, ih, List.map_cons]

lemma countAccepting_eq (kinds : List ParameterKind) (value : Json) :
    countAccepting kinds value = kinds.countP fun kind => kind.accepts value := by
  induction kinds with
  | nil => rfl
  | cons kind kinds ih => rw [countAccepting, ih, List.countP_cons, Nat.add_comm]

lemma all_eq_all {α : Type} {items : List α} {p q : α → Bool}
    (h : ∀ item ∈ items, p item = q item) : items.all p = items.all q := by
  rw [Bool.eq_iff_iff, List.all_eq_true, List.all_eq_true]
  exact forall₂_congr fun item hitem => by rw [h item hitem]

/-- The fields of an object are checked alike when this is so for their kinds. -/
lemma Unambiguous.entries_iff {fields : List ParameterField} {object : List (String × Json)}
    (h : Unambiguous fields) (hkinds : ∀ field ∈ fields, ∀ {value : Json}, Integral value →
      field.kind.accepts value = satisfies field.kind.schema value)
    (hobject : ∀ entry ∈ object, Integral entry.2) :
    (∀ entry ∈ object, ∃ field ∈ fields, field.name = entry.1 ∧
        satisfies field.kind.schema entry.2 = true) ↔
      ∀ entry ∈ object, ∃ field, (fields.find? fun field => field.name = entry.1) = some field ∧
        field.kind.accepts entry.2 = true := by
  refine forall₂_congr fun entry hentry => ?_
  rw [h.find_accepts]
  refine exists_congr fun field => and_congr_right fun hfield => ?_
  rw [hkinds field hfield (hobject entry hentry)]

lemma acceptsObject_eq {contract : ObjectContract} {value : Json}
    (hfields : Unambiguous contract.fields)
    (hkinds : ∀ field ∈ contract.fields, ∀ {value : Json}, Integral value →
      field.kind.accepts value = satisfies field.kind.schema value)
    (hvalue : Integral value) :
    acceptsObject contract value = satisfies (objectSchema contract) value := by
  obtain ⟨fields, minProperties, exactlyOneOf⟩ := contract
  rw [objectSchema, List.append_assoc]
  cases hvalue with
  | @object object hobject =>
    have hmore (names : List String) : satisfiesAll names
        ((if minProperties > 0 then [("minProperties", .unsigned minProperties)] else []) ++
          if exactlyOneOf.isEmpty then [] else [("oneOf", oneRequired exactlyOneOf)])
        (.object object) = true ↔ minProperties ≤ object.length ∧ (exactlyOneOf.isEmpty = true ∨
          (exactlyOneOf.countP fun name => Json.hasField object name) = 1) := by
      rw [satisfiesAll_append, Bool.and_eq_true]
      refine and_congr ?_ ?_
      · split
        · simp [satisfiesAll]
        · simp [satisfiesAll, show minProperties = 0 by omega]
      · split
        · simp_all [satisfiesAll]
        · simp_all [satisfiesAll, satisfiesKeyword_oneRequired]
    rw [Bool.eq_iff_iff, hfields.satisfies_object, hmore, hfields.entries_iff hkinds hobject]
    simp only [acceptsObject, Json.asObject, Option.any_some, Bool.and_eq_true, decide_eq_true_eq,
      List.all_eq_true, Bool.or_eq_true, acceptsNamed_eq, Option.any_eq_true, Bool.not_eq_true',
      ← Bool.not_eq_true, ← imp_iff_not_or]
    tauto
  | _ =>
    rw [satisfies_not_object rfl]
    rfl

/-- A kind accepts the values that satisfy its schema. -/
lemma ParameterKind.Coherent.accepts_eq {kind : ParameterKind} (h : kind.Coherent) {value : Json}
    (hvalue : Integral value) : kind.accepts value = satisfies kind.schema value := by
  induction h generalizing value with
  | string => cases value <;> rfl
  | boolean => cases value <;> rfl
  | unsigned =>
    cases hvalue with
    | @unsigned number hlt =>
      have hread : Json.asUnsigned (.unsigned number) = some number := if_pos hlt
      simp [accepts, schema, hread, satisfies, satisfiesAll, hasType,
        asserts]
    | _ => rfl
  | positive =>
    cases hvalue with
    | @unsigned number hlt =>
      have hread : Json.asUnsigned (.unsigned number) = some number := if_pos hlt
      simp [accepts, schema, hread, satisfies, satisfiesAll, hasType,
        asserts, Nat.one_le_iff_ne_zero, Nat.pos_iff_ne_zero]
    | _ => rfl
  | stringArray =>
    cases hvalue with
    | @array items hitems =>
      have hstring (item : Json) : item.asStr.isSome =
          satisfies (.object [("type", .string "string")]) item := by
        cases item <;> rfl
      simp [accepts, schema, Json.asArray, hstring, satisfies, satisfiesAll,
        hasType]
    | _ => rfl
  | shape hfields hkinds ih => exact acceptsObject_eq hfields ih hvalue
  | arrayOf hkind ih =>
    cases hvalue with
    | array hitems =>
      refine (all_eq_all fun item hitem => ih (hitems item hitem)).trans ?_
      simp [schema, satisfies, satisfiesAll, hasType]
    | _ => rfl
  | boundedArray maximum hkind ih =>
    cases hvalue with
    | array hitems =>
      refine (congrArg (_ && ·) (all_eq_all fun item hitem => ih (hitems item hitem))).trans ?_
      simp [schema, satisfies, satisfiesAll, hasType, Bool.and_comm]
    | _ => rfl
  | mapOf hkind ih =>
    cases hvalue with
    | object hobject =>
      refine (all_eq_all fun field hfield => ih (hobject field hfield)).trans ?_
      simp [schema, satisfies, satisfiesAll, hasType, Schema.declared,
        Json.lookup]
    | _ => rfl
  | @oneOf kinds hkinds ih =>
    simp only [accepts, schema, satisfies, satisfiesAll, schemas_eq,
      satisfiesKeyword_oneOf, countSatisfied_map, countAccepting_eq, Bool.and_true]
    congr 2
    exact List.countP_congr fun kind hkind => by rw [ih kind hkind hvalue]
  | booleanOrEnum values =>
    cases hvalue with
    | string text => simp [accepts, schema, Json.asStr, Json.asBool, satisfies,
        satisfiesAll, hasType, countSatisfied]
    | _ => rfl
  | enum values =>
    cases hvalue with
    | string text => simp [accepts, schema, Json.asStr, satisfies, satisfiesAll,
        hasType]
    | _ => rfl

/-- `validate` succeeds exactly on what satisfies the schema of the method. -/
lemma MethodContract.validate_iff {contract : MethodContract} (hfields : Unambiguous contract.fields)
    (hkinds : ∀ field ∈ contract.fields, field.kind.Coherent) {value : Json}
    (hvalue : Integral value) :
    contract.validate value = .ok () ↔ satisfies contract.schema value = true := by
  rw [validate_ok_iff, schema]
  cases hvalue with
  | @object object hobject =>
    have hmore (names : List String) : satisfiesAll names
        (if contract.exactlyOneOf.isEmpty then []
          else [("allOf", .array (contract.exactlyOneOf.map fun names =>
            .object [("oneOf", oneRequired names)]))]) (.object object) = true ↔
        ∀ group ∈ contract.exactlyOneOf,
          (group.countP fun name => Json.hasField object name) = 1 := by
      split
      · simp_all [satisfiesAll]
      · simp [satisfiesAll, countSatisfied_map, List.countP_eq_length,
          satisfies, satisfiesKeyword_oneRequired]
    rw [hfields.satisfies_object, hmore,
      hfields.entries_iff (fun field hfield _ => (hkinds field hfield).accepts_eq) hobject]
    constructor
    · rintro ⟨_, ⟨⟩, haccepted⟩
      exact ⟨haccepted.kinds, haccepted.required, haccepted.groups⟩
    · rintro ⟨hentries, hrequired, hgroups⟩
      exact ⟨object, rfl, hentries, hrequired, hgroups⟩
  | _ =>
    rw [satisfies_not_object rfl]
    simp

/-! ### The contracts of the methods -/

mutual

/-- No object declares a name twice. -/
def ParameterKind.distinct : ParameterKind → Bool
  | .shape contract => distinctObject contract
  | .arrayOf kind | .boundedArray kind _ | .mapOf kind => kind.distinct
  | .oneOf kinds => distinctKinds kinds
  | _ => true

def distinctObject : ObjectContract → Bool
  | ⟨fields, _, _⟩ => (fields.map fun field => field.name).Nodup && distinctFields fields

def distinctFields : List ParameterField → Bool
  | [] => true
  | ⟨_, kind, _⟩ :: fields => kind.distinct && distinctFields fields

def distinctKinds : List ParameterKind → Bool
  | [] => true
  | kind :: kinds => kind.distinct && distinctKinds kinds

end

lemma unambiguous_of_nodup {fields : List ParameterField}
    (h : (fields.map fun field => field.name).Nodup) : Unambiguous fields :=
  fun _ hfield _ hother hname => congrArg _ (List.inj_on_of_nodup_map h hfield hother hname)

mutual

theorem ParameterKind.coherent_of_distinct : (kind : ParameterKind) → kind.distinct = true →
    kind.Coherent
  | .string, _ => .string
  | .boolean, _ => .boolean
  | .unsigned, _ => .unsigned
  | .positive, _ => .positive
  | .stringArray, _ => .stringArray
  | .shape ⟨fields, _, _⟩, h => by
    obtain ⟨hnames, hfields⟩ := Bool.and_eq_true_iff.mp h
    exact .shape (unambiguous_of_nodup (of_decide_eq_true hnames)) (coherent_fields fields hfields)
  | .arrayOf kind, h => .arrayOf (kind.coherent_of_distinct h)
  | .boundedArray kind maximum, h => .boundedArray maximum (kind.coherent_of_distinct h)
  | .mapOf kind, h => .mapOf (kind.coherent_of_distinct h)
  | .oneOf kinds, h => .oneOf (coherent_kinds kinds h)
  | .booleanOrEnum values, _ => .booleanOrEnum values
  | .enum values, _ => .enum values

theorem coherent_fields : (fields : List ParameterField) → distinctFields fields = true →
    ∀ field ∈ fields, field.kind.Coherent
  | [], _ => List.forall_mem_nil _
  | ⟨_, kind, _⟩ :: fields, h => by
    obtain ⟨hkind, hfields⟩ := Bool.and_eq_true_iff.mp h
    exact List.forall_mem_cons.mpr ⟨kind.coherent_of_distinct hkind, coherent_fields fields hfields⟩

theorem coherent_kinds : (kinds : List ParameterKind) → distinctKinds kinds = true →
    ∀ kind ∈ kinds, kind.Coherent
  | [], _ => List.forall_mem_nil _
  | kind :: kinds, h => by
    obtain ⟨hkind, hkinds⟩ := Bool.and_eq_true_iff.mp h
    exact List.forall_mem_cons.mpr ⟨kind.coherent_of_distinct hkind, coherent_kinds kinds hkinds⟩

end

lemma distinct_contract (method : CanonicalMethod) :
    distinctObject ⟨method.contract.fields, 0, []⟩ = true := by
  cases method <;> decide +kernel

/-- Runtime validation and the published schema accept the same values: for every kind and object
contract in which fields of one name are of one kind, and for every method. -/
theorem published_schema_agrees :
    (∀ kind : ParameterKind, kind.Coherent → ∀ value, Integral value →
      (kind.accepts value = true ↔ satisfies kind.schema value = true)) ∧
    (∀ contract : ObjectContract, (ParameterKind.shape contract).Coherent →
      ∀ value, Integral value →
        (acceptsObject contract value = true ↔
          satisfies (objectSchema contract) value = true)) ∧
    (∀ (method : CanonicalMethod) (value : Json), Integral value →
      (method.validateParameters value = .ok () ↔
        satisfies method.contract.schema value = true)) := by
  refine ⟨fun kind hkind value hvalue => ?_, fun contract hcontract value hvalue => ?_,
    fun method value hvalue => ?_⟩
  · rw [hkind.accepts_eq hvalue]
  · exact Bool.eq_iff_iff.mp (hcontract.accepts_eq hvalue)
  · obtain ⟨hnames, hfields⟩ := Bool.and_eq_true_iff.mp (distinct_contract method)
    exact MethodContract.validate_iff (unambiguous_of_nodup (of_decide_eq_true hnames))
      (coherent_fields _ hfields) hvalue

/-- A request for an artifact from an offset on satisfies the published schema. -/
theorem artifact_request_satisfies :
    satisfies CanonicalMethod.artifactGet.contract.schema
      (.object [("uri", .string "artifact:1"), ("offset", .unsigned 4)]) = true := by
  refine (published_schema_agrees.2.2 .artifactGet _ (.object ?_)).mp (by decide)
  exact List.forall_mem_cons.mpr
    ⟨.string _, List.forall_mem_cons.mpr ⟨.unsigned (by decide), List.forall_mem_nil _⟩⟩

/-- A name that is declared with two kinds: the check takes the first, the schema the last. -/
theorem repeated_name_disagrees :
    acceptsObject ⟨[optional "a" .string, optional "a" .boolean], 0, []⟩
        (.object [("a", .string "x")]) = true ∧
      satisfies (objectSchema ⟨[optional "a" .string, optional "a" .boolean], 0, []⟩)
        (.object [("a", .string "x")]) = false := by
  decide

end GdbAi
