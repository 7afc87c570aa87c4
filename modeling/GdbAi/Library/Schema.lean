import GdbAi.Library.JsonText

/-!
# The meaning of a JSON schema

A schema is a JSON value: `true` and `false` accept every value and none, and an object accepts
the values that satisfy each of its keywords. A keyword says nothing about values of a kind it is
not about. Numbers are integers here; of those with a fraction or an exponent nothing is said.
-/

namespace Json

instance : DecidableEq Json :=
  fun a b => decidable_of_iff (a.render = b.render) render_injective.eq_iff

end Json

namespace Schema

/-- The value is of the named type; an integer is a number too. -/
def hasType (name : String) : Json → Bool
  | .null => name = "null"
  | .bool _ => name = "boolean"
  | .unsigned _ | .negative _ => name = "integer" ∨ name = "number"
  | .decimal _ => name = "number"
  | .string _ => name = "string"
  | .array _ => name = "array"
  | .object _ => name = "object"

/-- The keywords that hold no schemas. -/
def asserts : String × Json → Json → Bool
  | ("type", .string name), value => hasType name value
  | ("minimum", .unsigned least), .unsigned value => least ≤ value
  | ("minimum", .unsigned _), .negative _ => false
  | ("enum", .array values), value => value ∈ values
  | ("maxItems", .unsigned most), .array items => items.length ≤ most
  | ("required", .array names), .object fields =>
    names.all fun name => name.asStr.all fun name => Json.hasField fields name
  | ("minProperties", .unsigned least), .object fields => least ≤ fields.length
  | _, _ => true

/-- The names that `properties` declares among keywords. -/
def declared (keywords : List (String × Json)) : List String :=
  (((Json.lookup keywords "properties").bind Json.asObject).getD []).map Prod.fst

mutual

/-- The value satisfies the schema. -/
def satisfies : Json → Json → Bool
  | .bool allowed, _ => allowed
  | .object keywords, value => satisfiesAll (declared keywords) keywords value
  | _, _ => true
termination_by structural schema => schema

/-- Every keyword holds; `names` are the declared ones. -/
def satisfiesAll (names : List String) : List (String × Json) → Json → Bool
  | [], _ => true
  | keyword :: keywords, value =>
    satisfiesKeyword names keyword value && satisfiesAll names keywords value
termination_by structural keywords => keywords

/-- One keyword holds. -/
def satisfiesKeyword (names : List String) : String × Json → Json → Bool
  | ("items", schema), .array items => items.all fun item => satisfies schema item
  | ("properties", .object properties), .object fields => satisfiesProperties properties fields
  | ("additionalProperties", schema), .object fields =>
    fields.all fun field => field.1 ∈ names || satisfies schema field.2
  | ("oneOf", .array schemas), value => countSatisfied schemas value = 1
  | ("allOf", .array schemas), value => countSatisfied schemas value = schemas.length
  | keyword, value => asserts keyword value
termination_by structural keyword => keyword

/-- Each field that is declared satisfies its schema. -/
def satisfiesProperties : List (String × Json) → List (String × Json) → Bool
  | [], _ => true
  | property :: properties, fields =>
    satisfiesProperty property fields && satisfiesProperties properties fields
termination_by structural properties => properties

/-- Each field of this name satisfies the schema. -/
def satisfiesProperty : String × Json → List (String × Json) → Bool
  | (name, schema), fields => fields.all fun field => field.1 ≠ name || satisfies schema field.2
termination_by structural property => property

/-- The number of schemas that the value satisfies. -/
def countSatisfied : List Json → Json → ℕ
  | [], _ => 0
  | schema :: schemas, value =>
    (if satisfies schema value then 1 else 0) + countSatisfied schemas value
termination_by structural schemas => schemas

end

variable {names : List String} {value schema : Json} {items : List Json}
  {fields : List (String × Json)}

/-! ### The keywords -/

/-- `type` names the type of the value. -/
@[simp] lemma satisfiesKeyword_type (name : String) :
    satisfiesKeyword names ("type", .string name) value = hasType name value := by
  cases value <;> rfl

/-- `minimum` holds no schemas. -/
@[simp] lemma satisfiesKeyword_minimum (least : ℕ) :
    satisfiesKeyword names ("minimum", .unsigned least) value =
      asserts ("minimum", .unsigned least) value := by
  cases value <;> rfl

/-- `enum` lists the values. -/
@[simp] lemma satisfiesKeyword_enum (values : List Json) :
    satisfiesKeyword names ("enum", .array values) value = decide (value ∈ values) := by
  cases value <;> rfl

/-- `items` is the schema of each item. -/
@[simp] lemma satisfiesKeyword_items :
    satisfiesKeyword names ("items", schema) (.array items) =
      items.all fun item => satisfies schema item := rfl

/-- `maxItems` bounds the number of items. -/
@[simp] lemma satisfiesKeyword_maxItems (most : ℕ) :
    satisfiesKeyword names ("maxItems", .unsigned most) (.array items) =
      decide (items.length ≤ most) := rfl

/-- `properties` has a schema for each declared field. -/
@[simp] lemma satisfiesKeyword_properties (properties : List (String × Json)) :
    satisfiesKeyword names ("properties", .object properties) (.object fields) =
      satisfiesProperties properties fields := rfl

/-- `required` lists names of fields. -/
@[simp] lemma satisfiesKeyword_required (required : List String) :
    satisfiesKeyword names ("required", .array (required.map .string)) (.object fields) =
      required.all fun name => Json.hasField fields name := by
  change ((required.map Json.string).all fun name => name.asStr.all _) = _
  rw [List.all_map]
  rfl

/-- `additionalProperties` is the schema of the fields that are not declared. -/
@[simp] lemma satisfiesKeyword_additionalProperties :
    satisfiesKeyword names ("additionalProperties", schema) (.object fields) =
      fields.all fun field => field.1 ∈ names || satisfies schema field.2 := rfl

/-- `minProperties` bounds the number of fields from below. -/
@[simp] lemma satisfiesKeyword_minProperties (least : ℕ) :
    satisfiesKeyword names ("minProperties", .unsigned least) (.object fields) =
      decide (least ≤ fields.length) := rfl

/-- `oneOf` asks for exactly one of its schemas. -/
@[simp] lemma satisfiesKeyword_oneOf (schemas : List Json) :
    satisfiesKeyword names ("oneOf", .array schemas) value =
      decide (countSatisfied schemas value = 1) := by
  cases value <;> rfl

/-- `allOf` asks for all of its schemas. -/
@[simp] lemma satisfiesKeyword_allOf (schemas : List Json) :
    satisfiesKeyword names ("allOf", .array schemas) value =
      decide (countSatisfied schemas value = schemas.length) := by
  cases value <;> rfl

/-! ### Lists of schemas -/

/-- The schemas of a family that the value satisfies are counted by their indices. -/
lemma countSatisfied_map {α : Type} (schema : α → Json) (items : List α) :
    countSatisfied (items.map schema) value =
      items.countP fun item => satisfies (schema item) value := by
  induction items with
  | nil => rfl
  | cons item items ih => rw [List.map_cons, countSatisfied, ih, List.countP_cons, Nat.add_comm]

/-- The declared fields satisfy their schemas. -/
lemma satisfiesProperties_iff {properties : List (String × Json)} :
    satisfiesProperties properties fields = true ↔ ∀ property ∈ properties, ∀ field ∈ fields,
      field.1 = property.1 → satisfies property.2 field.2 = true := by
  induction properties with
  | nil => simp [satisfiesProperties]
  | cons property properties ih =>
    rw [satisfiesProperties, Bool.and_eq_true, ih, List.forall_mem_cons, satisfiesProperty]
    simp [or_iff_not_imp_left]

/-- Keywords are checked one by one. -/
lemma satisfiesAll_append (names : List String) (first second : List (String × Json)) :
    satisfiesAll names (first ++ second) value =
      (satisfiesAll names first value && satisfiesAll names second value) := by
  induction first with
  | nil => rfl
  | cons keyword first ih => rw [List.cons_append, satisfiesAll, satisfiesAll, ih, Bool.and_assoc]

end Schema
