import GdbAi.Library.Numerals

/-!
# JSON values

A JSON value and its compact text.  A number is a non-negative integer, a negative integer, or
written with a fraction or an exponent, of which only the text is kept.  The fields of an object
are an association list; the operations on objects treat a name that occurs twice as one field.
-/

/-- The characters of a number. -/
def Char.isNumeric (c : Char) : Bool :=
  c.isDigit || c = '-' || c = '+' || c = '.' || c = 'e' || c = 'E'

/-- The text of a number with a fraction or an exponent. -/
structure Decimal where
  text : String
  numeric : ∀ c ∈ text.toList, c.isNumeric = true
  marked : ∃ c ∈ text.toList, c = '.' ∨ c = 'e' ∨ c = 'E'
  deriving DecidableEq

/-- A JSON value. -/
inductive Json where
  | null
  | bool (value : Bool)
  | unsigned (value : ℕ)
  /-- The number `-(magnitude + 1)`. -/
  | negative (magnitude : ℕ)
  | decimal (value : Decimal)
  | string (text : String)
  | array (items : List Json)
  | object (fields : List (String × Json))

namespace Json

/-! ### Reading a value -/

/-- The text of a string. -/
def asStr : Json → Option String
  | .string text => some text
  | _ => none

def asBool : Json → Option Bool
  | .bool value => some value
  | _ => none

/-- A non-negative integer of 64 bits. -/
def asUnsigned : Json → Option ℕ
  | .unsigned value => if value < 2 ^ 64 then some value else none
  | _ => none

def asArray : Json → Option (List Json)
  | .array items => some items
  | _ => none

def asObject : Json → Option (List (String × Json))
  | .object fields => some fields
  | _ => none

/-- The value of the field `name` among `fields`. -/
def lookup (fields : List (String × Json)) (name : String) : Option Json :=
  (fields.find? fun field => field.1 = name).map Prod.snd

/-- Whether one of `fields` is called `name`. -/
def hasField (fields : List (String × Json)) (name : String) : Bool :=
  (lookup fields name).isSome

/-- The field `name` of an object; a value of another kind has no fields. -/
def get (value : Json) (name : String) : Option Json :=
  match value with
  | .object fields => lookup fields name
  | _ => none

/-- A number that is read has 64 bits. -/
lemma lt_of_asUnsigned {field : Option Json} {number : ℕ}
    (h : field.bind asUnsigned = some number) : number < 2 ^ 64 := by
  obtain ⟨value, -, hvalue⟩ := Option.bind_eq_some_iff.mp h
  cases value with
  | unsigned value =>
    obtain ⟨hlt, heq⟩ := Option.ite_none_right_eq_some.mp hvalue
    rwa [← Option.some.inj heq]
  | _ => cases hvalue

/-! ### Changing the fields of an object -/

/-- `fields` without the field `name`. -/
def erase (fields : List (String × Json)) (name : String) : List (String × Json) :=
  fields.filter fun field => field.1 ≠ name

/-- `fields` with the field `name` set to `value`. -/
def set (fields : List (String × Json)) (name : String) (value : Json) : List (String × Json) :=
  (name, value) :: erase fields name

/-- A field that is erased is gone; the others stay. -/
lemma lookup_erase (fields : List (String × Json)) (name other : String) :
    lookup (erase fields name) other = if other = name then none else lookup fields other := by
  unfold lookup erase
  rw [List.find?_filter]
  split
  · rename_i h
    subst h
    rw [Option.map_eq_none_iff, List.find?_eq_none]
    intro field _
    simp
  · rename_i h
    congr 2
    funext field
    by_cases hf : field.1 = other
    · simp [hf, h]
    · simp [hf]

/-- A field that is set has its value; the others stay. -/
lemma lookup_set (fields : List (String × Json)) (name other : String) (value : Json) :
    lookup (set fields name value) other = if other = name then some value else lookup fields other := by
  by_cases h : other = name
  · simp [set, lookup, h]
  · have hne : ¬ name = other := fun heq => h heq.symm
    have htail := lookup_erase fields name other
    rw [if_neg h] at htail ⊢
    rw [← htail]
    simp [set, lookup, hne]

variable {fields : List (String × Json)} {name : String}

/-- The fields behind a change. -/
lemma mem_set {value : Json} {field : String × Json} :
    field ∈ set fields name value ↔ field = (name, value) ∨ field ∈ fields ∧ field.1 ≠ name := by
  simp [set, erase]

/-- The fields behind an erasure. -/
lemma mem_erase {field : String × Json} :
    field ∈ erase fields name ↔ field ∈ fields ∧ field.1 ≠ name := by
  simp [erase]

/-- What is found is a field. -/
lemma mem_of_lookup {value : Json} (h : lookup fields name = some value) :
    (name, value) ∈ fields := by
  unfold lookup at h
  obtain ⟨field, hfind, rfl⟩ := Option.map_eq_some_iff.mp h
  have hname : field.1 = name := by
    simpa using List.find?_some hfind
  rw [← hname]
  exact List.mem_of_find?_eq_some hfind

/-- A field is there if it has a value. -/
lemma hasField_iff : hasField fields name = true ↔ ∃ value, (name, value) ∈ fields := by
  unfold hasField lookup
  rw [Option.isSome_map, List.find?_isSome]
  constructor
  · rintro ⟨⟨other, value⟩, hmem, hname⟩
    have heq : other = name := by simpa using hname
    exact ⟨value, heq ▸ hmem⟩
  · rintro ⟨value, hmem⟩
    exact ⟨(name, value), hmem, by simp⟩

/-! ### The compact text -/

/-- One hexadecimal digit in lower case. -/
def hexDigit (n : ℕ) : Char := Nat.digitChar n

/-- How a character of a string is written. -/
def escape (c : Char) : List Char :=
  if c = '"' then ['\\', '"']
  else if c = '\\' then ['\\', '\\']
  else if c = '\n' then ['\\', 'n']
  else if c = '\r' then ['\\', 'r']
  else if c = '\t' then ['\\', 't']
  else if c.toNat = 8 then ['\\', 'b']
  else if c.toNat = 12 then ['\\', 'f']
  else if c.toNat < 32 then ['\\', 'u', '0', '0', hexDigit (c.toNat / 16), hexDigit (c.toNat % 16)]
  else [c]

/-- A string between its quotes. -/
def quote (text : String) : List Char :=
  '"' :: (text.toList.flatMap escape ++ ['"'])

mutual

/-- The compact text of a value. -/
def render : Json → List Char
  | .null => ['n', 'u', 'l', 'l']
  | .bool true => ['t', 'r', 'u', 'e']
  | .bool false => ['f', 'a', 'l', 's', 'e']
  | .unsigned value => (toString value).toList
  | .negative magnitude => '-' :: (toString (magnitude + 1)).toList
  | .decimal value => value.text.toList
  | .string text => quote text
  | .array items => '[' :: (renderItems items ++ [']'])
  | .object fields => '{' :: (renderFields fields ++ ['}'])

/-- The items of an array, separated by commas. -/
def renderItems : List Json → List Char
  | [] => []
  | [item] => render item
  | item :: next :: items => render item ++ ',' :: renderItems (next :: items)

/-- The fields of an object, separated by commas. -/
def renderFields : List (String × Json) → List Char
  | [] => []
  | [field] => quote field.1 ++ ':' :: render field.2
  | field :: next :: fields =>
    quote field.1 ++ ':' :: (render field.2 ++ ',' :: renderFields (next :: fields))

end

/-- The number of bytes of the compact text. -/
def size (value : Json) : ℕ := (value.render.map Char.utf8Size).sum

/-! ### Paths -/

/-- One step into a value. -/
inductive Step where
  | field (name : String)
  | item (index : ℕ)
  deriving DecidableEq, Repr

/-- What a step leads to. -/
def child (value : Json) : Step → Option Json
  | .field name => value.get name
  | .item index => value.asArray.bind fun items => items[index]?

/-- What a path leads to. -/
def descend (value : Json) : List Step → Option Json
  | [] => some value
  | step :: path => (value.child step).bind fun inner => inner.descend path

lemma descend_append (value : Json) (path rest : List Step) :
    value.descend (path ++ rest) = (value.descend path).bind fun inner => inner.descend rest := by
  induction path generalizing value with
  | nil => rfl
  | cons step path ih =>
    rw [List.cons_append, descend, descend, Option.bind_assoc]
    exact congrArg _ (funext fun inner => ih inner)

/-- Two values of one kind: arrays of one length, objects with the same keys, or the same scalar. -/
def SameShape : Json → Json → Prop
  | .array items, .array others => others.length = items.length
  | .object fields, .object others => others.map Prod.fst = fields.map Prod.fst
  | value, other => other = value

end Json
