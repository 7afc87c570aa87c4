import GdbAi.Library.Base64
import GdbAi.Library.Json
import GdbAi.Mi.Ast

/-!
# The audit of a memory read

`redact` of `gdb-ai-core/src/persistence.rs`, which every row of the audit goes through, and the
result that `memory_read` of `gateway/operations/memory.rs` builds.  `redact` does what it is for:
along every path without a sensitive key a value keeps its kind, its keys, its length and its
scalars, and what stands under a sensitive key is replaced (`redact_descend`,
`redact_descend_sensitive`).  The producer does not keep to the list of keys: `data_hex` and
`preview_hex` are not on it, so an audited result tells the bytes it shows in hexadecimal and no
others (`redact_memoryResult_eq_iff`).
-/

namespace GdbAi

/-! ### Redaction -/

/-- The keys whose values are not written down. -/
def sensitiveKeys : List String :=
  ["environment", "argv", "data_base64", "bytes_base64", "stdin", "credentials", "expression",
    "address_expression", "value", "text", "actual", "expected"]

/-- What stands in the place of a sensitive value. -/
def redactedMark : Json := .string "<redacted>"

mutual

/-- `redact`. -/
def redact : Json → Json
  | .object fields => .object (redactFields fields)
  | .array items => .array (redactItems items)
  | value => value

/-- The items of an array, redacted one by one. -/
def redactItems : List Json → List Json
  | [] => []
  | item :: items => redact item :: redactItems items

/-- The fields of an object; a sensitive one keeps its key only. -/
def redactFields : List (String × Json) → List (String × Json)
  | [] => []
  | (key, child) :: fields =>
    (key, if key ∈ sensitiveKeys then redactedMark else redact child) :: redactFields fields

end

lemma redactItems_eq (items : List Json) : redactItems items = items.map redact := by
  induction items with
  | nil => rfl
  | cons item items ih => rw [redactItems, ih, List.map_cons]

lemma redactFields_keys (fields : List (String × Json)) :
    (redactFields fields).map Prod.fst = fields.map Prod.fst := by
  induction fields with
  | nil => rfl
  | cons field fields ih => rw [redactFields, List.map_cons, List.map_cons, ih]

/-- A field is found under its key, redacted. -/
lemma lookup_redactFields (fields : List (String × Json)) (name : String) :
    Json.lookup (redactFields fields) name =
      (Json.lookup fields name).map
        (if name ∈ sensitiveKeys then fun _ => redactedMark else redact) := by
  induction fields with
  | nil => rfl
  | cons field fields ih =>
    obtain ⟨key, child⟩ := field
    unfold Json.lookup at ih ⊢
    rw [redactFields]
    by_cases hkey : key = name
    · subst hkey
      by_cases hsensitive : key ∈ sensitiveKeys
      · simp [hsensitive]
      · simp [hsensitive]
    · rw [List.find?_cons_of_neg (by simpa using hkey), List.find?_cons_of_neg (by simpa using hkey)]
      exact ih

/-! ### Paths -/

/-- The step does not go under a sensitive key. -/
def isOpen : Json.Step → Bool
  | .field name => name ∉ sensitiveKeys
  | .item _ => true

lemma sameShape_redact (value : Json) : value.SameShape (redact value) := by
  cases value with
  | array items =>
    rw [redact, redactItems_eq]
    exact List.length_map _
  | object fields =>
    rw [redact]
    exact redactFields_keys fields
  | _ => rfl

lemma child_redact (value : Json) {step : Json.Step} (h : isOpen step = true) :
    (redact value).child step = (value.child step).map redact := by
  cases step with
  | field name =>
    have hname : name ∉ sensitiveKeys := by simpa [isOpen] using h
    cases value with
    | object fields =>
      rw [redact]
      show Json.lookup (redactFields fields) name = (Json.lookup fields name).map redact
      rw [lookup_redactFields, if_neg hname]
    | _ => rfl
  | item index =>
    cases value with
    | array items =>
      rw [redact, redactItems_eq]
      show (items.map redact)[index]? = items[index]?.map redact
      exact List.getElem?_map
    | _ => rfl

/-- Along a path without a sensitive key one finds the redaction of what was there. -/
lemma redact_descend (value : Json) {path : List Json.Step}
    (h : ∀ step ∈ path, isOpen step = true) :
    (redact value).descend path = (value.descend path).map redact := by
  induction path generalizing value with
  | nil => rfl
  | cons step path ih =>
    rw [Json.descend, Json.descend, child_redact value (h step List.mem_cons_self)]
    cases value.child step with
    | none => rfl
    | some child => exact ih child fun other hother => h other (List.mem_cons_of_mem _ hother)

/-- Under a sensitive key stands the mark, however deep it is. -/
lemma redact_descend_sensitive (value : Json) {path : List Json.Step} {name : String}
    (h : ∀ step ∈ path, isOpen step = true) (hname : name ∈ sensitiveKeys) :
    (redact value).descend (path ++ [.field name]) =
      (value.descend (path ++ [.field name])).map fun _ => redactedMark := by
  rw [Json.descend_append, Json.descend_append, redact_descend value h]
  cases value.descend path with
  | none => rfl
  | some inner =>
    cases inner with
    | object fields =>
      show ((redact (.object fields)).child (.field name)).bind some =
        (((Json.object fields).child (.field name)).bind some).map fun _ => redactedMark
      rw [Option.bind_fun_some, Option.bind_fun_some, redact]
      show Json.lookup (redactFields fields) name =
        (Json.lookup fields name).map fun _ => redactedMark
      rw [lookup_redactFields, if_pos hname]
    | _ => rfl

/-! ### The result of a memory read -/

/-- `hex_encode`. -/
def hexEncode (bytes : Bytes) : String :=
  String.ofList (bytes.flatMap fun byte =>
    [Nat.digitChar (byte.toNat / 16), Nat.digitChar (byte.toNat % 16)])

lemma digitChar_injective : ∀ a < 16, ∀ b < 16, Nat.digitChar a = Nat.digitChar b → a = b := by
  decide +kernel

lemma hexEncode_injective : Function.Injective hexEncode := by
  intro bytes others h
  have htext := congrArg String.toList h
  simp only [hexEncode, String.toList_ofList] at htext
  clear h
  induction bytes generalizing others with
  | nil =>
    cases others with
    | nil => rfl
    | cons => simp at htext
  | cons byte bytes ih =>
    cases others with
    | nil => simp at htext
    | cons other others =>
      simp only [List.flatMap_cons, List.cons_append, List.nil_append, List.cons.injEq] at htext
      obtain ⟨hhigh, hlow, hrest⟩ := htext
      have hbyte := byte.toNat_lt
      have hother := other.toNat_lt
      have hhigh := digitChar_injective _ (by omega) _ (by omega) hhigh
      have hlow := digitChar_injective _ (by omega) _ (by omega) hlow
      have heq : byte.toNat = other.toNat := by omega
      rw [UInt8.toNat_inj.mp heq, ih hrest]

/-- What `memory_read` has read, and where. -/
structure MemoryReading where
  stopId : Option String
  address : String
  requestedLength : ℕ
  bytes : Bytes
  evidenceSeq : ℕ

/-- How `memory_read` presents a reading: the limit for inline bytes, the encoding, the digest and
the address of an artifact with the bytes. -/
structure Presentation where
  inlineBytes : ℕ
  hexadecimal : Bool
  digest : Bytes → String
  artifactUri : Bytes → String

/-- The result of `memory_read`. -/
def memoryResult (presentation : Presentation) (reading : MemoryReading) : Json :=
  let bytes := reading.bytes
  let isPartial := decide (bytes.length ≠ reading.requestedLength)
  let stopId := (reading.stopId.map Json.string).getD .null
  if bytes.length > presentation.inlineBytes then
    .object [
      ("stop_id", stopId),
      ("address", .string reading.address),
      ("requested_length", .unsigned reading.requestedLength),
      ("read_length", .unsigned bytes.length),
      ("sha256", .string (presentation.digest bytes)),
      ("preview_hex", .string (hexEncode (bytes.take 64))),
      ("artifact", .string (presentation.artifactUri bytes)),
      ("partial", .bool isPartial),
      ("truncated", .bool true),
      ("evidence_seq", .unsigned reading.evidenceSeq)]
  else
    let data := if presentation.hexadecimal then ("data_hex", Json.string (hexEncode bytes))
      else ("data_base64", .string (String.ofList (Base64.encode bytes)))
    .object [
      ("stop_id", stopId),
      ("address", .string reading.address),
      ("requested_length", .unsigned reading.requestedLength),
      ("read_length", .unsigned bytes.length),
      data,
      ("sha256", .string (presentation.digest bytes)),
      ("partial", .bool isPartial),
      ("truncated", .bool false),
      ("evidence_seq", .unsigned reading.evidenceSeq)]

/-- The result without the fields that name its contents. -/
def withoutContentNames (result : Json) : Json :=
  .object (Json.erase (Json.erase (result.asObject.getD []) "sha256") "artifact")

/-- The bytes that a result shows in hexadecimal. -/
def shownBytes (presentation : Presentation) (bytes : Bytes) : Bytes :=
  if bytes.length > presentation.inlineBytes then bytes.take 64
  else if presentation.hexadecimal then bytes else []

/-- The audited results of two readings that differ in their bytes only agree exactly if both show
the same bytes in hexadecimal. -/
lemma redact_memoryResult_eq_iff (presentation : Presentation) (reading : MemoryReading)
    {others : Bytes} (hlength : others.length = reading.bytes.length) :
    redact (withoutContentNames (memoryResult presentation reading)) =
        redact (withoutContentNames (memoryResult presentation { reading with bytes := others })) ↔
      shownBytes presentation reading.bytes = shownBytes presentation others := by
  by_cases hinline : reading.bytes.length > presentation.inlineBytes
  · simp [memoryResult, withoutContentNames, shownBytes, hinline, hlength, Json.erase,
      Json.asObject, redact, redactFields, sensitiveKeys, hexEncode_injective.eq_iff]
  · cases hencoding : presentation.hexadecimal with
    | true =>
      simp [memoryResult, withoutContentNames, shownBytes, hinline, hlength, hencoding, Json.erase,
        Json.asObject, redact, redactFields, sensitiveKeys, hexEncode_injective.eq_iff]
    | false =>
      simp [memoryResult, withoutContentNames, shownBytes, hinline, hlength, hencoding, Json.erase,
        Json.asObject, redact, redactFields, sensitiveKeys]

/-- Redaction and what it hides.  Along a path that goes under no sensitive key every value keeps
its kind, its keys, its length and its scalars, and behind it the value of a sensitive key is
replaced.  Two audited results of `memory_read` that differ in the bytes read only are equal exactly
if they show the same bytes in hexadecimal: always for inline results in base64, but for no others
in general. -/
theorem audited_read_equal_iff (value : Json) (path : List Json.Step)
    (hopen : ∀ step ∈ path, isOpen step = true) (presentation : Presentation)
    (reading : MemoryReading) (others : Bytes) (hlength : others.length = reading.bytes.length) :
    ((value.descend path = none → (redact value).descend path = none) ∧
      (∀ inner, value.descend path = some inner →
        ∃ kept, (redact value).descend path = some kept ∧ inner.SameShape kept) ∧
      ∀ name ∈ sensitiveKeys, (redact value).descend (path ++ [.field name]) =
        (value.descend (path ++ [.field name])).map fun _ => .string "<redacted>") ∧
    (redact (withoutContentNames (memoryResult presentation reading)) =
        redact (withoutContentNames (memoryResult presentation { reading with bytes := others })) ↔
      shownBytes presentation reading.bytes = shownBytes presentation others) := by
  refine ⟨⟨?_, ?_, ?_⟩, redact_memoryResult_eq_iff presentation reading hlength⟩
  · intro hnone
    rw [redact_descend value hopen, hnone]
    rfl
  · intro inner hinner
    refine ⟨redact inner, ?_, sameShape_redact inner⟩
    rw [redact_descend value hopen, hinner]
    rfl
  · intro name hname
    exact redact_descend_sensitive value hopen hname

/-- A presentation with the given encoding. -/
def presented (inlineBytes : ℕ) (hexadecimal : Bool) : Presentation :=
  ⟨inlineBytes, hexadecimal, fun _ => "", fun _ => ""⟩

/-- A reading of the given bytes. -/
def readingOf (bytes : Bytes) : MemoryReading := ⟨some "stop-1", "0x1000", bytes.length, bytes, 7⟩

/-- An inline result in base64 does not tell its bytes, and neither does a nested plan. -/
theorem inline_base64_hidden :
    (redact (.object [("items", .array [.object [("text", .string "secret")]])])).descend
        [.field "items", .item 0, .field "text"] = some (.string "<redacted>") ∧
      redact (withoutContentNames (memoryResult (presented 4096 false) (readingOf [1, 2]))) =
        redact (withoutContentNames (memoryResult (presented 4096 false) (readingOf [3, 4]))) := by
  have h := audited_read_equal_iff
    (.object [("items", .array [.object [("text", .string "secret")]])])
    [.field "items", .item 0] (by decide) (presented 4096 false) (readingOf [1, 2]) [3, 4] rfl
  refine ⟨?_, h.2.mpr rfl⟩
  exact (h.1.2.2 "text" (by decide)).trans rfl

/-- The audit tells an inline result in hexadecimal, and the start of a result in base64 that is
kept as an artifact. -/
theorem hexadecimal_bytes_audited :
    redact (withoutContentNames (memoryResult (presented 4096 true) (readingOf [1, 2]))) ≠
        redact (withoutContentNames (memoryResult (presented 4096 true) (readingOf [3, 4]))) ∧
      redact (withoutContentNames (memoryResult (presented 1 false) (readingOf [1, 2]))) ≠
        redact (withoutContentNames (memoryResult (presented 1 false) (readingOf [3, 4]))) := by
  have hlength : ([3, 4] : Bytes).length = (readingOf [1, 2]).bytes.length := rfl
  constructor
  · intro h
    exact absurd ((redact_memoryResult_eq_iff _ (readingOf [1, 2]) hlength).mp h) (by decide)
  · intro h
    exact absurd ((redact_memoryResult_eq_iff _ (readingOf [1, 2]) hlength).mp h) (by decide)

end GdbAi
