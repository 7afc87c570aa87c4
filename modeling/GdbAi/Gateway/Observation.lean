import GdbAi.Gateway.Contracts
import GdbAi.Gateway.SharedReads

/-!
# Observation plans

`gdb-ai-core/src/gateway/operations/observation.rs`: an array of reads that are captured together
at one stop, with the checks of expressions (`evaluation.rs`) and of addresses (`domain.rs`) that
its items pass.  The text of an expression is scanned by characters where the source scans bytes;
all characters it looks for are ASCII.
-/

namespace GdbAi

/-- An `INVALID_ARGUMENT`, unless the condition holds. -/
def ensure (condition : Bool) (message : String) : Except Error Unit :=
  if condition then .ok () else .error { code := .invalidArgument, message := message }

/-! ### Expressions -/

/-- `char::is_whitespace`. -/
def isWhiteSpace (c : Char) : Bool :=
  let n := c.toNat
  (9 ≤ n && n ≤ 13) || n = 32 || n = 0x85 || n = 0xa0 || n = 0x1680 ||
    (0x2000 ≤ n && n ≤ 0x200a) || n = 0x2028 || n = 0x2029 || n = 0x202f || n = 0x205f ||
    n = 0x3000

/-- A character of a name. -/
def isWordChar (c : Char) : Bool := c.isAlphanum || c = '_'

/-- The names that may stand before a parenthesis. -/
def operatorNames : List String :=
  ["sizeof", "alignof", "_Alignof", "__alignof__", "typeof", "__typeof__", "decltype"]

/-- A parenthesis opens no call; `before` is the text before it, backwards.  The name before it is
cut out one byte behind the character in front of it: where that character has several bytes, the
source panics, which an `INTERNAL_ERROR` stands for. -/
def opensNoCall (before : List Char) : Except Error Bool :=
  let trimmed := before.dropWhile isWhiteSpace
  match trimmed.head? with
  | none => .ok true
  | some previous =>
    if previous = ']' then .ok false
    else if isWordChar previous then
      if (trimmed.dropWhile isWordChar).head?.any fun c => 0x80 ≤ c.toNat then
        .error { code := .internal, message := "byte index is not a char boundary" }
      else .ok (String.ofList (trimmed.takeWhile isWordChar).reverse ∈ operatorNames)
    else .ok true

/-- An equals sign is part of a comparison. -/
def comparison (before : List Char) (next : Option Char) : Bool :=
  let previous := before.head?
  next = some '=' || previous = some '=' || previous = some '!' ||
    ((previous = some '<' || previous = some '>') && before.tail.head? ≠ previous)

/-- `unsafe_expression`. -/
def unsafeExpression : Except Error Unit :=
  .error { code := .policyDenied,
           message := "safe evaluation forbids calls and mutation operators" }

/-- The loop of `validate_expression` over the rest of the text. -/
def scanExpression (before : List Char) (quote : Option Char) (escaped : Bool) :
    List Char → Except Error Unit
  | [] => .ok ()
  | c :: rest =>
    match quote with
    | some delimiter =>
      if escaped then scanExpression (c :: before) quote false rest
      else if c = '\\' then scanExpression (c :: before) quote true rest
      else if c = delimiter then scanExpression (c :: before) none false rest
      else scanExpression (c :: before) quote false rest
    | none =>
      if c = '\'' || c = '"' then scanExpression (c :: before) (some c) escaped rest
      else if c = '/' && (rest.head? = some '/' || rest.head? = some '*') then unsafeExpression
      else if (c = '+' && rest.head? = some '+') || (c = '-' && rest.head? = some '-') then
        unsafeExpression
      else if c = '=' && !comparison before rest.head? then unsafeExpression
      else if c = '(' then do
        if ← opensNoCall before then scanExpression (c :: before) none escaped rest
        else unsafeExpression
      else scanExpression (c :: before) none escaped rest

/-- `validate_expression`. -/
def validateExpression (expression : String) : Except Error Unit := do
  ensure (expression ≠ "" && expression.utf8ByteSize ≤ 4096 &&
      !expression.toList.contains (Char.ofNat 0))
    "expression must contain 1 to 4096 bytes and no NUL"
  scanExpression [] none false expression.toList

/-- Every expression is valid. -/
def validateExpressions : List String → Except Error Unit
  | [] => .ok ()
  | expression :: expressions => do
    validateExpression expression
    validateExpressions expressions

/-! ### Addresses -/

/-- The value of a hexadecimal digit. -/
def hexDigitValue (c : Char) : Option ℕ :=
  if '0' ≤ c ∧ c ≤ '9' then some (c.toNat - '0'.toNat)
  else if 'a' ≤ c ∧ c ≤ 'f' then some (c.toNat - 'a'.toNat + 10)
  else if 'A' ≤ c ∧ c ≤ 'F' then some (c.toNat - 'A'.toNat + 10)
  else none

/-- `Address::parse`.  An address is kept as its number, which its canonical text has in sixteen
digits and `parse_address` reads back. -/
def Address.parse (value : String) : Except Error ℕ :=
  match value.toList with
  | '0' :: 'x' :: digits => do
    ensure (!digits.isEmpty && digits.length ≤ 16 && digits.all fun c => (hexDigitValue c).isSome)
      "address must contain 1 to 16 hexadecimal digits"
    .ok (digits.foldl (fun number c => number * 16 + (hexDigitValue c).getD 0) 0)
  | _ => .error { code := .invalidArgument, message := "address must start with 0x" }

/-! ### One request -/

/-- `ObservationKind`. -/
inductive ObservationKind where
  | inspection | evaluate | memory | disassembly | diff
  deriving DecidableEq, Repr

namespace ObservationKind

/-- The kind of a view. -/
def ofView : String → ObservationKind
  | "evaluate" => .evaluate
  | "memory" => .memory
  | "disassembly" => .disassembly
  | "diff" => .diff
  | _ => .inspection

/-- The method a request of this kind is made with. -/
def method : ObservationKind → CanonicalMethod
  | .inspection => .inspectionGet
  | .evaluate => .valueEvaluate
  | .memory => .memoryRead
  | .disassembly => .disassemblyRead
  | .diff => .inspectionDiff

end ObservationKind

/-- `ObservationRequest`. -/
structure ObservationRequest where
  name : String
  kind : ObservationKind
  parameters : Json
  cacheKey : String
  cacheable : Bool

/-- What a turn has used of its memory and its expressions. -/
structure Budgets where
  memory : ℕ := 0
  expressions : ℕ := 0
  deriving DecidableEq, Repr

/-- `SELECTION`. -/
def selectionFields : List String := ["inferior_id", "thread_id", "frame_id", "frame_level"]

/-- One selected field of the parent. -/
def inheritField (defaults : Json) (object : List (String × Json)) (field : String) :
    List (String × Json) :=
  match defaults.get field with
  | some value => Json.set object field value
  | none => object

/-- An item without a selection of its own has that of its parent. -/
def inheritSelection (object : List (String × Json)) (defaults : Json) : List (String × Json) :=
  if selectionFields.any fun field => Json.hasField object field then object
  else selectionFields.foldl (inheritField defaults) object

/-- The parameters of the request behind an item: without the name, at the stop, and with the view
for inspections only. -/
def arrange (kind : ObservationKind) (stopId : StopId) (object : List (String × Json)) :
    List (String × Json) :=
  let unnamed := Json.erase object "name"
  let stopped :=
    if kind ≠ .diff then Json.set unnamed "stop_id" (.string stopId.text) else unnamed
  if kind ≠ .inspection then Json.erase stopped "view" else stopped

/-- The number of expressions of an evaluation. -/
def expressionCount (object : List (String × Json)) : ℕ :=
  match (Json.lookup object "expressions").bind Json.asArray with
  | some items => items.length
  | none => 1

/-- The length of a memory read. -/
def memoryLength (object : List (String × Json)) : ℕ :=
  ((Json.lookup object "length").bind Json.asUnsigned).getD 0

/-- The branch `Evaluate`. -/
def checkEvaluate (object : List (String × Json)) (budgets : Budgets) : Except Error Budgets := do
  let expressions := expressionCount object
  ensure (expressions ≠ 0 && expressions ≤ 16) "evaluation accepts 1 to 16 expressions"
  ensure (budgets.expressions + expressions < 2 ^ 64) "expression budget overflow"
  ensure (budgets.expressions + expressions ≤ 16)
    "one observation turn accepts at most 16 expressions"
  validateExpressions ((Json.lookup object "expression").bind Json.asStr).toList
  validateExpressions
    ((((Json.lookup object "expressions").bind Json.asArray).getD []).filterMap Json.asStr)
  .ok { budgets with expressions := budgets.expressions + expressions }

/-- An address, if there is one, is well formed. -/
def checkAddress (object : List (String × Json)) : Except Error Unit :=
  match (Json.lookup object "address").bind Json.asStr with
  | some address => do
    let _ ← Address.parse address
    .ok ()
  | none => .ok ()

/-- The branch `Memory`. -/
def checkMemory (object : List (String × Json)) (maximum : ℕ) (budgets : Budgets) :
    Except Error Budgets := do
  let length := memoryLength object
  ensure (length ≠ 0 && length ≤ maximum)
    ("memory length must be between 1 and " ++ toString maximum)
  ensure (budgets.memory + length < 2 ^ 64) "memory budget overflow"
  ensure (budgets.memory + length ≤ maximum)
    ("one observation turn accepts at most " ++ toString maximum ++ " memory bytes")
  checkAddress object
  validateExpressions ((Json.lookup object "address_expression").bind Json.asStr).toList
  .ok { budgets with memory := budgets.memory + length }

/-- A range of literal addresses is positive and at most 64 KiB. -/
def checkLiteralRange (start finish : String) : Except Error Unit :=
  match Address.parse start, Address.parse finish with
  | .ok first, .ok last =>
    ensure (first < last && last - first ≤ 64 * 1024)
      "disassembly range must be positive and at most 64 KiB"
  | _, _ => .ok ()

/-- The branch `Disassembly`. -/
def checkDisassembly (object : List (String × Json)) : Except Error Unit := do
  validateExpressions
    ((((Json.lookup object "around").bind fun around => around.get "expression").bind
      Json.asStr).toList)
  match Json.lookup object "range" with
  | some range =>
    let start := ((range.get "start").bind Json.asStr).getD ""
    let finish := ((range.get "end").bind Json.asStr).getD ""
    validateExpression start
    validateExpression finish
    checkLiteralRange start finish
  | none => .ok ()

/-- The checks of a kind beyond its contract. -/
def ObservationKind.check (kind : ObservationKind) (object : List (String × Json)) (maximum : ℕ)
    (budgets : Budgets) : Except Error Budgets :=
  match kind with
  | .evaluate => checkEvaluate object budgets
  | .memory => checkMemory object maximum budgets
  | .disassembly => do
    checkDisassembly object
    .ok budgets
  | .inspection | .diff => .ok budgets

/-- The memory that a request reads. -/
def ObservationRequest.memoryBytes (request : ObservationRequest) : ℕ :=
  if request.kind = .memory then memoryLength (request.parameters.asObject.getD []) else 0

/-- The expressions that a request evaluates. -/
def ObservationRequest.expressions (request : ObservationRequest) : ℕ :=
  if request.kind = .evaluate then expressionCount (request.parameters.asObject.getD []) else 0

/-- The request behind an item, once its checks have passed. -/
def ObservationRequest.ofObject (name : String) (kind : ObservationKind)
    (object : List (String × Json)) : ObservationRequest where
  name := name
  kind := kind
  parameters := .object object
  cacheKey := kind.method.asStr ++ ":" ++ String.ofList (Json.object object).render
  cacheable := shareableView (.object object)

/-- `ObservationRequest::parse`. -/
def ObservationRequest.parse (item : Json) (stopId : StopId) (budgets : Budgets) (maximum : ℕ)
    (defaults : Json) : Except Error (ObservationRequest × Budgets) :=
  match item.asObject with
  | none => .error { code := .invalidArgument, message := "observation request must be an object" }
  | some fields =>
    let object := inheritSelection fields defaults
    match (Json.lookup object "view").bind Json.asStr with
    | none => .error { code := .invalidArgument, message := "view is required" }
    | some view => do
      let name := ((Json.lookup object "name").bind Json.asStr).getD view
      ensure (name ≠ "") "observation name must not be empty"
      let kind := ObservationKind.ofView view
      let arranged := arrange kind stopId object
      kind.method.validateParameters (.object arranged)
      let budgets ← kind.check arranged maximum budgets
      .ok (.ofObject name kind arranged, budgets)

/-! ### A plan -/

/-- The names that are tried for a repeated view. -/
def suffixed (base : String) (i : ℕ) : String := base ++ "_" ++ toString (i + 2)

/-- The first suffix that gives a new name.  Of `names.length + 1` names one is new. -/
def freshName (names : List String) (base : String) : String :=
  (((List.range (names.length + 1)).map (suffixed base)).find? fun name => name ∉ names).getD base

/-- A name that is taken is an error if it was given, and gets a suffix otherwise. -/
def settleName (item : Json) (names : List String) (name : String) : Except Error String :=
  if name ∉ names then .ok name
  else if (item.get "name").isSome then
    .error { code := .conflict, message := "observation request names must be unique" }
  else .ok (freshName names name)

/-- The loop of `parse_observation_requests`. -/
def parseItems (stopId : StopId) (maximum : ℕ) (defaults : Json) :
    List Json → List String → Budgets → Except Error (List ObservationRequest)
  | [], _, _ => .ok []
  | item :: items, names, budgets => do
    let (request, budgets) ← ObservationRequest.parse item stopId budgets maximum defaults
    let name ← settleName item names request.name
    let requests ← parseItems stopId maximum defaults items (name :: names) budgets
    .ok ({ request with name := name } :: requests)

/-- `parse_observation_requests`. -/
def parseObservationRequests (value : Json) (stopId : StopId) (maximum : ℕ) (defaults : Json) :
    Except Error (List ObservationRequest) :=
  match value.asArray with
  | none => .error { code := .invalidArgument, message := "observation requests are required" }
  | some items => do
    ensure (!items.isEmpty && items.length ≤ 16) "observation accepts 1 to 16 reads"
    parseItems stopId maximum defaults items [] {}

/-- The stop that plans are validated at. -/
def validationStop : StopId := ⟨"observation-validation"⟩

/-- `validate_observation_requests`. -/
def validateObservationRequests (value : Json) (maximum : ℕ) : Except Error Unit := do
  let _ ← parseObservationRequests value validationStop maximum .null
  .ok ()

end GdbAi
