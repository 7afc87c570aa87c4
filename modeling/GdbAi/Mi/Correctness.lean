import GdbAi.Mi.CStrings

/-!
# The parser and the grammar

`parseRecord` accepts exactly the records of the grammar that keep to the limits.  Soundness
goes parser by parser.  Completeness of `value` is by induction on the levels that are left:
the invariant `maxDepth < levels + depth` says that `checkDepth` rejects a container before the
levels run out.
-/

namespace GdbAi

open Parsing MiParser Grammar
open Parsing.Parser (Consumes bind_advance bind_eq_ok bind_of_ok bind_peek bind_remaining
  forall₂_and_right pure_apply)
open Byte (closeBrace closeBracket comma equals openBrace openBracket quote isAsciiWhitespace)

/-! ### Bracketed lists -/

/-- `expect` reads its byte. -/
lemma sound_expect (byte : UInt8) (description : String) :
    Parser.Sound (expect byte description) fun w _ => w = [byte] := by
  intro c c' u h
  obtain ⟨o, rest, rfl, rfl⟩ := expect_eq_ok.mp h
  exact ⟨[byte], rfl, rfl, rfl⟩

/-- `expect` reads its byte, whatever follows. -/
lemma consumes_expect (byte : UInt8) (description : String) :
    Consumes (expect byte description) [byte] () :=
  fun o rest => expect_eq_ok.mpr ⟨o, rest, rfl, rfl⟩

variable {limits : MiLimits} {depth : ℕ}

section Opened

variable {β : Type} {byte : UInt8} {description : String} {body : Unit → MiParser β}

/-- A container opens below the depth limit with its bracket, and its body stands behind that. -/
lemma sound_opened {R : Bytes → β → Prop}
    (h : depth < limits.maxDepth → Parser.Sound (body ()) fun w b => R (byte :: w) b) :
    Parser.Sound (checkDepth limits depth >>= fun _ => expect byte description >>= body) R := by
  intro c c' b hread
  obtain ⟨_, c₁, hdepth, hopen⟩ := bind_eq_ok.mp hread
  obtain ⟨hlt, rfl⟩ := checkDepth_eq_ok.mp hdepth
  have hbody := (sound_expect byte description).bind fun _ => h hlt
  refine hbody.mono ?_ _ _ _ hopen
  rintro _ b ⟨_, w, _, rfl, rfl, hR⟩
  exact hR

/-- Below the depth limit a container is read with its bracket and its body. -/
lemma consumes_opened {w : Bytes} {b : β} (hdepth : depth < limits.maxDepth)
    (h : Consumes (body ()) w b) :
    Consumes (checkDepth limits depth >>= fun _ => expect byte description >>= body)
      (byte :: w) b := by
  have hcheck : Consumes (checkDepth limits depth) [] () := fun _ _ =>
    checkDepth_eq_ok.mpr ⟨hdepth, rfl⟩
  exact hcheck.bind ((consumes_expect byte description).bind h)

end Opened

section Closed

variable {α β : Type} {element : MiParser α}

/-- One or more elements up to the closing bracket derive from the words of the elements. -/
lemma sound_closed {R : Bytes → α → Prop} (h : Parser.Sound element R) (close : UInt8)
    (description : String) (make : List α → β) :
    Parser.Sound
      (do
        let as ← commaSeparated element
        expect close description
        pure (make as))
      fun w b => ∃ ws as, w = commas ws ++ [close] ∧ as ≠ [] ∧ List.Forall₂ R ws as ∧
        b = make as := by
  have hlist : Parser.Sound (commaSeparated element) (Parser.SepBy comma R) := h.sepBy
  have hclosed := hlist.bind fun as =>
    (sound_expect close description).bind fun _ => Parser.sound_pure (make as)
  refine hclosed.mono ?_
  rintro w b ⟨w₁, w₂, as, rfl, ⟨hne, ws, rfl, hws⟩, _, _, _, rfl, rfl, rfl, rfl⟩
  exact ⟨ws, as, rfl, hne, hws, rfl⟩

/-- The words of one or more elements are read up to the closing bracket. -/
lemma consumes_closed {ws : List Bytes} {as : List α}
    (h : List.Forall₂ (Consumes element) ws as) (hne : as ≠ []) (close : UInt8)
    (hclose : close ≠ comma) (description : String) (make : List α → β) :
    Consumes
      (do
        let as ← commaSeparated element
        expect close description
        pure (make as))
      (commas ws ++ [close]) (make as) := by
  intro o rest
  have hhead : (close :: rest).head? ≠ some comma := by simpa using hclose
  have hlist : commaSeparated element ⟨o, commas ws ++ close :: rest⟩ =
      .ok (as, ⟨o + (commas ws).length, close :: rest⟩) :=
    Parser.sepBy_of_forall₂ h hne hhead o
  have hclosed := (consumes_expect close description).bind (f := fun _ => pure (make as))
    (Parser.consumes_pure (make as)) (o + (commas ws).length) rest
  rw [List.append_assoc, List.singleton_append, bind_of_ok hlist]
  simpa [Nat.add_assoc] using hclosed

end Closed

/-! ### Limits -/

/-- The values of a list are each within the limits. -/
lemma valuesWithin_iff {values : List MiValue} :
    valuesWithin limits depth values ↔ ∀ value ∈ values, value.Within limits depth := by
  induction values with
  | nil => simp [valuesWithin]
  | cons value values ih => rw [valuesWithin, ih, List.forall_mem_cons]

/-- The results of a tuple or list are each within the limits. -/
lemma resultsWithin_iff {results : List MiResult} :
    resultsWithin limits depth results ↔ ∀ result ∈ results, result.2.Within limits depth := by
  induction results with
  | nil => simp [resultsWithin]
  | cons result results ih =>
    obtain ⟨name, value⟩ := result
    rw [resultsWithin, ih, List.forall_mem_cons]

/-- A list of strings is within the limits when its depth and each of its strings are. -/
lemma within_strings {strings : List Bytes} :
    (MiValue.valueList (strings.map .const)).Within limits depth ↔
      depth < limits.maxDepth ∧
        ∀ bytes ∈ strings, bytes.length ≤ limits.maxDecodedStringBytes := by
  simp only [MiValue.Within, valuesWithin_iff, List.forall_mem_map]

/-! ### Names -/

/-- A scanned name is made of identifier bytes and ends at the stop byte or with the record. -/
lemma nameUntil_sound {stop : UInt8} {expected : String} {o : ℕ} {bytes n : Bytes}
    {c' : Cursor UInt8} (h : nameUntil stop expected o bytes = .ok (n, c')) :
    bytes = n ++ c'.rest ∧ c'.offset = o + n.length ∧ (∀ byte ∈ n, identifierByte byte) ∧
      (c'.rest = [] ∨ c'.rest.head? = some stop) := by
  induction bytes generalizing o n with
  | nil =>
    obtain ⟨rfl, rfl⟩ := Prod.mk.inj (Except.ok.inj h)
    simp
  | cons byte bytes ih =>
    rw [nameUntil] at h
    split at h
    · rename_i hstop
      obtain ⟨rfl, rfl⟩ := Prod.mk.inj (Except.ok.inj h)
      simp [hstop]
    split at h
    · rename_i hident
      split at h
      · rename_i n' c₁ htail
        obtain ⟨rfl, rfl⟩ := Prod.mk.inj (Except.ok.inj h)
        obtain ⟨hrest, ho, hall, hend⟩ := ih htail
        refine ⟨by rw [List.cons_append, ← hrest], ?_, ?_, hend⟩
        · rw [ho, List.length_cons]
          omega
        · intro b hb
          rcases List.mem_cons.mp hb with rfl | hb
          · exact hident
          · exact hall b hb
      · simp at h
    · simp at h

/-- A name in front of its stop byte, or at the end of the record, is scanned whole. -/
lemma nameUntil_complete {stop : UInt8} (hstop : identifierByte stop = false) {n t : Bytes}
    (hn : ∀ byte ∈ n, identifierByte byte) (ht : t = [] ∨ t.head? = some stop)
    (expected : String) (o : ℕ) :
    nameUntil stop expected o (n ++ t) = .ok (n, ⟨o + n.length, t⟩) := by
  induction n generalizing o with
  | nil =>
    cases t with
    | nil => rfl
    | cons byte t =>
      have hbyte : byte = stop := by simpa using ht
      rw [List.nil_append, nameUntil, if_pos hbyte]
      rfl
  | cons byte n ih =>
    have hident : identifierByte byte := hn byte (by simp)
    have hne : byte ≠ stop := by
      rintro rfl
      simp [hstop] at hident
    rw [List.cons_append, nameUntil, if_neg hne, if_pos hident,
      ih (fun b hb => hn b (by simp [hb]))]
    simp [Nat.add_assoc, Nat.add_comm 1]

/-- A name, the byte behind it and the word behind that are read one after the other. -/
lemma read_behind {c c' : Cursor UInt8} {n w rest : Bytes} {byte : UInt8} {o : ℕ}
    (hrest : c.rest = n ++ byte :: rest) (ho : o = c.offset + n.length)
    (hw : rest = w ++ c'.rest) (ho' : c'.offset = o + 1 + w.length) :
    c.rest = n ++ byte :: w ++ c'.rest ∧ c'.offset = c.offset + (n ++ byte :: w).length := by
  refine ⟨by simp [hrest, hw], ?_⟩
  rw [ho', ho, List.length_append, List.length_cons]
  omega

/-! ### Soundness -/

/-- The values `R depth` derived at a depth, within the limits. -/
def ValueAt (limits : MiLimits) (depth : ℕ) (w : Bytes) (v : MiValue) : Prop :=
  Value w v ∧ v.Within limits depth

/-- The results derived at a depth, within the limits. -/
def ResultAt (limits : MiLimits) (depth : ℕ) (w : Bytes) (r : MiResult) : Prop :=
  Result w r ∧ r.2.Within limits depth

/-- What `legacyScript` reads is a list of strings in braces. -/
lemma sound_legacyScript (limits : MiLimits) (depth : ℕ) :
    Parser.Sound (legacyScript limits depth) fun w v =>
      ∃ ws strings, w = openBrace :: (commas ws ++ [closeBrace]) ∧ strings ≠ [] ∧
        List.Forall₂ CString ws strings ∧ v = .valueList (strings.map .const) ∧
        v.Within limits depth := by
  refine sound_opened fun hdepth => (sound_closed (sound_cString limits) _ _ _).mono ?_
  rintro _ _ ⟨ws, strings, rfl, hne, hws, rfl⟩
  obtain ⟨hstrings, hlen⟩ := forall₂_and_right.mp hws
  exact ⟨ws, strings, rfl, hne, hstrings, rfl, within_strings.mpr ⟨hdepth, hlen⟩⟩

section Containers

variable {limits : MiLimits} {value : ℕ → MiParser MiValue}

variable {depth : ℕ}

/-- What `result` reads is a name, the equals sign and a value or a legacy script. -/
lemma sound_result (hvalue : Parser.Sound (value depth) (ValueAt limits depth)) :
    Parser.Sound (result limits value depth) (ResultAt limits depth) := by
  intro c c' r h
  unfold result at h
  obtain ⟨n, c₁, hname, h⟩ := bind_eq_ok.mp h
  obtain ⟨hrest, ho, hident, -⟩ := nameUntil_sound hname
  rw [bind_peek] at h
  split at h
  · simp [unexpected] at h
  rename_i hcond
  obtain ⟨hne, hequals⟩ : n ≠ [] ∧ c₁.rest.head? = some equals := by simpa using hcond
  obtain ⟨o₁, rest₁, rfl⟩ := exists_of_head hequals
  have hn : Name n (Byte.asciiText n) := ⟨hne, hident, rfl⟩
  rw [bind_advance, bind_remaining] at h
  split at h
  · -- the legacy form of a script
    rename_i hscript
    have htext : Byte.asciiText n = "script" := by
      simp only [Bool.and_eq_true, decide_eq_true_eq] at hscript
      exact hscript.1
    obtain ⟨v, c₂, hv, h⟩ := bind_eq_ok.mp h
    obtain ⟨rfl, rfl⟩ := Prod.mk.inj (Except.ok.inj h)
    obtain ⟨w, hw, ho', ws, strings, rfl, hstrings, hws, rfl, hwithin⟩ :=
      sound_legacyScript limits depth _ _ _ hv
    rw [htext] at hn ⊢
    obtain ⟨hread, hoffset⟩ := read_behind hrest ho hw ho'
    exact ⟨_, hread, hoffset, .script hn hstrings hws, hwithin⟩
  · obtain ⟨v, c₂, hv, h⟩ := bind_eq_ok.mp h
    obtain ⟨rfl, rfl⟩ := Prod.mk.inj (Except.ok.inj h)
    obtain ⟨w, hw, ho', hderives, hwithin⟩ := hvalue _ _ _ hv
    obtain ⟨hread, hoffset⟩ := read_behind hrest ho hw ho'
    exact ⟨_, hread, hoffset, .named hn hderives, hwithin⟩

/-- What `tuple` reads is a tuple. -/
lemma sound_tuple (hvalue : Parser.Sound (value (depth + 1)) (ValueAt limits (depth + 1))) :
    Parser.Sound (tuple limits value depth) (ValueAt limits depth) := by
  refine sound_opened fun hdepth c c' v h => ?_
  rw [bind_peek] at h
  split at h
  · obtain ⟨_, c₃, hclose, h⟩ := bind_eq_ok.mp h
    obtain ⟨o, rest, rfl, rfl⟩ := expect_eq_ok.mp hclose
    obtain ⟨rfl, rfl⟩ := Prod.mk.inj (Except.ok.inj h)
    exact ⟨[closeBrace], rfl, rfl, .tuple .nil, hdepth, trivial⟩
  · refine (sound_closed (sound_result hvalue) closeBrace _ _).mono ?_ _ _ _ h
    rintro _ _ ⟨ws, results, rfl, -, hws, rfl⟩
    obtain ⟨hresults, hwithin⟩ := forall₂_and_right.mp hws
    exact ⟨.tuple hresults, hdepth, resultsWithin_iff.mpr hwithin⟩

/-- What `list` reads is a list, of values or of results. -/
lemma sound_list (hvalue : Parser.Sound (value (depth + 1)) (ValueAt limits (depth + 1))) :
    Parser.Sound (list limits value depth) (ValueAt limits depth) := by
  refine sound_opened fun hdepth c c' v h => ?_
  rw [bind_peek] at h
  split at h
  · rename_i hclose
    obtain ⟨o, rest, rfl⟩ := exists_of_head hclose
    obtain ⟨rfl, rfl⟩ := Prod.mk.inj (Except.ok.inj h)
    exact ⟨[closeBracket], rfl, rfl, .valueList .nil, hdepth, trivial⟩
  rw [bind_remaining] at h
  split at h
  · refine (sound_closed (sound_result hvalue) closeBracket _ _).mono ?_ _ _ _ h
    rintro _ _ ⟨ws, results, rfl, hne, hws, rfl⟩
    obtain ⟨hresults, hwithin⟩ := forall₂_and_right.mp hws
    exact ⟨.resultList hne hresults, hdepth, resultsWithin_iff.mpr hwithin⟩
  · refine (sound_closed hvalue closeBracket _ _).mono ?_ _ _ _ h
    rintro _ _ ⟨ws, values, rfl, -, hws, rfl⟩
    obtain ⟨hvalues, hwithin⟩ := forall₂_and_right.mp hws
    exact ⟨.valueList hvalues, hdepth, valuesWithin_iff.mpr hwithin⟩

end Containers

/-- Whatever `value` reads derives its value within the limits. -/
lemma sound_value (limits : MiLimits) (levels depth : ℕ) :
    Parser.Sound (value limits levels depth) (ValueAt limits depth) := by
  induction levels generalizing depth with
  | zero => intro c c' v h; simp [value, unexpected] at h
  | succ levels ih =>
    intro c c' v h
    unfold value at h
    rw [bind_peek] at h
    cases hhead : c.rest.head? with
    | none => simp [hhead, unexpected] at h
    | some byte =>
      simp only [hhead] at h
      split at h
      · obtain ⟨bytes, c₁, hbytes, h⟩ := bind_eq_ok.mp h
        obtain ⟨rfl, rfl⟩ := Prod.mk.inj (Except.ok.inj h)
        obtain ⟨w, hw, ho, hstring, hlen⟩ := sound_cString limits _ _ _ hbytes
        exact ⟨w, hw, ho, .const hstring, hlen⟩
      split at h
      · exact sound_tuple (ih (depth + 1)) _ _ _ h
      split at h
      · exact sound_list (ih (depth + 1)) _ _ _ h
      · simp [unexpected] at h

/-! ### Completeness -/

variable {w : Bytes} {v : MiValue}

/-- The first byte of a value. -/
lemma Grammar.Value.exists_head (h : Value w v) : ∃ byte t, w = byte :: t ∧
      (byte = quote ∨ byte = openBrace ∨ byte = openBracket) := by
  cases h with
  | const hstring =>
    obtain ⟨t, rfl, -⟩ := hstring
    exact ⟨_, _, rfl, .inl rfl⟩
  | tuple _ => exact ⟨_, _, rfl, .inr (.inl rfl)⟩
  | valueList _ => exact ⟨_, _, rfl, .inr (.inr rfl)⟩
  | resultList _ _ => exact ⟨_, _, rfl, .inr (.inr rfl)⟩

/-- A result starts with its name and the equals sign. -/
lemma Grammar.Result.exists_name {r : MiResult} (h : Result w r) :
    ∃ n t, w = n ++ equals :: t ∧ n ≠ [] ∧ ∀ byte ∈ n, identifierByte byte := by
  cases h with
  | named hname _ => exact ⟨_, _, rfl, hname.1, hname.2.1⟩
  | script hname _ _ => exact ⟨_, _, rfl, hname.1, hname.2.1⟩

/-- The words of a nonempty list begin with its first word. -/
lemma commas_cons (w : Bytes) (ws : List Bytes) : ∃ t, commas (w :: ws) = w ++ t := by
  cases ws with
  | nil => exact ⟨[], by simp [commas]⟩
  | cons w' ws => exact ⟨comma :: commas (w' :: ws), by simp [commas, List.intercalate]⟩

/-- The words of results begin with a byte of the first name. -/
lemma Grammar.Result.head_commas {r : MiResult} (h : Result w r) (ws : List Bytes) :
    ∃ byte t, commas (w :: ws) = byte :: t ∧ identifierByte byte := by
  obtain ⟨n, t, rfl, hne, hident⟩ := h.exists_name
  obtain ⟨byte, n, rfl⟩ := List.exists_cons_of_ne_nil hne
  obtain ⟨t', ht'⟩ := commas_cons (byte :: n ++ equals :: t) ws
  exact ⟨byte, _, ht', hident byte (by simp)⟩

/-- The first byte of an identifier stops none of the lookaheads. -/
lemma identifierByte_ne {byte : UInt8} (h : identifierByte byte) :
    byte ≠ equals ∧ byte ≠ comma ∧ byte ≠ closeBracket ∧ byte ≠ openBrace ∧
      byte ≠ closeBrace ∧ byte ≠ openBracket ∧ byte ≠ quote ∧
      isAsciiWhitespace byte = false := by
  refine ⟨?_, ?_, ?_, ?_, ?_, ?_, ?_, ?_⟩
  all_goals first | (rintro rfl; exact absurd h (by decide)) | skip
  by_contra hspace
  simp only [isAsciiWhitespace, Bool.not_eq_false, Bool.or_eq_true, decide_eq_true_eq]
    at hspace
  rcases hspace with (((rfl | rfl) | rfl) | rfl) | rfl <;> exact absurd h (by decide)

/-- The lookahead of a list recognises a name with its equals sign. -/
lemma looksLikeResult_of_name {n : Bytes} (hn : ∀ byte ∈ n, identifierByte byte) (t : Bytes)
    {seen : Bool} (hseen : seen = true ∨ n ≠ []) :
    looksLikeResult seen (n ++ equals :: t) = true := by
  induction n generalizing seen with
  | nil => simpa [looksLikeResult] using hseen
  | cons byte n ih =>
    obtain ⟨h₁, h₂, h₃, h₄, h₅, h₆, h₇, h₈⟩ := identifierByte_ne (hn byte (by simp))
    have hother : ¬ (byte = comma || byte = closeBracket || byte = openBrace ||
        byte = closeBrace || byte = openBracket || byte = quote) := by
      simp [h₂, h₃, h₄, h₅, h₆, h₇]
    rw [List.cons_append, looksLikeResult, if_neg h₁, if_neg hother, if_neg (by simp [h₈])]
    exact ih (fun b hb => hn b (by simp [hb])) (.inl rfl)

/-- The lookahead of a list rejects the first byte of a value. -/
lemma looksLikeResult_of_value (h : Value w v) (t : Bytes) :
    looksLikeResult false (w ++ t) = false := by
  obtain ⟨byte, t', rfl, rfl | rfl | rfl⟩ := h.exists_head <;>
    simp [looksLikeResult]

/-- No value starts like a legacy script. -/
lemma Grammar.Value.not_script (h : Value w v) (t : Bytes) :
    [openBrace, quote].isPrefixOf (w ++ t) = false := by
  have hquote : openBrace ≠ quote := by decide
  have hbracket : openBrace ≠ openBracket := by decide
  have hclose : quote ≠ closeBrace := by decide
  cases h with
  | const hstring =>
    obtain ⟨t, rfl, -⟩ := hstring
    simp [List.isPrefixOf, hquote]
  | @tuple ws results hresults =>
    cases hresults with
    | nil => simp [List.isPrefixOf, commas, hclose]
    | @cons w r ws results hresult _ =>
      obtain ⟨byte, t', ht', hident⟩ := hresult.head_commas ws
      have hquote := (identifierByte_ne hident).2.2.2.2.2.2.1
      rw [ht']
      simp [List.isPrefixOf, hquote.symm]
  | valueList _ => simp [List.isPrefixOf, hbracket]
  | resultList _ _ => simp [List.isPrefixOf, hbracket]

/-- `legacyScript` reads every list of strings in braces within the limits. -/
lemma consumes_legacyScript {ws : List Bytes} {strings : List Bytes} (hne : strings ≠ [])
    (hws : List.Forall₂ CString ws strings)
    (hwithin : (MiValue.valueList (strings.map .const)).Within limits depth) :
    Consumes (legacyScript limits depth)
      (openBrace :: (commas ws ++ [closeBrace]))
      (.valueList (strings.map .const)) := by
  obtain ⟨hdepth, hlen⟩ := within_strings.mp hwithin
  have helements : List.Forall₂ (Consumes (cString limits)) ws strings :=
    (forall₂_and_right.mpr ⟨hws, hlen⟩).imp fun _ _ h => consumes_cString h.1 h.2
  exact consumes_opened hdepth (consumes_closed helements hne closeBrace (by decide) "\x7d"
    fun commands => MiValue.valueList (commands.map .const))

/-- The parser of values reads every value of the grammar within the limits at a depth. -/
def ReadsValues (limits : MiLimits) (value : ℕ → MiParser MiValue) (depth : ℕ) : Prop :=
  ∀ w v, ValueAt limits depth w v → Consumes (value depth) w v

section Containers

variable {limits : MiLimits} {value : ℕ → MiParser MiValue}

variable {depth : ℕ}

/-- `result` reads every result within the limits. -/
lemma consumes_result (hvalue : ReadsValues limits value depth) {w : Bytes} {r : MiResult}
    (h : ResultAt limits depth w r) :
    Consumes (result limits value depth) w r := by
  intro o rest
  obtain ⟨hderives, hwithin⟩ := h
  unfold result
  have hequals : identifierByte equals = false := by decide
  cases hderives with
  | @named n w name v hname hv =>
    obtain ⟨hne, hident, rfl⟩ := hname
    have hscan : name equals "result name followed by =" ⟨o, n ++ equals :: (w ++ rest)⟩ =
        .ok (n, ⟨o + n.length, equals :: (w ++ rest)⟩) :=
      nameUntil_complete hequals hident (.inr rfl) _ o
    rw [List.append_assoc, List.cons_append, bind_of_ok hscan, bind_peek,
      if_neg (by simp [hne]), bind_advance, bind_remaining, Cursor.skip,
      List.drop_succ_cons, List.drop_zero, if_neg (by simp [hv.not_script rest]),
      bind_of_ok (hvalue w v ⟨hv, hwithin⟩ _ rest), pure_apply]
    simp only [List.length_append, List.length_cons]
    congr 3
    omega
  | @script n ws strings hname hstrings hws =>
    obtain ⟨hne, hident, hscript⟩ := hname
    obtain ⟨body, hbody⟩ : ∃ body, commas ws ++ [closeBrace] = body := ⟨_, rfl⟩
    have hscan : name equals "result name followed by ="
        ⟨o, n ++ equals :: openBrace :: (body ++ rest)⟩ =
        .ok (n, ⟨o + n.length, equals :: openBrace :: (body ++ rest)⟩) :=
      nameUntil_complete hequals hident (.inr rfl) _ o
    -- the first string puts the quote behind the brace
    have hquote : ∃ t, body = quote :: t := by
      cases hws with
      | nil => exact absurd rfl hstrings
      | @cons w s ws strings hstring _ =>
        obtain ⟨t, rfl, -⟩ := hstring
        obtain ⟨t', ht'⟩ := commas_cons (quote :: t) ws
        exact ⟨t ++ t' ++ [closeBrace], by rw [← hbody, ht']; simp⟩
    obtain ⟨t, ht⟩ := hquote
    have hparse := consumes_legacyScript hstrings hws hwithin (o + n.length + 1) rest
    rw [hbody, List.cons_append] at hparse
    rw [hbody, List.append_assoc, List.cons_append, List.cons_append, bind_of_ok hscan,
      bind_peek, if_neg (by simp [hne]), bind_advance, bind_remaining,
      Cursor.skip, List.drop_succ_cons, List.drop_zero,
      if_pos (by simp [← hscript, ht, List.isPrefixOf]), bind_of_ok hparse,
      pure_apply, ← hscript]
    simp only [List.length_append, List.length_cons]
    congr 3
    omega

variable {ws : List Bytes} {results : List MiResult}

/-- The elements of a container, read at the depth below it. -/
lemma forall₂_consumes_results (hvalue : ReadsValues limits value depth)
    (hws : List.Forall₂ Result ws results) (hwithin : resultsWithin limits depth results) :
    List.Forall₂ (Consumes (result limits value depth)) ws results :=
  (forall₂_and_right.mpr ⟨hws, resultsWithin_iff.mp hwithin⟩).imp
    fun _ _ h => consumes_result hvalue h

/-- `tuple` reads every tuple within the limits. -/
lemma consumes_tuple (hvalue : ReadsValues limits value (depth + 1))
    (hws : List.Forall₂ Result ws results) (hwithin : (MiValue.tuple results).Within limits depth) :
    Consumes (tuple limits value depth)
      (openBrace :: (commas ws ++ [closeBrace])) (.tuple results) := by
  obtain ⟨hdepth, hresults⟩ := hwithin
  have helements := forall₂_consumes_results hvalue hws hresults
  refine consumes_opened hdepth fun o rest => ?_
  rw [bind_peek]
  cases hws with
  | nil =>
    have hclose := (consumes_expect closeBrace "\x7d").bind
      (f := fun _ => pure (MiValue.tuple [])) (Parser.consumes_pure _) o rest
    exact hclose
  | @cons w r ws results hresult hws =>
    obtain ⟨byte, t, ht, hident⟩ := hresult.head_commas ws
    have hclose := (identifierByte_ne hident).2.2.2.2.1
    rw [if_neg (by rw [ht]; simpa using hclose)]
    exact consumes_closed helements (by simp) closeBrace (by decide) _ MiValue.tuple o rest

/-- `list` reads every list of results within the limits. -/
lemma consumes_resultList (hvalue : ReadsValues limits value (depth + 1))
    (hne : results ≠ []) (hws : List.Forall₂ Result ws results)
    (hwithin : (MiValue.resultList results).Within limits depth) :
    Consumes (list limits value depth)
      (openBracket :: (commas ws ++ [closeBracket])) (.resultList results) := by
  obtain ⟨hdepth, hresults⟩ := hwithin
  have helements := forall₂_consumes_results hvalue hws hresults
  refine consumes_opened hdepth fun o rest => ?_
  rw [bind_peek]
  cases hws with
  | nil => exact absurd rfl hne
  | @cons w r ws results hresult hws =>
    obtain ⟨byte, t, ht, hident⟩ := hresult.head_commas ws
    have hclose := (identifierByte_ne hident).2.2.1
    have hlooks : looksLikeResult false (commas (w :: ws) ++ [closeBracket] ++ rest) = true := by
      obtain ⟨n, t, rfl, hname, hident⟩ := hresult.exists_name
      obtain ⟨t', ht'⟩ := commas_cons (n ++ equals :: t) ws
      simpa [ht'] using looksLikeResult_of_name hident (t ++ t' ++ closeBracket :: rest)
        (.inr hname)
    rw [if_neg (by rw [ht]; simpa using hclose), bind_remaining, if_pos hlooks]
    exact consumes_closed helements hne closeBracket (by decide) _ MiValue.resultList o rest

/-- `list` reads every list of values within the limits. -/
lemma consumes_valueList (hvalue : ReadsValues limits value (depth + 1))
    {values : List MiValue} (hws : List.Forall₂ Value ws values)
    (hwithin : (MiValue.valueList values).Within limits depth) :
    Consumes (list limits value depth)
      (openBracket :: (commas ws ++ [closeBracket])) (.valueList values) := by
  obtain ⟨hdepth, hvalues⟩ := hwithin
  have helements : List.Forall₂ (Consumes (value (depth + 1))) ws values :=
    (forall₂_and_right.mpr ⟨hws, valuesWithin_iff.mp hvalues⟩).imp hvalue
  refine consumes_opened hdepth fun o rest => ?_
  rw [bind_peek]
  cases hws with
  | nil => rfl
  | @cons w v ws values hv hws =>
    obtain ⟨t, ht⟩ := commas_cons w ws
    have hlooks : looksLikeResult false
        (commas (w :: ws) ++ [closeBracket] ++ rest) = false := by
      simpa [ht] using looksLikeResult_of_value hv (t ++ closeBracket :: rest)
    have hhead : (commas (w :: ws) ++ [closeBracket] ++ rest).head? ≠
        some closeBracket := by
      obtain ⟨byte, t', rfl, hbyte⟩ := hv.exists_head
      rw [ht]
      rcases hbyte with rfl | rfl | rfl <;> simp <;> decide
    rw [if_neg hhead, bind_remaining, if_neg (Bool.not_eq_true _ ▸ hlooks)]
    exact consumes_closed helements (by simp) closeBracket (by decide) _ MiValue.valueList
      o rest

end Containers

/-- `value` reads every value of the grammar within the limits, given levels for the depth. -/
lemma consumes_value {levels depth : ℕ} (h : ValueAt limits depth w v)
    (hdepth : depth ≤ limits.maxDepth) (hlevels : limits.maxDepth < levels + depth) :
    Consumes (value limits levels depth) w v := by
  induction levels generalizing depth w v with
  | zero => omega
  | succ levels ih =>
    intro o rest
    obtain ⟨hderives, hwithin⟩ := h
    -- a container stands below the limit, so its elements are one level down
    have helement : depth < limits.maxDepth →
        ReadsValues limits (value limits levels) (depth + 1) := fun hlt w v hv =>
      ih hv (by omega) (by omega)
    rw [value, bind_peek]
    cases hderives with
    | @const w bytes hstring =>
      have hparse := consumes_cString hstring hwithin o rest
      obtain ⟨t, rfl, -⟩ := hstring
      simp only [List.cons_append, List.head?_cons, if_true] at hparse ⊢
      rw [bind_of_ok hparse, pure_apply]
    | @tuple ws results hws =>
      have hquote : openBrace ≠ quote := by decide
      simpa [hquote] using consumes_tuple (helement hwithin.1) hws hwithin o rest
    | @valueList ws values hws =>
      have hquote : openBracket ≠ quote := by decide
      have hbrace : openBracket ≠ openBrace := by decide
      simpa [hquote, hbrace] using consumes_valueList (helement hwithin.1) hws hwithin o rest
    | @resultList ws results hne hws =>
      have hquote : openBracket ≠ quote := by decide
      have hbrace : openBracket ≠ openBrace := by decide
      simpa [hquote, hbrace] using consumes_resultList (helement hwithin.1) hne hws hwithin o rest

/-! ### Records -/

/-- What `topResult` reads is a result. -/
lemma sound_topResult (limits : MiLimits) :
    Parser.Sound (topResult limits) (ResultAt limits 0) :=
  sound_result (sound_value limits (limits.maxDepth + 1) 0)

/-- `topResult` reads every result within the limits. -/
lemma consumes_topResult {r : MiResult} (h : ResultAt limits 0 w r) :
    Consumes (topResult limits) w r :=
  consumes_result (fun _ _ hv => consumes_value hv (Nat.zero_le _) (by omega)) h

/-- Words that are each led by a comma. -/
lemma flatten_commas {ws : List Bytes} :
    ((w :: ws).map (comma :: ·)).flatten = comma :: commas (w :: ws) := by
  induction ws generalizing w with
  | nil => simp [commas]
  | cons w' ws ih =>
    rw [List.map_cons, List.flatten_cons, ih]
    simp [commas, List.intercalate]

/-- What `classAndResults` reads is a class and its results. -/
lemma sound_classAndResults (limits : MiLimits) :
    Parser.Sound (classAndResults limits) fun w x =>
      ClassResults w x.1 x.2 ∧ resultsWithin limits 0 x.2 := by
  intro c c' x h
  unfold classAndResults at h
  obtain ⟨n, c₁, hname, h⟩ := bind_eq_ok.mp h
  obtain ⟨hrest, ho, hident, -⟩ := nameUntil_sound hname
  split at h
  · simp [unexpected] at h
  rename_i hne
  have hn : Name n (Byte.asciiText n) := ⟨hne, hident, rfl⟩
  rw [bind_peek] at h
  split at h
  · rename_i hcomma
    obtain ⟨o₁, rest₁, rfl⟩ := exists_of_head hcomma
    rw [bind_advance] at h
    obtain ⟨results, c₂, hresults, h⟩ := bind_eq_ok.mp h
    obtain ⟨rfl, rfl⟩ := Prod.mk.inj (Except.ok.inj h)
    have hlist : Parser.Sound (commaSeparated (topResult limits))
        (Parser.SepBy comma (ResultAt limits 0)) := (sound_topResult limits).sepBy
    obtain ⟨w, hw, ho', hnonempty, ws, rfl, hws⟩ := hlist _ _ _ hresults
    obtain ⟨hderives, hwithin⟩ := forall₂_and_right.mp hws
    have hflat : (ws.map (comma :: ·)).flatten = comma :: commas ws := by
      cases hws with
      | nil => exact absurd rfl hnonempty
      | cons _ _ => exact flatten_commas
    obtain ⟨hread, hoffset⟩ := read_behind hrest ho hw ho'
    exact ⟨_, hread, hoffset, ⟨n, ws, hn, hderives, by rw [hflat, commas]⟩,
      resultsWithin_iff.mpr hwithin⟩
  · obtain ⟨rfl, rfl⟩ := Prod.mk.inj (Except.ok.inj h)
    exact ⟨n, hrest, ho, ⟨n, [], hn, .nil, by simp⟩, trivial⟩

/-- A class and its results are read to the end of the record. -/
lemma classAndResults_complete {cls : String} {results : List MiResult}
    (h : ClassResults w cls results) (hwithin : resultsWithin limits 0 results) (o : ℕ) :
    classAndResults limits ⟨o, w⟩ = .ok ((cls, results), ⟨o + w.length, []⟩) := by
  obtain ⟨n, ws, ⟨hne, hident, rfl⟩, hws, rfl⟩ := h
  have hcomma : identifierByte comma = false := by decide
  unfold classAndResults
  have helements : List.Forall₂ (Consumes (topResult limits)) ws results :=
    (forall₂_and_right.mpr ⟨hws, resultsWithin_iff.mp hwithin⟩).imp
      fun _ _ h => consumes_topResult h
  cases hws with
  | nil =>
    have hscan : name comma "result or async class" ⟨o, n ++ []⟩ =
        .ok (n, ⟨o + n.length, []⟩) := nameUntil_complete hcomma hident (.inl rfl) _ o
    simp only [List.map_nil, List.flatten_nil]
    rw [bind_of_ok hscan, if_neg hne, bind_peek, if_neg (by simp),
      pure_apply, List.append_nil]
  | @cons w r ws results hresult hws =>
    have hscan : name comma "result or async class"
        ⟨o, n ++ comma :: (commas (w :: ws))⟩ =
        .ok (n, ⟨o + n.length, comma :: (commas (w :: ws))⟩) :=
      nameUntil_complete hcomma hident (.inr rfl) _ o
    have hlist : commaSeparated (topResult limits)
        ⟨o + n.length + 1, commas (w :: ws) ++ []⟩ =
        .ok (r :: results, ⟨o + n.length + 1 + (commas (w :: ws)).length, []⟩) :=
      Parser.sepBy_of_forall₂ helements (by simp) (by simp) _
    rw [List.append_nil] at hlist
    rw [flatten_commas, bind_of_ok hscan, if_neg hne, bind_peek,
      if_pos (List.head?_cons ..), bind_advance, Cursor.skip, List.drop_succ_cons, List.drop_zero,
      bind_of_ok hlist, pure_apply]
    simp only [List.length_append, List.length_cons]
    congr 3
    omega

/-- The limit on a token. -/
def TokenWithin (token : Option ℕ) : Prop := ∀ n, token = some n → n < 2 ^ 64

/-- The value of decimal digits is their value in radix 10. -/
lemma digitsValue_eq (w : Bytes) :
    digitsValue w = radixValue 10 (w.map fun byte => byte.toNat - 48) := by
  rw [digitsValue, radixValue, List.foldl_map]

/-- What `token` reads is a token below its limit. -/
lemma sound_token : Parser.Sound token fun w n => Token w n ∧ TokenWithin n := by
  intro c c' n h
  unfold token at h
  rw [bind_remaining] at h
  split at h
  · obtain ⟨rfl, rfl⟩ := Prod.mk.inj (Except.ok.inj h)
    exact ⟨[], rfl, rfl, .none, by simp [TokenWithin]⟩
  rename_i hne
  split at h
  · rename_i hlt
    obtain ⟨rfl, rfl⟩ := Prod.mk.inj (Except.ok.inj h)
    refine ⟨c.rest.takeWhile Byte.isAsciiDigit, ?_, rfl, ?_, ?_⟩
    · rw [Cursor.skip, drop_takeWhile, List.takeWhile_append_dropWhile]
    · rw [digitsValue_eq]
      exact .digits (by simpa using hne) fun byte hbyte => List.mem_takeWhile_imp hbyte
    · intro m hm
      exact Option.some.inj hm ▸ hlt
  · simp at h

variable {n : Option ℕ} {kind : UInt8}

/-- A token in front of a byte that is no digit is read whole. -/
lemma token_complete {t : Bytes} (h : Token t n) (hn : TokenWithin n)
    (hkind : Byte.isAsciiDigit kind = false) (w : Bytes) (o : ℕ) :
    token ⟨o, t ++ kind :: w⟩ = .ok (n, ⟨o + t.length, kind :: w⟩) := by
  unfold token
  rw [bind_remaining]
  cases h with
  | none => simp [hkind]
  | digits hne hdigits =>
    have hspan : (t ++ kind :: w).takeWhile Byte.isAsciiDigit = t :=
      takeWhile_append_of_maximal hdigits (by simpa using hkind)
    rw [hspan, if_neg (by simpa using hne), digitsValue_eq, if_pos (hn _ rfl),
      bind_advance, pure_apply, Cursor.skip, List.drop_left]

/-- The records that carry a class: `make` with the token, the class and the results. -/
lemma sound_classRecord (limits : MiLimits) (make : String → List MiResult → MiRecord) :
    Parser.Sound
      (do
        let (cls, results) ← classAndResults limits
        pure (make cls results))
      fun w r => ∃ cls results, ClassResults w cls results ∧ resultsWithin limits 0 results ∧
        r = make cls results := by
  have hbind := (sound_classAndResults limits).bind
    fun x => Parser.sound_pure (make x.1 x.2)
  refine hbind.mono ?_
  rintro w r ⟨w₁, _, ⟨cls, results⟩, rfl, ⟨hclass, hwithin⟩, rfl, rfl⟩
  exact ⟨cls, results, by simpa using hclass, hwithin, rfl⟩

/-- The records that carry a string. -/
lemma sound_streamRecord (limits : MiLimits) (make : Bytes → MiRecord) :
    Parser.Sound
      (do
        let bytes ← cString limits
        pure (make bytes))
      fun w r => ∃ bytes, CString w bytes ∧ bytes.length ≤ limits.maxDecodedStringBytes ∧
        r = make bytes := by
  refine ((sound_cString limits).bind fun bytes => Parser.sound_pure (make bytes)).mono ?_
  rintro w r ⟨w₁, _, bytes, rfl, ⟨hstring, hlen⟩, rfl, rfl⟩
  exact ⟨bytes, by simpa using hstring, hlen, rfl⟩

/-- What stands behind a prefix byte, and the record it makes. -/
inductive BodyAt (limits : MiLimits) (token : Option ℕ) (kind : UInt8) : Bytes → MiRecord → Prop
  | results {w : Bytes} {cls : String} {results : List MiResult}
      {make : Option ℕ → String → List MiResult → MiRecord} (isKind : Kind kind make)
      (body : ClassResults w cls results) (within : resultsWithin limits 0 results) :
      BodyAt limits token kind w (make token cls results)
  | stream {w bytes : Bytes} {make : Bytes → MiRecord} (noToken : token = none)
      (isStream : Stream kind make) (string : CString w bytes)
      (within : bytes.length ≤ limits.maxDecodedStringBytes) :
      BodyAt limits token kind w (make bytes)

/-- What `recordBody` reads stands behind its prefix byte. -/
lemma sound_recordBody (limits : MiLimits) (token : Option ℕ) (kind : UInt8) :
    Parser.Sound (recordBody limits token kind) (BodyAt limits token kind) := by
  have hclass : ∀ {make}, Kind kind make → Parser.Sound
      (do
        let (cls, results) ← classAndResults limits
        pure (make token cls results)) (BodyAt limits token kind) := fun {make} hkind => by
    refine (sound_classRecord limits (make token)).mono ?_
    rintro w r ⟨cls, results, hbody, hwithin, rfl⟩
    exact .results hkind hbody hwithin
  have hstream : ∀ {make}, Stream kind make → token.isNone → Parser.Sound
      (do
        let bytes ← cString limits
        pure (make bytes)) (BodyAt limits token kind) := fun {make} hkind hnone => by
    refine (sound_streamRecord limits make).mono ?_
    rintro w r ⟨bytes, hstring, hlen, rfl⟩
    exact .stream (Option.isNone_iff_eq_none.mp hnone) hkind hstring hlen
  unfold recordBody
  split
  · rename_i h; subst h; exact hclass .result
  split
  · rename_i h; subst h; exact hclass .execAsync
  split
  · rename_i h; subst h; exact hclass .statusAsync
  split
  · rename_i h; subst h; exact hclass .notifyAsync
  simp only [Bool.and_eq_true, decide_eq_true_eq]
  split
  · rename_i h; obtain ⟨rfl, hnone⟩ := h; exact hstream .console hnone
  split
  · rename_i h; obtain ⟨rfl, hnone⟩ := h; exact hstream .target hnone
  split
  · rename_i h; obtain ⟨rfl, hnone⟩ := h; exact hstream .log hnone
  · intro c c' r h
    simp [unexpected] at h

variable {r : MiRecord}

/-- The body of a record is read to its end. -/
lemma recordBody_complete {token : Option ℕ} (h : BodyAt limits token kind w r) (o : ℕ) :
    recordBody limits token kind ⟨o, w⟩ = .ok (r, ⟨o + w.length, []⟩) := by
  unfold recordBody
  cases h with
  | results hkind hbody hwithin =>
    have hparse := classAndResults_complete hbody hwithin o
    -- the prefix bytes are tried one after the other
    cases hkind
    all_goals
      repeat rw [if_neg (by decide)]
      rw [if_pos rfl, bind_of_ok hparse]
      rfl
  | stream hnone hstream hstring hlen =>
    subst hnone
    have hparse := consumes_cString hstring hlen o []
    rw [List.append_nil] at hparse
    cases hstream
    all_goals
      repeat rw [if_neg (by decide)]
      rw [if_pos (by decide), bind_of_ok hparse, pure_apply]

/-- No prefix byte is a digit. -/
lemma BodyAt.not_digit {token : Option ℕ} (h : BodyAt limits token kind w r) :
    Byte.isAsciiDigit kind = false := by
  cases h with
  | results hkind _ _ => cases hkind <;> decide
  | stream _ hstream _ _ => cases hstream <;> decide

variable {input : Bytes}

/-- `record` accepts a token, a prefix byte and a body that reaches the end of the record. -/
lemma record_eq_ok : (∃ c', record limits ⟨0, input⟩ = .ok (r, c')) ↔
      ∃ t n kind w, input = t ++ kind :: w ∧ Token t n ∧ TokenWithin n ∧
        BodyAt limits n kind w r := by
  unfold record
  constructor
  · rintro ⟨c', h⟩
    obtain ⟨n, c₁, htoken, h⟩ := bind_eq_ok.mp h
    obtain ⟨t, ht, -, hn, hlimit⟩ := sound_token _ _ _ htoken
    obtain ⟨kind, c₂, htake, h⟩ := bind_eq_ok.mp h
    obtain ⟨o, rest, rfl, rfl⟩ := take_eq_ok.mp htake
    obtain ⟨r', c₃, hbody, h⟩ := bind_eq_ok.mp h
    rw [bind_remaining] at h
    split at h
    · rename_i hend
      obtain ⟨rfl, rfl⟩ := Prod.mk.inj (Except.ok.inj h)
      obtain ⟨w, hw, -, hbody⟩ := sound_recordBody limits n kind _ _ _ hbody
      have hrest : rest = w := by simpa [hend] using hw
      exact ⟨t, n, kind, w, by rw [← hrest, ← ht], hn, hlimit, hbody⟩
    · simp [unexpected] at h
  · rintro ⟨t, n, kind, w, rfl, hn, hlimit, hbody⟩
    refine ⟨⟨0 + t.length + 1 + w.length, []⟩, ?_⟩
    rw [bind_of_ok (token_complete hn hlimit hbody.not_digit w 0),
      bind_of_ok (take_eq_ok.mpr ⟨_, w, rfl, rfl⟩),
      bind_of_ok (recordBody_complete hbody _), bind_remaining, if_pos rfl,
      pure_apply]

/-! ### The prompt -/

/-- Trimming leaves the prompt when nothing but whitespace stands around it. -/
lemma trimAscii_eq_prompt : trimAscii input = promptText ↔ ∃ before after,
      (∀ byte ∈ before, isAsciiWhitespace byte) ∧
        (∀ byte ∈ after, isAsciiWhitespace byte) ∧ input = before ++ promptText ++ after := by
  unfold trimAscii
  constructor
  · intro h
    set tail := input.dropWhile isAsciiWhitespace with htail
    have hreverse : tail.reverse.dropWhile isAsciiWhitespace = promptText.reverse := by
      rw [← h, List.reverse_reverse]
    refine ⟨input.takeWhile isAsciiWhitespace,
      (tail.reverse.takeWhile isAsciiWhitespace).reverse, ?_, ?_, ?_⟩
    · exact fun byte hbyte => List.mem_takeWhile_imp hbyte
    · exact fun byte hbyte => List.mem_takeWhile_imp (List.mem_reverse.mp hbyte)
    · have hsplit := List.takeWhile_append_dropWhile (p := isAsciiWhitespace)
        (l := tail.reverse)
      rw [hreverse] at hsplit
      have hback : tail = promptText ++
          (tail.reverse.takeWhile isAsciiWhitespace).reverse := by
        have := congrArg List.reverse hsplit
        simpa using this.symm
      rw [List.append_assoc, ← hback, htail, List.takeWhile_append_dropWhile]
  · rintro ⟨before, after, hbefore, hafter, rfl⟩
    have hafter' : ∀ byte ∈ after.reverse, isAsciiWhitespace byte := fun byte hbyte =>
      hafter byte (List.mem_reverse.mp hbyte)
    have hfront : (before ++ promptText ++ after).dropWhile isAsciiWhitespace =
        promptText ++ after := by
      rw [List.append_assoc, List.dropWhile_append_of_pos hbefore]
      rfl
    have hback : (promptText ++ after).reverse.dropWhile isAsciiWhitespace =
        promptText.reverse := by
      rw [List.reverse_append, List.dropWhile_append_of_pos hafter']
      rfl
    rw [hfront, hback, List.reverse_reverse]

/-- A record with a prefix byte is no prompt: it starts with a digit or its prefix byte. -/
lemma trimAscii_ne_prompt {t w : Bytes} (hn : Token t n) (hbody : BodyAt limits n kind w r) :
    trimAscii (t ++ kind :: w) ≠ promptText := by
  intro h
  obtain ⟨before, after, hbefore, -, heq⟩ := trimAscii_eq_prompt.mp h
  have hhead : ∃ byte s, before ++ promptText ++ after = byte :: s ∧
      (isAsciiWhitespace byte ∨ byte = 40) := by
    cases before with
    | nil => exact ⟨40, _, rfl, .inr rfl⟩
    | cons byte before => exact ⟨byte, _, rfl, .inl (hbefore byte (by simp))⟩
  obtain ⟨byte, s, hs, hbyte⟩ := hhead
  rw [hs] at heq
  have hfirst : Byte.isAsciiDigit byte ∨ byte = kind := by
    cases hn with
    | none => exact .inr (List.cons.inj heq).1.symm
    | digits hne hdigits =>
      obtain ⟨b, t, rfl⟩ := List.exists_cons_of_ne_nil hne
      obtain rfl : b = byte := (List.cons.inj heq).1
      exact .inl (hdigits b (by simp))
  rcases hfirst with hdigit | rfl
  · rcases hbyte with hspace | rfl
    · simp only [isAsciiWhitespace, Bool.or_eq_true, decide_eq_true_eq] at hspace
      rcases hspace with (((rfl | rfl) | rfl) | rfl) | rfl <;> exact absurd hdigit (by decide)
    · exact absurd hdigit (by decide)
  · cases hbody with
    | results hkind _ _ => cases hkind <;> exact absurd hbyte (by decide)
    | stream _ hstream _ _ => cases hstream <;> exact absurd hbyte (by decide)

/-! ### The grammar is what the parser accepts -/

/-- The limits of a record with a class. -/
lemma within_of_kind {make : Option ℕ → String → List MiResult → MiRecord} (h : Kind kind make)
    (n : Option ℕ) (cls : String) (results : List MiResult) :
    (make n cls results).Within limits ↔ TokenWithin n ∧ resultsWithin limits 0 results := by
  cases h <;> rfl

/-- The limit of a record with a string. -/
lemma within_of_stream {make : Bytes → MiRecord} (h : Stream kind make) (bytes : Bytes) :
    (make bytes).Within limits ↔ bytes.length ≤ limits.maxDecodedStringBytes := by
  cases h <;> rfl

/-- The grammar's records within the limits are the prompt and what `record` accepts. -/
lemma record_within_iff : Record input r ∧ r.Within limits ↔
      (trimAscii input = promptText ∧ r = .prompt) ∨
        ∃ t n kind w, input = t ++ kind :: w ∧ Token t n ∧ TokenWithin n ∧
          BodyAt limits n kind w r := by
  constructor
  · rintro ⟨h, hwithin⟩
    cases h with
    | prompt hbefore hafter =>
      exact .inl ⟨trimAscii_eq_prompt.mpr ⟨_, _, hbefore, hafter, rfl⟩, rfl⟩
    | results hn hkind hbody =>
      obtain ⟨hlimit, hresults⟩ := (within_of_kind hkind _ _ _).mp hwithin
      exact .inr ⟨_, _, _, _, rfl, hn, hlimit, .results hkind hbody hresults⟩
    | stream hstream hstring =>
      have hlen := (within_of_stream hstream _).mp hwithin
      exact .inr ⟨[], none, _, _, rfl, .none, by simp [TokenWithin],
        .stream rfl hstream hstring hlen⟩
  · rintro (⟨htrim, rfl⟩ | ⟨t, n, kind, w, rfl, hn, hlimit, hbody⟩)
    · obtain ⟨before, after, hbefore, hafter, rfl⟩ := trimAscii_eq_prompt.mp htrim
      exact ⟨.prompt hbefore hafter, trivial⟩
    · cases hbody with
      | results hkind hbody hresults =>
        exact ⟨.results hn hkind hbody, (within_of_kind hkind _ _ _).mpr ⟨hlimit, hresults⟩⟩
      | stream hnone hstream hstring hlen =>
        subst hnone
        cases hn with
        | none => exact ⟨.stream hstream hstring, (within_of_stream hstream _).mpr hlen⟩

/-- `parseRecord` accepts the prompt and what `record` accepts, if they are short enough. -/
lemma parseRecord_ok_iff : parseRecord input limits = .ok r ↔
      input ≠ [] ∧ input.length ≤ limits.maxRecordBytes ∧
        ((trimAscii input = promptText ∧ r = .prompt) ∨
          ∃ t n kind w, input = t ++ kind :: w ∧ Token t n ∧ TokenWithin n ∧
            BodyAt limits n kind w r) := by
  unfold parseRecord
  split
  · simp [*]
  rename_i hne
  split
  · rename_i hlong
    simp [not_le.mpr hlong]
  rename_i hshort
  have hframe : input ≠ [] ∧ input.length ≤ limits.maxRecordBytes := ⟨hne, not_lt.mp hshort⟩
  split
  · rename_i htrim
    constructor
    · intro h
      obtain rfl := Except.ok.inj h
      exact ⟨hframe.1, hframe.2, .inl ⟨htrim, rfl⟩⟩
    · rintro ⟨-, -, ⟨-, rfl⟩ | ⟨t, n, kind, w, rfl, hn, -, hbody⟩⟩
      · rfl
      · exact absurd htrim (trimAscii_ne_prompt hn hbody)
  · rename_i htrim
    rw [← record_eq_ok]
    constructor
    · intro h
      cases hrecord : record limits ⟨0, input⟩ with
      | error e => simp [hrecord, Except.map] at h
      | ok x =>
        obtain rfl : x.1 = r := by simpa [hrecord, Except.map] using h
        exact ⟨hframe.1, hframe.2, .inr ⟨x.2, rfl⟩⟩
    · rintro ⟨-, -, ⟨h, -⟩ | ⟨c', h⟩⟩
      · exact absurd h htrim
      · rw [h]
        rfl

/-- `parseRecord` reads a record of the grammar that is no prompt. -/
lemma parseRecord_of_body {t w : Bytes} (hn : Token t n) (hlimit : TokenWithin n)
    (hbody : BodyAt limits n kind w r) (hlength : (t ++ kind :: w).length ≤ limits.maxRecordBytes) :
    parseRecord (t ++ kind :: w) limits = .ok r :=
  parseRecord_ok_iff.mpr ⟨by simp, hlength, .inr ⟨t, n, kind, w, rfl, hn, hlimit, hbody⟩⟩

/-- `parse_record` accepts a byte string exactly when it is nonempty, no longer than the record
limit, and derives its result in the grammar within the limits. -/
theorem parseRecord_eq_ok_iff (input : Bytes) (limits : MiLimits) (r : MiRecord) :
    parseRecord input limits = .ok r ↔
      input ≠ [] ∧ input.length ≤ limits.maxRecordBytes ∧ Record input r ∧ r.Within limits := by
  rw [record_within_iff, parseRecord_ok_iff]

end GdbAi
