import GdbAi.Library.Json

/-!
# The size of a JSON text

The bytes of a compact text, value by value: an object takes what its fields take and one byte
more, and a string of plain characters its length and its quotes.
-/

namespace Json

/-! ### Objects and arrays -/

/-- The bytes of a field with its colon and a comma. -/
def fieldSize (field : String × Json) : ℕ := (Json.string field.1).size + field.2.size + 2

/-- The bytes of a name and a value as a field. -/
lemma fieldSize_mk (name : String) (value : Json) :
    fieldSize (name, value) = (Json.string name).size + value.size + 2 := rfl

/-- The fields of an object, with a comma too many. -/
lemma renderFields_size (field : String × Json) (fields : List (String × Json)) :
    ((renderFields (field :: fields)).map Char.utf8Size).sum + 1 =
      ((field :: fields).map fieldSize).sum := by
  have hcolon : Char.utf8Size ':' = 1 := by decide
  have hcomma : Char.utf8Size ',' = 1 := by decide
  induction fields generalizing field with
  | nil =>
    simp only [renderFields, List.map_append, List.map_cons, List.sum_append, List.sum_cons,
      hcolon, fieldSize, size, render, List.map_nil, List.sum_nil]
    omega
  | cons next fields ih =>
    have hrest := ih next
    rw [List.map_cons, List.sum_cons, ← hrest]
    simp only [renderFields, List.map_append, List.map_cons, List.sum_append, List.sum_cons,
      hcolon, hcomma, fieldSize, size, render]
    omega

/-- The bytes of an object: its fields, with one bracket in the place of the last comma. -/
lemma size_object (field : String × Json) (fields : List (String × Json)) :
    (Json.object (field :: fields)).size = 1 + ((field :: fields).map fieldSize).sum := by
  have hopen : Char.utf8Size '{' = 1 := by decide
  have hclose : Char.utf8Size '}' = 1 := by decide
  rw [← renderFields_size]
  simp only [size, render, List.map_append, List.map_cons, List.sum_append, List.sum_cons, hopen,
    hclose, List.map_nil, List.sum_nil]
  omega

lemma renderItems_size (item : Json) (items : List Json) :
    ((renderItems (item :: items)).map Char.utf8Size).sum + 1 =
      ((item :: items).map fun item => item.size + 1).sum := by
  have hcomma : Char.utf8Size ',' = 1 := by decide
  induction items generalizing item with
  | nil =>
    simp only [renderItems, List.map_cons, List.sum_cons, size, List.map_nil, List.sum_nil]
    omega
  | cons next items ih =>
    have hrest := ih next
    rw [List.map_cons, List.sum_cons, ← hrest]
    simp only [renderItems, List.map_append, List.map_cons, List.sum_append, List.sum_cons,
      hcomma, size]
    omega

lemma size_array (item : Json) (items : List Json) :
    (Json.array (item :: items)).size = 1 + ((item :: items).map fun item => item.size + 1).sum := by
  have hopen : Char.utf8Size '[' = 1 := by decide
  have hclose : Char.utf8Size ']' = 1 := by decide
  rw [← renderItems_size]
  simp only [size, render, List.map_append, List.map_cons, List.sum_append, List.sum_cons, hopen,
    hclose, List.map_nil, List.sum_nil]
  omega

lemma size_singleton (item : Json) : (Json.array [item]).size = item.size + 2 := by
  rw [size_array, List.map_singleton, List.sum_singleton]
  omega

/-! ### Strings -/

/-- A character that is written as itself, in one byte. -/
def isPlain (c : Char) : Bool := 32 ≤ c.toNat && c.toNat ≤ 126 && c ≠ '"' && c ≠ '\\'

lemma escape_of_isPlain {c : Char} (h : isPlain c = true) : escape c = [c] := by
  simp only [isPlain, Bool.and_eq_true, decide_eq_true_eq] at h
  obtain ⟨⟨⟨hlow, -⟩, hquote⟩, hbackslash⟩ := h
  have hcontrol : ∀ d : Char, d.toNat < 32 → c ≠ d := by
    rintro d hd rfl
    omega
  unfold escape
  rw [if_neg (by simpa using hquote), if_neg (by simpa using hbackslash),
    if_neg (hcontrol _ (by decide)), if_neg (hcontrol _ (by decide)),
    if_neg (hcontrol _ (by decide)), if_neg (by omega), if_neg (by omega), if_neg (by omega)]

lemma utf8Size_of_isPlain {c : Char} (h : isPlain c = true) : c.utf8Size = 1 := by
  simp only [isPlain, Bool.and_eq_true, decide_eq_true_eq] at h
  have hhigh : c.toNat ≤ 126 := h.1.1.2
  rw [Char.utf8Size_eq_one_iff, UInt32.le_iff_toNat_le]
  exact hhigh.trans (by decide)

lemma size_of_all_isPlain {chars : List Char} (h : ∀ c ∈ chars, isPlain c = true) :
    ((chars.flatMap escape).map Char.utf8Size).sum = chars.length := by
  induction chars with
  | nil => rfl
  | cons c chars ih =>
    have hc := h c List.mem_cons_self
    have hrest := ih fun d hd => h d (List.mem_cons_of_mem c hd)
    rw [List.flatMap_cons, escape_of_isPlain hc]
    simp only [List.cons_append, List.nil_append, List.map_cons, List.sum_cons,
      utf8Size_of_isPlain hc, hrest, List.length_cons]
    omega

/-- A string takes what its characters are written as, and the quotes. -/
lemma size_string (text : String) :
    (Json.string text).size = ((text.toList.flatMap escape).map Char.utf8Size).sum + 2 := by
  have hquote : Char.utf8Size '"' = 1 := by decide
  simp only [size, render, quote, List.map_cons, List.map_append, List.sum_cons, List.sum_append,
    hquote, List.map_nil, List.sum_nil]
  omega

/-- The size of a literal, over its characters. -/
lemma size_literal {chars : List Char} {n : ℕ}
    (h : ((chars.flatMap escape).map Char.utf8Size).sum + 2 = n) :
    (Json.string (String.ofList chars)).size = n := by
  rw [size_string, String.toList_ofList, h]

/-- A text of plain characters takes its length and the quotes. -/
lemma size_string_of_isPlain {text : String} (h : ∀ c ∈ text.toList, isPlain c = true) :
    (Json.string text).size = text.toList.length + 2 := by
  rw [size_string, size_of_all_isPlain h]

end Json
