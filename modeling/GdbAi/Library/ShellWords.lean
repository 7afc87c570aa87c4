import Mathlib.Data.List.Basic
import Mathlib.Tactic.Common

/-!
# Words of a shell command

The splitting of a simple command into words by the quoting rules of a POSIX shell: a backslash, a
pair of single quotes and a pair of double quotes.  Nothing is expanded: the scan fails at an
unquoted character that has a meaning of its own, at a `$` or backquote between double quotes and
where a quotation is not closed.  Words in single quotes, with each quote in them written as a
closing quote, an escaped quote and an opening one, are read back unchanged.
-/

namespace ShellWords

/-- How the next byte is quoted. -/
inductive Mode where
  | plain | escaped | single | double | doubleEscaped
  deriving DecidableEq, Repr

/-- The words that are complete, and the word that was begun. -/
structure Scan where
  mode : Mode := .plain
  word : Option (List UInt8) := none
  words : List (List UInt8) := []
  deriving DecidableEq, Repr

/-- The characters a shell does not take literally outside quotes, blanks and quotes apart: the
end of the text and of a line, then the operators, expansions, patterns, comments and braces. -/
def special : List UInt8 :=
  [0, 10, 33, 35, 36, 37, 38, 40, 41, 42, 59, 60, 61, 62, 63, 91, 93, 94, 96, 123, 124, 125, 126]

/-- One more byte of the word. -/
def Scan.push (s : Scan) (mode : Mode) (bytes : List UInt8) : Scan :=
  { s with mode := mode, word := some (s.word.getD [] ++ bytes) }

/-- One byte of the text. -/
def Scan.next (s : Scan) (byte : UInt8) : Option Scan :=
  match s.mode with
  | .plain =>
    if byte = 32 ∨ byte = 9 then some { words := s.words ++ s.word.toList }
    else if byte = 39 then some (s.push .single [])
    else if byte = 34 then some (s.push .double [])
    else if byte = 92 then some { s with mode := .escaped }
    else if byte ∈ special then none
    else some (s.push .plain [byte])
  | .escaped =>
    if byte = 10 then some { s with mode := .plain }
    else if byte = 0 then none
    else some (s.push .plain [byte])
  | .single =>
    if byte = 39 then some (s.push .plain [])
    else if byte = 0 then none
    else some (s.push .single [byte])
  | .double =>
    if byte = 34 then some (s.push .plain [])
    else if byte = 92 then some { s with mode := .doubleEscaped }
    else if byte = 36 ∨ byte = 96 ∨ byte = 0 then none
    else some (s.push .double [byte])
  | .doubleEscaped =>
    if byte = 36 ∨ byte = 96 ∨ byte = 34 ∨ byte = 92 then some (s.push .double [byte])
    else if byte = 10 then some { s with mode := .double }
    else if byte = 0 then none
    else some (s.push .double [92, byte])

/-- The words, if no quotation is open. -/
def Scan.finish (s : Scan) : Option (List (List UInt8)) :=
  if s.mode = .plain then some (s.words ++ s.word.toList) else none

/-- The words of a text. -/
def split (text : List UInt8) : Option (List (List UInt8)) :=
  (text.foldlM Scan.next {}).bind Scan.finish

/-- A byte between single quotes. -/
def quoteByte (byte : UInt8) : List UInt8 :=
  if byte = 39 then [39, 92, 39, 39] else [byte]

/-- A word in single quotes. -/
def quote (word : List UInt8) : List UInt8 := 39 :: word.flatMap quoteByte ++ [39]

example : split (quote [97, 39, 32] ++ 32 :: quote [] ++ [9, 92, 36, 34, 92, 97, 34]) =
    some [[97, 39, 32], [], [36, 92, 97]] := by decide

variable {words : List (List UInt8)}

/-- A quoted byte is added to the word. -/
lemma foldlM_quoteByte {byte : UInt8} (hzero : byte ≠ 0) (word : List UInt8) :
    (quoteByte byte).foldlM Scan.next ⟨.single, some word, words⟩ =
      some ⟨.single, some (word ++ [byte]), words⟩ := by
  unfold quoteByte
  split
  · rename_i hquote
    subst hquote
    simp [Scan.next, Scan.push]
  · rename_i hquote
    simp [Scan.next, Scan.push, hquote, hzero]

/-- So are all bytes of a quoted word. -/
lemma foldlM_flatMap_quoteByte {rest : List UInt8} (hzero : 0 ∉ rest) (word : List UInt8) :
    (rest.flatMap quoteByte).foldlM Scan.next ⟨.single, some word, words⟩ =
      some ⟨.single, some (word ++ rest), words⟩ := by
  induction rest generalizing word with
  | nil => simp
  | cons byte rest ih =>
    rw [List.mem_cons, not_or] at hzero
    rw [List.flatMap_cons, List.foldlM_append, foldlM_quoteByte (Ne.symm hzero.1)]
    exact (ih hzero.2 _).trans (by rw [List.append_assoc, List.singleton_append])

/-- A quoted word behind a blank. -/
lemma foldlM_quote {word : List UInt8} (hzero : 0 ∉ word) (before : Option (List UInt8)) :
    (32 :: quote word).foldlM Scan.next ⟨.plain, before, words⟩ =
      some ⟨.plain, some word, words ++ before.toList⟩ := by
  have hopen : Scan.next ⟨.plain, none, words ++ before.toList⟩ 39 =
      some ⟨.single, some [], words ++ before.toList⟩ := rfl
  have hclose : Scan.next ⟨.single, some word, words ++ before.toList⟩ 39 =
      some ⟨.plain, some word, words ++ before.toList⟩ := by
    simp [Scan.next, Scan.push]
  rw [quote, List.foldlM_cons]
  change (39 :: word.flatMap quoteByte ++ [39]).foldlM Scan.next
    ⟨.plain, none, words ++ before.toList⟩ = _
  rw [List.cons_append, List.foldlM_cons, hopen, Option.bind_eq_bind, Option.bind_some,
    List.foldlM_append, foldlM_flatMap_quoteByte hzero, Option.bind_eq_bind, Option.bind_some,
    List.nil_append, List.foldlM_cons, hclose]
  rfl

/-- Quoted words are complete words, except for the last one. -/
lemma foldlM_quotes {rest : List (List UInt8)} (hzero : ∀ word ∈ rest, 0 ∉ word)
    (before : Option (List UInt8)) :
    ∃ last done, (rest.flatMap fun word => 32 :: quote word).foldlM Scan.next
        ⟨.plain, before, words⟩ = some ⟨.plain, last, done⟩ ∧
      done ++ last.toList = words ++ before.toList ++ rest := by
  induction rest generalizing before words with
  | nil => exact ⟨before, words, rfl, (List.append_nil _).symm⟩
  | cons word rest ih =>
    obtain ⟨last, done, hscan, hwords⟩ :=
      ih (fun other hother => hzero other (List.mem_cons_of_mem _ hother)) (some word)
    refine ⟨last, done, ?_, ?_⟩
    · rw [List.flatMap_cons, List.foldlM_append, foldlM_quote (hzero word List.mem_cons_self)]
      exact hscan
    · rw [hwords, List.append_assoc, Option.toList_some, List.singleton_append]

/-- Words in single quotes are read back. -/
lemma split_quotes (hzero : ∀ word ∈ words, 0 ∉ word) :
    split (words.flatMap fun word => 32 :: quote word) = some words := by
  obtain ⟨last, done, hscan, hwords⟩ := @foldlM_quotes [] words hzero none
  rw [split, hscan, Option.bind_some, Scan.finish, if_pos rfl, hwords]
  rfl

end ShellWords
