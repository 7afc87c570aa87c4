import Mathlib.Data.List.Basic
import Mathlib.Order.Nat
import Mathlib.Tactic.Common

/-!
# Patches

A hunk shows a stretch of two lists at one offset, as far as each of them reaches.  Hunks that show
differing positions only, that are apart from each other and that leave no difference out turn the
old list into the new one (`apply_eq_of_complete`): the old list is followed up to a hunk, the new
one from there on, and only a hunk that reaches past the end of one list changes the length.
-/

namespace Patches

variable {α : Type*}

/-- A stretch of two lists. -/
structure Hunk (α : Type*) where
  offset : ℕ
  before : List α
  after : List α
  deriving DecidableEq, Repr

namespace Hunk

/-- The number of positions of a hunk. -/
def extent (hunk : Hunk α) : ℕ := max hunk.before.length hunk.after.length

/-- The position behind a hunk. -/
def stop (hunk : Hunk α) : ℕ := hunk.offset + hunk.extent

/-- The position lies in the hunk. -/
def Has (hunk : Hunk α) (position : ℕ) : Prop :=
  hunk.offset ≤ position ∧ position < hunk.stop

/-- The hunk of `old` and `new` from `start` to `stop`, clipped to each list. -/
def between (old new : List α) (start stop : ℕ) : Hunk α :=
  ⟨start, (old.drop start).take (stop - start), (new.drop start).take (stop - start)⟩

/-- The hunk shows what the two lists have at its positions, and they differ at each of them. -/
structure Shows (hunk : Hunk α) (old new : List α) : Prop where
  before_eq : hunk.before = (old.drop hunk.offset).take hunk.extent
  after_eq : hunk.after = (new.drop hunk.offset).take hunk.extent
  differs : ∀ position, hunk.Has position → old[position]? ≠ new[position]?

/-- The list with the old part of the hunk replaced by the new one. -/
def replace (hunk : Hunk α) (items : List α) : List α :=
  items.take hunk.offset ++ hunk.after ++ items.drop (hunk.offset + hunk.before.length)

end Hunk

/-- The hunks ascend, with at least one position between two of them. -/
def Separated (hunks : List (Hunk α)) : Prop :=
  hunks.Pairwise fun first second => first.stop < second.offset

/-- Every position at which the lists differ lies in a hunk. -/
def Complete (hunks : List (Hunk α)) (old new : List α) : Prop :=
  ∀ position, old[position]? ≠ new[position]? → ∃ hunk ∈ hunks, hunk.Has position

/-- The hunks put into a list; from the last one on, so that the offsets stay those of the list. -/
def apply (hunks : List (Hunk α)) (items : List α) : List α :=
  hunks.foldr Hunk.replace items

variable {old new : List α}

/-! ### Hunks of two lists -/

/-- Where one list has an item and the other has none, they differ. -/
lemma lt_max_length_of_differs {position : ℕ} (h : old[position]? ≠ new[position]?) :
    position < max old.length new.length := by
  by_contra hpast
  rw [List.getElem?_eq_none (by omega), List.getElem?_eq_none (by omega)] at h
  exact h rfl

/-- A hunk between two positions within the longer list has as many positions. -/
lemma extent_between {start stop : ℕ} (h : stop ≤ max old.length new.length) :
    (Hunk.between old new start stop).extent = stop - start := by
  simp only [Hunk.between, Hunk.extent, List.length_take, List.length_drop]
  omega

lemma stop_between {start stop : ℕ} (hstart : start ≤ stop)
    (h : stop ≤ max old.length new.length) : (Hunk.between old new start stop).stop = stop := by
  rw [Hunk.stop, extent_between h]
  exact Nat.add_sub_of_le hstart

/-- The hunk between two positions shows the lists if they differ all along. -/
lemma shows_between {start stop : ℕ} (hstart : start ≤ stop)
    (h : stop ≤ max old.length new.length)
    (hdiffers : ∀ position, start ≤ position → position < stop → old[position]? ≠ new[position]?) :
    (Hunk.between old new start stop).Shows old new where
  before_eq := by rw [extent_between h]; rfl
  after_eq := by rw [extent_between h]; rfl
  differs := by
    rintro position ⟨hlow, hhigh⟩
    rw [stop_between hstart h] at hhigh
    exact hdiffers position hlow hhigh

/-! ### The old list up to a position, the new one from there -/

/-- Lists that agree from `start` on have the same rest. -/
lemma drop_eq_of_agree {start : ℕ}
    (h : ∀ position, start ≤ position → old[position]? = new[position]?) :
    old.drop start = new.drop start := by
  apply List.ext_getElem?
  intro i
  rw [List.getElem?_drop, List.getElem?_drop]
  exact h _ (Nat.le_add_right _ _)

/-- Between two positions at which the lists agree it makes no difference where one changes over. -/
lemma take_append_drop_of_agree {start stop : ℕ} (hle : start ≤ stop)
    (h : ∀ position, start ≤ position → position < stop → old[position]? = new[position]?) :
    old.take stop ++ new.drop stop = old.take start ++ new.drop start := by
  have hsame : (old.drop start).take (stop - start) = (new.drop start).take (stop - start) := by
    apply List.ext_getElem?
    intro i
    rw [List.getElem?_take, List.getElem?_take, List.getElem?_drop, List.getElem?_drop]
    split
    · exact h _ (Nat.le_add_right _ _) (by omega)
    · rfl
  have hold : old.take stop = old.take start ++ (old.drop start).take (stop - start) := by
    rw [← List.take_add, Nat.add_sub_of_le hle]
  have hnew : new.drop start = (new.drop start).take (stop - start) ++ new.drop stop := by
    conv_lhs => rw [← List.take_append_drop (stop - start) (new.drop start), List.drop_drop,
      Nat.add_sub_of_le hle]
  rw [hold, hnew, hsame, List.append_assoc]

/-- A hunk put into a list that follows the new one behind it moves the change to its offset. -/
lemma replace_take_append_drop {hunk : Hunk α} (hshows : hunk.Shows old new)
    (hnext : old[hunk.stop]? = new[hunk.stop]?) :
    hunk.replace (old.take hunk.stop ++ new.drop hunk.stop) =
      old.take hunk.offset ++ new.drop hunk.offset := by
  have hafter : hunk.after ++ new.drop hunk.stop = new.drop hunk.offset := by
    rw [hshows.after_eq, Hunk.stop, ← List.drop_drop, List.take_append_drop]
  have hlength : hunk.before.length = min hunk.extent (old.length - hunk.offset) := by
    rw [hshows.before_eq, List.length_take, List.length_drop]
  have hstop : hunk.stop = hunk.offset + hunk.extent := rfl
  by_cases hinside : hunk.stop ≤ old.length
  · have htake : (old.take hunk.stop).length = hunk.stop := by
      rw [List.length_take, Nat.min_eq_left hinside]
    have hdrop : hunk.offset + hunk.before.length = (old.take hunk.stop).length := by omega
    rw [Hunk.replace, hdrop, List.drop_left, List.take_append_of_le_length (by omega),
      List.take_take, Nat.min_eq_left (by omega), List.append_assoc, hafter]
  · -- The old list ends within the hunk, so the new one ends with it.
    have hend : new.drop hunk.stop = [] := by
      rw [List.getElem?_eq_none (by omega), eq_comm, List.getElem?_eq_none_iff] at hnext
      exact List.drop_of_length_le hnext
    have hwhole : old.take hunk.stop = old := List.take_of_length_le (by omega)
    have hnone : old.drop (hunk.offset + hunk.before.length) = [] :=
      List.drop_of_length_le (by omega)
    rw [hend, List.append_nil] at hafter
    rw [Hunk.replace, hend, hwhole, List.append_nil, hafter, hnone, List.append_nil]

/-- Hunks from `start` on that leave no difference out from there turn the old list into the new
one behind `start`. -/
lemma apply_eq_take_append_drop {hunks : List (Hunk α)} {start : ℕ}
    (hshows : ∀ hunk ∈ hunks, hunk.Shows old new) (hseparated : Separated hunks)
    (hstart : ∀ hunk ∈ hunks, start ≤ hunk.offset)
    (hcomplete : ∀ position, start ≤ position → old[position]? ≠ new[position]? →
      ∃ hunk ∈ hunks, hunk.Has position) :
    apply hunks old = old.take start ++ new.drop start := by
  -- Induction on the hunks; `start` moves behind the first one.
  induction hunks generalizing start with
  | nil =>
    have hagree : old.drop start = new.drop start := by
      refine drop_eq_of_agree fun position hposition => ?_
      by_contra hdiffers
      obtain ⟨hunk, hmem, -⟩ := hcomplete position hposition hdiffers
      cases hmem
    rw [← hagree, List.take_append_drop]
    rfl
  | cons hunk hunks ih =>
    have hfirst := hshows hunk List.mem_cons_self
    have hlow := hstart hunk List.mem_cons_self
    have hstop : hunk.stop = hunk.offset + hunk.extent := rfl
    have hlater : ∀ other ∈ hunks, hunk.stop < other.offset := fun other hother =>
      List.rel_of_pairwise_cons hseparated hother
    have htail : apply hunks old = old.take hunk.stop ++ new.drop hunk.stop := by
      refine ih (fun other hother => hshows other (List.mem_cons_of_mem _ hother))
        hseparated.of_cons (fun other hother => (hlater other hother).le) ?_
      intro position hposition hdiffers
      obtain ⟨other, hmem, hhas⟩ := hcomplete position (by omega) hdiffers
      rcases List.mem_cons.mp hmem with rfl | hmem
      · exact absurd hhas.2 (by omega)
      · exact ⟨other, hmem, hhas⟩
    -- The position behind the hunk lies in none of them, for they are apart.
    have hnext : old[hunk.stop]? = new[hunk.stop]? := by
      by_contra hdiffers
      obtain ⟨other, hmem, hhas⟩ := hcomplete hunk.stop (by omega) hdiffers
      rcases List.mem_cons.mp hmem with rfl | hmem
      · exact absurd hhas.2 (lt_irrefl _)
      · exact absurd hhas.1 (not_le.mpr (hlater other hmem))
    have hbefore : ∀ position, start ≤ position → position < hunk.offset →
        old[position]? = new[position]? := by
      intro position hposition hoffset
      by_contra hdiffers
      obtain ⟨other, hmem, hhas⟩ := hcomplete position hposition hdiffers
      rcases List.mem_cons.mp hmem with rfl | hmem
      · exact absurd hhas.1 (not_le.mpr hoffset)
      · have := hlater other hmem
        exact absurd hhas.1 (by omega)
    calc apply (hunk :: hunks) old = hunk.replace (apply hunks old) := rfl
      _ = old.take hunk.offset ++ new.drop hunk.offset := by
        rw [htail, replace_take_append_drop hfirst hnext]
      _ = old.take start ++ new.drop start := take_append_drop_of_agree hlow hbefore

/-- Hunks that leave no difference out turn the old list into the new one. -/
theorem apply_eq_of_complete {hunks : List (Hunk α)} (hshows : ∀ hunk ∈ hunks, hunk.Shows old new)
    (hseparated : Separated hunks) (hcomplete : Complete hunks old new) :
    apply hunks old = new := by
  rw [apply_eq_take_append_drop hshows hseparated (fun _ _ => Nat.zero_le _)
    fun position _ => hcomplete position, List.take_zero, List.drop_zero, List.nil_append]

end Patches
