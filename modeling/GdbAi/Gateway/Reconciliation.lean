import GdbAi.Gateway.ChunkedReads
import GdbAi.Reducer.Handles
import GdbAi.Reducer.Registries

/-!
# Reconciliation of threads

`reconcile_threads` of `gdb-ai-core/src/gateway/operations/reconciliation.rs` against the branches
`ThreadCreated` and `ThreadExited` of the reducer.  The threads of the session are flattened into a
map from threads to inferiors, the listing of GDB into another one; every listed thread is then
created where the second map has it, and every thread of the first map that is not listed exits.  A
thread that is registered under two inferiors has one entry in the map, and one that is listed
under another inferior than its own is not taken from there.  These are the only two obstacles to
convergence.
-/

namespace GdbAi

open Runs

/-- A map from pairs; the last pair of a key stays. -/
def collect (entries : List (String × String)) : Registry String :=
  entries.foldl (fun collected entry => collected.insert entry.1 entry.2) ∅

lemma getElem?_collect (entries : List (String × String)) (key : String) :
    (collect entries)[key]? =
      (entries.reverse.find? fun entry => entry.1 = key).map Prod.snd := by
  induction entries using List.reverseRecOn with
  | nil => simp [collect]
  | append_singleton entries entry ih =>
    rw [collect, List.foldl_append, List.foldl_cons, List.foldl_nil, ← collect,
      Registry.getElem?_insert, List.reverse_append, List.reverse_singleton, List.singleton_append,
      List.find?_cons, ih]
    by_cases hkey : entry.1 = key
    · simp [hkey]
    · simp [hkey]

namespace SessionState

/-! ### The events of a reconciliation -/

/-- The inferior of every thread. -/
def threadOwners (s : SessionState) : Registry String :=
  collect (s.inferiors.toList.flatMap fun entry =>
    entry.2.threads.keys.map fun thread => (thread, entry.2.backendId))

/-- The inferior of threads nothing is known about. -/
def fallbackGroup (s : SessionState) : String := s.inferiors.firstKey.getD "i1"

/-- The threads of a listing and their inferiors. -/
def observedThreads (s : SessionState) (threads : MiValue) : Registry String :=
  collect ((ChunkedReads.aggregateItems threads "thread").filterMap fun fields =>
    (MiResult.findStr fields "id").map fun thread =>
      (thread, ((MiResult.findStr fields "group-id").or s.threadOwners[thread]?).getD
        s.fallbackGroup))

/-- The events that `reconcile_threads` records. -/
def threadEvents (s : SessionState) (record : MiRecord) : List DomainEvent :=
  match MiResult.find record.results "threads" with
  | none => []
  | some threads =>
    (s.observedThreads threads).toList.map (fun entry => .threadCreated entry.2 entry.1) ++
      s.threadOwners.toList.filterMap fun entry =>
        if (s.observedThreads threads).contains entry.1 then none
        else some (.threadExited (some entry.2) entry.1)

/-! ### What is expected -/

/-- The threads of a listing, each with its group if that is given. -/
def listing (threads : MiValue) : List (String × Option String) :=
  (ChunkedReads.aggregateItems threads "thread").filterMap fun fields =>
    (MiResult.findStr fields "id").map fun thread => (thread, MiResult.findStr fields "group-id")

/-- The group of a thread that is listed: that of its last entry. -/
def listedGroup (threads : MiValue) (t : String) : Option (Option String) :=
  ((listing threads).reverse.find? fun item => item.1 = t).map Prod.snd

/-- The thread is registered under the inferior. -/
def Registered (s : SessionState) (k t : String) : Prop := ∃ i thread, s.Holds k i t thread

/-- Where a listing puts a thread: in its group; without one, where it is registered; and if it is
not, in the inferior of unknown threads. -/
def Placed (s : SessionState) (threads : MiValue) (k t : String) : Prop :=
  ∃ group, listedGroup threads t = some group ∧
    (group = some k ∨
      group = none ∧ (s.Registered k t ∨ (∀ k', ¬ s.Registered k' t) ∧ k = s.fallbackGroup))

/-- No thread is registered under two inferiors. -/
def RegisteredOnce (s : SessionState) : Prop :=
  ∀ k k' t, s.Registered k t → s.Registered k' t → k = k'

/-- A thread that is listed with a group is registered under no other inferior. -/
def GroupsAgree (s : SessionState) (threads : MiValue) : Prop :=
  ∀ k t group, s.Registered k t → listedGroup threads t = some (some group) → k = group

/-! ### One event -/

/-- A registered thread with the status of its inferior. -/
def slot (s : SessionState) (k t : String) : Option (ThreadState × InferiorStatus) :=
  s.inferiors[k]?.bind fun i => i.threads[t]?.map fun thread => (thread, i.status)

variable {s s' : SessionState} {k t b u : String} {seq : ℕ} {es : List (ℕ × DomainEvent)}
  {record : MiRecord} {threads : MiValue}

lemma slot_eq_some {thread : ThreadState} {status : InferiorStatus} :
    s.slot k t = some (thread, status) ↔ ∃ i, s.Holds k i t thread ∧ i.status = status := by
  simp only [slot, Option.bind_eq_some_iff, Option.map_eq_some_iff, Prod.mk.injEq, Holds]
  constructor
  · rintro ⟨i, hi, _, hthread, rfl, rfl⟩
    exact ⟨i, ⟨hi, hthread⟩, rfl⟩
  · rintro ⟨i, ⟨hi, hthread⟩, rfl⟩
    exact ⟨i, hi, thread, hthread, rfl, rfl⟩

lemma registered_iff : s.Registered k t ↔ (s.slot k t).isSome = true := by
  rw [Option.isSome_iff_exists]
  constructor
  · rintro ⟨i, thread, h⟩
    exact ⟨_, slot_eq_some.mpr ⟨i, h, rfl⟩⟩
  · rintro ⟨⟨thread, status⟩, h⟩
    obtain ⟨i, hholds, -⟩ := slot_eq_some.mp h
    exact ⟨i, thread, hholds⟩

/-- A thread runs as its inferior does. -/
def Steady (s : SessionState) (k t : String) : Prop :=
  ∃ thread status, s.slot k t = some (thread, status) ∧
    thread.running = decide (status = .running)

/-- The threads of an inferior that an event may register. -/
lemma inferiorAt_threads (s : SessionState) (k t : String) :
    (s.inferiorAt k).threads[t]? = (s.slot k t).map Prod.fst := by
  cases hi : s.inferiors[k]? with
  | none => simp [inferiorAt, hi, freshInferior, slot]
  | some i => simp [inferiorAt, hi, slot, Option.map_map, Function.comp_def]

/-- A thread that is created is registered, keeps the handle it had, and runs as its inferior
does. -/
lemma Applies.created (h : s.Applies (seq, .threadCreated k t) s') :
    s'.Steady k t ∧ ∀ x x', s.slot k t = some x → s'.slot k t = some x' → x'.1.id = x.1.id := by
  obtain ⟨-, revision, rfl⟩ := h.reduce
  set at' := { s with eventSeq := seq } with hat
  have hget := at'.reduce_getElem? (.threadCreated k t) k (by simp)
  rw [subject, if_pos rfl, Option.map_some, update, if_pos rfl] at hget
  have hthreads := at'.inferiorAt_threads k t
  have hsame : at'.slot k t = s.slot k t := rfl
  have hslot : slot { (at'.reduce (.threadCreated k t)).1 with revision := revision } k t =
      ((registerThread at'.eventSeq t (at'.inferiorAt k)).1.threads[t]?).map fun thread =>
        (thread, (registerThread at'.eventSeq t (at'.inferiorAt k)).1.status) := by
    simp only [slot, hget, Option.bind_some]
  cases hold : s.slot k t with
  | none =>
    rw [hsame, hold, Option.map_none] at hthreads
    simp only [registerThread, hthreads, Registry.getElem?_insert, if_true, Option.map_some]
      at hslot
    exact ⟨⟨_, _, hslot, rfl⟩, fun _ _ hx => by cases hx⟩
  | some x =>
    rw [hsame, hold, Option.map_some] at hthreads
    simp only [registerThread, hthreads, Registry.getElem?_insert, if_true, Option.map_some]
      at hslot
    refine ⟨⟨_, _, hslot, rfl⟩, fun y x' hy hx' => ?_⟩
    rw [hslot] at hx'
    obtain rfl := Option.some.inj hx'
    obtain rfl := Option.some.inj hy
    rfl

/-- Creating a thread leaves the others as they are. -/
lemma Applies.created_other (h : s.Applies (seq, .threadCreated b u) s') (hne : ¬ (b = k ∧ u = t)) :
    s'.slot k t = s.slot k t := by
  obtain ⟨-, revision, rfl⟩ := h.reduce
  set at' := { s with eventSeq := seq } with hat
  have hget := at'.reduce_getElem? (.threadCreated b u) k (by simp)
  have hsame : at'.slot k t = s.slot k t := rfl
  rw [← hsame]
  simp only [subject, Option.some.injEq] at hget
  by_cases hb : b = k
  · have hu : u ≠ t := fun hu => hne ⟨hb, hu⟩
    rw [if_pos hb, Option.map_some, update, if_pos hb] at hget
    have hthreads : (registerThread at'.eventSeq u (at'.inferiorAt k)).1.threads[t]? =
        (at'.inferiorAt k).threads[t]? ∧
        (registerThread at'.eventSeq u (at'.inferiorAt k)).1.status = (at'.inferiorAt k).status := by
      unfold registerThread
      split <;> simp [Registry.getElem?_insert, hu]
    simp only [slot, hget, Option.bind_some, hthreads]
    cases hi : at'.inferiors[k]? with
    | none => simp [inferiorAt, hi, freshInferior]
    | some i => simp [inferiorAt_eq hi]
  · have hid : at'.update k (.threadCreated b u) = id := by
      funext i
      rw [update, if_neg hb, id]
    rw [if_neg hb, hid, Option.map_id_fun, id] at hget
    simp only [slot, hget]

/-- A thread that exits from an inferior is not registered there any more; the others stay. -/
lemma Applies.exited (h : s.Applies (seq, .threadExited (some b) u) s') :
    s'.slot k t = if b = k ∧ u = t then none else s.slot k t := by
  obtain ⟨-, revision, rfl⟩ := h.reduce
  set at' := { s with eventSeq := seq } with hat
  have hget := at'.reduce_getElem? (.threadExited (some b) u) k (by simp)
  have hsame : at'.slot k t = s.slot k t := rfl
  rw [← hsame]
  simp only [subject, reduceCtorEq, if_false] at hget
  simp only [slot, hget]
  cases hi : at'.inferiors[k]? with
  | none => simp
  | some i =>
    simp only [Option.map_some, Option.bind_some, update]
    by_cases howner : at'.threadOwner (some b) u = some k
    · have hb : b = k := by
        simp only [threadOwner, Option.ite_none_right_eq_some, Option.some.injEq] at howner
        exact howner.2
      rw [if_pos howner]
      simp only [Registry.getElem?_erase, hb, true_and]
      split <;> rfl
    · rw [if_neg howner]
      split
      · rename_i hself
        obtain ⟨rfl, rfl⟩ := hself
        simp only [threadOwner, hi, Option.any_some, Option.ite_none_right_eq_some, and_true] at howner
        rw [Registry.contains_eq_false.mp (Bool.eq_false_iff.mpr howner)]
        rfl
      · rfl

/-! ### A run of creations and exits -/

/-- Threads are created or exit, and none does both. -/
def Disjoint (events : List DomainEvent) : Prop :=
  (∀ e ∈ events, (∃ k t, e = .threadCreated k t) ∨ ∃ k t, e = .threadExited (some k) t) ∧
    ∀ k k' t, .threadCreated k t ∈ events → .threadExited (some k') t ∉ events

/-- One of the events, seen from one thread. -/
lemma Applies.slot_cases {e : DomainEvent} (h : s.Applies (seq, e) s')
    (he : (∃ k t, e = .threadCreated k t) ∨ ∃ k t, e = .threadExited (some k) t) (k t : String) :
    (e = .threadCreated k t ∧ s'.Steady k t ∧
        ∀ x x', s.slot k t = some x → s'.slot k t = some x' → x'.1.id = x.1.id) ∨
      (e = .threadExited (some k) t ∧ s'.slot k t = none) ∨
      (e ≠ .threadCreated k t ∧ e ≠ .threadExited (some k) t ∧ s'.slot k t = s.slot k t) := by
  rcases he with ⟨b, u, rfl⟩ | ⟨b, u, rfl⟩
  · by_cases hself : b = k ∧ u = t
    · obtain ⟨rfl, rfl⟩ := hself
      exact .inl ⟨rfl, h.created⟩
    · refine .inr (.inr ⟨?_, by simp, h.created_other hself⟩)
      simpa using hself
  · have hslot := h.exited (k := k) (t := t)
    by_cases hself : b = k ∧ u = t
    · rw [if_pos hself] at hslot
      obtain ⟨rfl, rfl⟩ := hself
      exact .inr (.inl ⟨rfl, hslot⟩)
    · rw [if_neg hself] at hslot
      refine .inr (.inr ⟨by simp, ?_, hslot⟩)
      simpa using hself

/-- Behind the run a thread is registered if it was and did not exit, or was created; it keeps its
handle; and one that was created runs as its inferior does. -/
lemma run_slot (hrun : Run Applies s es s') (hes : Disjoint (es.map Prod.snd)) (k t : String) :
    (s'.Registered k t ↔ s.Registered k t ∧ .threadExited (some k) t ∉ es.map Prod.snd ∨
        .threadCreated k t ∈ es.map Prod.snd) ∧
      (∀ x x', s.slot k t = some x → s'.slot k t = some x' → x'.1.id = x.1.id) ∧
      (.threadCreated k t ∈ es.map Prod.snd → s'.Steady k t) ∧
      (.threadExited (some k) t ∉ es.map Prod.snd → s.Steady k t → s'.Steady k t) := by
  have hsteady : ∀ {s : SessionState}, s.Steady k t → s.Registered k t := by
    rintro s ⟨thread, status, hslot, -⟩
    exact registered_iff.mpr (by rw [hslot]; rfl)
  induction hrun with
  | nil s =>
    refine ⟨by simp, fun x x' hx hx' => ?_, by simp, fun _ h => h⟩
    obtain rfl := Option.some.inj (hx.symm.trans hx')
    rfl
  | @cons s s₁ s' p es head tail ih =>
    obtain ⟨seq, e⟩ := p
    rw [List.map_cons] at hes ⊢
    obtain ⟨hiff, hid, hcreated, hkept⟩ := ih ⟨fun e he => hes.1 e (List.mem_cons_of_mem _ he),
      fun k k' t hc hx => hes.2 k k' t (List.mem_cons_of_mem _ hc) (List.mem_cons_of_mem _ hx)⟩
    rcases head.slot_cases (hes.1 e List.mem_cons_self) k t with
      ⟨rfl, hnow, hsame⟩ | ⟨rfl, hnone⟩ | ⟨hne, hne', hslot⟩
    · have hexit : .threadExited (some k) t ∉ es.map Prod.snd := fun hmem =>
        hes.2 k k t List.mem_cons_self (List.mem_cons_of_mem _ hmem)
      have hlast := hkept hexit hnow
      refine ⟨by simp [hsteady hlast], fun x x' hx hx' => ?_, fun _ => hlast, fun _ _ => hlast⟩
      obtain ⟨thread, status, hmiddle, -⟩ := hnow
      exact (hid _ x' hmiddle hx').trans (hsame x _ hx hmiddle)
    · have hcreate : .threadCreated k t ∉ es.map Prod.snd := fun hmem =>
        hes.2 k k t (List.mem_cons_of_mem _ hmem) List.mem_cons_self
      have hgone : ¬ s₁.Registered k t := by
        rw [registered_iff, hnone]
        simp
      have hlast : ¬ s'.Registered k t := by
        rw [hiff]
        simp [hgone, hcreate]
      refine ⟨by simp [hlast, hcreate], fun x x' _ hx' => ?_, by simp [hcreate], by simp⟩
      exact absurd (registered_iff.mpr (by rw [hx']; rfl)) hlast
    · have hsame : s₁.Registered k t ↔ s.Registered k t := by
        rw [registered_iff, registered_iff, hslot]
      rw [hslot] at hid
      have hsteady' : s₁.Steady k t ↔ s.Steady k t := by
        unfold Steady
        rw [hslot]
      rw [hsame] at hiff
      rw [hsteady'] at hkept
      have hmem : ∀ e', e ≠ e' → (e' ∈ e :: es.map Prod.snd ↔ e' ∈ es.map Prod.snd) := by
        intro e' hne
        simp [List.mem_cons, Ne.symm hne]
      rw [hmem _ hne, hmem _ hne']
      exact ⟨hiff, hid, hcreated, hkept⟩

/-- Creating threads that run as their inferiors do changes nothing. -/
lemma run_steady (hrun : Run Applies s es s')
    (hes : ∀ p ∈ es, ∃ k t, p.2 = .threadCreated k t ∧ s.Steady k t) :
    s' = { s with eventSeq := s'.eventSeq } := by
  induction hrun with
  | nil s => rfl
  | @cons s s₁ s' p es head tail ih =>
    obtain ⟨seq, e⟩ := p
    obtain ⟨k, t, rfl, thread, status, hslot, hrunning⟩ := hes _ List.mem_cons_self
    obtain ⟨i, ⟨hi, hthread⟩, hstatus⟩ := slot_eq_some.mp hslot
    have hunchanged : ({ s with eventSeq := seq }.createThread k t).2 = false := by
      have hat : ({ s with eventSeq := seq }.ensureInferior k).inferiors[k]? = some i := by
        rw [ensureInferior_getElem?, if_pos rfl]
        exact congrArg some (inferiorAt_eq hi)
      simp only [createThread, hat, registerThread, hthread, bne_eq_false_iff_eq]
      rw [hstatus, hrunning]
    obtain ⟨-, hnext⟩ := applies_iff.mp head
    have hstep : s₁ = { s with eventSeq := seq } := by
      rw [hnext]
      change (if ({ s with eventSeq := seq }.createThread k t).2 = true then _ else
        ({ s with eventSeq := seq }.createThread k t).1) = _
      rw [hunchanged, if_neg Bool.false_ne_true]
      exact createThread_false hunchanged
    subst hstep
    exact ih fun p hp => hes p (List.mem_cons_of_mem _ hp)

/-! ### The two maps -/

lemma Filed.owner_registered (hs : s.Filed) (h : s.threadOwners[t]? = some k) :
    s.Registered k t := by
  rw [threadOwners, getElem?_collect] at h
  obtain ⟨⟨u, b⟩, hfind, rfl⟩ := Option.map_eq_some_iff.mp h
  have hkey := List.find?_some hfind
  have hmem := List.mem_reverse.mp (List.mem_of_find?_eq_some hfind)
  obtain ⟨⟨k, i⟩, hentry, hpair⟩ := List.mem_flatMap.mp hmem
  obtain ⟨u', hu', heq⟩ := List.mem_map.mp hpair
  obtain ⟨rfl, rfl⟩ := Prod.mk.inj heq
  obtain rfl : u' = t := by simpa using hkey
  have hi := Std.ExtTreeMap.mem_toList_iff_getElem?_eq_some.mp hentry
  obtain ⟨thread, hthread⟩ := Option.isSome_iff_exists.mp
    (Std.ExtTreeMap.isSome_getElem?_iff_mem.mpr (Std.ExtTreeMap.mem_keys.mp hu'))
  rw [(hs.inferiors k i hi).key]
  exact ⟨i, thread, hi, hthread⟩

lemma Registered.owner (h : s.Registered k t) : ∃ k', s.threadOwners[t]? = some k' := by
  obtain ⟨i, thread, hi, hthread⟩ := h
  have hmem : (t, i.backendId) ∈ s.inferiors.toList.flatMap fun entry =>
      entry.2.threads.keys.map fun thread => (thread, entry.2.backendId) := by
    refine List.mem_flatMap.mpr ⟨(k, i), Std.ExtTreeMap.mem_toList_iff_getElem?_eq_some.mpr hi,
      List.mem_map.mpr ⟨t, ?_, rfl⟩⟩
    exact Std.ExtTreeMap.mem_keys.mpr
      (Std.ExtTreeMap.isSome_getElem?_iff_mem.mp (by rw [hthread]; rfl))
  rw [threadOwners, getElem?_collect]
  rw [← Option.isSome_iff_exists, Option.isSome_map, List.find?_isSome]
  exact ⟨_, List.mem_reverse.mpr hmem, by simp⟩

lemma observedThreads_getElem? (s : SessionState) (threads : MiValue) (t : String) :
    (s.observedThreads threads)[t]? = (listedGroup threads t).map fun group =>
      (group.or s.threadOwners[t]?).getD s.fallbackGroup := by
  have hmap : ((ChunkedReads.aggregateItems threads "thread").filterMap fun fields =>
      (MiResult.findStr fields "id").map fun thread =>
        (thread, ((MiResult.findStr fields "group-id").or s.threadOwners[thread]?).getD
          s.fallbackGroup)) = (listing threads).map fun item =>
            (item.1, (item.2.or s.threadOwners[item.1]?).getD s.fallbackGroup) := by
    rw [listing, List.map_filterMap]
    simp [Option.map_map, Function.comp_def]
  rw [observedThreads, hmap, getElem?_collect, ← List.map_reverse, List.find?_map,
    listedGroup, Option.map_map, Option.map_map]
  refine Option.map_congr fun item hitem => ?_
  have hkey := List.find?_some hitem
  simp only [Function.comp_apply, decide_eq_true_eq] at hkey
  simp [hkey]

/-- A thread is created where it was observed, and exits from its owner if it is not listed. -/
lemma mem_threadEvents (hthreads : MiResult.find record.results "threads" = some threads) :
    (.threadCreated k t ∈ s.threadEvents record ↔ (s.observedThreads threads)[t]? = some k) ∧
      (.threadExited (some k) t ∈ s.threadEvents record ↔
        s.threadOwners[t]? = some k ∧ listedGroup threads t = none) ∧
      Disjoint (s.threadEvents record) := by
  have hcreated : ∀ k t, .threadCreated k t ∈ s.threadEvents record ↔
      (s.observedThreads threads)[t]? = some k := by
    intro k t
    simp only [threadEvents, hthreads, List.mem_append, List.mem_map, List.mem_filterMap]
    constructor
    · rintro (⟨⟨u, b⟩, hmem, heq⟩ | ⟨entry, -, heq⟩)
      · obtain ⟨rfl, rfl⟩ := DomainEvent.threadCreated.inj heq
        exact Std.ExtTreeMap.mem_toList_iff_getElem?_eq_some.mp hmem
      · split at heq <;> cases heq
    · intro h
      exact .inl ⟨(t, k), Std.ExtTreeMap.mem_toList_iff_getElem?_eq_some.mpr h, rfl⟩
  have hlisted : ∀ t, (s.observedThreads threads).contains t = false ↔
      listedGroup threads t = none := by
    intro t
    rw [Registry.contains_eq_false, observedThreads_getElem?, Option.map_eq_none_iff]
  have hexited : ∀ k t, .threadExited (some k) t ∈ s.threadEvents record ↔
      s.threadOwners[t]? = some k ∧ listedGroup threads t = none := by
    intro k t
    simp only [threadEvents, hthreads, List.mem_append, List.mem_map, List.mem_filterMap]
    constructor
    · rintro (⟨entry, -, heq⟩ | ⟨⟨u, b⟩, hmem, heq⟩)
      · cases heq
      · split at heq
        · cases heq
        · rename_i hnot
          obtain ⟨hb, rfl⟩ := DomainEvent.threadExited.inj (Option.some.inj heq)
          obtain rfl := Option.some.inj hb
          exact ⟨Std.ExtTreeMap.mem_toList_iff_getElem?_eq_some.mp hmem,
            (hlisted u).mp (Bool.eq_false_iff.mpr hnot)⟩
    · rintro ⟨howner, hnone⟩
      refine .inr ⟨(t, k), Std.ExtTreeMap.mem_toList_iff_getElem?_eq_some.mpr howner, ?_⟩
      rw [if_neg (Bool.eq_false_iff.mp ((hlisted t).mpr hnone))]
  refine ⟨hcreated k t, hexited k t, ?_, ?_⟩
  · intro e he
    simp only [threadEvents, hthreads, List.mem_append, List.mem_map, List.mem_filterMap] at he
    rcases he with ⟨entry, -, rfl⟩ | ⟨entry, -, heq⟩
    · exact .inl ⟨_, _, rfl⟩
    · split at heq
      · cases heq
      · exact .inr ⟨_, _, (Option.some.inj heq).symm⟩
  · intro k k' t hc hx
    have hobserved := (hcreated k t).mp hc
    rw [observedThreads_getElem?, ((hexited k' t).mp hx).2] at hobserved
    cases hobserved

/-- Where a thread is observed, the listing puts it. -/
lemma Filed.placed_of_observed (hs : s.Filed) (h : (s.observedThreads threads)[t]? = some k) :
    s.Placed threads k t := by
  rw [observedThreads_getElem?] at h
  obtain ⟨group, hgroup, hk⟩ := Option.map_eq_some_iff.mp h
  refine ⟨group, hgroup, ?_⟩
  cases group with
  | some g => exact .inl (by simpa using hk)
  | none =>
    cases howner : s.threadOwners[t]? with
    | some b =>
      obtain rfl : b = k := by simpa [howner] using hk
      exact .inr ⟨rfl, .inl (hs.owner_registered howner)⟩
    | none =>
      refine .inr ⟨rfl, .inr ⟨fun k' hk' => ?_, by simpa [howner] using hk.symm⟩⟩
      obtain ⟨b, hb⟩ := hk'.owner
      rw [howner] at hb
      cases hb

/-- Where the listing puts a thread that is registered at most once, it is observed. -/
lemma Filed.observed_of_placed (hs : s.Filed) (honce : s.RegisteredOnce)
    (h : s.Placed threads k t) : (s.observedThreads threads)[t]? = some k := by
  obtain ⟨group, hgroup, hplace⟩ := h
  rw [observedThreads_getElem?, hgroup, Option.map_some]
  rcases hplace with rfl | ⟨rfl, hregistered | ⟨hunknown, rfl⟩⟩
  · simp
  · obtain ⟨b, hb⟩ := hregistered.owner
    rw [hb, honce k b t hregistered (hs.owner_registered hb)]
    simp
  · cases howner : s.threadOwners[t]? with
    | some b => exact absurd (hs.owner_registered howner) (hunknown b)
    | none => simp

/-! ### Convergence -/

/-- Behind a reconciliation a thread is registered where it is observed, and where it was
registered, unless it exits there. -/
lemma reconciled_iff (hthreads : MiResult.find record.results "threads" = some threads)
    (hevents : es.map Prod.snd = s.threadEvents record) (hrun : Run Applies s es s') (k t : String) :
    s'.Registered k t ↔
      s.Registered k t ∧ ¬ (s.threadOwners[t]? = some k ∧ listedGroup threads t = none) ∨
        (s.observedThreads threads)[t]? = some k := by
  obtain ⟨hcreated, hexited, hdisjoint⟩ := mem_threadEvents (s := s) (k := k) (t := t) hthreads
  rw [← hevents] at hcreated hexited hdisjoint
  rw [(run_slot hrun hdisjoint k t).1, hcreated, hexited]

lemma Filed.converges (hs : s.Filed) (honce : s.RegisteredOnce) (hgroups : s.GroupsAgree threads)
    (hthreads : MiResult.find record.results "threads" = some threads)
    (hevents : es.map Prod.snd = s.threadEvents record) (hrun : Run Applies s es s') (k t : String) :
    s'.Registered k t ↔ (s.observedThreads threads)[t]? = some k := by
  rw [reconciled_iff hthreads hevents hrun]
  constructor
  · rintro (⟨hregistered, hstays⟩ | hobserved)
    · obtain ⟨b, hb⟩ := hregistered.owner
      obtain rfl := honce k b t hregistered (hs.owner_registered hb)
      cases hgroup : listedGroup threads t with
      | none => exact absurd ⟨hb, hgroup⟩ hstays
      | some group =>
        refine hs.observed_of_placed honce ⟨group, hgroup, ?_⟩
        cases group with
        | none => exact .inr ⟨rfl, .inl hregistered⟩
        | some g => exact .inl (by rw [hgroups k t g hregistered hgroup])
    · exact hobserved
  · exact .inr

/-- A reconciliation with a listing, in any reachable state: the threads are exactly the listed
ones, each once and where the listing puts it, if and only if no thread was registered under two
inferiors and none is listed with another group than its inferior.  A thread that is still
registered where it was keeps its handle.  Under the same condition, a second reconciliation with
the listing changes nothing but the number of the last event. -/
theorem thread_reconciliation_converges_iff (hs : s.Reachable)
    (hthreads : MiResult.find record.results "threads" = some threads)
    (hevents : es.map Prod.snd = s.threadEvents record) (hrun : Run Applies s es s') :
    (((∀ k t, s'.Registered k t ↔ s.Placed threads k t) ∧ s'.RegisteredOnce) ↔
        s.RegisteredOnce ∧ s.GroupsAgree threads) ∧
      (∀ k t i thread i' thread', s.Holds k i t thread → s'.Holds k i' t thread' →
        thread'.id = thread.id) ∧
      (s.RegisteredOnce → s.GroupsAgree threads → ∀ es' s'',
        es'.map Prod.snd = s'.threadEvents record → Run Applies s' es' s'' →
          s'' = { s' with eventSeq := s''.eventSeq }) := by
  obtain ⟨session, es₀, hreach⟩ := hs
  have hfiled : s.Filed := (filed_creating session).run hreach
  have hreconciled := reconciled_iff hthreads hevents hrun
  refine ⟨⟨?_, ?_⟩, ?_, ?_⟩
  · rintro ⟨hplaced, honce⟩
    constructor
    · intro k k' t hk hk'
      -- two inferiors of one thread: at most one of them is the owner, so the other one stays
      by_contra hne
      have hstays : ∀ b, s.Registered b t →
          ¬ (s.threadOwners[t]? = some b ∧ listedGroup threads t = none) → s'.Registered b t :=
        fun b hb hnot => (hreconciled b t).mpr (.inl ⟨hb, hnot⟩)
      cases hgroup : listedGroup threads t with
      | some group =>
        exact hne (honce k k' t (hstays k hk (by simp [hgroup])) (hstays k' hk' (by simp [hgroup])))
      | none =>
        have hgone : ∀ b, ¬ s'.Registered b t := by
          intro b hb
          obtain ⟨group, hlisted, -⟩ := (hplaced b t).mp hb
          rw [hgroup] at hlisted
          cases hlisted
        have howner : ∀ b, s.Registered b t → s.threadOwners[t]? = some b := by
          intro b hb
          by_contra hnot
          exact hgone b (hstays b hb fun h => hnot h.1)
        exact hne (Option.some.inj ((howner k hk).symm.trans (howner k' hk')))
    · intro k t group hk hgroup
      have hstays : s'.Registered k t := (hreconciled k t).mpr (.inl ⟨hk, by simp [hgroup]⟩)
      obtain ⟨group', hlisted, hplace⟩ := (hplaced k t).mp hstays
      obtain rfl := Option.some.inj (hgroup.symm.trans hlisted)
      have hsame : group = k := by simpa using hplace
      exact hsame.symm
  · rintro ⟨honce, hgroups⟩
    have hconverges := hfiled.converges honce hgroups hthreads hevents hrun
    refine ⟨fun k t => (hconverges k t).trans ⟨hfiled.placed_of_observed,
      hfiled.observed_of_placed honce⟩, fun k k' t hk hk' => ?_⟩
    exact Option.some.inj (((hconverges k t).mp hk).symm.trans ((hconverges k' t).mp hk'))
  · intro k t i thread i' thread' hholds hholds'
    have hdisjoint := (mem_threadEvents (s := s) (k := k) (t := t) hthreads).2.2
    rw [← hevents] at hdisjoint
    exact (run_slot hrun hdisjoint k t).2.1 _ _ (slot_eq_some.mpr ⟨i, hholds, rfl⟩)
      (slot_eq_some.mpr ⟨i', hholds', rfl⟩)
  · intro honce hgroups es' s'' hevents' hrun'
    have hconverges := hfiled.converges honce hgroups hthreads hevents hrun
    have hfiled' : s'.Filed := hfiled.run hrun
    refine run_steady hrun' fun p hp => ?_
    have hmem : p.2 ∈ s'.threadEvents record := hevents' ▸ List.mem_map_of_mem hp
    rcases (mem_threadEvents (s := s') (k := "") (t := "") hthreads).2.2.1 p.2 hmem with
      ⟨k, t, hcreate⟩ | ⟨k, t, hexit⟩
    · rw [hcreate, (mem_threadEvents hthreads).1, observedThreads_getElem?] at hmem
      obtain ⟨group, hgroup, hk⟩ := Option.map_eq_some_iff.mp hmem
      -- the thread is listed, so it is registered where it was observed before
      obtain ⟨b, hb⟩ : ∃ b, (s.observedThreads threads)[t]? = some b := by
        rw [observedThreads_getElem?, hgroup]
        exact ⟨_, rfl⟩
      have hregistered := (hconverges b t).mpr hb
      have hsame : b = k := by
        cases group with
        | some g =>
          rw [observedThreads_getElem?, hgroup] at hb
          simp only [Option.map_some, Option.some_or, Option.getD_some, Option.some.injEq] at hb hk
          rw [← hb, hk]
        | none =>
          obtain ⟨b', hb'⟩ := hregistered.owner
          have howner := (hconverges b' t).mp (hfiled'.owner_registered hb')
          rw [hb'] at hk
          simp only [Option.none_or, Option.getD_some] at hk
          rw [← hk]
          exact Option.some.inj (hb.symm.trans howner)
      refine ⟨k, t, hcreate, ?_⟩
      have hfirst := mem_threadEvents (s := s) (k := k) (t := t) hthreads
      rw [← hevents] at hfirst
      exact (run_slot hrun hfirst.2.2 k t).2.2.1 (hfirst.1.mpr (hsame ▸ hb))
    · rw [hexit, (mem_threadEvents hthreads).2.1] at hmem
      have hobserved := (hconverges k t).mp (hfiled'.owner_registered hmem.1)
      rw [observedThreads_getElem?, hmem.2] at hobserved
      cases hobserved

/-- An answer to `-thread-info`. -/
def threadInfo (items : List (List (String × String))) : MiValue :=
  .valueList (items.map fun fields => .tuple (fields.map fun field => (field.1, .const (utf8 field.2))))

/-- Three threads of two inferiors. -/
def knownThreads : List (ℕ × DomainEvent) :=
  [(1, .threadCreated "i1" "1"), (2, .threadCreated "i2" "2"), (3, .threadCreated "i2" "4")]

lemma registered_known (hrun : Run Applies (creating ⟨"sess_x"⟩) knownThreads s) :
    s.Registered k t ↔ (k, t) ∈ [("i1", "1"), ("i2", "2"), ("i2", "4")] := by
  have hdisjoint : Disjoint (knownThreads.map Prod.snd) := by
    refine ⟨fun e he => ?_, by simp [knownThreads]⟩
    simp only [knownThreads, List.map_cons, List.map_nil, List.mem_cons, List.not_mem_nil,
      or_false] at he
    rcases he with rfl | rfl | rfl <;> exact .inl ⟨_, _, rfl⟩
  have hnone : ¬ (creating ⟨"sess_x"⟩).Registered k t := by
    simp [registered_iff, slot, creating]
  rw [(run_slot hrun hdisjoint k t).1]
  simp [hnone, knownThreads]

/-- Two of the threads are listed without a group, a new one with its group, and the third not at
all. -/
theorem known_threads_converge :
    ∃ s es s', Run Applies (creating ⟨"sess_x"⟩) knownThreads s ∧
      es.map Prod.snd = s.threadEvents (.result none "done" [("threads", threadInfo
        [[("id", "1")], [("id", "2")], [("id", "3"), ("group-id", "i2")]])]) ∧
      Run Applies s es s' ∧
      ∀ k t, s'.Registered k t ↔ s.Placed (threadInfo
        [[("id", "1")], [("id", "2")], [("id", "3"), ("group-id", "i2")]]) k t := by
  obtain ⟨s, es, s', hrun, hevents, hrun'⟩ : ∃ s es s',
      Run Applies (creating ⟨"sess_x"⟩) knownThreads s ∧
      es.map Prod.snd = s.threadEvents (.result none "done" [("threads", threadInfo
        [[("id", "1")], [("id", "2")], [("id", "3"), ("group-id", "i2")]])]) ∧
      Run Applies s es s' :=
    ⟨_, [(4, .threadCreated "i1" "1"), (5, .threadCreated "i2" "2"), (6, .threadCreated "i2" "3"),
      (7, .threadExited (some "i2") "4")], _,
      .cons ⟨true, rfl⟩ (.cons ⟨true, rfl⟩ (.cons ⟨true, rfl⟩ (.nil _))), by decide +kernel,
      .cons ⟨false, rfl⟩ (.cons ⟨false, rfl⟩ (.cons ⟨true, rfl⟩ (.cons ⟨true, rfl⟩ (.nil _))))⟩
  have honce : s.RegisteredOnce := by
    intro k k' t hk hk'
    simp only [registered_known hrun, List.mem_cons, Prod.mk.injEq, List.not_mem_nil, or_false]
      at hk hk'
    rcases hk with ⟨rfl, rfl⟩ | ⟨rfl, rfl⟩ | ⟨rfl, rfl⟩ <;> simp at hk' <;> exact hk'.symm
  have hgroups : s.GroupsAgree (threadInfo
      [[("id", "1")], [("id", "2")], [("id", "3"), ("group-id", "i2")]]) := by
    intro k t group hk hgroup
    simp only [registered_known hrun, List.mem_cons, Prod.mk.injEq, List.not_mem_nil, or_false]
      at hk
    have hlisted : ∀ t ∈ ["1", "2", "4"], ∀ g ∈ listedGroup (threadInfo
        [[("id", "1")], [("id", "2")], [("id", "3"), ("group-id", "i2")]]) t, g = none := by
      decide +kernel
    have ht : t ∈ ["1", "2", "4"] := by
      rcases hk with ⟨-, rfl⟩ | ⟨-, rfl⟩ | ⟨-, rfl⟩ <;> simp
    cases hlisted t ht (some group) hgroup
  exact ⟨s, es, s', hrun, hevents, hrun', ((thread_reconciliation_converges_iff
    ⟨_, _, hrun⟩ rfl hevents hrun').1.mpr ⟨honce, hgroups⟩).1⟩

/-- A thread that is listed with another group than its inferior stays where it was, and is
registered a second time. -/
theorem moved_thread_stays :
    ∃ s es s', s.Reachable ∧
      es.map Prod.snd = s.threadEvents (.result none "done" [("threads", threadInfo
        [[("id", "1"), ("group-id", "i2")]])]) ∧
      Run Applies s es s' ∧ s'.Registered "i1" "1" ∧ s'.Registered "i2" "1" ∧
      ¬ s.Placed (threadInfo [[("id", "1"), ("group-id", "i2")]]) "i1" "1" := by
  refine ⟨_, [(2, .threadCreated "i2" "1")], _, ⟨⟨"sess_x"⟩, [(1, .threadCreated "i1" "1")],
    .cons ⟨true, rfl⟩ (.nil _)⟩, by decide +kernel, .cons ⟨true, rfl⟩ (.nil _), ⟨_, _, rfl, rfl⟩,
    ⟨_, _, rfl, rfl⟩, ?_⟩
  have hlisted : listedGroup (threadInfo [[("id", "1"), ("group-id", "i2")]]) "1" =
      some (some "i2") := by decide +kernel
  rintro ⟨group, hgroup, hplace⟩
  obtain rfl := Option.some.inj (hlisted.symm.trans hgroup)
  simp at hplace

end SessionState

end GdbAi
