import GdbAi.Library.Registry

/-!
# Mutexes by key, reclaimed by counting references

A registry holds one mutex for every key in use.  A client takes a reference to the mutex of its
key, creating the mutex when there is none, waits for it, holds it, gives it up, and at last
asks the registry to drop the mutex if nobody else refers to it.  What a client has at a moment
is its `Ticket`; the tickets of all clients stand in a list, by the number of the client.
`Consistent` is what every operation keeps: a client that is not done refers to the mutex the
registry has for its key, and a mutex is held by one client.  `Reclaiming` is kept as long as the
last client of a mutex to ask for its removal finds no reference of one that asked before: the
registry then has no mutex that nobody waits for, holds or has still to ask for.
-/

namespace KeyedLocks

/-- How far a client is with the mutex it refers to. -/
inductive Stage where
  | waiting | holding | unlocked | released
  deriving DecidableEq, Repr

/-- A reference to the mutex `lock`, taken for `key`. -/
structure Ticket where
  key : String
  lock : ℕ
  stage : Stage
  deriving DecidableEq, Repr

/-- Whether a client refers to a mutex. -/
def refersTo (lock : ℕ) (ticket : Option Ticket) : Bool :=
  ticket.any fun t => t.lock = lock

/-- Whether a client holds a mutex. -/
def holds (lock : ℕ) (ticket : Option Ticket) : Bool :=
  ticket.any fun t => t.lock = lock && t.stage = .holding

/-- The references to a mutex: those of the registry and those of the clients. -/
def strongCount (registry : Registry ℕ) (tickets : List (Option Ticket)) (lock : ℕ) : ℕ :=
  registry.toList.countP (fun entry => entry.2 = lock) + tickets.countP (refersTo lock)

/-- The registry with a mutex for `key`, and that mutex; `fresh` is one that does not exist yet. -/
def enroll (registry : Registry ℕ) (fresh : ℕ) (key : String) : Registry ℕ × ℕ :=
  match registry[key]? with
  | some lock => (registry, lock)
  | none => (registry.insert key fresh, fresh)

/-- The registry without the mutex of `key`, if that is `lock` and only the registry and the
asking client refer to it. -/
def release (registry : Registry ℕ) (tickets : List (Option Ticket)) (key : String) (lock : ℕ) :
    Registry ℕ :=
  if registry[key]? = some lock && strongCount registry tickets lock = 2 then registry.erase key
  else registry

/-- What the operations keep. -/
structure Consistent (registry : Registry ℕ) (tickets : List (Option Ticket)) : Prop where
  /-- A client that is not done refers to the mutex the registry has for its key. -/
  registered : ∀ t, some t ∈ tickets → t.stage ≠ .released → registry[t.key]? = some t.lock
  /-- A mutex is held by one client. -/
  exclusive : ∀ (i j : ℕ) (t u : Ticket), tickets[i]? = some (some t) → tickets[j]? = some (some u) →
    t.stage = .holding → u.stage = .holding → t.lock = u.lock → i = j

variable {registry : Registry ℕ} {tickets : List (Option Ticket)}

lemma enroll_lookup (registry : Registry ℕ) (fresh : ℕ) (key : String) :
    (enroll registry fresh key).1[key]? = some (enroll registry fresh key).2 := by
  unfold enroll
  split
  · assumption
  · simp

/-- A mutex that is there stays when another client takes a reference. -/
lemma enroll_keeps {fresh : ℕ} {key other : String} {lock : ℕ} (h : registry[other]? = some lock) :
    (enroll registry fresh key).1[other]? = some lock := by
  unfold enroll
  split
  · exact h
  · rename_i hnone
    have hne : key ≠ other := by
      rintro rfl
      rw [hnone] at h
      cases h
    simp [Registry.getElem?_insert, hne, h]

namespace Consistent

lemma nil (registry : Registry ℕ) : Consistent registry [] :=
  ⟨fun _ h => by simp at h, fun _ _ _ _ h => by simp at h⟩

variable {i : ℕ} {key : String} {lock : ℕ} {t u : Ticket}

/-- Two clients refer to one mutex, and so does the registry: that makes three references. -/
lemma sole {i j : ℕ} (hkey : registry[t.key]? = some t.lock)
    (hcount : strongCount registry tickets t.lock = 2) (hi : tickets[i]? = some (some t))
    (hj : tickets[j]? = some (some u)) (hlock : u.lock = t.lock) : i = j := by
  by_contra hne
  have hregistry : 0 < registry.toList.countP (fun entry => entry.2 = t.lock) :=
    List.countP_pos_iff.mpr
      ⟨(t.key, t.lock), Std.ExtTreeMap.mem_toList_iff_getElem?_eq_some.mpr hkey, by simp⟩
  obtain ⟨hlt, hget⟩ := List.getElem?_eq_some_iff.mp hi
  have hset := List.countP_set (p := refersTo t.lock) (l := tickets) (a := none) hlt
  have hrest : 0 < (tickets.set i none).countP (refersTo t.lock) := by
    refine List.countP_pos_iff.mpr ⟨some u, List.mem_iff_getElem?.mpr ⟨j, ?_⟩, ?_⟩
    · rw [List.getElem?_set_ne hne, hj]
    · simp [refersTo, hlock]
  have hself : refersTo t.lock tickets[i] = true := by
    simp [hget, refersTo]
  have hnone : refersTo t.lock none = false := rfl
  simp only [hself, hnone, if_true, Bool.false_eq_true, if_false, Nat.add_zero] at hset
  unfold strongCount at hcount
  omega

section

variable (h : Consistent registry tickets)
include h

/-- A client with another ticket keeps the tables consistent if the ticket is registered and, in
case it holds its mutex, nobody else does. -/
lemma update {registry' : Registry ℕ} {ticket : Option Ticket}
    (hothers : ∀ (j : ℕ) (t : Ticket), j ≠ i → tickets[j]? = some (some t) → t.stage ≠ .released →
      registry'[t.key]? = some t.lock)
    (hown : ∀ t, ticket = some t → t.stage ≠ .released → registry'[t.key]? = some t.lock)
    (hfree : ∀ t, ticket = some t → t.stage = .holding → ∀ (j : ℕ) (u : Ticket), j ≠ i →
      tickets[j]? = some (some u) → u.stage = .holding → u.lock ≠ t.lock) :
    Consistent registry' (tickets.set i ticket) := by
  have hcases : ∀ (j : ℕ) (t : Ticket), (tickets.set i ticket)[j]? = some (some t) →
      (j = i ∧ ticket = some t) ∨ (j ≠ i ∧ tickets[j]? = some (some t)) := by
    intro j t hj
    rw [List.getElem?_set] at hj
    split at hj
    · rename_i hij
      split at hj
      · exact .inl ⟨hij.symm, Option.some.inj hj⟩
      · cases hj
    · rename_i hij
      exact .inr ⟨fun heq => hij heq.symm, hj⟩
  constructor
  · intro t ht hstage
    obtain ⟨j, hj⟩ := List.mem_iff_getElem?.mp ht
    rcases hcases j t hj with ⟨_, howned⟩ | ⟨hne, hold⟩
    · exact hown t howned hstage
    · exact hothers j t hne hold hstage
  · intro j k t u hj hk ht hu hlock
    rcases hcases j t hj with ⟨rfl, ht'⟩ | ⟨hjne, hj'⟩ <;>
      rcases hcases k u hk with ⟨rfl, hu'⟩ | ⟨hkne, hk'⟩
    · rfl
    · exact absurd hlock.symm (hfree t ht' ht k u hkne hk' hu)
    · exact absurd hlock (hfree u hu' hu j t hjne hj' ht)
    · exact h.exclusive j k t u hj' hk' ht hu hlock

/-- Clients that are not the one in question keep their registration. -/
lemma others (j : ℕ) (t : Ticket) (_ : j ≠ i) (hj : tickets[j]? = some (some t))
    (hstage : t.stage ≠ .released) : registry[t.key]? = some t.lock :=
  h.registered t (List.mem_of_getElem? hj) hstage

/-- A new client has no ticket. -/
lemma arrive : Consistent registry (tickets ++ [none]) := by
  have hcases : ∀ (j : ℕ) (t : Ticket), (tickets ++ [none])[j]? = some (some t) →
      tickets[j]? = some (some t) := by
    intro j t hj
    rw [List.getElem?_append] at hj
    split at hj
    · exact hj
    · rw [List.getElem?_singleton] at hj
      split at hj <;> simp at hj
  constructor
  · intro t ht hstage
    obtain ⟨j, hj⟩ := List.mem_iff_getElem?.mp ht
    exact h.registered t (List.mem_of_getElem? (hcases j t hj)) hstage
  · intro j k t u hj hk
    exact h.exclusive j k t u (hcases j t hj) (hcases k u hk)

/-- A client takes a reference to the mutex of its key. -/
lemma enrolled (i fresh : ℕ) (key : String) :
    Consistent (enroll registry fresh key).1
      (tickets.set i (some ⟨key, (enroll registry fresh key).2, .waiting⟩)) := by
  refine h.update (fun j t hne hj hstage => enroll_keeps (h.others j t hne hj hstage)) ?_ ?_
  · rintro t heq -
    obtain rfl := Option.some.inj heq
    exact enroll_lookup registry fresh key
  · intro t heq hstage
    obtain rfl := Option.some.inj heq
    cases hstage

/-- A client that waits takes a mutex nobody holds. -/
lemma acquired (hi : tickets[i]? = some (some ⟨key, lock, .waiting⟩))
    (hfree : tickets.any (holds lock) = false) :
    Consistent registry (tickets.set i (some ⟨key, lock, .holding⟩)) := by
  refine h.update h.others ?_ ?_
  · rintro t heq -
    obtain rfl := Option.some.inj heq
    exact h.registered ⟨key, lock, .waiting⟩ (List.mem_of_getElem? hi) (by simp)
  · rintro t heq - j u - hj hu hlock
    obtain rfl := Option.some.inj heq
    have hnot := List.any_eq_false.mp hfree (some u) (List.mem_of_getElem? hj)
    simp [holds, hu, hlock] at hnot

/-- A client keeps its reference and gives up its mutex. -/
lemma gaveUp (hi : tickets[i]? = some (some ⟨key, lock, .holding⟩)) :
    Consistent registry (tickets.set i (some ⟨key, lock, .unlocked⟩)) := by
  refine h.update h.others ?_ ?_
  · rintro t heq -
    obtain rfl := Option.some.inj heq
    exact h.registered ⟨key, lock, .holding⟩ (List.mem_of_getElem? hi) (by simp)
  · intro t heq hstage
    obtain rfl := Option.some.inj heq
    cases hstage

/-- A client that gave its mutex up asks the registry to drop it: the mutex goes only when the
client is the last one that refers to it. -/
lemma reclaimed (hi : tickets[i]? = some (some ⟨key, lock, .unlocked⟩)) :
    Consistent (release registry tickets key lock)
      (tickets.set i (some ⟨key, lock, .released⟩)) := by
  refine h.update ?_ ?_ ?_
  · intro j t hne hj hstage
    have hold := h.others j t hne hj hstage
    unfold release
    split
    · rename_i hdrop
      obtain ⟨hkey, hcount⟩ : registry[key]? = some lock ∧
          strongCount registry tickets lock = 2 := by simpa using hdrop
      rw [Registry.getElem?_erase, if_neg, hold]
      rintro rfl
      have hlock : t.lock = lock := by
        rw [hkey] at hold
        exact (Option.some.inj hold).symm
      exact hne (sole (t := ⟨t.key, lock, .unlocked⟩) hkey hcount hi hj hlock).symm
    · exact hold
  · intro t heq hstage
    obtain rfl := Option.some.inj heq
    exact absurd rfl hstage
  · intro t heq hstage
    obtain rfl := Option.some.inj heq
    cases hstage

/-- A client drops its reference. -/
lemma left (i : ℕ) :
    Consistent registry (tickets.set i none) :=
  h.update h.others (fun _ heq => by cases heq)
    (fun _ heq => by cases heq)

/-- Two clients of one key that are not done refer to the same mutex. -/
lemma agree (ht : some t ∈ tickets) (hu : some u ∈ tickets)
    (hkey : t.key = u.key) (hts : t.stage ≠ .released) (hus : u.stage ≠ .released) :
    t.lock = u.lock := by
  have hleft := h.registered t ht hts
  rw [hkey, h.registered u hu hus] at hleft
  exact (Option.some.inj hleft).symm

/-- One client of a key holds its mutex. -/
lemma mutual_exclusion {j : ℕ} (hi : tickets[i]? = some (some t))
    (hj : tickets[j]? = some (some u)) (hkey : t.key = u.key)
    (ht : t.stage = .holding) (hu : u.stage = .holding) : i = j := by
  have hlock := h.agree (List.mem_of_getElem? hi) (List.mem_of_getElem? hj)
    hkey (by rw [ht]; decide) (by rw [hu]; decide)
  exact h.exclusive i j t u hi hj ht hu hlock

end

end Consistent

/-! ### Mutexes nobody uses -/

/-- Whether a client has still to ask the registry to drop `lock`. -/
def uses (lock : ℕ) (ticket : Option Ticket) : Bool :=
  ticket.any fun t => t.lock = lock && t.stage ≠ .released

/-- When the client `i` asks the registry to drop `lock`, another client has still to do so, or
nobody else refers to it. -/
def timely (tickets : List (Option Ticket)) (i lock : ℕ) : Bool :=
  (tickets.set i none).any (uses lock) || !(tickets.set i none).any (refersTo lock)

/-- The registry, the number of the next mutex and the tickets of the clients. -/
structure Table where
  registry : Registry ℕ
  next : ℕ
  tickets : List (Option Ticket)

/-- The operations of the clients; a client that asks for the removal of a mutex whose key is among
`keys` does so in time. -/
inductive Step (keys : String → Bool) (s : Table) : Table → Prop
  | stay : Step keys s s
  | arrive : Step keys s { s with tickets := s.tickets ++ [none] }
  | enroll (i : ℕ) (key : String) (hi : s.tickets[i]? = some none) :
      Step keys s ⟨(KeyedLocks.enroll s.registry s.next key).1, s.next + 1,
        s.tickets.set i (some ⟨key, (KeyedLocks.enroll s.registry s.next key).2, .waiting⟩)⟩
  | acquire (i : ℕ) (key : String) (lock : ℕ)
      (hi : s.tickets[i]? = some (some ⟨key, lock, .waiting⟩))
      (hfree : s.tickets.any (holds lock) = false) :
      Step keys s { s with tickets := s.tickets.set i (some ⟨key, lock, .holding⟩) }
  | giveUp (i : ℕ) (key : String) (lock : ℕ)
      (hi : s.tickets[i]? = some (some ⟨key, lock, .holding⟩)) :
      Step keys s { s with tickets := s.tickets.set i (some ⟨key, lock, .unlocked⟩) }
  | release (i : ℕ) (key : String) (lock : ℕ)
      (hi : s.tickets[i]? = some (some ⟨key, lock, .unlocked⟩))
      (htime : keys key = true → timely s.tickets i lock = true) :
      Step keys s { s with
        registry := KeyedLocks.release s.registry s.tickets key lock
        tickets := s.tickets.set i (some ⟨key, lock, .released⟩) }
  | leave (i : ℕ) (key : String) (lock : ℕ)
      (hi : s.tickets[i]? = some (some ⟨key, lock, .released⟩)) :
      Step keys s { s with tickets := s.tickets.set i none }

/-- The mutexes were made one after another, each for one of `owners`. -/
structure Issued (s : Table) (owners : List String) : Prop where
  length : owners.length = s.next
  registry : ∀ (key : String) (lock : ℕ), s.registry[key]? = some lock → owners[lock]? = some key
  tickets : ∀ t, some t ∈ s.tickets → owners[t.lock]? = some t.key

/-- What the operations keep: a mutex of the registry whose key is among `keys` is in use. -/
structure Reclaiming (keys : String → Bool) (s : Table) : Prop where
  consistent : Consistent s.registry s.tickets
  issued : ∃ owners, Issued s owners
  used : ∀ (key : String) (lock : ℕ), keys key = true → s.registry[key]? = some lock →
    s.tickets.any (uses lock) = true

section

variable {keys : String → Bool} {s s' : Table} {owners : List String} {i lock : ℕ} {key : String}

lemma Consistent.step (h : Consistent s.registry s.tickets) (hstep : Step keys s s') :
    Consistent s'.registry s'.tickets := by
  cases hstep with
  | stay => exact h
  | arrive => exact h.arrive
  | enroll i key hi => exact h.enrolled i s.next key
  | acquire i key lock hi hfree => exact h.acquired hi hfree
  | giveUp i key lock hi => exact h.gaveUp hi
  | release i key lock hi htime => exact h.reclaimed hi
  | leave i key lock hi => exact h.left i

lemma release_subset {tickets : List (Option Ticket)} {registry : Registry ℕ} {other : String}
    {n : ℕ} (h : (release registry tickets key lock)[other]? = some n) :
    registry[other]? = some n := by
  unfold release at h
  split at h
  · rw [Registry.getElem?_erase] at h
    split at h
    · cases h
    · exact h
  · exact h

/-- A client goes on with its mutex, or drops it. -/
lemma Issued.move (h : Issued s owners) {registry : Registry ℕ} {t : Ticket} {ticket : Option Ticket}
    (hi : s.tickets[i]? = some (some t))
    (hsame : ∀ u, ticket = some u → u.key = t.key ∧ u.lock = t.lock)
    (hsubset : ∀ (other : String) (n : ℕ), registry[other]? = some n →
      s.registry[other]? = some n) :
    Issued { s with registry := registry, tickets := s.tickets.set i ticket } owners where
  length := h.length
  registry other n hn := h.registry other n (hsubset other n hn)
  tickets u hu := by
    rcases List.mem_or_eq_of_mem_set hu with hold | hnew
    · exact h.tickets u hold
    · obtain ⟨hkey, hlock⟩ := hsame u hnew.symm
      rw [hkey, hlock]
      exact h.tickets t (List.mem_of_getElem? hi)

/-- The mutex of a client that enrols was made for its key, now or before. -/
lemma Issued.enroll (h : Issued s owners) (i : ℕ) (key : String) :
    Issued ⟨(KeyedLocks.enroll s.registry s.next key).1, s.next + 1,
      s.tickets.set i (some ⟨key, (KeyedLocks.enroll s.registry s.next key).2, .waiting⟩)⟩
      (owners ++ [key]) := by
  have hold : ∀ (n : ℕ) (other : String), owners[n]? = some other →
      (owners ++ [key])[n]? = some other := by
    intro n other hn
    obtain ⟨hlt, -⟩ := List.getElem?_eq_some_iff.mp hn
    rw [List.getElem?_append_left hlt, hn]
  have hregistry : ∀ (other : String) (n : ℕ),
      (KeyedLocks.enroll s.registry s.next key).1[other]? = some n →
        (owners ++ [key])[n]? = some other := by
    intro other n hn
    unfold KeyedLocks.enroll at hn
    split at hn
    · exact hold n other (h.registry other n hn)
    · rw [Registry.getElem?_insert] at hn
      split at hn
      · rename_i heq
        obtain rfl := Option.some.inj hn
        rw [← heq, ← h.length, List.getElem?_concat_length]
      · exact hold n other (h.registry other n hn)
  refine ⟨by rw [List.length_append, h.length]; rfl, hregistry, fun u hu => ?_⟩
  rcases List.mem_or_eq_of_mem_set hu with hmem | hnew
  · exact hold u.lock u.key (h.tickets u hmem)
  · obtain rfl := Option.some.inj hnew
    exact hregistry key _ (enroll_lookup s.registry s.next key)

lemma Issued.step (h : Issued s owners) (hstep : Step keys s s') : ∃ owners', Issued s' owners' := by
  cases hstep with
  | stay => exact ⟨owners, h⟩
  | arrive =>
    refine ⟨owners, h.length, h.registry, fun t ht => h.tickets t ?_⟩
    simpa using ht
  | enroll i key hi => exact ⟨_, h.enroll i key⟩
  | acquire i key lock hi hfree =>
    exact ⟨owners, h.move hi (by rintro u ⟨⟩; exact ⟨rfl, rfl⟩) fun _ _ => id⟩
  | giveUp i key lock hi =>
    exact ⟨owners, h.move hi (by rintro u ⟨⟩; exact ⟨rfl, rfl⟩) fun _ _ => id⟩
  | release i key lock hi htime =>
    exact ⟨owners, h.move hi (by rintro u ⟨⟩; exact ⟨rfl, rfl⟩) fun _ _ => release_subset⟩
  | leave i key lock hi => exact ⟨owners, h.move hi (fun _ heq => by cases heq) fun _ _ => id⟩

/-- A mutex stands in the registry once. -/
lemma Issued.countP_registry (h : Issued s owners) (hkey : s.registry[key]? = some lock) :
    s.registry.toList.countP (fun entry => entry.2 = lock) = 1 := by
  have hmem : (key, lock) ∈ s.registry.toList :=
    Std.ExtTreeMap.mem_toList_iff_getElem?_eq_some.mpr hkey
  have hall : ∀ entry ∈ s.registry.toList, entry.2 = lock ↔ entry.1 = key := by
    rintro ⟨other, n⟩ hentry
    have hget := Std.ExtTreeMap.mem_toList_iff_getElem?_eq_some.mp hentry
    constructor
    · rintro rfl
      exact Option.some.inj ((h.registry other _ hget).symm.trans (h.registry key _ hkey))
    · rintro rfl
      exact Option.some.inj (hget.symm.trans hkey)
  have hcount := List.count_eq_one_of_mem (Std.ExtTreeMap.nodup_keys (t := s.registry))
    (a := key) (by
      rw [← Std.ExtTreeMap.map_fst_toList_eq_keys]
      exact List.mem_map.mpr ⟨_, hmem, rfl⟩)
  rw [← Std.ExtTreeMap.map_fst_toList_eq_keys, List.count, List.countP_map] at hcount
  rw [← hcount]
  refine List.countP_congr fun entry hentry => ?_
  simp [hall entry hentry]

/-- The last reference of a client is the one the registry counts. -/
lemma countP_refersTo {tickets : List (Option Ticket)} {t : Ticket}
    (hi : tickets[i]? = some (some t))
    (hnone : (tickets.set i none).any (refersTo t.lock) = false) :
    tickets.countP (refersTo t.lock) = 1 := by
  obtain ⟨hlt, hget⟩ := List.getElem?_eq_some_iff.mp hi
  have hset := List.countP_set (p := refersTo t.lock) (l := tickets) (a := none) hlt
  have hzero : (tickets.set i none).countP (refersTo t.lock) = 0 := by
    refine List.countP_eq_zero.mpr fun x hx => ?_
    exact List.any_eq_false.mp hnone x hx
  have hself : refersTo t.lock tickets[i] = true := by
    simp [hget, refersTo]
  have hpos : 0 < tickets.countP (refersTo t.lock) :=
    List.countP_pos_iff.mpr ⟨tickets[i], List.getElem_mem hlt, hself⟩
  have hempty : refersTo t.lock none = false := rfl
  simp only [hself, hempty, hzero, if_true, Bool.false_eq_true, if_false, Nat.add_zero] at hset
  omega

/-- Clients other than `i` that use a mutex go on using it. -/
lemma any_uses_set {tickets : List (Option Ticket)} {ticket : Option Ticket}
    (h : (tickets.set i none).any (uses lock) = true) :
    (tickets.set i ticket).any (uses lock) = true := by
  obtain ⟨x, hx, huses⟩ := List.any_eq_true.mp h
  obtain ⟨j, hj⟩ := List.mem_iff_getElem?.mp hx
  refine List.any_eq_true.mpr ⟨x, List.mem_iff_getElem?.mpr ⟨j, ?_⟩, huses⟩
  rw [List.getElem?_set] at hj ⊢
  split at hj
  · split at hj
    · obtain rfl := Option.some.inj hj
      cases huses
    · cases hj
  · rename_i hne
    rw [if_neg hne]
    exact hj

/-- A mutex that is in use stays so if the client that moves still uses it or did not. -/
lemma any_uses_move {tickets : List (Option Ticket)} {old new : Option Ticket}
    (hi : tickets[i]? = some old) (hkept : uses lock old = true → uses lock new = true)
    (h : tickets.any (uses lock) = true) : (tickets.set i new).any (uses lock) = true := by
  obtain ⟨x, hx, huses⟩ := List.any_eq_true.mp h
  obtain ⟨j, hj⟩ := List.mem_iff_getElem?.mp hx
  by_cases hji : j = i
  · subst hji
    obtain rfl := Option.some.inj (hi.symm.trans hj)
    obtain ⟨hlt, -⟩ := List.getElem?_eq_some_iff.mp hi
    exact List.any_eq_true.mpr ⟨new, List.mem_set hlt new, hkept huses⟩
  · refine List.any_eq_true.mpr ⟨x, List.mem_iff_getElem?.mpr ⟨j, ?_⟩, huses⟩
    rw [List.getElem?_set_ne (Ne.symm hji), hj]

namespace Reclaiming

/-- The client that asks in time for the removal of a mutex: either the mutex is removed, or
somebody uses it. -/
lemma release_used (h : Reclaiming keys s)
    (hi : s.tickets[i]? = some (some ⟨key, lock, .unlocked⟩))
    (htime : timely s.tickets i lock = true) {n : ℕ}
    (hn : (KeyedLocks.release s.registry s.tickets key lock)[key]? = some n) :
    (s.tickets.set i (some ⟨key, lock, .released⟩)).any (uses n) = true := by
  have hkey : s.registry[key]? = some lock :=
    h.consistent.registered ⟨key, lock, .unlocked⟩ (List.mem_of_getElem? hi) (by simp)
  obtain rfl : lock = n := Option.some.inj (hkey.symm.trans (release_subset hn))
  rcases Bool.or_eq_true_iff.mp htime with hused | hnone
  · exact any_uses_set hused
  · obtain ⟨owners, hissued⟩ := h.issued
    have hcount : strongCount s.registry s.tickets lock = 2 := by
      rw [strongCount, hissued.countP_registry hkey,
        countP_refersTo (t := ⟨key, lock, .unlocked⟩) hi (by simpa using hnone)]
    simp [KeyedLocks.release, hkey, hcount] at hn

lemma step (h : Reclaiming keys s) (hstep : Step keys s s') : Reclaiming keys s' := by
  obtain ⟨owners, hissued⟩ := h.issued
  refine ⟨h.consistent.step hstep, hissued.step hstep, ?_⟩
  cases hstep with
  | stay => exact h.used
  | arrive =>
    intro key lock hkey hlock
    rw [List.any_append, h.used key lock hkey hlock, Bool.true_or]
  | enroll i key hi =>
    intro other n hkey hn
    obtain ⟨hlt, -⟩ := List.getElem?_eq_some_iff.mp hi
    by_cases heq : key = other
    · subst heq
      refine List.any_eq_true.mpr ⟨_, List.mem_set hlt _, ?_⟩
      rw [enroll_lookup] at hn
      simp [uses, Option.some.inj hn]
    · have hold : s.registry[other]? = some n := by
        unfold KeyedLocks.enroll at hn
        split at hn
        · exact hn
        · rwa [Registry.getElem?_insert, if_neg heq] at hn
      exact any_uses_move hi (fun hnone => by cases hnone) (h.used other n hkey hold)
  | acquire i key lock hi hfree =>
    intro other n hkey hn
    exact any_uses_move hi (fun huses => by simpa [uses] using huses) (h.used other n hkey hn)
  | giveUp i key lock hi =>
    intro other n hkey hn
    exact any_uses_move hi (fun huses => by simpa [uses] using huses) (h.used other n hkey hn)
  | release i key lock hi htime =>
    intro other n hkey hn
    by_cases heq : key = other
    · subst heq
      exact h.release_used hi (htime hkey) hn
    · have hold := release_subset hn
      refine any_uses_move hi (fun huses => ?_) (h.used other n hkey hold)
      have hlock : lock = n := by
        simpa [uses] using huses
      have howner := hissued.tickets ⟨key, lock, .unlocked⟩ (List.mem_of_getElem? hi)
      rw [hlock, hissued.registry other n hold] at howner
      exact absurd (Option.some.inj howner).symm heq
  | leave i key lock hi =>
    intro other n hkey hn
    exact any_uses_move hi (fun huses => by simp [uses] at huses) (h.used other n hkey hn)

/-- A mutex of the registry is in use by a client with its key. -/
lemma exists_user (h : Reclaiming keys s) (hkey : keys key = true)
    (hlock : s.registry[key]? = some lock) : ∃ t, some t ∈ s.tickets ∧ t.key = key := by
  obtain ⟨x, hx, huses⟩ := List.any_eq_true.mp (h.used key lock hkey hlock)
  obtain ⟨owners, hissued⟩ := h.issued
  obtain ⟨t, rfl, ht⟩ := (Option.any_eq_true _ _).mp huses
  have hsame : t.lock = lock := by
    simp only [Bool.and_eq_true, decide_eq_true_eq] at ht
    exact ht.1
  have howner := hissued.tickets t hx
  rw [hsame, hissued.registry key lock hlock] at howner
  exact ⟨t, hx, (Option.some.inj howner).symm⟩

/-- If all keys count, the registry has no more mutexes than there are references. -/
lemma size_le (h : Reclaiming keys s) (hall : ∀ key, keys key = true) :
    s.registry.size ≤ s.tickets.countP Option.isSome := by
  have hsubset : s.registry.keys ⊆ s.tickets.filterMap (Option.map Ticket.key) := by
    intro key hmem
    obtain ⟨lock, hlock⟩ := Option.isSome_iff_exists.mp
      (Std.ExtTreeMap.isSome_getElem?_iff_mem.mpr (Std.ExtTreeMap.mem_keys.mp hmem))
    obtain ⟨t, ht, rfl⟩ := h.exists_user (hall key) hlock
    exact List.mem_filterMap.mpr ⟨some t, ht, rfl⟩
  have hle := (List.subperm_of_subset (Std.ExtTreeMap.nodup_keys (t := s.registry)) hsubset).length_le
  rw [Std.ExtTreeMap.length_keys, List.length_filterMap_eq_countP] at hle
  simpa using hle

end Reclaiming

end

end KeyedLocks
