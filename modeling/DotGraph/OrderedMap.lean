/-!
# Maps that keep the order of insertion

Keys are strings and stand in the order of their first insertion. Writing a key that is already
there replaces its value and leaves its place. A map is determined by its keys in order and its
look-ups (`OrderedMap.ext_get?`).
-/

namespace DotGraph

universe u
variable {α : Type u}

/-- Write a value under a key: in its place if the key is there, at the end if it is not. -/
def putPair (key : String) (value : α) : List (String × α) → List (String × α)
  | [] => [(key, value)]
  | pair :: rest =>
    if pair.1 = key then (key, value) :: rest else pair :: putPair key value rest

theorem map_fst_putPair (key : String) (value : α) (pairs : List (String × α)) :
    (putPair key value pairs).map Prod.fst =
      if key ∈ pairs.map Prod.fst then pairs.map Prod.fst else pairs.map Prod.fst ++ [key] := by
  induction pairs with
  | nil => simp [putPair]
  | cons pair rest ih =>
    by_cases h : pair.1 = key
    · simp [putPair, h]
    · have h' : ¬ key = pair.1 := fun e => h e.symm
      simp only [putPair, if_neg h, List.map_cons, ih, List.mem_cons, h', false_or]
      split <;> simp

theorem lookup_pair_cons (key : String) (pair : String × α) (rest : List (String × α)) :
    (pair :: rest).lookup key = if key = pair.1 then some pair.2 else rest.lookup key := by
  obtain ⟨k, v⟩ := pair
  by_cases h : key = k
  · simp [h]
  · simp [List.lookup_cons, h, beq_false_of_ne h]

theorem lookup_putPair (key other : String) (value : α) (pairs : List (String × α)) :
    (putPair key value pairs).lookup other =
      if other = key then some value else pairs.lookup other := by
  induction pairs with
  | nil => simp [putPair, lookup_pair_cons]
  | cons pair rest ih =>
    by_cases h : pair.1 = key
    · by_cases ho : other = key <;> simp [putPair, h, ho, lookup_pair_cons]
    · by_cases ho : other = key
      · subst ho
        have : ¬ other = pair.1 := fun e => h e.symm
        simp [putPair, h, this, lookup_pair_cons, ih]
      · simp [putPair, h, ho, lookup_pair_cons, ih]

@[ext]
structure OrderedMap (α : Type u) where
  entries : List (String × α)
  nodup_keys : (entries.map Prod.fst).Nodup
  deriving DecidableEq

namespace OrderedMap

def empty : OrderedMap α := ⟨[], by simp⟩

instance : EmptyCollection (OrderedMap α) := ⟨empty⟩

@[simp] theorem entries_empty : (∅ : OrderedMap α).entries = [] := rfl

def keys (m : OrderedMap α) : List String := m.entries.map Prod.fst

@[simp] theorem keys_empty : (∅ : OrderedMap α).keys = [] := rfl

def size (m : OrderedMap α) : Nat := m.entries.length

def get? (m : OrderedMap α) (key : String) : Option α := m.entries.lookup key

@[simp] theorem get?_empty (key : String) : (∅ : OrderedMap α).get? key = none := rfl

def insert (m : OrderedMap α) (key : String) (value : α) : OrderedMap α where
  entries := putPair key value m.entries
  nodup_keys := by
    rw [map_fst_putPair]
    split
    · exact m.nodup_keys
    · next h =>
      rw [List.nodup_append]
      exact ⟨m.nodup_keys, by simp, fun a ha b hb e => h (by simp_all)⟩

theorem keys_insert (m : OrderedMap α) (key : String) (value : α) :
    (m.insert key value).keys = if key ∈ m.keys then m.keys else m.keys ++ [key] :=
  map_fst_putPair key value m.entries

theorem get?_insert (m : OrderedMap α) (key other : String) (value : α) :
    (m.insert key value).get? other = if other = key then some value else m.get? other :=
  lookup_putPair key other value m.entries

/-- Write pairs one after another, so that a later value wins and a new key goes to the end. -/
def overlay (m : OrderedMap α) (pairs : List (String × α)) : OrderedMap α :=
  pairs.foldl (fun m pair => m.insert pair.1 pair.2) m

@[simp] theorem overlay_nil (m : OrderedMap α) : m.overlay [] = m := rfl

@[simp] theorem overlay_cons (m : OrderedMap α) (pair : String × α) (pairs : List (String × α)) :
    m.overlay (pair :: pairs) = (m.insert pair.1 pair.2).overlay pairs := rfl

theorem overlay_append (m : OrderedMap α) (first second : List (String × α)) :
    m.overlay (first ++ second) = (m.overlay first).overlay second :=
  List.foldl_append

def ofPairs (pairs : List (String × α)) : OrderedMap α := overlay ∅ pairs

/-- Look-up among pairs without repeated keys sees exactly the pairs. -/
theorem lookup_eq_some_iff_mem {pairs : List (String × α)} (nodup : (pairs.map Prod.fst).Nodup)
    {key : String} {value : α} : pairs.lookup key = some value ↔ (key, value) ∈ pairs := by
  induction pairs with
  | nil => simp
  | cons pair rest ih =>
    obtain ⟨k, v⟩ := pair
    simp only [List.map_cons, List.nodup_cons] at nodup
    rw [lookup_pair_cons, List.mem_cons, Prod.mk.injEq]
    by_cases h : key = k
    · subst h
      have : (key, value) ∉ rest := fun mem => nodup.1 (List.mem_map.mpr ⟨_, mem, rfl⟩)
      simp [this, eq_comm]
    · simp [h, ih nodup.2]

theorem entries_eq_of_lookup {first second : List (String × α)}
    (nodup : (first.map Prod.fst).Nodup) (keys : first.map Prod.fst = second.map Prod.fst)
    (agree : ∀ key, first.lookup key = second.lookup key) : first = second := by
  induction first generalizing second with
  | nil => cases second <;> simp_all
  | cons pair rest ih =>
    cases second with
    | nil => simp at keys
    | cons pair' rest' =>
      simp only [List.map_cons, List.cons.injEq] at keys
      have head := agree pair.1
      simp only [lookup_pair_cons, keys.1] at head
      simp only [List.map_cons, List.nodup_cons] at nodup
      have tail : rest = rest' := by
        refine ih nodup.2 keys.2 fun key => ?_
        by_cases h : key = pair.1
        · have absent : ∀ {pairs : List (String × α)}, key ∉ pairs.map Prod.fst →
              pairs.lookup key = none := by
            intro pairs
            induction pairs with
            | nil => simp
            | cons p ps ihp =>
              intro hn
              simp only [List.map_cons, List.mem_cons, not_or] at hn
              simp [lookup_pair_cons, hn.1, ihp hn.2]
          rw [absent (h ▸ nodup.1), absent (keys.2 ▸ h ▸ nodup.1)]
        · have := agree key
          simpa [lookup_pair_cons, h, keys.1 ▸ h] using this
      exact tail ▸ congrArg (· :: rest) (Prod.ext keys.1 (by simpa using head))

theorem ext_get? {first second : OrderedMap α} (keys : first.keys = second.keys)
    (agree : ∀ key, first.get? key = second.get? key) : first = second :=
  OrderedMap.ext (entries_eq_of_lookup first.nodup_keys keys agree)

/-- Writing the pairs of a map into the empty map gives the map back. -/
theorem ofPairs_entries (m : OrderedMap α) : ofPairs m.entries = m := by
  suffices h : ∀ (pairs : List (String × α)) (n : OrderedMap α),
      ((n.entries ++ pairs).map Prod.fst).Nodup → (n.overlay pairs).entries = n.entries ++ pairs by
    exact OrderedMap.ext (by simpa [ofPairs] using h m.entries ∅ (by simpa using m.nodup_keys))
  intro pairs
  induction pairs with
  | nil => simp
  | cons pair rest ih =>
    intro n nodup
    have fresh : pair.1 ∉ n.entries.map Prod.fst := by
      intro mem
      simp only [List.map_append, List.map_cons, List.nodup_append, List.mem_cons] at nodup
      exact nodup.2.2 _ mem _ (.inl rfl) rfl
    have put : ∀ pairs : List (String × α), pair.1 ∉ pairs.map Prod.fst →
        putPair pair.1 pair.2 pairs = pairs ++ [pair] := by
      intro pairs
      induction pairs with
      | nil => simp [putPair]
      | cons p ps ihp =>
        intro hn
        simp only [List.map_cons, List.mem_cons, not_or] at hn
        simp [putPair, Ne.symm hn.1, ihp hn.2]
    have step : (n.insert pair.1 pair.2).entries = n.entries ++ [pair] := put _ fresh
    rw [overlay_cons, ih _ (by rw [step]; simpa using nodup), step]
    simp

end OrderedMap

end DotGraph
