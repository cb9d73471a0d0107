import DotGraph.Graph.Scope

/-!
# Overlays

What an overlay makes of a map: the keys that were there stay in place, new ones follow in the order
of their first appearance, and the last value of a key wins. Merging a list of pairs before it is
laid over a map makes no difference.
-/

namespace DotGraph

/-- The names that do not occur before, each at its first place. -/
def fresh (before names : List String) : List String := (names.removeAll before).eraseDups

@[simp] theorem fresh_nil (before : List String) : fresh before [] = [] := rfl

theorem fresh_of_nothing (names : List String) : fresh [] names = names.eraseDups := by
  simp [fresh]

theorem mem_fresh {before names : List String} {name : String} :
    name ∈ fresh before names ↔ name ∈ names ∧ name ∉ before := by
  simp [fresh, List.removeAll]

theorem nodup_eraseDups (names : List String) : names.eraseDups.Nodup := by
  cases names with
  | nil => simp
  | cons name names =>
    rw [List.eraseDups_cons, List.nodup_cons]
    constructor
    · simp
    · exact nodup_eraseDups (names.filter fun other => !other == name)
termination_by names.length
decreasing_by exact Nat.lt_succ_of_le (List.length_filter_le _ _)

theorem fresh_append (before first second : List String) :
    fresh before (first ++ second) = fresh before first ++ fresh (before ++ first) second := by
  have rest : (second.removeAll before).removeAll (first.removeAll before) =
      second.removeAll (before ++ first) := by
    simp only [List.removeAll, List.filter_filter]
    refine List.filter_congr fun name _ => ?_
    by_cases old : name ∈ before <;> simp [old]
  rw [fresh, fresh, fresh, List.removeAll, List.filter_append, List.eraseDups_append]
  exact congrArg (_ ++ List.eraseDups ·) rest

theorem fresh_singleton (before : List String) (name : String) :
    fresh before [name] = if name ∈ before then [] else [name] := by
  by_cases old : name ∈ before <;> simp [fresh, List.removeAll, old, List.eraseDups_cons]

theorem fresh_congr {before other : List String} (same : ∀ name, name ∈ before ↔ name ∈ other)
    (names : List String) : fresh before names = fresh other names := by
  have : names.removeAll before = names.removeAll other :=
    List.filter_congr fun name _ => by simp [same]
  rw [fresh, fresh, this]

theorem mem_append_fresh {before names : List String} {name : String} :
    name ∈ before ++ fresh before names ↔ name ∈ before ++ names := by
  by_cases old : name ∈ before <;> simp [mem_fresh, old]

/-- What grows by the fresh names of one list and then of another grows by those of both. -/
theorem append_fresh_append (before first second : List String) :
    before ++ fresh before first ++ fresh (before ++ fresh before first) second =
      before ++ fresh before (first ++ second) := by
  rw [fresh_append, fresh_congr (fun _ => mem_append_fresh) second, List.append_assoc]

namespace OrderedMap

universe u
variable {α : Type u}

theorem mem_keys_iff {m : OrderedMap α} {key : String} :
    key ∈ m.keys ↔ (m.get? key).isSome = true := by
  rw [get?, List.lookup_isSome_iff, keys, List.mem_map]
  constructor
  · rintro ⟨pair, mem, rfl⟩
    exact ⟨pair, mem, by simp⟩
  · rintro ⟨pair, mem, same⟩
    exact ⟨pair, mem, (beq_iff_eq.mp same).symm⟩

theorem get?_eq_none_iff {m : OrderedMap α} {key : String} : m.get? key = none ↔ key ∉ m.keys := by
  rw [mem_keys_iff, Bool.not_eq_true, Option.isSome_eq_false_iff, Option.isNone_iff_eq_none]

theorem length_keys (m : OrderedMap α) : m.keys.length = m.size := List.length_map _

theorem keys_insert_eq_append (m : OrderedMap α) (key : String) (value : α) :
    (m.insert key value).keys = m.keys ++ fresh m.keys [key] := by
  rw [keys_insert, fresh_singleton]
  split <;> simp

theorem keys_overlay (m : OrderedMap α) (pairs : List (String × α)) :
    (m.overlay pairs).keys = m.keys ++ fresh m.keys (pairs.map Prod.fst) := by
  induction pairs generalizing m with
  | nil => simp
  | cons pair pairs ih =>
    rw [overlay_cons, ih, keys_insert_eq_append, append_fresh_append, List.map_cons,
      List.singleton_append]

theorem get?_overlay (m : OrderedMap α) (pairs : List (String × α)) (key : String) :
    (m.overlay pairs).get? key = (pairs.reverse.lookup key).or (m.get? key) := by
  induction pairs generalizing m with
  | nil => simp
  | cons pair pairs ih =>
    rw [overlay_cons, ih, get?_insert, List.reverse_cons, List.lookup_append, lookup_pair_cons]
    split <;> cases pairs.reverse.lookup key <;> simp

theorem get?_ofPairs (pairs : List (String × α)) (key : String) :
    (ofPairs pairs).get? key = pairs.reverse.lookup key := by
  rw [ofPairs, get?_overlay, get?_empty, Option.or_none]

/-- The keys of a map are distinct, so the last pair of a key is the only one. -/
theorem lookup_reverse_entries (m : OrderedMap α) (key : String) :
    m.entries.reverse.lookup key = m.get? key := by
  rw [← get?_ofPairs, ofPairs_entries]

theorem overlay_entries_insert (m n : OrderedMap α) (key : String) (value : α) :
    m.overlay (n.insert key value).entries = (m.overlay n.entries).insert key value := by
  have laid : ∀ p : OrderedMap α, (m.overlay p.entries).keys = m.keys ++ fresh m.keys p.keys :=
    fun p => keys_overlay m p.entries
  refine ext_get? ?_ fun other => ?_
  · rw [keys_insert, laid, laid, keys_insert]
    by_cases inside : key ∈ n.keys
    · by_cases below : key ∈ m.keys <;> simp [mem_fresh, inside, below]
    · by_cases below : key ∈ m.keys <;>
        simp [mem_fresh, fresh_append, fresh_singleton, inside, below]
  · rw [get?_insert, get?_overlay, get?_overlay, lookup_reverse_entries, lookup_reverse_entries,
      get?_insert]
    split <;> simp

/-- Pairs may be merged before they are laid over a map. -/
theorem overlay_entries_ofPairs (m : OrderedMap α) (pairs : List (String × α)) :
    m.overlay (ofPairs pairs).entries = m.overlay pairs := by
  suffices grows : ∀ n : OrderedMap α,
      m.overlay (n.overlay pairs).entries = (m.overlay n.entries).overlay pairs from grows ∅
  intro n
  induction pairs generalizing n with
  | nil => rfl
  | cons pair pairs ih => rw [overlay_cons, ih, overlay_entries_insert, overlay_cons]

end OrderedMap

namespace Attrs

theorem update_eq_overlay (attrs : Attrs) (items : List AttrItem) :
    attrs.update items = attrs.overlay (effectivePairs items) :=
  OrderedMap.overlay_entries_ofPairs attrs (effectivePairs items)

theorem update_nil (attrs : Attrs) : attrs.update [] = attrs := rfl

theorem update_append (attrs : Attrs) (first second : List AttrItem) :
    attrs.update (first ++ second) = (attrs.update first).update second := by
  simp only [update_eq_overlay, effectivePairs_append, OrderedMap.overlay_append]

end Attrs

end DotGraph
