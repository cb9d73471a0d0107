import DotGraph.Proofs.Overlay

/-!
# Merging lists of attributes

Values go by the last pair of a key and places by the first one. Lists that are merged into a map
one after another are merged as one list (`Attrs.update_successive`), whether the map is changed in
its place or a new one is made of its entries and the merged ones.
-/

namespace DotGraph

namespace AttrItem

def key? : AttrItem → Option String
  | .pair key _ => some key
  | .foreign => none

def value? (key : String) : AttrItem → Option String
  | .pair other value => if other = key then some value else none
  | .foreign => none

/-- The keys of pairs, as often as they occur, without the empty one. -/
def nonEmptyKeys (items : List AttrItem) : List String :=
  (items.filterMap key?).filter (· ≠ "")

def lastValue? (key : String) (items : List AttrItem) : Option String :=
  items.reverse.findSome? (value? key)

end AttrItem

open AttrItem

theorem map_fst_effectivePairs (items : List AttrItem) :
    (effectivePairs items).map Prod.fst = nonEmptyKeys items := by
  induction items with
  | nil => rfl
  | cons item items ih =>
    simp only [effectivePairs, nonEmptyKeys] at ih ⊢
    cases item with
    | foreign => exact ih
    | pair key value =>
      by_cases empty : key = "" <;> simp [effective?, key?, empty, ih]

theorem lookup_filterMap_effective? (key : String) (items : List AttrItem) :
    (items.filterMap effective?).lookup key =
      if key = "" then none else items.findSome? (value? key) := by
  induction items with
  | nil => simp
  | cons item items ih =>
    cases item with
    | foreign => exact ih
    | pair other value =>
      by_cases empty : other = ""
      · have skipped : (pair other value).effective? = none := if_pos empty
        rw [List.filterMap_cons_none skipped, ih]
        by_cases same : key = ""
        · simp [same]
        · simp [value?, empty, same, Ne.symm same]
      · have kept : (pair other value).effective? = some (other, value) := if_neg empty
        rw [List.filterMap_cons_some kept, lookup_pair_cons, ih]
        by_cases same : other = key
        · simp [value?, ← same, empty]
        · simp [value?, same, Ne.symm same]

/-- The last pair of a key counts, and none of the empty key. -/
theorem lookup_reverse_effectivePairs (key : String) (items : List AttrItem) :
    (effectivePairs items).reverse.lookup key =
      if key = "" then none else lastValue? key items := by
  rw [effectivePairs, ← List.filterMap_reverse, lookup_filterMap_effective?, lastValue?]

namespace OrderedMap

universe u
variable {α : Type u}

/-- A new map with the entries of one map and then those of another. -/
def joined (m n : OrderedMap α) : OrderedMap α := ofPairs (m.entries ++ n.entries)

theorem joined_eq_overlay (m n : OrderedMap α) : m.joined n = m.overlay n.entries := by
  rw [joined, ofPairs, overlay_append]
  exact congrArg (overlay · n.entries) (ofPairs_entries m)

end OrderedMap

namespace Attrs

theorem joined_ofItems (attrs : Attrs) (items : List AttrItem) :
    OrderedMap.joined attrs (ofItems items) = attrs.update items :=
  OrderedMap.joined_eq_overlay attrs (ofItems items)

theorem ofItems_eq_update (items : List AttrItem) : ofItems items = (∅ : Attrs).update items :=
  (update_eq_overlay ∅ items).symm

theorem keys_update (attrs : Attrs) (items : List AttrItem) :
    (attrs.update items).keys = attrs.keys ++ fresh attrs.keys (nonEmptyKeys items) := by
  rw [update_eq_overlay, OrderedMap.keys_overlay, map_fst_effectivePairs]

theorem get?_update (attrs : Attrs) (items : List AttrItem) (key : String) :
    (attrs.update items).get? key =
      if key = "" then attrs.get? "" else (lastValue? key items).or (attrs.get? key) := by
  rw [update_eq_overlay, OrderedMap.get?_overlay, lookup_reverse_effectivePairs]
  split
  · next empty => rw [empty, Option.none_or]
  · rfl

/-- Two lists merged one after another are merged as one: it does not matter whether the map is
changed or another one is made. The keys that were there keep their places and new ones follow in
the order of their first appearance, and the last pair of a key tells its value, but there is no
pair of the empty key. -/
theorem update_successive (attrs : Attrs) (first second : List AttrItem) :
    let merged := attrs.update (first ++ second)
    (attrs.update first).update second = merged ∧ attrs.update [] = attrs ∧
    OrderedMap.joined (OrderedMap.joined attrs (ofItems first)) (ofItems second) = merged ∧
    ofItems (first ++ second) = (ofItems first).update second ∧
    (∀ key, merged.get? key = if key = "" then attrs.get? ""
      else (lastValue? key (first ++ second)).or (attrs.get? key)) ∧
    merged.keys = attrs.keys ++ fresh attrs.keys (nonEmptyKeys (first ++ second)) ∧
    merged.keys.Nodup := by
  intro merged
  have successive : (attrs.update first).update second = merged := (update_append ..).symm
  refine ⟨successive, update_nil attrs, ?_, ?_, get?_update attrs _, keys_update attrs _,
    merged.nodup_keys⟩
  · rw [joined_ofItems, joined_ofItems, successive]
  · rw [ofItems_eq_update, ofItems_eq_update, update_append]

/-- A key that was there, a new one that is written twice, the empty one and an element that is no
pair. -/
example :
    let attrs : Attrs := OrderedMap.ofPairs [("shape", "box")]
    let first : List AttrItem := [.pair "color" "red", .pair "" "ignored", .foreign]
    let second : List AttrItem := [.pair "shape" "oval", .pair "color" "blue"]
    (attrs.update (first ++ second)).entries = [("shape", "oval"), ("color", "blue")] := by
  decide

end Attrs

end DotGraph
