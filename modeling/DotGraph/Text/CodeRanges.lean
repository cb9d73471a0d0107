/-!
# Classes of characters as code point ranges

A class is a list of ranges, ends included, in increasing order; a look-up stops at the first
range that starts beyond the code point, and finds what lies in any of them (`contains_iff`).
-/

namespace DotGraph.Text

namespace CodeRanges

/-- The ranges are non-empty and each starts beyond the end of the one before it. -/
def Increasing : List (Nat × Nat) → Prop
  | [] => True
  | [(first, last)] => first ≤ last
  | (first, last) :: (next, stop) :: rest =>
    first ≤ last ∧ last < next ∧ Increasing ((next, stop) :: rest)

instance decidableIncreasing : (ranges : List (Nat × Nat)) → Decidable (Increasing ranges)
  | [] => inferInstanceAs (Decidable True)
  | [(first, last)] => inferInstanceAs (Decidable (first ≤ last))
  | (first, last) :: (next, stop) :: rest =>
    have := decidableIncreasing ((next, stop) :: rest)
    inferInstanceAs (Decidable (first ≤ last ∧ last < next ∧ Increasing ((next, stop) :: rest)))

theorem Increasing.tail {range : Nat × Nat} {ranges : List (Nat × Nat)}
    (increasing : Increasing (range :: ranges)) : Increasing ranges := by
  cases ranges with
  | nil => trivial
  | cons next rest => exact increasing.2.2

theorem Increasing.first_le_last {first last : Nat} {ranges : List (Nat × Nat)}
    (increasing : Increasing ((first, last) :: ranges)) : first ≤ last := by
  cases ranges with
  | nil => exact increasing
  | cons next rest => exact increasing.1

/-- Every later range lies beyond the end of the first one. -/
theorem Increasing.last_lt {first last : Nat} {ranges : List (Nat × Nat)}
    (increasing : Increasing ((first, last) :: ranges)) :
    ∀ range ∈ ranges, last < range.1 := by
  induction ranges generalizing first last with
  | nil => simp
  | cons next rest ih =>
    obtain ⟨_, beyond, later⟩ := increasing
    intro range mem
    rcases List.mem_cons.mp mem with rfl | mem
    · exact beyond
    · have ordered := later.first_le_last
      have := ih later range mem
      omega

def search : List (Nat × Nat) → Nat → Bool
  | [], _ => false
  | (first, last) :: rest, code =>
    if code < first then false else decide (code ≤ last) || search rest code

theorem search_iff {ranges : List (Nat × Nat)} (increasing : Increasing ranges) {code : Nat} :
    search ranges code = true ↔ ∃ range ∈ ranges, range.1 ≤ code ∧ code ≤ range.2 := by
  induction ranges with
  | nil => simp [search]
  | cons range rest ih =>
    obtain ⟨first, last⟩ := range
    simp only [search, List.mem_cons, exists_eq_or_imp]
    split
    · next before =>
      constructor
      · intro h
        cases h
      · rintro (bounds | ⟨range, mem, bounds⟩)
        · omega
        · have ordered := increasing.first_le_last
          have := increasing.last_lt range mem
          omega
    · next reached =>
      rw [Bool.or_eq_true, decide_eq_true_eq, ih increasing.tail]
      constructor
      · rintro (h | h)
        · exact .inl ⟨by omega, h⟩
        · exact .inr h
      · rintro (⟨_, h⟩ | h)
        · exact .inl h
        · exact .inr h

end CodeRanges

structure CodeRanges where
  entries : List (Nat × Nat)
  increasing : CodeRanges.Increasing entries

namespace CodeRanges

def contains (ranges : CodeRanges) (code : Nat) : Bool := search ranges.entries code

theorem contains_iff {ranges : CodeRanges} {code : Nat} :
    ranges.contains code = true ↔ ∃ range ∈ ranges.entries, range.1 ≤ code ∧ code ≤ range.2 :=
  search_iff ranges.increasing

theorem contains_eq_false_of_lt {ranges : CodeRanges} {range : Nat × Nat}
    {rest : List (Nat × Nat)} (split : ranges.entries = range :: rest) {code : Nat}
    (before : code < range.1) : ranges.contains code = false := by
  rw [contains, split, search, if_pos before]

end CodeRanges

end DotGraph.Text
