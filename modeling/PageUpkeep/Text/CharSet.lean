/-! Sets of characters given by ranges of their numbers. The ranges ascend, so that a look-up ends at
the first that begins beyond the character. -/

set_option autoImplicit false

namespace PageUpkeep.Text

def isAscending : List (Nat × Nat) → Bool
  | [] => true
  | [range] => range.1 ≤ range.2
  | range :: next :: rest => range.1 ≤ range.2 && range.2 < next.1 && isAscending (next :: rest)

def inRanges (number : Nat) : List (Nat × Nat) → Bool
  | [] => false
  | range :: rest => range.1 ≤ number && (number ≤ range.2 || inRanges number rest)

theorem lt_of_mem_of_isAscending {range member : Nat × Nat} {rest : List (Nat × Nat)}
    (ascending : isAscending (range :: rest) = true) (found : member ∈ rest) : range.2 < member.1 := by
  induction rest generalizing range with
  | nil => cases found
  | cons next rest ih =>
    simp only [isAscending, Bool.and_eq_true, decide_eq_true_eq] at ascending
    rcases List.mem_cons.mp found with rfl | further
    · exact ascending.1.2
    · have beyond := ih ascending.2 further
      have ordered : next.1 ≤ next.2 := by
        cases rest with
        | nil => simpa [isAscending] using ascending.2
        | cons third rest =>
          simp only [isAscending, Bool.and_eq_true, decide_eq_true_eq] at ascending
          exact ascending.2.1.1
      omega

theorem isAscending_tail {range : Nat × Nat} {rest : List (Nat × Nat)}
    (ascending : isAscending (range :: rest) = true) : isAscending rest = true := by
  cases rest with
  | nil => rfl
  | cons next rest =>
    simp only [isAscending, Bool.and_eq_true] at ascending
    exact ascending.2

theorem inRanges_iff {number : Nat} {ranges : List (Nat × Nat)} (ascending : isAscending ranges = true) :
    inRanges number ranges = true ↔ ∃ range ∈ ranges, range.1 ≤ number ∧ number ≤ range.2 := by
  induction ranges with
  | nil => simp [inRanges]
  | cons range rest ih =>
    have further := ih (isAscending_tail ascending)
    simp only [inRanges, Bool.and_eq_true, Bool.or_eq_true, decide_eq_true_eq, further,
      List.mem_cons, exists_eq_or_imp]
    constructor
    · rintro ⟨lower, upper | found⟩
      · exact .inl ⟨lower, upper⟩
      · exact .inr found
    · rintro (⟨lower, upper⟩ | ⟨member, found, lower, upper⟩)
      · exact ⟨lower, .inl upper⟩
      · have beyond := lt_of_mem_of_isAscending ascending found
        have ordered : range.1 ≤ range.2 := by
          cases rest with
          | nil => cases found
          | cons next rest =>
            simp only [isAscending, Bool.and_eq_true, decide_eq_true_eq] at ascending
            exact ascending.1.1
        exact ⟨by omega, .inr ⟨member, found, lower, upper⟩⟩

structure CharSet where
  ranges : List (Nat × Nat)
  ascending : isAscending ranges = true := by decide +kernel

namespace CharSet

def contains (set : CharSet) (c : Char) : Bool :=
  inRanges c.toNat set.ranges

theorem contains_iff (set : CharSet) (c : Char) :
    set.contains c = true ↔ ∃ range ∈ set.ranges, range.1 ≤ c.toNat ∧ c.toNat ≤ range.2 :=
  inRanges_iff set.ascending

end CharSet

end PageUpkeep.Text
