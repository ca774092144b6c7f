import Mathlib.Data.Int.ConditionallyCompleteOrder
import Mathlib.Data.Nat.SuccPred
import Mathlib.Order.Interval.Set.OrdConnected
import PageUpkeep.Proofs.Sweep.Delay

/-! Sweeps over a page that nobody edits get no more frequent.

The first sweep finds whatever classes the page came with. From then on every element that can be read is in
the bucket of its age, and the others stay where they are. While the clock goes on buckets only get coarser,
and a coarser bucket is refreshed no more often; so no delay but the first is followed by a shorter one.
-/

set_option autoImplicit false

namespace PageUpkeep.Sweep

variable (settings : AgeSettings) {times : Nat → Timestamp} {document : Document}

theorem delayAt_succ_mono {turn : Nat} (onward : (times turn).toInt ≤ (times (turn + 1)).toInt) :
    delayAt settings times document (turn + 1) ≤ delayAt settings times document (turn + 2) := by
  -- The sweep before has left no class too coarse, so the delay of this one is kept by every bucket it fills.
  have fine : (foundAt settings times document (turn + 1)).NoCoarser settings (times (turn + 1)) :=
    noCoarser_run settings onward _
  apply (le_delay_run_iff settings _ _ _).mpr
  constructor
  · exact ((le_delay_run_iff settings _ _ _).mp (UInt64.le_refl _)).1
  · intro bucket populated
    apply delay_run_le_of_populated settings fine
    intro none
    rw [Document.elementsByClass_eq_nil_iff] at none
    exact Bool.false_ne_true (none.symm.trans populated)

theorem monotoneOn_delayAt {last : Nat}
    (onward : MonotoneOn (fun turn => (times turn).toInt) (Set.Iic last)) :
    MonotoneOn (fun turn => (delayAt settings times document turn).toNat) (Set.Icc 1 last) := by
  apply monotoneOn_of_le_succ Set.ordConnected_Icc
  intro turn _ inside insideNext
  obtain ⟨started, _⟩ := inside
  obtain ⟨_, within⟩ := insideNext
  obtain ⟨before, rfl⟩ := Nat.exists_eq_add_of_le' started
  have later : (times before).toInt ≤ (times (before + 1)).toInt :=
    onward (Set.mem_Iic.mpr (Nat.le_trans (Nat.le_add_right before 2) within))
      (Set.mem_Iic.mpr (Nat.le_of_succ_le within)) (Nat.le_succ before)
  exact UInt64.le_iff_toNat_le.mp (delayAt_succ_mono settings later)

/-- Along a run of sweeps at times that never go back, no delay after the first gets shorter, and no label
that a sweep has set goes back to a finer bucket or, within its bucket, to a smaller number. -/
theorem slackens_unless_edited (times : Nat → Timestamp) (document : Document) (last : Nat)
    (onward : MonotoneOn (fun turn => (times turn).toInt) (Set.Iic last)) :
    MonotoneOn (fun turn => (delayAt settings times document turn).toNat) (Set.Icc 1 last) ∧
    ∀ handle element timestamp, document.element? handle = some element → element.isAged = true →
      settings.moment? element = some timestamp → ∀ earlier later, earlier ≤ later → later ≤ last →
        let first := AgeLabel.ofAge (timestamp.age (times earlier))
        let second := AgeLabel.ofAge (timestamp.age (times later))
        (foundAt settings times document (earlier + 1)).Shows handle first ∧
        (foundAt settings times document (later + 1)).Shows handle second ∧
        first.bucket.index ≤ second.bucket.index ∧
        (first.bucket = second.bucket → first.value ≤ second.value) := by
  refine ⟨monotoneOn_delayAt settings onward, ?_⟩
  intro handle element timestamp found aged readable earlier later order within first second
  have shown : ∀ turn, (foundAt settings times document (turn + 1)).Shows handle
      (AgeLabel.ofAge (timestamp.age (times turn))) := by
    intro turn
    obtain ⟨current, held, stillAged, stillReadable⟩ :=
      foundAt_of_readable settings times found aged readable turn
    exact shows_run settings held stillAged stillReadable
  have older : (timestamp.age (times earlier)).toNat ≤ (timestamp.age (times later)).toNat :=
    Timestamp.age_mono timestamp (onward (Nat.le_trans order within) within order)
  obtain ⟨buckets, values⟩ := AgeLabel.ofAge_mono older
  exact ⟨shown earlier, shown later, buckets, values⟩

/-- Classes that are too coarse make the first delay a long one. The next is of ten seconds, and grows to five
minutes when the label goes on to hours. -/
theorem slackens_from_ten_seconds :
    let document : Document :=
      { elements := [.labelled "age-years" "data-ut" "0", .labelled "age-days" "data-ut" "soon"] }
    let times : Nat → Timestamp := fun turn => if turn = 0 then 7195 else 7200
    MonotoneOn (fun turn => (times turn).toInt) (Set.Iic 2) ∧
      delayAt {} times document 0 = 1800 ∧ delayAt {} times document 1 = 10 ∧
      (delayAt {} times document 1).toNat ≤ (delayAt {} times document 2).toNat ∧
      (foundAt {} times document 1).Shows 0 ⟨.minutes, 120⟩ ∧
      (foundAt {} times document 2).Shows 0 ⟨.hours, 2⟩ := by
  intro document times
  have onward : MonotoneOn (fun turn => (times turn).toInt) (Set.Iic 2) := by
    intro first _ second _ order
    rcases Nat.eq_zero_or_pos second with rfl | later
    · rw [Nat.le_zero.mp order]
    · have latest : times second = 7200 := if_neg (Nat.ne_of_gt later)
      change (times first).toInt ≤ (times second).toInt
      rw [latest]
      by_cases start : first = 0
      · rw [start]
        decide
      · exact Int.le_of_eq (congrArg Int64.toInt (if_neg start))
  obtain ⟨delays, labels⟩ := slackens_unless_edited {} times document 2 onward
  obtain ⟨first, second, _⟩ := labels 0 _ 0 rfl (by decide) (by decide) 0 1 (by decide) (by decide)
  have early : AgeLabel.ofAge (Timestamp.age 0 (times 0)) = ⟨.minutes, 120⟩ := by decide
  have late : AgeLabel.ofAge (Timestamp.age 0 (times 1)) = ⟨.hours, 2⟩ := by decide
  have grows : (delayAt {} times document 1).toNat ≤ (delayAt {} times document 2).toNat :=
    delays (Set.mem_Icc.mpr (by decide)) (Set.mem_Icc.mpr (by decide)) (by decide)
  exact ⟨onward, by decide, by decide, grows, early ▸ first, late ▸ second⟩

end PageUpkeep.Sweep
