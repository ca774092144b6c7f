import Mathlib.Order.Bounds.Basic
import PageUpkeep.Proofs.Sweep.Cadence

/-! The delay of a sweep, told from the document as it was before.

A sweep asks a bucket for its elements when its turn comes, and by then elements have been moved. But what was
moved was met in a finer bucket, and a finer bucket is refreshed at least as often. So the moves of a sweep
make no difference to its delay: it is the shortest refresh of the buckets that had elements at the start.
-/

set_option autoImplicit false

namespace PageUpkeep

def Document.populates (document : Document) (bucket : AgeBucket) : Bool :=
  document.elements.any fun element => element.hasClass bucket.className

theorem Document.elementsByClass_eq_nil_iff (document : Document) (bucket : AgeBucket) :
    document.elementsByClass bucket.className = [] ↔ document.populates bucket = false := by
  rw [List.eq_nil_iff_forall_not_mem, populates, List.any_eq_false]
  constructor
  · intro empty element member inside
    obtain ⟨handle, found⟩ := List.mem_iff_getElem?.mp member
    exact empty handle ((document.mem_elementsByClass _ _).mpr ⟨element, found, inside⟩)
  · intro outside handle listed
    obtain ⟨element, found, inside⟩ := (document.mem_elementsByClass _ _).mp listed
    exact outside element (List.mem_of_getElem? found) inside

namespace Sweep

def leastRefresh (delay : UInt64) (buckets : List AgeBucket) : UInt64 :=
  buckets.foldl (fun delay bucket => min delay bucket.refresh) delay

theorem leastRefresh_of_le {delay : UInt64} {buckets : List AgeBucket}
    (below : ∀ bucket ∈ buckets, delay.toNat ≤ bucket.refresh.toNat) :
    leastRefresh delay buckets = delay := by
  induction buckets with
  | nil => rfl
  | cons bucket rest ih =>
    obtain ⟨first, later⟩ := List.forall_mem_cons.mp below
    have kept : min delay bucket.refresh = delay := if_pos (UInt64.le_iff_toNat_le.mpr first)
    rw [leastRefresh, List.foldl_cons, kept]
    exact ih later

theorem le_leastRefresh_iff {wait delay : UInt64} {buckets : List AgeBucket} :
    wait ≤ leastRefresh delay buckets ↔
      wait ≤ delay ∧ ∀ bucket ∈ buckets, wait ≤ bucket.refresh := by
  induction buckets generalizing delay with
  | nil => simp [leastRefresh]
  | cons bucket rest ih =>
    rw [leastRefresh, List.foldl_cons, ← leastRefresh, ih, Std.le_min_iff, List.forall_mem_cons, and_assoc]

theorem leastRefresh_mem (delay : UInt64) (buckets : List AgeBucket) :
    leastRefresh delay buckets ∈ delay :: buckets.map AgeBucket.refresh := by
  induction buckets generalizing delay with
  | nil => exact List.mem_singleton_self delay
  | cons bucket rest ih =>
    rw [leastRefresh, List.foldl_cons, ← leastRefresh]
    rcases List.mem_cons.mp (ih (min delay bucket.refresh)) with least | later
    · rw [least]
      rcases @Std.min_eq_or _ _ _ delay bucket.refresh with kept | lowered
      · exact List.mem_cons.mpr (.inl kept)
      · rw [lowered]
        exact List.mem_cons_of_mem _ List.mem_cons_self
    · exact List.mem_cons_of_mem _ (List.mem_cons_of_mem _ later)

variable (settings : AgeSettings) (now : Timestamp)

theorem populates_visitBucket_of_empty {sweep : Sweep} {bucket : AgeBucket}
    (empty : sweep.document.populates bucket = false) :
    (visitBucket settings now sweep bucket).document.populates = sweep.document.populates := by
  have none := (sweep.document.elementsByClass_eq_nil_iff bucket).mpr empty
  rw [visitBucket, none]

theorem delay_foldl_visitBucket {buckets : List AgeBucket}
    (sorted : buckets.Pairwise fun first second => first.refresh.toNat ≤ second.refresh.toNat)
    (sweep : Sweep) :
    (buckets.foldl (visitBucket settings now) sweep).delay =
      leastRefresh sweep.delay (buckets.filter sweep.document.populates) := by
  induction buckets generalizing sweep with
  | nil => rfl
  | cons bucket rest ih =>
    obtain ⟨least, tail⟩ := List.pairwise_cons.mp sorted
    have turn := delay_visitBucket settings now sweep bucket
    simp only [sweep.document.elementsByClass_eq_nil_iff bucket] at turn
    rw [List.foldl_cons, ih tail, turn]
    cases populated : sweep.document.populates bucket with
    | false =>
      rw [populates_visitBucket_of_empty settings now populated, if_pos rfl,
        List.filter_cons_of_neg (by simp [populated])]
    | true =>
      -- From here on no bucket asks for less, whichever of them have elements by then.
      have below : ∀ later ∈ rest, (min sweep.delay bucket.refresh).toNat ≤ later.refresh.toNat := by
        intro later member
        rw [toNat_min]
        exact Nat.le_trans (Nat.min_le_right _ _) (least later member)
      have whole : leastRefresh sweep.delay (bucket :: rest.filter sweep.document.populates) =
          min sweep.delay bucket.refresh :=
        leastRefresh_of_le fun later member => below later (List.mem_filter.mp member).1
      rw [if_neg Bool.noConfusion, List.filter_cons_of_pos populated, whole]
      exact leastRefresh_of_le fun later member => below later (List.mem_filter.mp member).1

/-- A sweep asks for the least refresh of all buckets that had an element when it began. -/
theorem delay_run_eq (document : Document) :
    (run settings now document).delay =
      leastRefresh AgeBucket.idleRefresh (AgeBucket.table.filter document.populates) := by
  rw [delay_run]
  exact delay_foldl_visitBucket settings now AgeBucket.isSorted_table { document }

theorem le_delay_run_iff (wait : UInt64) (document : Document) :
    wait ≤ (run settings now document).delay ↔
      wait ≤ AgeBucket.idleRefresh ∧
        ∀ bucket : AgeBucket, document.populates bucket = true → wait ≤ bucket.refresh := by
  rw [delay_run_eq, le_leastRefresh_iff]
  simp only [List.mem_filter, AgeBucket.mem_table, true_and]

theorem delay_run_cases (document : Document) :
    (run settings now document).delay = AgeBucket.idleRefresh ∨
      ∃ bucket : AgeBucket, document.populates bucket = true ∧
        bucket.refresh = (run settings now document).delay := by
  have member := leastRefresh_mem AgeBucket.idleRefresh (AgeBucket.table.filter document.populates)
  rw [← delay_run_eq settings now document] at member
  rcases List.mem_cons.mp member with idle | asked
  · exact .inl idle
  · obtain ⟨bucket, listed, same⟩ := List.mem_map.mp asked
    exact .inr ⟨bucket, (List.mem_filter.mp listed).2, same⟩

/-- A sweep asks for the shortest refresh of the buckets that had an element, readable or not, when it
began, and for a day where there was none. What it moves meanwhile makes no difference. -/
theorem delay_is_least_of_populated (document : Document) :
    let asked := {refresh : UInt64 | ∃ bucket : AgeBucket,
      (∃ element ∈ document.elements, element.hasClass bucket.className = true) ∧
        bucket.refresh = refresh}
    asked = ∅ ∧ (run settings now document).delay = 86400 ∨
      IsLeast asked (run settings now document).delay := by
  intro asked
  have asks : ∀ bucket : AgeBucket, document.populates bucket = true → bucket.refresh ∈ asked := by
    intro bucket populated
    exact ⟨bucket, List.any_eq_true.mp populated, rfl⟩
  obtain ⟨_, below⟩ := (le_delay_run_iff settings now _ document).mp (UInt64.le_refl _)
  have bounds : (run settings now document).delay ∈ lowerBounds asked := by
    rintro _ ⟨bucket, member, rfl⟩
    exact below bucket (List.any_eq_true.mpr member)
  rcases delay_run_cases settings now document with idle | ⟨bucket, populated, same⟩
  · rcases Set.eq_empty_or_nonempty asked with none | ⟨_, bucket, member, rfl⟩
    · exact .inl ⟨none, idle⟩
    · -- No bucket asks for more than the delay of an idle page, so one that asks for no less attains it.
      have populated := List.any_eq_true.mpr member
      have attained : bucket.refresh = (run settings now document).delay :=
        UInt64.le_antisymm (idle ▸ AgeBucket.refresh_le_idleRefresh bucket) (below bucket populated)
      exact .inr ⟨attained ▸ asks bucket populated, bounds⟩
  · exact .inr ⟨same ▸ asks bucket populated, bounds⟩

end Sweep

end PageUpkeep
