import PageUpkeep.Proofs.Age.Growth
import PageUpkeep.Proofs.Sweep.Pointwise

/-! How long a page may wait for its next sweep.

The delay of a sweep comes from the classes it finds, and the labels it leaves come from the clock. The
two fit together along a run as long as no class is coarser than the bucket of the element's age: then
the delay is at most the refresh of every bucket that has elements afterwards, and no label changes by
more than one step until the next sweep.
-/

set_option autoImplicit false

namespace PageUpkeep

theorem toNat_min (first second : UInt64) :
    (min first second).toNat = min first.toNat second.toNat := by
  change (if first ≤ second then first else second).toNat = _
  split
  · rename_i less
    exact (Nat.min_eq_left (UInt64.le_iff_toNat_le.mp less)).symm
  · rename_i greater
    rw [UInt64.le_iff_toNat_le] at greater
    exact (Nat.min_eq_right (Nat.le_of_not_le greater)).symm

namespace AgeBucket

theorem hasClass_className (element : Element) (bucket other : AgeBucket)
    (labelled : element.className = bucket.className) :
    element.hasClass other.className = decide (other = bucket) := by
  unfold Element.hasClass
  rw [labelled]
  cases bucket <;> cases other <;> decide

theorem isSorted_table :
    table.Pairwise fun first second => first.refresh.toNat ≤ second.refresh.toNat := by
  decide

end AgeBucket

namespace Sweep

variable (settings : AgeSettings) (now : Timestamp)

theorem delay_visit (sweep : Sweep) (handle : Handle) :
    (visit settings now sweep handle).delay = sweep.delay := by
  unfold visit
  split <;> rfl

theorem delay_foldl_visit (handles : List Handle) (sweep : Sweep) :
    (handles.foldl (visit settings now) sweep).delay = sweep.delay := by
  induction handles generalizing sweep with
  | nil => rfl
  | cons handle rest ih => rw [List.foldl_cons, ih, delay_visit]

theorem delay_visitBucket (sweep : Sweep) (bucket : AgeBucket) :
    (visitBucket settings now sweep bucket).delay =
      if sweep.document.elementsByClass bucket.className = [] then sweep.delay
      else min sweep.delay bucket.refresh := by
  unfold visitBucket
  split
  · rename_i empty
    simp [empty]
  · rename_i populated
    rw [delay_foldl_visit, if_neg populated]

theorem delay_visitBucket_le (sweep : Sweep) (bucket : AgeBucket) :
    (visitBucket settings now sweep bucket).delay.toNat ≤ sweep.delay.toNat := by
  rw [delay_visitBucket]
  split
  · exact Nat.le_refl _
  · rw [toNat_min]
    exact Nat.min_le_left _ _

theorem delay_foldl_visitBucket_le (buckets : List AgeBucket) (sweep : Sweep) :
    (buckets.foldl (visitBucket settings now) sweep).delay.toNat ≤ sweep.delay.toNat := by
  induction buckets generalizing sweep with
  | nil => exact Nat.le_refl _
  | cons bucket rest ih => exact Nat.le_trans (ih _) (delay_visitBucket_le settings now sweep bucket)

theorem delay_visitBucket_le_refresh {sweep : Sweep} {bucket : AgeBucket} {element : Element}
    (member : element ∈ sweep.document.elements) (inside : element.hasClass bucket.className = true) :
    (visitBucket settings now sweep bucket).delay.toNat ≤ bucket.refresh.toNat := by
  obtain ⟨handle, found⟩ := List.mem_iff_getElem?.mp member
  have listed : handle ∈ sweep.document.elementsByClass bucket.className :=
    (Document.mem_elementsByClass _ _ _).mpr ⟨element, found, inside⟩
  rw [delay_visitBucket, if_neg (List.ne_nil_of_mem listed), toNat_min]
  exact Nat.min_le_right _ _

theorem delay_foldl_visitBucket_le_refresh {buckets : List AgeBucket}
    (sorted : buckets.Pairwise fun first second => first.refresh.toNat ≤ second.refresh.toNat)
    {sweep : Sweep} {element : Element} {bucket : AgeBucket}
    (member : element ∈ sweep.document.elements) (listed : bucket ∈ buckets)
    (inside : element.hasClass bucket.className = true) :
    (buckets.foldl (visitBucket settings now) sweep).delay.toNat ≤ bucket.refresh.toNat := by
  -- The element may be moved on before the turn of its bucket comes, but then a finer bucket has met it, and that one
  -- is refreshed at least as often.
  induction buckets generalizing sweep with
  | nil => cases listed
  | cons first rest ih =>
    obtain ⟨least, tail⟩ := List.pairwise_cons.mp sorted
    rw [List.foldl_cons]
    by_cases met : element.hasClass first.className = true
    · -- The turn of the first bucket bounds the delay, and later turns only lower it.
      have bound := delay_visitBucket_le_refresh settings now member met
      have kept := delay_foldl_visitBucket_le settings now rest (visitBucket settings now sweep first)
      rcases List.mem_cons.mp listed with rfl | later
      · exact Nat.le_trans kept bound
      · exact Nat.le_trans (Nat.le_trans kept bound) (least bucket later)
    · -- Not met yet, the element stands as it did when the next turn comes.
      have untouched : element ∈ (visitBucket settings now sweep first).document.elements := by
        rw [elements_visitBucket]
        refine List.mem_map.mpr ⟨element, member, ?_⟩
        simp [AgeSettings.refresh, Element.isInOneOf, met]
      rcases List.mem_cons.mp listed with rfl | later
      · exact absurd inside met
      · exact ih tail untouched later

theorem delay_run (document : Document) :
    (run settings now document).delay =
      (AgeBucket.table.foldl (visitBucket settings now) { document }).delay := by
  unfold run
  generalize AgeBucket.table.foldl (visitBucket settings now) { document } = swept
  rfl

theorem delay_run_le_refresh {document : Document} {element : Element} {bucket : AgeBucket}
    (member : element ∈ document.elements) (inside : element.hasClass bucket.className = true) :
    (run settings now document).delay.toNat ≤ bucket.refresh.toNat := by
  have held : element ∈ ({ document } : Sweep).document.elements := member
  rw [delay_run]
  exact delay_foldl_visitBucket_le_refresh settings now AgeBucket.isSorted_table held
    (AgeBucket.mem_table bucket) inside

end Sweep

/-! ## Runs -/

namespace Element

/-- The finest bucket that the class puts an element into. -/
def finest? (element : Element) : Option AgeBucket :=
  AgeBucket.table.find? fun bucket => element.hasClass bucket.className

theorem finest?_eq_some {element : Element} {bucket : AgeBucket}
    (finest : element.finest? = some bucket) : element.hasClass bucket.className = true :=
  List.find?_some (p := fun (bucket : AgeBucket) => element.hasClass bucket.className) finest

theorem isAged_of_finest? {element : Element} {bucket : AgeBucket}
    (finest : element.finest? = some bucket) : element.isAged = true :=
  List.any_eq_true.mpr ⟨bucket, AgeBucket.mem_table bucket, finest?_eq_some finest⟩

theorem exists_finest?_of_isAged {element : Element} (aged : element.isAged = true) :
    ∃ bucket, element.finest? = some bucket := by
  obtain ⟨bucket, listed, inside⟩ := List.any_eq_true.mp aged
  exact Option.isSome_iff_exists.mp (List.find?_isSome.mpr ⟨bucket, listed, inside⟩)

theorem finest?_of_labelled {element : Element} {bucket : AgeBucket}
    (labelled : element.className = bucket.className) : element.finest? = some bucket := by
  unfold finest?
  simp only [AgeBucket.hasClass_className element bucket _ labelled]
  cases bucket <;> rfl

end Element

namespace Document

def Shows (document : Document) (handle : Handle) (label : AgeLabel) : Prop :=
  document.text handle = label.text ∧ document.className handle = label.className

/-- No element that is kept up to date is in a coarser bucket, by the finest of its classes, than the one
of its age. -/
def NoCoarser (settings : AgeSettings) (now : Timestamp) (document : Document) : Prop :=
  ∀ element ∈ document.elements, ∀ bucket timestamp, element.finest? = some bucket →
    settings.moment? element = some timestamp →
      bucket.index ≤ (AgeBucket.ofAge (timestamp.age now)).index

end Document

namespace Sweep

def foundAt (settings : AgeSettings) (times : Nat → Timestamp) (document : Document) : Nat → Document
  | 0 => document
  | turn + 1 => (run settings (times turn) (foundAt settings times document turn)).document

def delayAt (settings : AgeSettings) (times : Nat → Timestamp) (document : Document) (turn : Nat) :
    UInt64 :=
  (run settings (times turn) (foundAt settings times document turn)).delay

/-- A sweep is followed by another one at the latest when its delay is over. -/
def InTime (settings : AgeSettings) (times : Nat → Timestamp) (document : Document) (turn : Nat) : Prop :=
  (times turn).toInt ≤ (times (turn + 1)).toInt ∧
    (times (turn + 1)).toInt ≤ (times turn).toInt + (delayAt settings times document turn).toNat

variable (settings : AgeSettings)

theorem noCoarser_run {now later : Timestamp} (onward : now.toInt ≤ later.toInt) (document : Document) :
    (run settings now document).document.NoCoarser settings later := by
  intro element member bucket timestamp finest readable
  rw [elements_run] at member
  obtain ⟨before, held, rfl⟩ := List.mem_map.mp member
  rw [AgeSettings.moment?_refresh] at readable
  cases aged : before.isAged with
  | true =>
    -- What has been visited is in the bucket of its age, and with time that bucket gets no finer.
    rw [settings.refresh_of_readable now aged readable, Element.finest?_of_labelled rfl] at finest
    rw [← Option.some.inj finest]
    exact AgeBucket.index_ofAge_mono (Timestamp.age_mono timestamp onward)
  | false =>
    rw [settings.refresh_of_outside now aged] at finest
    exact absurd (Element.isAged_of_finest? finest) (by simp [aged])

theorem delay_run_le_of_readable {now : Timestamp} {document : Document}
    (fine : document.NoCoarser settings now) {element : Element} {timestamp : Timestamp}
    (member : element ∈ document.elements) (aged : element.isAged = true)
    (readable : settings.moment? element = some timestamp) :
    (run settings now document).delay.toNat ≤
      (AgeBucket.ofAge (timestamp.age now)).refresh.toNat := by
  obtain ⟨bucket, finest⟩ := Element.exists_finest?_of_isAged aged
  have waited := delay_run_le_refresh settings now member (Element.finest?_eq_some finest)
  have finer := AgeBucket.refresh_mono (fine element member bucket timestamp finest readable)
  exact Nat.le_trans waited (UInt64.le_iff_toNat_le.mp finer)

/-- No bucket that has an element after a sweep is refreshed before the delay of that sweep is over. -/
theorem delay_run_le_of_populated {now : Timestamp} {document : Document}
    (fine : document.NoCoarser settings now) {bucket : AgeBucket}
    (populated : (run settings now document).document.elementsByClass bucket.className ≠ []) :
    (run settings now document).delay ≤ bucket.refresh := by
  rw [UInt64.le_iff_toNat_le]
  obtain ⟨handle, listed⟩ := List.exists_mem_of_ne_nil _ populated
  obtain ⟨element, found, inside⟩ := (Document.mem_elementsByClass _ _ _).mp listed
  rw [element?_run] at found
  obtain ⟨before, held, rfl⟩ := Option.map_eq_some_iff.mp found
  have member : before ∈ document.elements := List.mem_of_getElem? held
  cases aged : before.isAged with
  | false =>
    rw [settings.refresh_of_outside now aged] at inside
    exact delay_run_le_refresh settings now member inside
  | true =>
    cases readable : settings.moment? before with
    | none =>
      -- What cannot be read stays in its bucket, and was there when the sweep came by.
      have kept : settings.refresh now AgeBucket.table before = before := by
        unfold AgeSettings.refresh
        rw [settings.relabel_of_none now (by simp [AgeSettings.label?, readable]), ite_self]
      rw [kept] at inside
      exact delay_run_le_refresh settings now member inside
    | some timestamp =>
      have waited := delay_run_le_of_readable settings fine member aged readable
      rw [settings.refresh_of_readable now aged readable,
        AgeBucket.hasClass_className _ (AgeBucket.ofAge (timestamp.age now)) bucket rfl,
        decide_eq_true_eq] at inside
      rw [inside]
      exact waited

theorem foundAt_of_readable (times : Nat → Timestamp) {document : Document} {handle : Handle}
    {element : Element} {timestamp : Timestamp} (found : document.element? handle = some element)
    (aged : element.isAged = true) (readable : settings.moment? element = some timestamp)
    (turn : Nat) :
    ∃ current, (foundAt settings times document turn).element? handle = some current ∧
      current.isAged = true ∧ settings.moment? current = some timestamp := by
  induction turn with
  | zero => exact ⟨element, found, aged, readable⟩
  | succ turn ih =>
    obtain ⟨before, held, wasAged, wasReadable⟩ := ih
    refine ⟨_, (element?_run ..).trans (congrArg _ held), ?_, by simpa using wasReadable⟩
    rw [settings.refresh_of_readable (times turn) wasAged wasReadable]
    exact Element.isAged_of_finest? (Element.finest?_of_labelled rfl)

theorem shows_run {now : Timestamp} {document : Document} {handle : Handle} {element : Element}
    {timestamp : Timestamp} (found : document.element? handle = some element)
    (aged : element.isAged = true) (readable : settings.moment? element = some timestamp) :
    (run settings now document).document.Shows handle (AgeLabel.ofAge (timestamp.age now)) := by
  have after := (element?_run settings now document handle).trans (congrArg _ found)
  rw [Option.map_some, settings.refresh_of_readable now aged readable] at after
  exact ⟨Document.text_of_found after, Document.className_of_found after⟩

theorem noCoarser_foundAt {times : Nat → Timestamp} {document : Document}
    (fine : document.NoCoarser settings (times 0)) {turn : Nat}
    (inTime : ∀ earlier < turn, InTime settings times document earlier) :
    (foundAt settings times document turn).NoCoarser settings (times turn) := by
  -- Only the sweep before counts: it leaves no class too coarse, whatever it found.
  cases turn with
  | zero => exact fine
  | succ turn => exact noCoarser_run settings (inTime turn (Nat.lt_succ_self _)).1 _

/-- On a page whose classes are not too coarse at first, sweeps that are never late show every value: from
one sweep to the next no label passes over a bucket or, within its bucket, over a number. -/
theorem label_advances_by_at_most_one (times : Nat → Timestamp) (document : Document)
    (fine : document.NoCoarser settings (times 0)) (turn : Nat)
    (inTime : ∀ earlier ≤ turn, InTime settings times document earlier) :
    (∀ handle element timestamp, document.element? handle = some element → element.isAged = true →
      settings.moment? element = some timestamp →
        let first := AgeLabel.ofAge (timestamp.age (times turn))
        let second := AgeLabel.ofAge (timestamp.age (times (turn + 1)))
        (foundAt settings times document (turn + 1)).Shows handle first ∧
        (foundAt settings times document (turn + 2)).Shows handle second ∧
        (second.bucket.index = first.bucket.index ∨ second.bucket.index = first.bucket.index + 1) ∧
        (second.bucket = first.bucket →
          second.value.toNat = first.value.toNat ∨ second.value.toNat = first.value.toNat + 1)) ∧
    ∀ bucket : AgeBucket,
      (foundAt settings times document (turn + 1)).elementsByClass bucket.className ≠ [] →
        delayAt settings times document turn ≤ bucket.refresh := by
  have still : (foundAt settings times document turn).NoCoarser settings (times turn) :=
    noCoarser_foundAt settings fine fun earlier before => inTime earlier (Nat.le_of_lt before)
  constructor
  · intro handle element timestamp found aged readable
    obtain ⟨current, held, stillAged, stillReadable⟩ :=
      foundAt_of_readable settings times found aged readable turn
    obtain ⟨next, heldNext, nextAged, nextReadable⟩ :=
      foundAt_of_readable settings times found aged readable (turn + 1)
    obtain ⟨onward, soon⟩ := inTime turn (Nat.le_refl _)
    have waited := delay_run_le_of_readable settings still (List.mem_of_getElem? held) stillAged
      stillReadable
    -- The age grows by what the clock goes on, and the clock by no more than the element's refresh.
    have older := Timestamp.age_mono timestamp onward
    have within := Nat.le_trans (Timestamp.age_le_age_add timestamp soon)
      (Nat.add_le_add_left waited _)
    obtain ⟨buckets, values⟩ := AgeLabel.ofAge_next older within
    exact ⟨shows_run settings held stillAged stillReadable,
      shows_run settings heldNext nextAged nextReadable, buckets, values⟩
  · intro bucket populated
    exact delay_run_le_of_populated settings still populated

theorem label_advances_past_two_hours :
    let document : Document := { elements := [.labelled "age-mins" "data-ut" "0"] }
    let times : Nat → Timestamp := fun turn => if turn = 0 then 7195 else 7200
    document.NoCoarser {} (times 0) ∧ (∀ earlier ≤ 0, InTime {} times document earlier) ∧
      (foundAt {} times document 1).Shows 0 ⟨.minutes, 120⟩ ∧
      (foundAt {} times document 2).Shows 0 ⟨.hours, 2⟩ ∧
      delayAt {} times document 0 ≤ AgeBucket.minutes.refresh := by
  intro document times
  have fine : document.NoCoarser {} (times 0) := by
    intro element member bucket timestamp finest readable
    obtain rfl := List.mem_singleton.mp member
    have minutes : (Element.labelled "age-mins" "data-ut" "0").finest? = some .minutes := by decide
    rw [minutes] at finest
    rw [← Option.some.inj finest]
    exact Nat.zero_le _
  have inTime : ∀ earlier ≤ 0, InTime {} times document earlier := by
    intro earlier first
    obtain rfl := Nat.le_zero.mp first
    unfold InTime
    decide
  obtain ⟨labels, waits⟩ := label_advances_by_at_most_one {} times document fine 0 inTime
  obtain ⟨first, second, _⟩ := labels 0 _ 0 rfl (by decide) (by decide)
  have early : AgeLabel.ofAge (Timestamp.age 0 (times 0)) = ⟨.minutes, 120⟩ := by decide
  have late : AgeLabel.ofAge (Timestamp.age 0 (times 1)) = ⟨.hours, 2⟩ := by decide
  exact ⟨fine, inTime, early ▸ first, late ▸ second, waits .minutes (by decide)⟩

end Sweep

end PageUpkeep
