import Mathlib.Algebra.GroupWithZero.Nat
import PageUpkeep.Proofs.Sweep.History

/-! What a sweep counts.

A sweep meets an element in the finest bucket that it is in. It is met again where it is moved on to a
coarser bucket, for the turn of that one is still to come; where it is moved back, or left in its bucket, it
is not. At a second meeting it has its label already, so nothing is updated twice.
-/

set_option autoImplicit false

namespace PageUpkeep

namespace AgeBucket

theorem isSorted_table_index :
    table.Pairwise fun first second => first.index < second.index := by
  decide

theorem mem_later_iff {done later : List AgeBucket} {bucket : AgeBucket}
    (turn : table = done ++ bucket :: later) (other : AgeBucket) :
    other ∈ later ↔ bucket.index < other.index := by
  have sorted := isSorted_table_index
  have listed := mem_table other
  rw [turn] at sorted listed
  obtain ⟨_, rest, across⟩ := List.pairwise_append.mp sorted
  obtain ⟨after, _⟩ := List.pairwise_cons.mp rest
  constructor
  · exact after other
  · intro coarser
    rcases List.mem_append.mp listed with before | within
    · have finer := across other before bucket List.mem_cons_self
      exact absurd coarser (Nat.lt_asymm finer)
    · rcases List.mem_cons.mp within with same | later
      · exact absurd coarser (same ▸ Nat.lt_irrefl _)
      · exact later

theorem count_later {done later : List AgeBucket} {bucket : AgeBucket}
    (turn : table = done ++ bucket :: later) (other : AgeBucket) :
    later.count other = if bucket.index < other.index then 1 else 0 := by
  have once : later.Nodup := by
    have distinct : table.Nodup := by decide
    rw [turn] at distinct
    exact (List.nodup_cons.mp (List.nodup_append.mp distinct).2.1).2
  rw [once.count]
  simp only [mem_later_iff turn]

end AgeBucket

namespace AgeSettings

variable (settings : AgeSettings) (now : Timestamp)

def isReadable (element : Element) : Bool :=
  (settings.moment? element).isSome

/-- Whether the bucket of its age is coarser than the finest one an element is in. -/
def movesOn (element : Element) : Bool :=
  match element.finest?, settings.moment? element with
  | some finest, some timestamp => decide (finest.index < (AgeBucket.ofAge (timestamp.age now)).index)
  | _, _ => false

/-- How often some buckets, each at its turn, meet an element that can be read. -/
def meetings : List AgeBucket → Element → Nat
  | [], _ => 0
  | bucket :: later, element =>
    (if element.hasClass bucket.className && settings.isReadable element then 1 else 0) +
      meetings later (settings.refresh now [bucket] element)

@[simp] theorem isReadable_relabel (element : Element) :
    settings.isReadable (settings.relabel now element) = settings.isReadable element := by
  simp [isReadable]

@[simp] theorem isReadable_refresh (buckets : List AgeBucket) (element : Element) :
    settings.isReadable (settings.refresh now buckets element) = settings.isReadable element := by
  simp [isReadable]

theorem refresh_relabel (buckets : List AgeBucket) (element : Element) :
    settings.refresh now buckets (settings.relabel now element) = settings.relabel now element := by
  unfold refresh
  split
  · exact settings.relabel_relabel now now element
  · rfl

theorem meetings_of_unreadable {element : Element} (unreadable : settings.isReadable element = false)
    (buckets : List AgeBucket) : settings.meetings now buckets element = 0 := by
  induction buckets generalizing element with
  | nil => rfl
  | cons bucket later ih =>
    rw [meetings, ih (by rwa [isReadable_refresh])]
    simp [unreadable]

theorem meetings_relabel {element : Element} {timestamp : Timestamp}
    (readable : settings.moment? element = some timestamp) (buckets : List AgeBucket) :
    settings.meetings now buckets (settings.relabel now element) =
      buckets.count (AgeBucket.ofAge (timestamp.age now)) := by
  have label : settings.label? now element = some (AgeLabel.ofAge (timestamp.age now)) := by
    simp [label?, readable]
  have labelled : (settings.relabel now element).className =
      (AgeBucket.ofAge (timestamp.age now)).className := by
    rw [settings.relabel_of_some now label]
    rfl
  induction buckets with
  | nil => rfl
  | cons bucket later ih =>
    rw [meetings, refresh_relabel, ih, AgeBucket.hasClass_className _ _ bucket labelled,
      isReadable_relabel, isReadable, readable, List.count_cons, Nat.add_comm]
    simp

theorem meetings_append_of_outside {element : Element} {done : List AgeBucket}
    (outside : ∀ bucket ∈ done, element.hasClass bucket.className = false) (later : List AgeBucket) :
    settings.meetings now (done ++ later) element = settings.meetings now later element := by
  induction done with
  | nil => rfl
  | cons bucket rest ih =>
    obtain ⟨first, others⟩ := List.forall_mem_cons.mp outside
    have kept : settings.refresh now [bucket] element = element :=
      settings.refresh_of_outside now (by simp [Element.isInOneOf, first])
    rw [List.cons_append, meetings, kept, ih others]
    simp [first]

/-- A sweep meets an element once, and twice where it moves it on. -/
theorem meetings_table (element : Element) :
    settings.meetings now AgeBucket.table element =
      (if element.isAged && settings.isReadable element then 1 else 0) +
        if settings.movesOn now element then 1 else 0 := by
  cases readable : settings.moment? element with
  | none =>
    have unreadable : settings.isReadable element = false := by simp [isReadable, readable]
    rw [settings.meetings_of_unreadable now unreadable]
    cases finest : element.finest? <;> simp [movesOn, finest, readable, unreadable]
  | some timestamp =>
    cases finest : element.finest? with
    | none =>
      have outside : ∀ bucket ∈ AgeBucket.table, element.hasClass bucket.className = false := by
        simpa [Element.finest?] using finest
      have notAged : element.isAged = false := by
        simpa [Element.isAged, Element.isInOneOf] using outside
      have unmet := settings.meetings_append_of_outside now outside []
      rw [List.append_nil] at unmet
      rw [unmet]
      simp [meetings, movesOn, finest, notAged]
    | some bucket =>
      have aged := Element.isAged_of_finest? finest
      obtain ⟨inside, done, later, turn, passed⟩ := List.find?_eq_some_iff_append.mp finest
      have outside : ∀ earlier ∈ done, element.hasClass earlier.className = false := by
        simpa using passed
      have visited : settings.refresh now [bucket] element = settings.relabel now element := by
        simp [refresh, Element.isInOneOf, inside]
      -- First met at the turn of its finest bucket; the bucket of its label may be among those to come.
      rw [turn, settings.meetings_append_of_outside now outside, meetings, visited,
        settings.meetings_relabel now readable, AgeBucket.count_later turn]
      simp [movesOn, finest, readable, aged, inside, isReadable]

end AgeSettings

namespace Document

variable (document : Document)

theorem map_element?_range :
    (List.range document.elements.length).map document.element? = document.elements.map some := by
  apply List.ext_getElem?
  intro place
  by_cases inside : place < document.elements.length
  · simp [element?, inside]
  · simp [inside]

theorem countP_range_element? (counts : Element → Bool) :
    (List.range document.elements.length).countP (fun handle => (document.element? handle).any counts) =
      document.elements.countP counts := by
  have counted : (fun handle => (document.element? handle).any counts) =
      (fun element? : Option Element => element?.any counts) ∘ document.element? := rfl
  rw [counted, ← List.countP_map, map_element?_range, List.countP_map]
  rfl

theorem countP_elementsByClass (className : String) (counts : Element → Bool) :
    (document.elementsByClass className).countP (fun handle => (document.element? handle).any counts) =
      document.elements.countP fun element => element.hasClass className && counts element := by
  rw [← countP_range_element?, elementsByClass, List.countP_filter]
  apply List.countP_congr
  intro handle _
  cases document.element? handle <;> simp [and_comm]

end Document

namespace Sweep

variable (settings : AgeSettings) (now : Timestamp)

theorem seen_visit (sweep : Sweep) (handle : Handle) :
    (visit settings now sweep handle).seen =
      sweep.seen + if (sweep.document.element? handle).any settings.isReadable then 1 else 0 := by
  cases readable : (sweep.document.element? handle).bind settings.moment? with
  | none =>
    obtain ⟨event, _, visited⟩ := visit_of_none settings now readable
    have unseen : (sweep.document.element? handle).any settings.isReadable = false := by
      cases found : sweep.document.element? handle with
      | none => rfl
      | some element => simpa [found, AgeSettings.isReadable] using readable
    rw [visited, unseen]
    rfl
  | some timestamp =>
    obtain ⟨element, found, moment⟩ := Option.bind_eq_some_iff.mp readable
    simp [visit, settings.timestampOf_of_moment found moment, found, AgeSettings.isReadable, moment]

theorem any_isReadable_visit (sweep : Sweep) (handle other : Handle) :
    ((visit settings now sweep handle).document.element? other).any settings.isReadable =
      (sweep.document.element? other).any settings.isReadable := by
  rw [element?_visit]
  split
  · cases sweep.document.element? other <;> simp
  · rfl

theorem seen_foldl_visit (handles : List Handle) (sweep : Sweep) :
    (handles.foldl (visit settings now) sweep).seen =
      sweep.seen +
        handles.countP fun handle => (sweep.document.element? handle).any settings.isReadable := by
  induction handles generalizing sweep with
  | nil => rfl
  | cons handle rest ih =>
    rw [List.foldl_cons, ih, seen_visit, List.countP_cons]
    simp only [any_isReadable_visit]
    omega

theorem seen_visitBucket (sweep : Sweep) (bucket : AgeBucket) :
    (visitBucket settings now sweep bucket).seen =
      sweep.seen + sweep.document.elements.countP fun element =>
        element.hasClass bucket.className && settings.isReadable element := by
  rw [← Document.countP_elementsByClass, visitBucket]
  split
  · rename_i empty
    rw [empty]
    rfl
  · exact seen_foldl_visit settings now _ { sweep with delay := min sweep.delay bucket.refresh }

theorem sum_meetings_cons (bucket : AgeBucket) (later : List AgeBucket) (elements : List Element) :
    (elements.map (settings.meetings now (bucket :: later))).sum =
      (elements.countP fun element => element.hasClass bucket.className && settings.isReadable element) +
        ((elements.map (settings.refresh now [bucket])).map (settings.meetings now later)).sum := by
  induction elements with
  | nil => rfl
  | cons element rest ih =>
    rw [List.map_cons, List.sum_cons, ih, List.countP_cons, List.map_cons, List.map_cons, List.sum_cons,
      AgeSettings.meetings]
    omega

theorem seen_foldl_visitBucket (buckets : List AgeBucket) (sweep : Sweep) :
    (buckets.foldl (visitBucket settings now) sweep).seen =
      sweep.seen + (sweep.document.elements.map (settings.meetings now buckets)).sum := by
  induction buckets generalizing sweep with
  | nil => simp [AgeSettings.meetings, List.map_const']
  | cons bucket later ih =>
    rw [List.foldl_cons, ih, elements_visitBucket, seen_visitBucket, sum_meetings_cons, Nat.add_assoc]

theorem sum_meetings_table (elements : List Element) :
    (elements.map (settings.meetings now AgeBucket.table)).sum =
      (elements.countP fun element => element.isAged && settings.isReadable element) +
        elements.countP (settings.movesOn now) := by
  induction elements with
  | nil => rfl
  | cons element rest ih =>
    rw [List.map_cons, List.sum_cons, ih, settings.meetings_table now, List.countP_cons, List.countP_cons]
    omega

theorem seen_run (document : Document) :
    (run settings now document).seen =
      (document.elements.countP fun element => element.isAged && settings.isReadable element) +
        document.elements.countP (settings.movesOn now) := by
  have whole : (run settings now document).seen =
      (AgeBucket.table.foldl (visitBucket settings now) { document }).seen := by
    unfold run
    generalize AgeBucket.table.foldl (visitBucket settings now) { document } = swept
    rfl
  rw [whole, seen_foldl_visitBucket, sum_meetings_table]
  exact Nat.zero_add _

theorem updated_run_eq_changed (document : Document) :
    (run settings now document).updated =
      (List.range document.elements.length).countP fun handle =>
        document.text handle != (run settings now document).document.text handle ||
          document.className handle != (run settings now document).document.className handle := by
  rw [updated_run, ← document.countP_range_element?]
  apply List.countP_congr
  intro handle _
  cases found : document.element? handle with
  | none => simp [Document.text, Document.className, found, element?_run]
  | some element =>
    have after := (element?_run settings now document handle).trans (congrArg _ found)
    rw [Document.text_of_found found, Document.className_of_found found, Document.text_of_found after,
      Document.className_of_found after]
    cases aged : element.isAged with
    | false => simp [aged, settings.refresh_of_outside now aged]
    | true =>
      rw [settings.refresh_of_aged now aged, @bne_comm _ _ _ element.text, @bne_comm _ _ _ element.className]
      simp [aged, AgeSettings.isStale, AgeSettings.isTextStale, AgeSettings.isClassStale]

/-- A sweep traces how many elements it met that can be read, counting twice what it moved on to a coarser
bucket; how many elements it changed; and the delay it asks for. -/
theorem trace_counts_meetings_and_changes (document : Document) :
    let swept := run settings now document
    let met := (document.elements.countP fun element => element.isAged && settings.isReadable element) +
      document.elements.countP (settings.movesOn now)
    let changed := (List.range document.elements.length).countP fun handle =>
      document.text handle != swept.document.text handle ||
        document.className handle != swept.document.className handle
    let traced := Event.sweepDone met changed swept.delay
    swept.log.filter (fun event => event.level == .trace) = [traced] ∧
      traced.fields = [("seen", .number met), ("updated", .number changed),
        ("next_secs", .number swept.delay.toNat)] := by
  intro swept met changed traced
  have seen : swept.seen = met := seen_run settings now document
  have updated : swept.updated = changed := updated_run_eq_changed settings now document
  have log := trace_run settings now document
  rw [seen, updated] at log
  exact ⟨log, rfl⟩

example :
    (run {} 7200 { elements := [.labelled "age-mins" "data-ut" "0"] }).seen = 2 := by
  decide

end Sweep

end PageUpkeep
