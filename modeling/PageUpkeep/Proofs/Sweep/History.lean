import PageUpkeep.Proofs.Sweep.Cadence

/-! Sweeps have no memory.

A sweep overwrites what earlier sweeps wrote and leaves alone what they left alone: an element is never
moved out of all buckets, and its timestamp is never touched. So a run of sweeps, at whatever times, comes
to its last one. What a sweep updates is counted by the same kind of account as its writes.
-/

set_option autoImplicit false

namespace PageUpkeep

namespace AgeSettings

variable (settings : AgeSettings) (now earlier : Timestamp)

theorem refresh_of_aged {element : Element} (aged : element.isAged = true) :
    settings.refresh now AgeBucket.table element = settings.relabel now element :=
  if_pos aged

@[simp] theorem isAged_refresh (element : Element) :
    (settings.refresh now AgeBucket.table element).isAged = element.isAged := by
  cases aged : element.isAged with
  | false => rw [settings.refresh_of_outside now aged, aged]
  | true =>
    rw [settings.refresh_of_aged now aged]
    cases readable : settings.label? now element with
    | none => rw [settings.relabel_of_none now readable, aged]
    | some label =>
      rw [settings.relabel_of_some now readable]
      exact Element.isAged_of_finest? (Element.finest?_of_labelled rfl)

@[simp] theorem refresh_refresh (element : Element) :
    settings.refresh now AgeBucket.table (settings.refresh earlier AgeBucket.table element) =
      settings.refresh now AgeBucket.table element := by
  have kept := settings.isAged_refresh earlier element
  cases aged : element.isAged with
  | false => rw [settings.refresh_of_outside earlier aged]
  | true =>
    rw [aged] at kept
    rw [settings.refresh_of_aged now kept, settings.refresh_of_aged now aged,
      settings.refresh_of_aged earlier aged, relabel_relabel]

def isStale (element : Element) : Bool :=
  settings.isTextStale now element || settings.isClassStale now element

@[simp] theorem isStale_relabel (element : Element) :
    settings.isStale now (settings.relabel now element) = false := by
  simp [isStale]

theorem level_of_timestampOf {document : Document} {handle : Handle} {event : Event}
    (failed : settings.timestampOf document handle = .error event) : event.level = .debug := by
  unfold timestampOf at failed
  dsimp only at failed
  split at failed
  · cases failed
    rfl
  · split at failed
    · cases failed
    · cases failed
      rfl

end AgeSettings

@[ext] theorem Document.ext {first second : Document} (root : first.root = second.root)
    (elements : first.elements = second.elements) (texts : first.textWrites = second.textWrites)
    (classes : first.classWrites = second.classWrites) : first = second := by
  cases first
  cases second
  congr

theorem Document.showAge_snd_of_found {document : Document} {handle : Handle} {element : Element}
    (found : document.element? handle = some element) (age : UInt64) :
    (document.showAge handle age).2 =
      (element.text != (AgeLabel.ofAge age).text ||
        element.className != (AgeLabel.ofAge age).className) := by
  obtain ⟨inside, _⟩ := List.getElem?_eq_some_iff.mp found
  unfold showAge
  dsimp only
  -- Writing the text first does not change the class that is looked at next.
  rw [setText_of_stale found, text_of_found found]
  simp [className, element?, inside]

namespace Sweep

variable (settings : AgeSettings) (now : Timestamp)

theorem visit_of_none {sweep : Sweep} {handle : Handle}
    (unreadable : (sweep.document.element? handle).bind settings.moment? = none) :
    ∃ event, event.level = .debug ∧
      visit settings now sweep handle = { sweep with log := sweep.log ++ [event] } := by
  obtain ⟨event, failed⟩ := settings.timestampOf_eq_error unreadable
  exact ⟨event, settings.level_of_timestampOf failed, by simp [visit, failed]⟩

theorem updated_visit_of_moment {sweep : Sweep} {handle : Handle} {element : Element}
    {timestamp : Timestamp} (found : sweep.document.element? handle = some element)
    (readable : settings.moment? element = some timestamp) :
    (visit settings now sweep handle).updated =
      sweep.updated + if settings.isStale now element then 1 else 0 := by
  have label : settings.label? now element = some (AgeLabel.ofAge (timestamp.age now)) := by
    simp [AgeSettings.label?, readable]
  simp only [visit, settings.timestampOf_of_moment found readable, Document.showAge_snd_of_found found,
    AgeSettings.isStale, AgeSettings.isTextStale, AgeSettings.isClassStale,
    settings.relabel_of_some now label, bne_comm]

/-- No visit changes the sum of the elements that were updated and of those that are out of date. -/
theorem updated_visit (sweep : Sweep) (handle : Handle) :
    (visit settings now sweep handle).updated +
        (visit settings now sweep handle).document.elements.countP (settings.isStale now) =
      sweep.updated + sweep.document.elements.countP (settings.isStale now) := by
  cases readable : (sweep.document.element? handle).bind settings.moment? with
  | none =>
    obtain ⟨event, _, visited⟩ := visit_of_none settings now readable
    rw [visited]
  | some timestamp =>
    obtain ⟨element, found, moment⟩ := Option.bind_eq_some_iff.mp readable
    have label : settings.label? now element = some (AgeLabel.ofAge (timestamp.age now)) := by
      simp [AgeSettings.label?, moment]
    have settled := countP_set_settled found (settings.isStale_relabel now element)
    rw [updated_visit_of_moment settings now found moment,
      document_visit_of_label settings now found label]
    dsimp only
    omega

theorem updated_foldl_visit (handles : List Handle) (sweep : Sweep) :
    (handles.foldl (visit settings now) sweep).updated +
        (handles.foldl (visit settings now) sweep).document.elements.countP (settings.isStale now) =
      sweep.updated + sweep.document.elements.countP (settings.isStale now) := by
  induction handles generalizing sweep with
  | nil => rfl
  | cons handle rest ih => rw [List.foldl_cons, ih, updated_visit]

theorem updated_visitBucket (sweep : Sweep) (bucket : AgeBucket) :
    (visitBucket settings now sweep bucket).updated +
        (visitBucket settings now sweep bucket).document.elements.countP (settings.isStale now) =
      sweep.updated + sweep.document.elements.countP (settings.isStale now) := by
  unfold visitBucket
  split
  · rfl
  · exact updated_foldl_visit settings now _ { sweep with delay := min sweep.delay bucket.refresh }

theorem updated_foldl_visitBucket (buckets : List AgeBucket) (sweep : Sweep) :
    (buckets.foldl (visitBucket settings now) sweep).updated +
        (buckets.foldl (visitBucket settings now) sweep).document.elements.countP
          (settings.isStale now) =
      sweep.updated + sweep.document.elements.countP (settings.isStale now) := by
  induction buckets generalizing sweep with
  | nil => rfl
  | cons bucket rest ih => rw [List.foldl_cons, ih, updated_visitBucket]

theorem updated_run (document : Document) :
    (run settings now document).updated =
      document.elements.countP fun element => element.isAged && settings.isStale now element := by
  have whole : (run settings now document).updated =
      (AgeBucket.table.foldl (visitBucket settings now) { document }).updated := by
    unfold run
    generalize AgeBucket.table.foldl (visitBucket settings now) { document } = swept
    rfl
  -- Nothing is updated before the first visit, and nothing that is visited is out of date after the last.
  have account := updated_foldl_visitBucket settings now AgeBucket.table { document }
  rw [← whole, ← document_run, elements_run] at account
  have due := countP_add_countP_refresh settings now (settings.isStale_relabel now) document.elements
  dsimp only at account
  omega

theorem debug_of_mem_log_visit {sweep : Sweep} (notes : ∀ event ∈ sweep.log, event.level = .debug)
    (handle : Handle) : ∀ event ∈ (visit settings now sweep handle).log, event.level = .debug := by
  unfold visit
  split
  · rename_i note failed
    intro event member
    rcases List.mem_append.mp member with earlier | last
    · exact notes event earlier
    · obtain rfl := List.mem_singleton.mp last
      exact settings.level_of_timestampOf failed
  · exact notes

theorem debug_of_mem_log_foldl_visit (handles : List Handle) {sweep : Sweep}
    (notes : ∀ event ∈ sweep.log, event.level = .debug) :
    ∀ event ∈ (handles.foldl (visit settings now) sweep).log, event.level = .debug := by
  induction handles generalizing sweep with
  | nil => exact notes
  | cons handle rest ih => exact ih (debug_of_mem_log_visit settings now notes handle)

theorem debug_of_mem_log_visitBucket {sweep : Sweep} (notes : ∀ event ∈ sweep.log, event.level = .debug)
    (bucket : AgeBucket) :
    ∀ event ∈ (visitBucket settings now sweep bucket).log, event.level = .debug := by
  unfold visitBucket
  split
  · exact notes
  · exact debug_of_mem_log_foldl_visit settings now _ notes

theorem debug_of_mem_log_foldl_visitBucket (buckets : List AgeBucket) {sweep : Sweep}
    (notes : ∀ event ∈ sweep.log, event.level = .debug) :
    ∀ event ∈ (buckets.foldl (visitBucket settings now) sweep).log, event.level = .debug := by
  induction buckets generalizing sweep with
  | nil => exact notes
  | cons bucket rest ih => exact ih (debug_of_mem_log_visitBucket settings now notes bucket)

/-- A sweep is traced once, by its counts; all else that it reports is of a lower rank. -/
theorem trace_run (document : Document) :
    (run settings now document).log.filter (fun event => event.level == .trace) =
      [.sweepDone (run settings now document).seen (run settings now document).updated
        (run settings now document).delay] := by
  have silent : ∀ event ∈ ({ document } : Sweep).log, event.level = .debug := List.forall_mem_nil _
  have notes := debug_of_mem_log_foldl_visitBucket settings now AgeBucket.table silent
  unfold run
  generalize AgeBucket.table.foldl (visitBucket settings now) { document } = swept at notes ⊢
  have untraced : swept.log.filter (fun event => event.level == .trace) = [] := by
    apply List.filter_eq_nil_iff.mpr
    intro event member
    rw [notes event member]
    decide
  dsimp only
  rw [List.filter_append, untraced]
  rfl

/-! ## Runs of sweeps -/

def runs (settings : AgeSettings) (times : List Timestamp) (document : Document) : Document :=
  times.foldl (fun document now => (run settings now document).document) document

theorem runs_cons (times : List Timestamp) (document : Document) :
    runs settings (now :: times) document = runs settings times (run settings now document).document :=
  List.foldl_cons ..

theorem runs_concat (times : List Timestamp) (document : Document) :
    runs settings (times ++ [now]) document = (run settings now (runs settings times document)).document := by
  rw [runs, List.foldl_append, List.foldl_cons, List.foldl_nil, ← runs]

theorem root_runs (times : List Timestamp) (document : Document) :
    (runs settings times document).root = document.root := by
  induction times generalizing document with
  | nil => rfl
  | cons time rest ih => rw [runs_cons, ih, root_run]

theorem elements_run_runs (times : List Timestamp) (document : Document) :
    (run settings now (runs settings times document)).document.elements =
      (run settings now document).document.elements := by
  induction times generalizing document with
  | nil => rw [runs, List.foldl_nil]
  | cons time rest ih =>
    rw [runs_cons, ih, elements_run, elements_run, elements_run, List.map_map]
    apply List.map_congr_left
    intro element _
    rw [Function.comp_apply, AgeSettings.refresh_refresh]

theorem countP_run_of_settled {counts : Element → Bool}
    (settled : ∀ element, counts (settings.relabel now element) = false) (document : Document) :
    (run settings now document).document.elements.countP
      (fun element => element.isAged && counts element) = 0 := by
  rw [elements_run, List.countP_map, List.countP_eq_zero]
  intro element _
  dsimp only [Function.comp]
  rw [AgeSettings.isAged_refresh]
  cases aged : element.isAged with
  | false => exact Bool.false_ne_true
  | true => simp [settings.refresh_of_aged now aged, settled]

theorem document_run_run (document : Document) :
    (run settings now (run settings now document).document).document =
      (run settings now document).document := by
  apply Document.ext
  · exact root_run settings now _
  · have forgotten := elements_run_runs settings now [now] document
    rwa [runs, List.foldl_cons, List.foldl_nil] at forgotten
  · rw [textWrites_run, countP_run_of_settled settings now (settings.isTextStale_relabel now), Nat.add_zero]
  · rw [classWrites_run, countP_run_of_settled settings now (settings.isClassStale_relabel now),
      Nat.add_zero]

/-- A run of sweeps leaves each element as its last sweep alone would have left it, whatever the times
before it were; and one more sweep at the last time writes nothing and reports that it updated nothing. -/
theorem runs_forget_history (earlier : List Timestamp) (document : Document) :
    let swept := runs settings (earlier ++ [now]) document
    let again := run settings now swept
    swept.elements = (run settings now document).document.elements ∧ swept.root = document.root ∧
      again.document = swept ∧ again.updated = 0 ∧
      again.log.filter (fun event => event.level == .trace) = [.sweepDone again.seen 0 again.delay] := by
  have idle : (run settings now (runs settings (earlier ++ [now]) document)).updated = 0 := by
    rw [updated_run, runs_concat]
    exact countP_run_of_settled settings now (settings.isStale_relabel now) _
  have traced := trace_run settings now (runs settings (earlier ++ [now]) document)
  rw [idle] at traced
  refine ⟨?_, root_runs settings _ document, ?_, idle, traced⟩
  · rw [runs_concat, elements_run_runs]
  · rw [runs_concat]
    exact document_run_run settings now _

end Sweep

end PageUpkeep
