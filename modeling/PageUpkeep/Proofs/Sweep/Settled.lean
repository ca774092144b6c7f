import PageUpkeep.Proofs.Sweep.Pointwise

/-! Elements that show already what a sweep wants of them.

Such an element costs a sweep no write, at none of the visits that it makes to it. Since visits elsewhere leave
it alone it is met each time as it was, and what is written is what would be written without it.
-/

set_option autoImplicit false

namespace PageUpkeep

namespace AgeSettings

variable (settings : AgeSettings) (now : Timestamp)

def IsSettled (element : Element) : Prop :=
  settings.relabel now element = element

variable {settings now} {element : Element}

theorem IsSettled.refresh (settled : settings.IsSettled now element) (buckets : List AgeBucket) :
    settings.refresh now buckets element = element := by
  unfold AgeSettings.refresh
  split
  · exact settled
  · rfl

theorem IsSettled.isTextStale (settled : settings.IsSettled now element) :
    settings.isTextStale now element = false := by
  rw [AgeSettings.isTextStale, settled, bne_self_eq_false]

theorem IsSettled.isClassStale (settled : settings.IsSettled now element) :
    settings.isClassStale now element = false := by
  rw [AgeSettings.isClassStale, settled, bne_self_eq_false]

end AgeSettings

def Document.without (leftOut : Element → Bool) (document : Document) : Document :=
  { document with elements := document.elements.filter fun element => !leftOut element }

namespace Sweep

variable (settings : AgeSettings) (now : Timestamp)

/-- The visits that a sweep over a document makes, each with what it finds: some of the buckets are done, and
of the next one some elements. -/
def Visits (document : Document) (sweep : Sweep) (handle : Handle) : Prop :=
  ∃ done bucket later visited rest,
    let turn := done.foldl (visitBucket settings now) { document }
    AgeBucket.table = done ++ bucket :: later ∧
      turn.document.elementsByClass bucket.className = visited ++ handle :: rest ∧
      sweep = visited.foldl (visit settings now) { turn with delay := min turn.delay bucket.refresh }

variable {settings now} {document : Document} {sweep : Sweep} {handle other : Handle} {element : Element}

theorem element?_of_visits (visits : Visits settings now document sweep other)
    (found : document.element? handle = some element) (settled : settings.IsSettled now element) :
    sweep.document.element? handle = some element := by
  obtain ⟨done, bucket, _, visited, _, _, _, rfl⟩ := visits
  have turn : (done.foldl (visitBucket settings now) { document }).document.element? handle =
      some element := by
    rw [Document.element?, elements_foldl_visitBucket, List.getElem?_map]
    exact (congrArg (Option.map _) found).trans (congrArg some (settled.refresh done))
  rw [element?_foldl_visit]
  dsimp only
  rw [turn]
  split
  · exact congrArg some settled
  · rfl

theorem document_visit_of_settled (found : sweep.document.element? handle = some element)
    (settled : settings.IsSettled now element) :
    (visit settings now sweep handle).document = sweep.document := by
  cases readable : settings.label? now element with
  | none => exact document_visit_of_none settings now (by simp [found, readable])
  | some label =>
    have same : settings.relabel now element = element := settled
    rw [document_visit_of_label settings now found readable, same, Document.set_same found,
      settled.isTextStale, settled.isClassStale]
    rfl

theorem document_visit_of_visits (visits : Visits settings now document sweep handle)
    (found : document.element? handle = some element) (settled : settings.IsSettled now element) :
    (visit settings now sweep handle).document = sweep.document :=
  document_visit_of_settled (element?_of_visits visits found settled) settled

theorem element?_run_of_settled (found : document.element? handle = some element)
    (settled : settings.IsSettled now element) :
    (run settings now document).document.element? handle = some element := by
  rw [element?_run, found]
  exact congrArg some (settled.refresh AgeBucket.table)

theorem countP_without {counts leftOut : Element → Bool}
    (idle : ∀ element ∈ document.elements, leftOut element = true → counts element = false) :
    (document.without leftOut).elements.countP counts = document.elements.countP counts := by
  rw [Document.without, List.countP_filter]
  apply List.countP_congr
  intro element member
  cases left : leftOut element with
  | false => simp
  | true => simp [idle element member left]

variable {leftOut : Element → Bool}
  (settled : ∀ element ∈ document.elements, leftOut element = true → settings.IsSettled now element)

include settled

theorem textWrites_run_without :
    (run settings now (document.without leftOut)).document.textWrites =
      (run settings now document).document.textWrites := by
  have idle : ∀ element ∈ document.elements, leftOut element = true →
      (element.isAged && settings.isTextStale now element) = false := by
    intro element member left
    rw [(settled element member left).isTextStale, Bool.and_false]
  rw [textWrites_run, textWrites_run, countP_without idle]
  rfl

theorem classWrites_run_without :
    (run settings now (document.without leftOut)).document.classWrites =
      (run settings now document).document.classWrites := by
  have idle : ∀ element ∈ document.elements, leftOut element = true →
      (element.isAged && settings.isClassStale now element) = false := by
    intro element member left
    rw [(settled element member left).isClassStale, Bool.and_false]
  rw [classWrites_run, classWrites_run, countP_without idle]
  rfl

end Sweep

end PageUpkeep
