import PageUpkeep.Proofs.Sweep.Relabel

/-! What a sweep leaves behind, as one map over the elements, and what it cost.

Writes are counted by an account that no visit changes: the writes so far together with the elements
that are still out of date. Nobody is out of date after a visit, so the account can only be settled by
one write each.
-/

set_option autoImplicit false

namespace PageUpkeep

namespace Document

variable {document : Document} {handle : Handle} {element : Element}

theorem text_of_found (found : document.element? handle = some element) :
    document.text handle = element.text := by
  simp [text, found]

theorem className_of_found (found : document.element? handle = some element) :
    document.className handle = element.className := by
  simp [className, found]

theorem set_same (found : document.element? handle = some element) :
    document.elements.set handle element = document.elements := by
  obtain ⟨inside, same⟩ := List.getElem?_eq_some_iff.mp found
  rw [← same]
  exact List.set_getElem_self inside

theorem update_of_found (found : document.element? handle = some element) (change : Element → Element) :
    document.update handle change =
      { document with elements := document.elements.set handle (change element) } := by
  have : Inhabited Element := ⟨element⟩
  have stored : document.elements[handle]? = some element := found
  unfold update
  rw [List.modify_eq_set, stored]
  rfl

theorem countOf_of_found (found : document.element? handle = some element) :
    document.countOf handle = 1 := by
  simp [countOf, found]

theorem setText_of_stale (found : document.element? handle = some element) (text : String) :
    (if document.text handle != text then document.setText handle text else document) =
      { document with
        elements := document.elements.set handle { element with text }
        textWrites := document.textWrites + if element.text != text then 1 else 0 } := by
  rw [text_of_found found]
  by_cases current : element.text = text
  · subst current
    simp [set_same found]
  · simp [setText, current, update_of_found found, countOf_of_found found]

theorem setClassName_of_stale (found : document.element? handle = some element) (className : String) :
    (if document.className handle != className then document.setClassName handle className
      else document) =
      { document with
        elements := document.elements.set handle { element with className }
        classWrites := document.classWrites + if element.className != className then 1 else 0 } := by
  rw [className_of_found found]
  by_cases current : element.className = className
  · subst current
    simp [set_same found]
  · simp [setClassName, current, update_of_found found, countOf_of_found found]

theorem showAge_of_found (found : document.element? handle = some element) (age : UInt64) :
    (document.showAge handle age).1 =
      { document with
        elements := document.elements.set handle
          { element with
            text := (AgeLabel.ofAge age).text, className := (AgeLabel.ofAge age).className }
        textWrites := document.textWrites + if element.text != (AgeLabel.ofAge age).text then 1 else 0
        classWrites := document.classWrites +
          if element.className != (AgeLabel.ofAge age).className then 1 else 0 } := by
  obtain ⟨inside, _⟩ := List.getElem?_eq_some_iff.mp found
  have written : ∀ count : Nat,
      ({ document with
          elements := document.elements.set handle
            { element with text := (AgeLabel.ofAge age).text }
          textWrites := count } : Document).element? handle =
        some { element with text := (AgeLabel.ofAge age).text } := by
    intro count
    simp [element?, inside]
  unfold showAge
  dsimp only
  rw [setText_of_stale found, setClassName_of_stale (written _)]
  simp

end Document

namespace AgeSettings

variable (settings : AgeSettings)

theorem timestampOf_of_moment {document : Document} {handle : Handle} {element : Element}
    {timestamp : Timestamp} (found : document.element? handle = some element)
    (readable : settings.moment? element = some timestamp) :
    settings.timestampOf document handle = .ok timestamp := by
  obtain ⟨value, present, meant⟩ := Option.bind_eq_some_iff.mp readable
  simp [timestampOf, Document.attributeOf, found, present, meant]

theorem timestampOf_eq_error {document : Document} {handle : Handle}
    (unreadable : (document.element? handle).bind settings.moment? = none) :
    ∃ event, settings.timestampOf document handle = .error event := by
  unfold timestampOf
  dsimp only
  cases present : document.attributeOf handle settings.timestampAttribute with
  | none => exact ⟨_, rfl⟩
  | some value =>
    obtain ⟨element, found, stored⟩ := Option.bind_eq_some_iff.mp present
    have meaningless : Timestamp.ofAttribute? value = none := by
      simpa [found, moment?, stored] using unreadable
    exact ⟨.labelWithInvalidTimestamp settings.timestampAttribute value, by simp [meaningless]⟩

end AgeSettings

namespace Sweep

variable (settings : AgeSettings) (now : Timestamp)

/-- A document before a visit and after it, as far as no visit matters: the root, and the texts and
classes written so far together with those that are due. -/
structure SameAccount (first second : Document) : Prop where
  root : second.root = first.root
  texts : second.textWrites + second.elements.countP (settings.isTextStale now) =
    first.textWrites + first.elements.countP (settings.isTextStale now)
  classes : second.classWrites + second.elements.countP (settings.isClassStale now) =
    first.classWrites + first.elements.countP (settings.isClassStale now)

theorem SameAccount.refl (document : Document) : SameAccount settings now document document :=
  ⟨rfl, rfl, rfl⟩

variable {settings now}

theorem SameAccount.trans {first second third : Document} (left : SameAccount settings now first second)
    (right : SameAccount settings now second third) : SameAccount settings now first third :=
  ⟨right.root.trans left.root, right.texts.trans left.texts, right.classes.trans left.classes⟩

variable (settings now)

theorem countP_set_settled {α : Type} {counts : α → Bool} {items : List α} {place : Nat} {old new : α}
    (found : items[place]? = some old) (settled : counts new = false) :
    (items.set place new).countP counts + (if counts old then 1 else 0) = items.countP counts := by
  obtain ⟨inside, same⟩ := List.getElem?_eq_some_iff.mp found
  obtain ⟨front, back, split, _, replaced⟩ := @List.exists_of_set _ _ new _ inside
  rw [replaced, split, same]
  simp [List.countP_cons, settled, Nat.add_assoc]

theorem document_visit_of_label {sweep : Sweep} {handle : Handle} {element : Element} {label : AgeLabel}
    (found : sweep.document.element? handle = some element)
    (readable : settings.label? now element = some label) :
    (visit settings now sweep handle).document =
      { sweep.document with
        elements := sweep.document.elements.set handle (settings.relabel now element)
        textWrites := sweep.document.textWrites +
          if settings.isTextStale now element then 1 else 0
        classWrites := sweep.document.classWrites +
          if settings.isClassStale now element then 1 else 0 } := by
  obtain ⟨timestamp, moment, rfl⟩ := Option.map_eq_some_iff.mp readable
  simp only [visit, settings.timestampOf_of_moment found moment, Document.showAge_of_found found,
    AgeSettings.isTextStale, AgeSettings.isClassStale, settings.relabel_of_some now readable, bne_comm]

theorem document_visit_of_none {sweep : Sweep} {handle : Handle}
    (unreadable : (sweep.document.element? handle).bind (settings.label? now) = none) :
    (visit settings now sweep handle).document = sweep.document := by
  have silent : (sweep.document.element? handle).bind settings.moment? = none := by
    cases found : sweep.document.element? handle with
    | none => rfl
    | some element => simpa [found, AgeSettings.label?] using unreadable
  obtain ⟨event, failed⟩ := settings.timestampOf_eq_error silent
  simp [visit, failed]

theorem element?_visit (sweep : Sweep) (handle other : Handle) :
    (visit settings now sweep handle).document.element? other =
      if other = handle then (sweep.document.element? other).map (settings.relabel now)
      else sweep.document.element? other := by
  cases readable : (sweep.document.element? handle).bind (settings.label? now) with
  | none =>
    rw [document_visit_of_none settings now readable]
    split
    · rename_i same
      subst same
      cases found : sweep.document.element? other with
      | none => rfl
      | some element =>
        have unreadable : settings.label? now element = none := by simpa [found] using readable
        simp [settings.relabel_of_none now unreadable]
    · rfl
  | some label =>
    obtain ⟨element, found, labelled⟩ := Option.bind_eq_some_iff.mp readable
    obtain ⟨inside, _⟩ := List.getElem?_eq_some_iff.mp found
    rw [document_visit_of_label settings now found labelled]
    by_cases same : other = handle
    · subst same
      simp [Document.element?, inside] at found ⊢
      exact congrArg _ found.symm
    · simp [Document.element?, same, List.getElem?_set_ne (Ne.symm same)]

theorem sameAccount_visit (sweep : Sweep) (handle : Handle) :
    SameAccount settings now sweep.document (visit settings now sweep handle).document := by
  cases readable : (sweep.document.element? handle).bind (settings.label? now) with
  | none =>
    rw [document_visit_of_none settings now readable]
    exact .refl settings now _
  | some label =>
    obtain ⟨element, found, labelled⟩ := Option.bind_eq_some_iff.mp readable
    have texts := countP_set_settled found (settings.isTextStale_relabel now element)
    have classes := countP_set_settled found (settings.isClassStale_relabel now element)
    rw [document_visit_of_label settings now found labelled]
    -- What is written once more is due once less.
    refine ⟨rfl, ?_, ?_⟩
    · dsimp only
      omega
    · dsimp only
      omega

theorem element?_foldl_visit (handles : List Handle) (sweep : Sweep) (other : Handle) :
    (handles.foldl (visit settings now) sweep).document.element? other =
      if other ∈ handles then (sweep.document.element? other).map (settings.relabel now)
      else sweep.document.element? other := by
  induction handles generalizing sweep with
  | nil => simp
  | cons handle rest ih =>
    rw [List.foldl_cons, ih, element?_visit]
    by_cases first : other = handle
    · -- Met here and perhaps again later, which changes nothing more.
      cases found : sweep.document.element? other <;> simp [first]
    · simp [first]

theorem sameAccount_foldl_visit (handles : List Handle) (sweep : Sweep) :
    SameAccount settings now sweep.document (handles.foldl (visit settings now) sweep).document := by
  induction handles generalizing sweep with
  | nil => exact .refl settings now _
  | cons handle rest ih => exact (sameAccount_visit settings now sweep handle).trans (ih _)

theorem element?_visitBucket (sweep : Sweep) (bucket : AgeBucket) (other : Handle) :
    (visitBucket settings now sweep bucket).document.element? other =
      (sweep.document.element? other).map (settings.refresh now [bucket]) := by
  have visited : (visitBucket settings now sweep bucket).document.element? other =
      if other ∈ sweep.document.elementsByClass bucket.className then
        (sweep.document.element? other).map (settings.relabel now)
      else sweep.document.element? other := by
    unfold visitBucket
    split
    · rename_i empty
      simp [empty]
    · exact element?_foldl_visit settings now _ _ other
  -- The list of the bucket was made before its visits, so membership is asked of the old element.
  rw [visited]
  cases found : sweep.document.element? other with
  | none => simp
  | some element =>
    by_cases member : element.hasClass bucket.className = true
    · simp [Document.mem_elementsByClass, found, AgeSettings.refresh, Element.isInOneOf, member]
    · simp [Document.mem_elementsByClass, found, AgeSettings.refresh, Element.isInOneOf, member]

theorem elements_visitBucket (sweep : Sweep) (bucket : AgeBucket) :
    (visitBucket settings now sweep bucket).document.elements =
      sweep.document.elements.map (settings.refresh now [bucket]) := by
  apply List.ext_getElem?
  intro handle
  rw [List.getElem?_map]
  exact element?_visitBucket settings now sweep bucket handle

theorem sameAccount_visitBucket (sweep : Sweep) (bucket : AgeBucket) :
    SameAccount settings now sweep.document (visitBucket settings now sweep bucket).document := by
  unfold visitBucket
  split
  · exact .refl settings now _
  · exact sameAccount_foldl_visit settings now _ { sweep with delay := min sweep.delay bucket.refresh }

theorem elements_foldl_visitBucket (buckets : List AgeBucket) (sweep : Sweep) :
    (buckets.foldl (visitBucket settings now) sweep).document.elements =
      sweep.document.elements.map (settings.refresh now buckets) := by
  have folded : (buckets.foldl (visitBucket settings now) sweep).document.elements =
      sweep.document.elements.map fun element =>
        buckets.foldl (fun element bucket => settings.refresh now [bucket] element) element := by
    induction buckets generalizing sweep with
    | nil => simp
    | cons bucket rest ih =>
      rw [List.foldl_cons, ih, elements_visitBucket, List.map_map]
      rfl
  -- One map for each bucket, each over what the one before left, is one map for all of them.
  simpa only [settings.foldl_refresh now] using folded

theorem sameAccount_foldl_visitBucket (buckets : List AgeBucket) (sweep : Sweep) :
    SameAccount settings now sweep.document
      (buckets.foldl (visitBucket settings now) sweep).document := by
  induction buckets generalizing sweep with
  | nil => exact .refl settings now _
  | cons bucket rest ih => exact (sameAccount_visitBucket settings now sweep bucket).trans (ih _)

variable (document : Document)

theorem document_run :
    (run settings now document).document =
      (AgeBucket.table.foldl (visitBucket settings now) { document }).document := by
  unfold run
  generalize AgeBucket.table.foldl (visitBucket settings now) { document } = swept
  rfl

theorem elements_run :
    (run settings now document).document.elements =
      document.elements.map (settings.refresh now AgeBucket.table) := by
  rw [document_run]
  exact elements_foldl_visitBucket settings now _ _

theorem sameAccount_run :
    SameAccount settings now document (run settings now document).document := by
  rw [document_run]
  exact sameAccount_foldl_visitBucket settings now AgeBucket.table { document }

@[simp] theorem root_run : (run settings now document).document.root = document.root :=
  (sameAccount_run settings now document).root

theorem element?_run (handle : Handle) :
    (run settings now document).document.element? handle =
      (document.element? handle).map (settings.refresh now AgeBucket.table) := by
  unfold Document.element?
  rw [elements_run, List.getElem?_map]

/-- Elements outside all buckets may be out of date before and after; the others are not afterwards. So
what is out of date among these is what was written. -/
theorem countP_add_countP_refresh {counts : Element → Bool}
    (settled : ∀ element, counts (settings.relabel now element) = false) (elements : List Element) :
    elements.countP counts =
      elements.countP (fun element => element.isAged && counts element) +
        (elements.map (settings.refresh now AgeBucket.table)).countP counts := by
  induction elements with
  | nil => rfl
  | cons element rest ih =>
    rw [List.map_cons, List.countP_cons, List.countP_cons, List.countP_cons, ih]
    cases aged : element.isAged with
    | true =>
      have kept : counts (settings.refresh now AgeBucket.table element) = false := by
        have inside : element.isInOneOf AgeBucket.table = true := aged
        simp [AgeSettings.refresh, inside, settled]
      simp [kept]
      omega
    | false =>
      have kept : settings.refresh now AgeBucket.table element = element := by
        have outside : element.isInOneOf AgeBucket.table = false := aged
        simp [AgeSettings.refresh, outside]
      simp [kept]
      omega

theorem textWrites_run :
    (run settings now document).document.textWrites =
      document.textWrites + document.elements.countP fun element =>
        element.isAged && settings.isTextStale now element := by
  -- The account is the same before and after, so the writes are what is no longer due.
  have account := (sameAccount_run settings now document).texts
  rw [elements_run] at account
  have due := countP_add_countP_refresh settings now (settings.isTextStale_relabel now) document.elements
  omega

theorem classWrites_run :
    (run settings now document).document.classWrites =
      document.classWrites + document.elements.countP fun element =>
        element.isAged && settings.isClassStale now element := by
  have account := (sameAccount_run settings now document).classes
  rw [elements_run] at account
  have due := countP_add_countP_refresh settings now (settings.isClassStale_relabel now) document.elements
  omega

end Sweep

end PageUpkeep
