import PageUpkeep.Age.Sweep

/-! A sweep seen from one element.

A sweep asks six times for elements and moves them between the classes it asks for. Seen from one
element this comes to little: the first visit gives it the label of its age, and each later visit finds
that label already there. So a sweep over any list of buckets relabels exactly the elements that were in
one of them at the start, and writes once for each text and each class that was out of date.
-/

set_option autoImplicit false

namespace PageUpkeep

namespace Element

def isInOneOf (buckets : List AgeBucket) (element : Element) : Bool :=
  buckets.any fun bucket => element.hasClass bucket.className

/-- Whether an element is kept up to date by sweeps, provided that its timestamp can be read. -/
def isAged (element : Element) : Bool :=
  element.isInOneOf AgeBucket.table

end Element

namespace AgeSettings

def moment? (settings : AgeSettings) (element : Element) : Option Timestamp :=
  (element.attributes.get? settings.timestampAttribute).bind Timestamp.ofAttribute?

def label? (settings : AgeSettings) (now : Timestamp) (element : Element) : Option AgeLabel :=
  (settings.moment? element).map fun timestamp => AgeLabel.ofAge (timestamp.age now)

def relabel (settings : AgeSettings) (now : Timestamp) (element : Element) : Element :=
  match settings.label? now element with
  | none => element
  | some label => { element with text := label.text, className := label.className }

def refresh (settings : AgeSettings) (now : Timestamp) (buckets : List AgeBucket) (element : Element) :
    Element :=
  if element.isInOneOf buckets then settings.relabel now element else element

def isTextStale (settings : AgeSettings) (now : Timestamp) (element : Element) : Bool :=
  (settings.relabel now element).text != element.text

def isClassStale (settings : AgeSettings) (now : Timestamp) (element : Element) : Bool :=
  (settings.relabel now element).className != element.className

variable (settings : AgeSettings) (now : Timestamp)

@[simp] theorem relabel_attributes (element : Element) :
    (settings.relabel now element).attributes = element.attributes := by
  unfold relabel
  split <;> rfl

@[simp] theorem moment?_relabel (element : Element) :
    settings.moment? (settings.relabel now element) = settings.moment? element := by
  simp [moment?]

@[simp] theorem label?_relabel (earlier : Timestamp) (element : Element) :
    settings.label? now (settings.relabel earlier element) = settings.label? now element := by
  simp [label?]

theorem relabel_of_none {element : Element} (unreadable : settings.label? now element = none) :
    settings.relabel now element = element := by
  simp [relabel, unreadable]

theorem relabel_of_some {element : Element} {label : AgeLabel}
    (readable : settings.label? now element = some label) :
    settings.relabel now element =
      { element with text := label.text, className := label.className } := by
  simp [relabel, readable]

@[simp] theorem relabel_relabel (earlier : Timestamp) (element : Element) :
    settings.relabel now (settings.relabel earlier element) = settings.relabel now element := by
  -- The moment is no part of what a visit writes, so both visits read the same one.
  cases readable : settings.moment? element with
  | none => rw [settings.relabel_of_none earlier (by simp [label?, readable])]
  | some timestamp =>
    have old : settings.label? earlier element = some (AgeLabel.ofAge (timestamp.age earlier)) := by
      simp [label?, readable]
    have new : settings.label? now element = some (AgeLabel.ofAge (timestamp.age now)) := by
      simp [label?, readable]
    rw [settings.relabel_of_some now ((settings.label?_relabel now earlier element).trans new),
      settings.relabel_of_some now new, settings.relabel_of_some earlier old]

@[simp] theorem isTextStale_relabel (element : Element) :
    settings.isTextStale now (settings.relabel now element) = false := by
  simp [isTextStale]

@[simp] theorem isClassStale_relabel (element : Element) :
    settings.isClassStale now (settings.relabel now element) = false := by
  simp [isClassStale]

@[simp] theorem moment?_refresh (buckets : List AgeBucket) (element : Element) :
    settings.moment? (settings.refresh now buckets element) = settings.moment? element := by
  unfold refresh
  split
  · exact settings.moment?_relabel now element
  · rfl

theorem refresh_of_outside {buckets : List AgeBucket} {element : Element}
    (outside : element.isInOneOf buckets = false) : settings.refresh now buckets element = element := by
  simp [refresh, outside]

theorem refresh_of_readable {buckets : List AgeBucket} {element : Element} {timestamp : Timestamp}
    (inside : element.isInOneOf buckets = true) (readable : settings.moment? element = some timestamp) :
    settings.refresh now buckets element =
      { element with
        text := (AgeLabel.ofAge (timestamp.age now)).text
        className := (AgeLabel.ofAge (timestamp.age now)).className } := by
  rw [refresh, if_pos inside]
  exact settings.relabel_of_some now (by simp [label?, readable])

theorem foldl_refresh_relabel (buckets : List AgeBucket) (element : Element) :
    buckets.foldl (fun element bucket => settings.refresh now [bucket] element)
      (settings.relabel now element) = settings.relabel now element := by
  induction buckets with
  | nil => rfl
  | cons bucket rest ih =>
    have unmoved : settings.refresh now [bucket] (settings.relabel now element) =
        settings.relabel now element := by
      unfold refresh
      split
      · exact settings.relabel_relabel now now element
      · rfl
    rw [List.foldl_cons, unmoved, ih]

/-- Bucket after bucket comes to the same as all buckets at once: an element that an earlier bucket has
moved on to a later one is found as it should be. -/
theorem foldl_refresh (buckets : List AgeBucket) (element : Element) :
    buckets.foldl (fun element bucket => settings.refresh now [bucket] element) element =
      settings.refresh now buckets element := by
  induction buckets generalizing element with
  | nil => rfl
  | cons bucket rest ih =>
    rw [List.foldl_cons]
    by_cases member : element.hasClass bucket.className = true
    · have visited : settings.refresh now [bucket] element = settings.relabel now element := by
        simp [refresh, Element.isInOneOf, member]
      -- Whatever buckets it is found in from here on, it has its label already.
      rw [visited, settings.foldl_refresh_relabel now]
      simp [refresh, Element.isInOneOf, member]
    · have passed : settings.refresh now [bucket] element = element := by
        simp [refresh, Element.isInOneOf, member]
      rw [passed, ih]
      simp [refresh, Element.isInOneOf, member]

end AgeSettings

end PageUpkeep
