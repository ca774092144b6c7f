import PageUpkeep.Age.Sweep
import PageUpkeep.Store

/-! A page: a document and the store that remembers the preferred theme.

The store may fail at any call. A failed read means that nothing is preferred, and a failed write
leaves the document themed all the same; either is reported and never handed on. Settings are given
to every operation, so that several upkeepers with settings of their own can share one page.
-/

set_option autoImplicit false

namespace PageUpkeep

structure Page where
  store : Store
  document : Document := .empty
  /-- What was reported so far, oldest first. -/
  log : List Event := []
  deriving DecidableEq

namespace ThemeSettings

/-- The theme a store remembers, and what there is to report about the read. A store remembers no other
theme than light and dark; whatever else stands under the key counts for nothing. -/
def remembered (settings : ThemeSettings) (store : Store) : Option Theme × List Event :=
  let key := settings.storageKey
  match store.get key with
  | .error error => (none, [.themeUnreadable key error])
  | .ok none => (none, [])
  | .ok (some value) =>
    match Theme.ofName value with
    | .ok theme =>
      if theme.isPersisted then (some theme, []) else (none, [.themeUnrecognized key value])
    | .error _ => (none, [.themeUnrecognized key value])

def edit (settings : ThemeSettings) (theme : Theme) : Edit :=
  if theme.isPersisted then .set settings.storageKey theme.name else .remove settings.storageKey

def mark (settings : ThemeSettings) (theme : Theme) (document : Document) : Document :=
  if theme.isPersisted then document.setRootAttribute settings.rootAttribute theme.name
  else document.removeRootAttribute settings.rootAttribute

def refusal (settings : ThemeSettings) (theme : Theme) (error : StoreError) : Event :=
  if theme.isPersisted then .themeNotPersisted settings.storageKey theme error
  else .themeNotCleared settings.storageKey error

end ThemeSettings

namespace Page

def report (page : Page) (events : List Event) : Page :=
  { page with log := page.log ++ events }

def storedTheme (page : Page) (settings : ThemeSettings) : Page × Option Theme :=
  let (theme, events) := settings.remembered page.store
  (page.report events, theme)

def currentTheme (page : Page) (settings : ThemeSettings) : Page × Theme :=
  (page.storedTheme settings).map id fun theme => theme.getD .auto

def updateToggle (page : Page) (settings : ThemeSettings) : Page :=
  match page.document.elementById settings.toggleId with
  | none => page
  | some toggle =>
    let (read, theme) := page.currentTheme settings
    { read with document := read.document.setText toggle theme.name }

def remember (page : Page) (settings : ThemeSettings) (theme : Theme) : Page :=
  match page.store.edit (settings.edit theme) with
  | (store, .ok ()) => { page with store }
  | (store, .error error) => { page with store }.report [settings.refusal theme error]

/-- Marks the root, has the theme remembered, and shows in the toggle what is remembered then. -/
def setTheme (page : Page) (settings : ThemeSettings) (theme : Theme) : Page :=
  ({ page with document := settings.mark theme page.document }.remember settings theme).updateToggle
    settings

def cycleTheme (page : Page) (settings : ThemeSettings) : Page × Theme :=
  let (read, theme) := page.currentTheme settings
  (read.setTheme settings theme.next, theme.next)

/-- Marks the root with the remembered theme, if there is one. The toggle is left alone, for it may not
be there yet. -/
def initTheme (page : Page) (settings : ThemeSettings) : Page :=
  match page.storedTheme settings with
  | (read, some theme) => { read with document := settings.mark theme read.document }
  | (read, none) => read

/-- The mode the page is shown in, where `ask` asks the system. -/
def colorMode {m : Type → Type} [Monad m] (page : Page) (settings : ThemeSettings) (ask : m ColorMode) :
    m (Page × ColorMode) :=
  let (read, theme) := page.currentTheme settings
  return (read, ← theme.resolve ask)

def tick (page : Page) (settings : AgeSettings) (now : Timestamp) : Page × UInt64 :=
  let swept := Sweep.run settings now page.document
  ({ page with document := swept.document }.report swept.log, swept.delay)

/-- Before the page is first drawn: it starts in the remembered theme. -/
def scriptLoad (page : Page) (settings : Settings) : Page :=
  page.initTheme settings.theme

/-- When all elements are there: the toggle is set and the first sweep runs. -/
def domReady (page : Page) (settings : Settings) (now : Timestamp) : Page × UInt64 :=
  let (swept, delay) := (page.updateToggle settings.theme).tick settings.age now
  (swept.report [.pageReady delay], delay)

end Page

end PageUpkeep
