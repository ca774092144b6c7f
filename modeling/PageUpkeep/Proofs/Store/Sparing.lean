import PageUpkeep.Proofs.Store.Entries
import PageUpkeep.Proofs.Store.Refinement

/-! What a store in a file leaves alone.

No call changes another file than the store's own. A call that fails leaves this one too as it was, unless it was
broken off while the file was written; and a call that has nothing to write leaves the whole tree as it was. A file
that is no table makes every call fail before anything is written, and so it stays.
-/

set_option autoImplicit false

namespace PageUpkeep.FileStore

variable {store after : FileStore} {edit : Edit} {table : Table} {error : StoreError} {key : String}
  {answer : Except StoreError Unit}

theorem addsAbove_of_refused (refused : store.Refused after) :
    store.files.AddsAbove store.path after.files := by
  cases refused with
  | directories found failed =>
    have adds := FileTree.addsAbove_makeDirectories found store.files
    rw [failed] at adds
    exact adds
  | file made _ => exact addsAbove_of_made made

theorem refused_or_put (tried : store.save table = (after, answer)) :
    store.Refused after ∨
      ∃ grown place content, store.makeParents = (grown, .ok ()) ∧ grown.Writable store.path place ∧
        after = ⟨store.path, grown.put place (.file content)⟩ := by
  rcases save_cases tried with ⟨grown, place, made, writable, _, rfl, _⟩ | ⟨_, _, cut | refused⟩
  · exact .inr ⟨grown, place, _, made, writable, rfl⟩
  · obtain @⟨grown, place, room, fault, made, writable, _, _⟩ := cut
    exact .inr ⟨grown, place, _, made, writable, rfl⟩
  · exact .inl refused

theorem find?_file_of_edit (changed : store.edit edit = (after, answer)) {place : Place}
    (elsewhere : after.files.locate store.path ≠ .ok place) (content : ByteArray) :
    after.files.find? place = some (.file content) ↔ store.files.find? place = some (.file content) := by
  rcases edit_cases changed with ⟨_, _, rfl, _⟩ | ⟨table, _, ⟨_, rfl, _⟩ | ⟨_, saved⟩⟩
  · rfl
  · rfl
  · rcases refused_or_put saved with refused | ⟨grown, written, bytes, made, writable, rfl⟩
    · exact (addsAbove_of_refused refused).find?_file_iff place content
    · have other : place ≠ written := by
        intro same
        exact elsewhere (same ▸ (writable.put bytes).located)
      rw [FileTree.find?_put_of_ne other, (addsAbove_of_made made).find?_file_iff]

theorem makeParents_of_removal (loaded : store.load = .ok table)
    (busy : (Edit.remove key).isIdle table = false) : store.makeParents = (store.files, .ok ()) := by
  rcases read_of_load loaded with ⟨rfl, _⟩ | ⟨content, read⟩
  · cases busy
  · exact makeParents_of_located ((FileTree.read_eq_ok_iff content).mp read).1

theorem eq_of_refused_removal (loaded : store.load = .ok table)
    (busy : (Edit.remove key).isIdle table = false) (refused : store.Refused after) : after = store := by
  have made := makeParents_of_removal loaded busy
  cases refused with
  | directories found failed =>
    simp [makeParents, found, failed] at made
  | file also _ =>
    rw [made] at also
    cases also
    rfl

theorem find?_of_remove (changed : store.edit (.remove key) = (after, answer)) {place : Place}
    (elsewhere : after.files.locate store.path ≠ .ok place) :
    after.files.find? place = store.files.find? place := by
  rcases edit_cases changed with ⟨_, _, rfl, _⟩ | ⟨table, loaded, ⟨_, rfl, _⟩ | ⟨busy, saved⟩⟩
  · rfl
  · rfl
  · rcases refused_or_put saved with refused | ⟨grown, written, bytes, made, writable, rfl⟩
    · rw [eq_of_refused_removal loaded busy refused]
    · rw [makeParents_of_removal loaded busy] at made
      cases made
      refine FileTree.find?_put_of_ne ?_ _
      intro same
      exact elsewhere (same ▸ (writable.put bytes).located)

theorem eq_of_absent_remove (absent : store.stored? key = none) :
    (store.edit (.remove key)).1 = store := by
  rcases @edit_cases store (.remove key) _ _ rfl with ⟨_, _, same, _⟩ | ⟨table, loaded, idle | saved⟩
  · exact same
  · exact idle.2.1
  · -- What is not idle has a key to remove.
    rw [stored?_of_load loaded] at absent
    simp [Edit.isIdle, Table.contains, absent] at saved

/-- A call that does no harm: no file is made, removed, or given other bytes, and nothing comes into being but
directories above the path, and those only where something was to be set. -/
structure Unharmed (store : FileStore) (call : Call) (after : FileStore) : Prop where
  files : ∀ place content,
    after.files.find? place = some (.file content) ↔ store.files.find? place = some (.file content)
  tree : store.files.AddsAbove store.path after.files
  others : (∀ key value, call ≠ .change (.set key value)) → after = store

def IsCutShort (store : FileStore) (call : Call) (after : FileStore) (error : StoreError) : Prop :=
  ∃ edit table, call = .change edit ∧ store.load = .ok table ∧ edit.isIdle table = false ∧
    store.CutShort (edit.apply table) after error

/-- What a call leaves alone. If it fails it does no harm, unless it is cut short. Whether it fails or not, no file
changes but the one that the path leads to, and nothing else changes at all where nothing was to be set. A look, and
the removal of what is not there, leave the tree as it was. -/
structure SparingCall (store : FileStore) (call : Call) (after : FileStore)
    (answer : Except StoreError Answer) : Prop where
  failed : ∀ error, answer = .error error →
    store.Unharmed call after ∨ store.IsCutShort call after error
  otherFiles : ∀ place content, after.files.locate store.path ≠ .ok place →
    (after.files.find? place = some (.file content) ↔ store.files.find? place = some (.file content))
  unset : (∀ key value, call ≠ .change (.set key value)) → ∀ place,
    after.files.locate store.path ≠ .ok place → after.files.find? place = store.files.find? place
  idle : ∀ key, call = .get key ∨ call = .change (.remove key) ∧ store.stored? key = none → after = store

theorem Unharmed.refl (store : FileStore) (call : Call) : store.Unharmed call store where
  files _ _ := Iff.rfl
  tree := .refl _ _
  others _ := rfl

theorem unharmed_or_isCutShort (failed : store.edit edit = (after, .error error)) :
    store.Unharmed (.change edit) after ∨ store.IsCutShort (.change edit) after error := by
  rcases edit_cases failed with ⟨_, _, rfl, _⟩ | ⟨table, loaded, idle | ⟨busy, saved⟩⟩
  · exact .inl (.refl _ _)
  · cases idle.2.2
  · rcases save_cases saved with ⟨_, _, _, _, _, _, done⟩ | ⟨_, same, cut | refused⟩
    · cases done
    · cases same
      exact .inr ⟨edit, table, rfl, loaded, busy, cut⟩
    · have adds := addsAbove_of_refused refused
      refine .inl ⟨adds.find?_file_iff, adds, ?_⟩
      intro unset
      cases edit with
      | set key value => exact absurd rfl (unset key value)
      | remove key => exact eq_of_refused_removal loaded busy refused

theorem sparingCall_get (store : FileStore) (key : String) (answer : Except StoreError Answer) :
    SparingCall store (.get key) store answer where
  failed _ _ := .inl (.refl _ _)
  otherFiles _ _ _ := Iff.rfl
  unset _ _ _ := rfl
  idle _ _ := rfl

theorem sparingCall_edit (changed : store.edit edit = (after, answer)) :
    SparingCall store (.change edit) after (answer.map fun _ => .done) where
  failed := by
    intro error failed
    cases answer with
    | ok done => cases failed
    | error fault =>
      cases failed
      exact unharmed_or_isCutShort changed
  otherFiles _ content elsewhere := find?_file_of_edit changed elsewhere content
  unset := by
    intro unset place elsewhere
    cases edit with
    | set key value => exact absurd rfl (unset key value)
    | remove key => exact find?_of_remove changed elsewhere
  idle := by
    intro key cause
    rcases cause with look | ⟨removal, absent⟩
    · cases look
    · cases removal
      exact (congrArg Prod.fst changed).symm.trans (eq_of_absent_remove absent)

theorem sparingCall (store : FileStore) (call : Call) :
    SparingCall store call (call.perform FileStore.get FileStore.edit store).1
      (call.perform FileStore.get FileStore.edit store).2 := by
  cases call with
  | get key => exact sparingCall_get store key _
  | change edit =>
    cases changed : store.edit edit with
    | mk after result =>
      rw [Call.perform, changed]
      exact sparingCall_edit changed

/-- Bytes that no store can be opened on: they are no text, or a text that is neither blank nor an object
of texts. -/
def IsForeign (content : ByteArray) : Prop :=
  ∀ text, String.fromUTF8? content = some text →
    (∃ c ∈ text.toList, Text.isBlank c = false) ∧ ∀ entries, ¬ Json.TableForm entries text.toList

theorem isForeign_of_braceless {text : String} (visible : ∃ c ∈ text.toList, Text.isBlank c = false)
    (braceless : '\x7b' ∉ text.toList) : IsForeign text.toUTF8 := by
  intro decoded held
  unfold String.fromUTF8? at held
  split at held
  · obtain rfl : text = decoded := Option.some.inj held
    exact ⟨visible, fun entries form => braceless (Json.brace_mem_of_tableForm form)⟩
  · cases held

/-- A file that is no table lies where the path leads. Something on the way may be barred, but nothing is missing. -/
def IsDamaged (store : FileStore) : Prop :=
  store.files.locate store.path ≠ .error .notFound ∧
    ∃ content, store.files.find? store.path.destination = some (.file content) ∧ IsForeign content

theorem load_of_isDamaged (damaged : store.IsDamaged) : ∃ error, store.load = .error error := by
  obtain ⟨followed, content, there, foreign⟩ := damaged
  -- Each way of holding a table but the first is a way of reading the file as a text.
  have unread : ∀ text, store.files.readText store.path = .ok text →
      String.fromUTF8? content = some text := by
    intro text read
    obtain ⟨bytes, found, decoded⟩ := (FileTree.readText_eq_ok_iff text).mp read
    obtain ⟨_, _, same, _⟩ := (FileTree.read_eq_ok_iff bytes).mp found
    rw [there] at same
    cases same
    exact decoded
  cases loaded : store.load with
  | error error => exact ⟨error, rfl⟩
  | ok table =>
    obtain ⟨entries, holds, _⟩ := load_eq_ok_iff.mp loaded
    cases holds with
    | missing absent => exact absurd (FileTree.locate_of_missing absent there) followed
    | @blank text held blank =>
      obtain ⟨⟨c, member, visible⟩, _⟩ := foreign text (unread text held)
      rw [blank c member] at visible
      cases visible
    | @object text _ held form => exact absurd form ((foreign text (unread text held)).2 entries)

theorem get_of_isDamaged (damaged : store.IsDamaged) (key : String) :
    ∃ error, store.get key = .error error := by
  obtain ⟨error, failed⟩ := load_of_isDamaged damaged
  exact ⟨error, by simp [FileStore.get, failed, Except.map]⟩

theorem edit_of_isDamaged (damaged : store.IsDamaged) (edit : Edit) :
    ∃ error, store.edit edit = (store, .error error) := by
  obtain ⟨error, failed⟩ := load_of_isDamaged damaged
  exact ⟨error, by simp [FileStore.edit, plan, failed, Except.map]⟩

end PageUpkeep.FileStore
