import PageUpkeep.Proofs.Store.Saving

/-! What is left of a store when a write of its file is broken off.

The text of a table is complete at its last brace and not before. So the first bytes of it are no text at all, or
blank, or no object, and whatever the file held before, no entry is found in it any more.
-/

set_option autoImplicit false

namespace PageUpkeep

/-- What can be decoded of a text that is cut off is a front of the text. -/
theorem exists_append_of_decoded {text front : String} {room : Nat} (tight : room < text.toUTF8.size)
    (decoded : String.fromUTF8? (text.toUTF8.extract 0 room) = some front) :
    ∃ rest, rest ≠ "" ∧ text = front ++ rest := by
  unfold String.fromUTF8? at decoded
  split at decoded
  · rename_i valid
    cases decoded
    have boundary : String.Pos.Raw.IsValid text ⟨room⟩ :=
      String.Pos.Raw.isValid_iff_isValidUTF8_extract_zero.mpr ⟨Nat.le_of_lt tight, valid⟩
    obtain ⟨front, rest, rfl, ends⟩ := String.Pos.Raw.isValid_iff_exists_append.mp boundary
    obtain rfl : room = front.utf8ByteSize := congrArg String.Pos.Raw.byteIdx ends
    refine ⟨rest, ?_, ?_⟩
    · rintro rfl
      simp at tight
    · congr 1
      apply String.toByteArray_inj.mp
      have taken : (front ++ rest).toUTF8.extract 0 front.utf8ByteSize = front.toByteArray := by
        rw [String.toUTF8_eq_toByteArray, String.toByteArray_append]
        exact ByteArray.extract_append_eq_left String.size_toByteArray.symm
      exact taken.symm
  · cases decoded

namespace Json

theorem table_eq_concat (entries : Table) : ∃ front, table entries = front ++ ['\x7d'] := by
  unfold table
  split
  · exact ⟨['\x7b'], rfl⟩
  · exact ⟨'\x7b' :: [','].intercalate (entries.entries.map tableLine) ++ ['\n'], by simp⟩

theorem brace_mem_of_cut {entries : Table} {front more : List Char} (split : table entries = front ++ more)
    (cut : more ≠ []) : '\x7d' ∈ more := by
  obtain ⟨init, whole⟩ := table_eq_concat entries
  rcases List.eq_nil_or_concat more with none | ⟨before, last, rfl⟩
  · exact absurd none cut
  · rw [split, List.concat_eq_append, ← List.append_assoc] at whole
    have same : last = '\x7d' := List.head_eq_of_cons_eq (List.append_inj' whole rfl).2
    simp [same]

/-- A table is not complete before its last character. -/
theorem not_tableForm_of_cut {entries : Table} {listed : List (String × String)} {front more : List Char}
    (split : table entries = front ++ more) (cut : more ≠ []) : ¬ TableForm listed front := by
  intro form
  obtain ⟨after, _, read⟩ := readTable_of_form form more
  obtain ⟨blanks, spaces, whole⟩ := readTable_of_form (tableForm_table entries) []
  -- Read as a whole, the text leaves blanks at most, and so no brace.
  rw [List.append_nil, List.append_nil, split, read] at whole
  have left : after ++ more = blanks := congrArg Prod.snd (Except.ok.inj whole)
  have space := spaces '\x7d' (left ▸ List.mem_append_right after (brace_mem_of_cut split cut))
  exact absurd space (by decide)

end Json

namespace FileStore

variable {store after : FileStore} {table : Table} {error : StoreError}

theorem load_of_cutShort (cut : store.CutShort table after error) {left : Table}
    (loaded : after.load = .ok left) : left = .empty := by
  obtain @⟨grown, place, room, fault, _, writable, _, tight⟩ := cut
  have read := FileTree.read_put writable ((textOfTable table).toUTF8.extract 0 room)
  unfold load at loaded
  split at loaded
  · exact (Except.ok.inj loaded).symm
  · cases loaded
  · rename_i front decoded
    obtain ⟨content, found, held⟩ := (FileTree.readText_eq_ok_iff front).mp decoded
    obtain rfl := Except.ok.inj (read.symm.trans found)
    obtain ⟨more, several, whole⟩ := exists_append_of_decoded tight held
    split at loaded
    · rename_i meant
      cases loaded
      unfold tableOfText at meant
      -- A blank front is an empty table, and any other one lacks the last brace.
      split at meant
      · exact (Except.ok.inj meant).symm
      · obtain ⟨entries, form, _⟩ := Json.form_of_readAll meant
        have split : Json.table table = front.toList ++ more.toList := by
          rw [← String.toList_append, ← whole, textOfTable, String.toList_ofList]
        have cut : more.toList ≠ [] := by simpa using several
        exact absurd form (Json.not_tableForm_of_cut split cut)
    · cases loaded

end FileStore

end PageUpkeep
