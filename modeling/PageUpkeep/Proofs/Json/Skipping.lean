import PageUpkeep.Proofs.Json.ValueForm

/-! Passing over a value takes exactly that value.

What is left is what the lists and objects still open go on with. In the other direction, nothing is passed
over that is not a value with blanks in front.
-/

set_option autoImplicit false

namespace PageUpkeep.Json

theorem skipValue_eq (frames : List Frame) (s : List Char) :
    skipValue frames s =
      match dropSpaces s with
      | [] => .error ⟨.eofValue, 0⟩
      | c :: rest =>
        if c = '[' then
          match dropSpaces rest with
          | [] => .error ⟨.eofList, 0⟩
          | d :: after =>
            if d = ']' then skipRest frames after else skipValue (.list :: frames) (d :: after)
        else if c = '\x7b' then
          match dropSpaces rest with
          | [] => .error ⟨.eofObject, 0⟩
          | d :: after =>
            if d = '\x7d' then skipRest frames after
            else (skipKey (d :: after)).bind (skipValue (.object :: frames))
        else (skipScalar c rest).bind (skipRest frames) := by
  rw [skipValue]
  split
  · rename_i spaces
    rw [spaces]
  · rename_i c rest spaces
    simp only [spaces]
    split
    · split
      · rename_i inner
        rw [inner]
      · rename_i d after inner
        rw [inner]
    · split
      · split
        · rename_i inner
          rw [inner]
        · rename_i d after inner
          simp only [inner]
          split
          · rfl
          · split
            · rename_i fault key
              rw [key]
              rfl
            · rename_i later key
              rw [key]
              rfl
      · split
        · rename_i fault scalar
          rw [scalar]
          rfl
        · rename_i after scalar
          rw [scalar]
          rfl

theorem skipValue_list (frames : List Frame) (s : List Char) :
    skipValue frames ('[' :: s) =
      match dropSpaces s with
      | [] => .error ⟨.eofList, 0⟩
      | d :: after =>
        if d = ']' then skipRest frames after else skipValue (.list :: frames) (d :: after) := by
  rw [skipValue_eq, @dropSpaces_cons '[' rfl]
  rfl

theorem skipValue_object (frames : List Frame) (s : List Char) :
    skipValue frames ('\x7b' :: s) =
      match dropSpaces s with
      | [] => .error ⟨.eofObject, 0⟩
      | d :: after =>
        if d = '\x7d' then skipRest frames after
        else (skipKey (d :: after)).bind (skipValue (.object :: frames)) := by
  rw [skipValue_eq, @dropSpaces_cons '\x7b' rfl]
  rfl

theorem skipRest_list (outer : List Frame) (s : List Char) :
    skipRest (.list :: outer) s =
      match dropSpaces s with
      | [] => .error ⟨.eofList, 0⟩
      | c :: rest =>
        if c = ',' then skipValue (.list :: outer) rest
        else if c = ']' then skipRest outer rest
        else .error (.upon .expectedListEnd (c :: rest)) := by
  rw [skipRest]
  split
  · rename_i spaces
    rw [spaces]
  · rename_i c rest spaces
    simp only [spaces]

theorem skipRest_object (outer : List Frame) (s : List Char) :
    skipRest (.object :: outer) s =
      match dropSpaces s with
      | [] => .error ⟨.eofObject, 0⟩
      | c :: rest =>
        if c = ',' then (skipKey rest).bind (skipValue (.object :: outer))
        else if c = '\x7d' then skipRest outer rest
        else .error (.upon .expectedObjectEnd (c :: rest)) := by
  rw [skipRest]
  split
  · rename_i spaces
    rw [spaces]
  · rename_i c rest spaces
    simp only [spaces]
    split
    · split
      · rename_i fault key
        rw [key]
        rfl
      · rename_i after key
        rw [key]
        rfl
    · rfl

theorem skipValue_append {before : List Char} (spaces : Spaces before) (frames : List Frame)
    (rest : List Char) : skipValue frames (before ++ rest) = skipValue frames rest := by
  rw [skipValue_eq, dropSpaces_append spaces, ← skipValue_eq]

theorem skipKey_append {before : List Char} (spaces : Spaces before) (rest : List Char) :
    skipKey (before ++ rest) = skipKey rest := by
  rw [skipKey, dropSpaces_append spaces, ← skipKey.eq_def]

theorem skipRest_append {after : List Char} (spaces : Spaces after) (frame : Frame) (outer : List Frame)
    (rest : List Char) : skipRest (frame :: outer) (after ++ rest) = skipRest (frame :: outer) rest := by
  cases frame with
  | list => rw [skipRest_list, dropSpaces_append spaces, ← skipRest_list]
  | object => rw [skipRest_object, dropSpaces_append spaces, ← skipRest_object]

/-! ## Every form is passed over -/

theorem readIdent_append (letters rest : List Char) : readIdent letters (letters ++ rest) = .ok rest := by
  induction letters with
  | nil => rfl
  | cons c more ih => rw [List.cons_append, readIdent, if_pos rfl, ih]

theorem stops_spaces {after rest : List Char} (spaces : Spaces after)
    (stops : Stops continuesNumber rest) : Stops continuesNumber (after ++ rest) := by
  cases after with
  | nil => exact stops
  | cons c more =>
    refine Stops.cons ?_ _
    have space := spaces c List.mem_cons_self
    simp only [isSpace, Bool.or_eq_true, beq_iff_eq] at space
    rcases space with ((rfl | rfl) | rfl) | rfl <;> decide

theorem skipKey_of_form {key : Option String} {head : List Char} (form : HeadForm key head)
    (rest : List Char) : skipKey (head ++ rest) = .ok rest := by
  obtain ⟨beforeSpaces, quoted, betweenSpaces⟩ := form
  obtain ⟨inner, form, rfl⟩ := inner_of_quotedForm quoted
  simp only [List.append_assoc, List.cons_append, List.nil_append]
  simp only [skipKey, dropSpaces_append beforeSpaces, @dropSpaces_cons '"' rfl]
  simp [skipText_of_form form, readColon_of_form betweenSpaces]

theorem skipValue_of_scalar {c : Char} {s rest : List Char} (token : isSpace c = false)
    (notList : c ≠ '[') (notObject : c ≠ '\x7b') (skipped : skipScalar c s = .ok rest)
    (frames : List Frame) : skipValue frames (c :: s) = skipRest frames rest := by
  rw [skipValue_eq, dropSpaces_cons token]
  simp only [if_neg notList, if_neg notObject, skipped]
  rfl

theorem skipValue_of_number {digits rest : List Char} (form : NumberForm digits)
    (stops : Stops continuesNumber rest) (frames : List Frame) :
    skipValue frames (digits ++ rest) = skipRest frames rest := by
  obtain ⟨numeral, read⟩ := Numeral.read_of_form .invalidNumber form stops
  obtain ⟨c, more, rfl, begins⟩ := digit_or_minus_of_numberForm form
  have apart : ∀ d, (d == '-' || d.isDigit) = false → c ≠ d := by
    rintro d other rfl
    exact Bool.eq_false_iff.mp other begins
  have number : c = '-' ∨ c.isDigit = true := by simpa using begins
  have skipped : skipScalar c (more ++ rest) = .ok rest := by
    rw [skipScalar, if_neg (apart 'n' rfl), if_neg (apart 't' rfl), if_neg (apart 'f' rfl),
      if_neg (apart '"' rfl), if_pos number, ← List.cons_append, read]
    rfl
  have token := (@token_of_begins (.number (c :: more)) c begins).1
  exact skipValue_of_scalar token (apart '[' rfl) (apart '\x7b' rfl) skipped frames

/-- What passing over a piece of the given form comes to, with any lists and objects open around it. -/
def PassedOver : Piece → List Char → Prop
  | .value _, source => ∀ (frames : List Frame) {rest : List Char}, Stops continuesNumber rest →
      skipValue frames (source ++ rest) = skipRest frames rest
  | .spaced _, source => ∀ (frame : Frame) (outer : List Frame) {rest : List Char},
      Stops continuesNumber rest →
        skipValue (frame :: outer) (source ++ rest) = skipRest (frame :: outer) rest
  | .items [], source => Spaces source
  | .items (_ :: _), source => ∀ (outer : List Frame) (rest : List Char),
      skipValue (.list :: outer) (source ++ ']' :: rest) = skipRest outer rest
  | .members [], source => Spaces source
  | .members (_ :: _), source => ∀ (outer : List Frame) (rest : List Char),
      (skipKey (source ++ '\x7d' :: rest)).bind (skipValue (.object :: outer)) = skipRest outer rest

theorem passedOver_list {items : List Value} {source : List Char} (form : Form (.items items) source)
    (inside : PassedOver (.items items) source) :
    PassedOver (.value (.list items)) ('[' :: (source ++ [']'])) := by
  intro frames rest _
  rw [List.cons_append, List.append_assoc, List.singleton_append, skipValue_list]
  cases items with
  | nil =>
    have spaces : Spaces source := inside
    rw [dropSpaces_append spaces, @dropSpaces_cons ']' rfl]
    exact if_pos rfl
  | cons item items =>
    obtain ⟨gap, c, more, spaces, rfl, token, notClosing⟩ := first_of_items form
    have skipped := inside frames rest
    rw [List.append_assoc, skipValue_append spaces] at skipped
    rw [List.append_assoc, dropSpaces_append spaces, List.cons_append, dropSpaces_cons token]
    exact (if_neg notClosing).trans skipped

theorem passedOver_object {members : List (Option String × Value)} {source : List Char}
    (form : Form (.members members) source) (inside : PassedOver (.members members) source) :
    PassedOver (.value (.object members)) ('\x7b' :: (source ++ ['\x7d'])) := by
  intro frames rest _
  rw [List.cons_append, List.append_assoc, List.singleton_append, skipValue_object]
  cases members with
  | nil =>
    have spaces : Spaces source := inside
    rw [dropSpaces_append spaces, @dropSpaces_cons '\x7d' rfl]
    exact if_pos rfl
  | cons member members =>
    obtain ⟨gap, more, spaces, rfl⟩ := quote_of_members form
    have skipped := inside frames rest
    rw [List.append_assoc, skipKey_append spaces] at skipped
    rw [List.append_assoc, dropSpaces_append spaces, List.cons_append, @dropSpaces_cons '"' rfl]
    exact (if_neg (by decide)).trans skipped

/-- Every piece is passed over to exactly its end. -/
theorem passedOver_of_form {piece : Piece} {source : List Char} (form : Form piece source) :
    PassedOver piece source := by
  -- One case for each way to write a piece; numbers alone look at what follows them.
  induction form with
  | null =>
    intro frames rest _
    have skipped : skipScalar 'n' ('u' :: 'l' :: 'l' :: rest) = .ok rest := readIdent_append _ rest
    exact skipValue_of_scalar rfl (by decide) (by decide) skipped frames
  | yes =>
    intro frames rest _
    have skipped : skipScalar 't' ('r' :: 'u' :: 'e' :: rest) = .ok rest := readIdent_append _ rest
    exact skipValue_of_scalar rfl (by decide) (by decide) skipped frames
  | no =>
    intro frames rest _
    have skipped : skipScalar 'f' ('a' :: 'l' :: 's' :: 'e' :: rest) = .ok rest := readIdent_append _ rest
    exact skipValue_of_scalar rfl (by decide) (by decide) skipped frames
  | number form => exact fun frames _ stops => skipValue_of_number form stops frames
  | text form =>
    intro frames rest _
    obtain ⟨inner, inside, rfl⟩ := inner_of_quotedForm form
    have skipped : skipScalar '"' (inner ++ '"' :: rest) = .ok rest := skipText_of_form inside rest
    rw [List.cons_append, List.append_assoc]
    exact skipValue_of_scalar rfl (by decide) (by decide) skipped frames
  | list form ih => exact passedOver_list form ih
  | object form ih => exact passedOver_object form ih
  | spaced before form after ih =>
    intro frame outer rest stops
    rw [List.append_assoc, List.append_assoc, skipValue_append before, ih _ (stops_spaces after stops),
      skipRest_append after]
  | noItems spaces => exact spaces
  | lastItem form ih =>
    intro outer rest
    rw [ih .list outer (Stops.cons rfl rest), skipRest_list, @dropSpaces_cons ']' rfl]
    rfl
  | item form more ihItem ihMore =>
    intro outer rest
    rw [List.append_assoc, List.cons_append, ihItem .list outer (Stops.cons rfl _), skipRest_list,
      @dropSpaces_cons ',' rfl]
    exact ihMore outer rest
  | noMembers spaces => exact spaces
  | lastMember named form ih =>
    intro outer rest
    rw [List.append_assoc, skipKey_of_form named, Except.bind, ih .object outer (Stops.cons rfl rest),
      skipRest_object, @dropSpaces_cons '\x7d' rfl]
    rfl
  | member named form more ihMember ihMore =>
    intro outer rest
    rw [List.append_assoc, skipKey_of_form named, Except.bind, List.append_assoc, List.cons_append,
      ihMember .object outer (Stops.cons rfl _), skipRest_object, @dropSpaces_cons ',' rfl]
    exact ihMore outer rest

/-! ## Nothing else is passed over -/

inductive ValueTaken : List Char → List Char → Prop where
  | taken {value : Value} {before source rest : List Char} (spaces : Spaces before)
      (form : Form (.value value) source) : ValueTaken (before ++ (source ++ rest)) rest

inductive ItemsTaken : List Char → List Char → Prop where
  | taken {item : Value} {items : List Value} {source rest : List Char}
      (form : Form (.items (item :: items)) source) : ItemsTaken (source ++ ']' :: rest) rest

inductive MembersTaken : List Char → List Char → Prop where
  | taken {member : Option String × Value} {members : List (Option String × Value)} {source rest : List Char}
      (form : Form (.members (member :: members)) source) : MembersTaken (source ++ '\x7d' :: rest) rest

theorem eq_append_of_readIdent {letters s rest : List Char} (read : readIdent letters s = .ok rest) :
    s = letters ++ rest := by
  induction letters generalizing s with
  | nil =>
    cases read
    rfl
  | cons wanted more ih =>
    cases s with
    | nil => cases read
    | cons c after =>
      unfold readIdent at read
      split at read
      · rename_i same
        rw [same, ih read, List.cons_append]
      · cases read

theorem form_of_skipScalar {c : Char} {s rest : List Char} (skipped : skipScalar c s = .ok rest) :
    ∃ value source, Form (.value value) source ∧ c :: s = source ++ rest := by
  unfold skipScalar at skipped
  split at skipped
  · rename_i letter
    exact ⟨_, _, .null, by rw [letter, eq_append_of_readIdent skipped]; rfl⟩
  · split at skipped
    · rename_i letter
      exact ⟨_, _, .yes, by rw [letter, eq_append_of_readIdent skipped]; rfl⟩
    · split at skipped
      · rename_i letter
        exact ⟨_, _, .no, by rw [letter, eq_append_of_readIdent skipped]; rfl⟩
      · split at skipped
        · rename_i quote
          obtain ⟨inner, form, rfl⟩ := form_of_skipText skipped
          obtain ⟨text?, quoted⟩ := exists_quotedForm form
          exact ⟨_, _, .text quoted, by simp [quote]⟩
        · split at skipped
          · obtain ⟨⟨numeral, after⟩, read, same⟩ := map_eq_ok skipped
            cases same
            obtain ⟨source, form, whole⟩ := Numeral.form_of_read read
            exact ⟨_, source, .number form, whole⟩
          · cases skipped

theorem form_of_skipKey {s rest : List Char} (skipped : skipKey s = .ok rest) :
    ∃ key head, HeadForm key head ∧ s = head ++ rest := by
  unfold skipKey at skipped
  split at skipped
  · cases skipped
  · rename_i c after dropped
    obtain ⟨before, spaces, rfl⟩ := spaces_of_dropSpaces dropped
    split at skipped
    · rename_i quote
      split at skipped
      · cases skipped
      · rename_i later text
        obtain ⟨inner, form, rfl⟩ := form_of_skipText text
        obtain ⟨between, betweenSpaces, rfl⟩ := form_of_readColon skipped
        obtain ⟨key, quoted⟩ := exists_quotedForm form
        exact ⟨key, _, .head spaces quoted betweenSpaces, by simp [quote]⟩
    · cases skipped

/-- Texts shorter than `n` are passed over only if a value, or the rest of a list or an object, is there. -/
structure TakesBelow (n : Nat) : Prop where
  value : ∀ {frames : List Frame} {s rest : List Char}, s.length < n → skipValue frames s = .ok rest →
    ∃ after, ValueTaken s after ∧ skipRest frames after = .ok rest
  items : ∀ {outer : List Frame} {s rest : List Char}, s.length < n →
    skipValue (.list :: outer) s = .ok rest → ∃ after, ItemsTaken s after ∧ skipRest outer after = .ok rest
  members : ∀ {outer : List Frame} {s rest : List Char}, s.length < n →
    (skipKey s).bind (skipValue (.object :: outer)) = .ok rest →
      ∃ after, MembersTaken s after ∧ skipRest outer after = .ok rest

theorem bind_eq_ok {α β : Type} {read : Except Fault α} {f : α → Except Fault β} {result : β}
    (bound : read.bind f = .ok result) : ∃ value, read = .ok value ∧ f value = .ok result := by
  cases read with
  | error fault => cases bound
  | ok value => exact ⟨value, rfl, bound⟩

theorem ValueTaken.behind {gap s rest : List Char} (spaces : Spaces gap) (taken : ValueTaken s rest) :
    ValueTaken (gap ++ s) rest := by
  obtain ⟨before, form⟩ := taken
  rw [← List.append_assoc]
  exact .taken (List.forall_mem_append.mpr ⟨spaces, before⟩) form

theorem valueTaken_of_form {value : Value} {source : List Char} (form : Form (.value value) source)
    (rest : List Char) : ValueTaken (source ++ rest) rest :=
  @ValueTaken.taken value [] source rest .nil form

theorem valueTaken_of_items {s rest : List Char} (taken : ItemsTaken s rest) :
    ValueTaken ('[' :: s) rest := by
  obtain ⟨form⟩ := taken
  simpa using valueTaken_of_form (.list form) rest

theorem valueTaken_of_members {s rest : List Char} (taken : MembersTaken s rest) :
    ValueTaken ('\x7b' :: s) rest := by
  obtain ⟨form⟩ := taken
  simpa using valueTaken_of_form (.object form) rest

variable {s gap more rest : List Char}

theorem itemsTaken_last (spaces : Spaces gap) (taken : ValueTaken s (gap ++ ']' :: rest)) :
    ItemsTaken s rest := by
  obtain ⟨before, form⟩ := taken
  simpa using @ItemsTaken.taken _ _ _ rest (.lastItem (.spaced before form spaces))

theorem itemsTaken_cons (spaces : Spaces gap) (taken : ValueTaken s (gap ++ ',' :: more))
    (others : ItemsTaken more rest) : ItemsTaken s rest := by
  obtain ⟨before, form⟩ := taken
  obtain ⟨further⟩ := others
  simpa using @ItemsTaken.taken _ _ _ rest (.item (.spaced before form spaces) further)

variable {key : Option String} {head : List Char}

theorem membersTaken_last (named : HeadForm key head) (spaces : Spaces gap)
    (taken : ValueTaken s (gap ++ '\x7d' :: rest)) : MembersTaken (head ++ s) rest := by
  obtain ⟨before, form⟩ := taken
  simpa using @MembersTaken.taken _ _ _ rest (.lastMember named (.spaced before form spaces))

theorem membersTaken_cons (named : HeadForm key head) (spaces : Spaces gap)
    (taken : ValueTaken s (gap ++ ',' :: more)) (others : MembersTaken more rest) :
    MembersTaken (head ++ s) rest := by
  obtain ⟨before, form⟩ := taken
  obtain ⟨further⟩ := others
  simpa using @MembersTaken.taken _ _ _ rest (.member named (.spaced before form spaces) further)

theorem token_of_dropSpaces {c : Char} (dropped : dropSpaces s = c :: more) : isSpace c = false := by
  have first := List.head?_dropWhile_not isSpace s
  rw [← dropSpaces, dropped] at first
  simpa using first

theorem length_of_valueTaken (taken : ValueTaken s rest) : rest.length < s.length := by
  obtain ⟨_, form⟩ := taken
  obtain ⟨c, more, rfl, _⟩ := begins_of_form form
  simp only [List.length_append, List.length_cons]
  omega

variable {n : Nat} {frames outer : List Frame}

theorem taken_of_skipValue_list (below : TakesBelow n) (short : s.length < n)
    (skipped : skipValue frames ('[' :: s) = .ok rest) :
    ∃ after, ValueTaken ('[' :: s) after ∧ skipRest frames after = .ok rest := by
  rw [skipValue_list] at skipped
  split at skipped
  · cases skipped
  · rename_i d after dropped
    obtain ⟨gap, spaces, rfl⟩ := spaces_of_dropSpaces dropped
    split at skipped
    · rename_i closing
      have taken := valueTaken_of_form (.list (.noItems spaces)) after
      exact ⟨after, by simpa [closing] using taken, skipped⟩
    · rw [← skipValue_append spaces] at skipped
      obtain ⟨left, taken, later⟩ := below.items short skipped
      exact ⟨left, valueTaken_of_items taken, later⟩

theorem taken_of_skipValue_object (below : TakesBelow n) (short : s.length < n)
    (skipped : skipValue frames ('\x7b' :: s) = .ok rest) :
    ∃ after, ValueTaken ('\x7b' :: s) after ∧ skipRest frames after = .ok rest := by
  rw [skipValue_object] at skipped
  split at skipped
  · cases skipped
  · rename_i d after dropped
    obtain ⟨gap, spaces, rfl⟩ := spaces_of_dropSpaces dropped
    split at skipped
    · rename_i closing
      have taken := valueTaken_of_form (.object (.noMembers spaces)) after
      exact ⟨after, by simpa [closing] using taken, skipped⟩
    · rw [← skipKey_append spaces] at skipped
      obtain ⟨left, taken, later⟩ := below.members short skipped
      exact ⟨left, valueTaken_of_members taken, later⟩

theorem taken_of_skipValue (below : TakesBelow n) (short : s.length ≤ n)
    (skipped : skipValue frames s = .ok rest) :
    ∃ after, ValueTaken s after ∧ skipRest frames after = .ok rest := by
  cases dropped : dropSpaces s with
  | nil =>
    rw [skipValue_eq, dropped] at skipped
    cases skipped
  | cons c more =>
    have token := token_of_dropSpaces dropped
    obtain ⟨gap, spaces, rfl⟩ := spaces_of_dropSpaces dropped
    rw [skipValue_append spaces] at skipped
    have shorter : more.length < n := by
      simp only [List.length_append, List.length_cons] at short
      omega
    suffices found : ∃ after, ValueTaken (c :: more) after ∧ skipRest frames after = .ok rest by
      obtain ⟨after, taken, later⟩ := found
      exact ⟨after, taken.behind spaces, later⟩
    by_cases list : c = '['
    · subst list
      exact taken_of_skipValue_list below shorter skipped
    · by_cases object : c = '\x7b'
      · subst object
        exact taken_of_skipValue_object below shorter skipped
      · rw [skipValue_eq, dropSpaces_cons token] at skipped
        simp only [if_neg list, if_neg object] at skipped
        obtain ⟨after, scalar, later⟩ := bind_eq_ok skipped
        obtain ⟨value, source, form, whole⟩ := form_of_skipScalar scalar
        exact ⟨after, whole ▸ valueTaken_of_form form after, later⟩

theorem taken_of_skipItems (below : TakesBelow n) (short : s.length ≤ n)
    (skipped : skipValue (.list :: outer) s = .ok rest) :
    ∃ after, ItemsTaken s after ∧ skipRest outer after = .ok rest := by
  obtain ⟨after, taken, later⟩ := taken_of_skipValue below short skipped
  have shorter := length_of_valueTaken taken
  rw [skipRest_list] at later
  split at later
  · cases later
  · rename_i c more dropped
    obtain ⟨gap, spaces, rfl⟩ := spaces_of_dropSpaces dropped
    simp only [List.length_append, List.length_cons] at shorter
    split at later
    · rename_i comma
      obtain ⟨left, others, finished⟩ := below.items (by omega) later
      exact ⟨left, itemsTaken_cons spaces (comma ▸ taken) others, finished⟩
    · split at later
      · rename_i closing
        exact ⟨more, itemsTaken_last spaces (closing ▸ taken), later⟩
      · cases later

theorem taken_of_skipMembers (below : TakesBelow n) (short : s.length ≤ n)
    (skipped : (skipKey s).bind (skipValue (.object :: outer)) = .ok rest) :
    ∃ after, MembersTaken s after ∧ skipRest outer after = .ok rest := by
  obtain ⟨afterKey, key, value⟩ := bind_eq_ok skipped
  obtain ⟨name, head, named, rfl⟩ := form_of_skipKey key
  have keyLength := length_skipKey key
  obtain ⟨after, taken, later⟩ := below.value (by omega) value
  have shorter := length_of_valueTaken taken
  rw [skipRest_object] at later
  split at later
  · cases later
  · rename_i c more dropped
    obtain ⟨gap, spaces, rfl⟩ := spaces_of_dropSpaces dropped
    simp only [List.length_append, List.length_cons] at shorter
    split at later
    · rename_i comma
      obtain ⟨left, others, finished⟩ := below.members (by omega) later
      exact ⟨left, membersTaken_cons named spaces (comma ▸ taken) others, finished⟩
    · split at later
      · rename_i closing
        exact ⟨more, membersTaken_last named spaces (closing ▸ taken), later⟩
      · cases later

theorem takesBelow (n : Nat) : TakesBelow n := by
  -- A value is taken by what holds of shorter texts; items and members by their first value and the rest.
  induction n with
  | zero => exact ⟨nofun, nofun, nofun⟩
  | succ n ih =>
    exact {
      value := fun short => taken_of_skipValue ih (Nat.le_of_lt_succ short)
      items := fun short => taken_of_skipItems ih (Nat.le_of_lt_succ short)
      members := fun short => taken_of_skipMembers ih (Nat.le_of_lt_succ short) }

theorem valueTaken_of_skipValue (skipped : skipValue [] s = .ok rest) : ValueTaken s rest := by
  obtain ⟨after, taken, later⟩ := (takesBelow (s.length + 1)).value (Nat.lt_succ_self _) skipped
  rw [skipRest] at later
  cases later
  exact taken

end PageUpkeep.Json
