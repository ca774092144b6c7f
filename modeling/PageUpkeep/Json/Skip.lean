import PageUpkeep.Json.Numeral
import PageUpkeep.Json.Quoted

/-! Passing over a JSON value nobody asked for.

The value must be well formed, at any depth, but numbers need not fit a machine number. Open lists
and objects are kept in a stack of frames, innermost first, so depth is limited by nothing.
-/

set_option autoImplicit false

namespace PageUpkeep.Json

/-- The blanks of the format, fewer than those of Unicode. -/
def isSpace (c : Char) : Bool :=
  c == ' ' || c == '\n' || c == '\t' || c == '\r'

def dropSpaces (s : List Char) : List Char :=
  s.dropWhile isSpace

theorem length_dropSpaces_le (s : List Char) : (dropSpaces s).length ≤ s.length :=
  (List.dropWhile_sublist isSpace).length_le

/-- What is left once the rest of a literal such as `null` has been taken. -/
def readIdent : List Char → List Char → Except Fault (List Char)
  | [], s => .ok s
  | _ :: _, [] => .error ⟨.eofValue, 0⟩
  | wanted :: more, c :: rest =>
    if c = wanted then readIdent more rest else .error (.upon .expectedIdent (c :: rest))

theorem length_readIdent_le {letters s rest : List Char} (read : readIdent letters s = .ok rest) :
    rest.length ≤ s.length := by
  induction letters generalizing s with
  | nil =>
    simp only [readIdent, Except.ok.injEq] at read
    exact read ▸ Nat.le_refl _
  | cons wanted more ih =>
    cases s with
    | nil => simp [readIdent] at read
    | cons c after =>
      unfold readIdent at read
      split at read
      · exact Nat.le_succ_of_le (ih read)
      · simp at read

inductive Frame where
  | list
  | object
  deriving DecidableEq, Repr

def readColon (s : List Char) : Except Fault (List Char) :=
  match dropSpaces s with
  | [] => .error ⟨.eofObject, 0⟩
  | c :: rest => if c = ':' then .ok rest else .error (.upon .expectedColon (c :: rest))

theorem length_readColon {s rest : List Char} (read : readColon s = .ok rest) :
    rest.length < s.length := by
  have bound := length_dropSpaces_le s
  unfold readColon at read
  split at read
  · simp at read
  · rename_i c after spaces
    rw [spaces, List.length_cons] at bound
    split at read
    · simp only [Except.ok.injEq] at read
      subst read
      omega
    · simp at read

def skipKey (s : List Char) : Except Fault (List Char) :=
  match dropSpaces s with
  | [] => .error ⟨.eofObject, 0⟩
  | c :: rest =>
    if c = '"' then
      match skipText rest with
      | .error fault => .error fault
      | .ok after => readColon after
    else .error (.upon .keyNotText (c :: rest))

theorem length_skipKey {s rest : List Char} (skipped : skipKey s = .ok rest) :
    rest.length < s.length := by
  have bound := length_dropSpaces_le s
  unfold skipKey at skipped
  split at skipped
  · simp at skipped
  · rename_i c after spaces
    rw [spaces, List.length_cons] at bound
    split at skipped
    · split at skipped
      · simp at skipped
      · rename_i later text
        have textBound := length_skipText text
        have colonBound := length_readColon skipped
        omega
    · simp at skipped

def skipScalar (c : Char) (rest : List Char) : Except Fault (List Char) :=
  if c = 'n' then readIdent ['u', 'l', 'l'] rest
  else if c = 't' then readIdent ['r', 'u', 'e'] rest
  else if c = 'f' then readIdent ['a', 'l', 's', 'e'] rest
  else if c = '"' then skipText rest
  else if c = '-' ∨ c.isDigit then (Numeral.read .invalidNumber (c :: rest)).map Prod.snd
  else .error (.upon .expectedValue (c :: rest))

theorem length_skipScalar {c : Char} {rest after : List Char} (skipped : skipScalar c rest = .ok after) :
    after.length ≤ rest.length := by
  unfold skipScalar at skipped
  split at skipped
  · exact length_readIdent_le skipped
  · split at skipped
    · exact length_readIdent_le skipped
    · split at skipped
      · exact length_readIdent_le skipped
      · split at skipped
        · exact Nat.le_of_lt (length_skipText skipped)
        · split at skipped
          · cases number : Numeral.read .invalidNumber (c :: rest) with
            | error fault => simp [number, Except.map] at skipped
            | ok result =>
              simp only [number, Except.map, Except.ok.injEq] at skipped
              have bound := Numeral.length_read number
              rw [← skipped]
              simpa [Nat.lt_succ_iff] using bound
          · simp at skipped

theorem length_cons_of_dropSpaces {s rest : List Char} {c : Char} (spaces : dropSpaces s = c :: rest) :
    (c :: rest).length ≤ s.length :=
  spaces ▸ length_dropSpaces_le s

theorem length_of_dropSpaces {s rest : List Char} {c : Char} (spaces : dropSpaces s = c :: rest) :
    rest.length < s.length :=
  length_cons_of_dropSpaces spaces

mutual

def skipValue (frames : List Frame) (s : List Char) : Except Fault (List Char) :=
  match spaces : dropSpaces s with
  | [] => .error ⟨.eofValue, 0⟩
  | c :: rest =>
    have bound : rest.length < s.length := length_of_dropSpaces spaces
    if c = '[' then
      match inner : dropSpaces rest with
      | [] => .error ⟨.eofList, 0⟩
      | d :: after =>
        if d = ']' then
          have : after.length < s.length := Nat.lt_trans (length_of_dropSpaces inner) bound
          skipRest frames after
        else
          have : (d :: after).length < s.length :=
            Nat.lt_of_le_of_lt (length_cons_of_dropSpaces inner) bound
          skipValue (.list :: frames) (d :: after)
    else if c = '\x7b' then
      match inner : dropSpaces rest with
      | [] => .error ⟨.eofObject, 0⟩
      | d :: after =>
        if d = '\x7d' then
          have : after.length < s.length := Nat.lt_trans (length_of_dropSpaces inner) bound
          skipRest frames after
        else
          match key : skipKey (d :: after) with
          | .error fault => .error fault
          | .ok later =>
            have : later.length < s.length :=
              Nat.lt_trans (length_skipKey key) (Nat.lt_of_le_of_lt (length_cons_of_dropSpaces inner) bound)
            skipValue (.object :: frames) later
    else
      match scalar : skipScalar c rest with
      | .error fault => .error fault
      | .ok after =>
        have : after.length < s.length := Nat.lt_of_le_of_lt (length_skipScalar scalar) bound
        skipRest frames after
termination_by 2 * s.length + 1

def skipRest (frames : List Frame) (s : List Char) : Except Fault (List Char) :=
  match frames with
  | [] => .ok s
  | .list :: outer =>
    match spaces : dropSpaces s with
    | [] => .error ⟨.eofList, 0⟩
    | c :: rest =>
      have : rest.length < s.length := length_of_dropSpaces spaces
      if c = ',' then skipValue (.list :: outer) rest
      else if c = ']' then skipRest outer rest
      else .error (.upon .expectedListEnd (c :: rest))
  | .object :: outer =>
    match spaces : dropSpaces s with
    | [] => .error ⟨.eofObject, 0⟩
    | c :: rest =>
      have bound : rest.length < s.length := length_of_dropSpaces spaces
      if c = ',' then
        match key : skipKey rest with
        | .error fault => .error fault
        | .ok after =>
          have : after.length < s.length := Nat.lt_trans (length_skipKey key) bound
          skipValue (.object :: outer) after
      else if c = '\x7d' then skipRest outer rest
      else .error (.upon .expectedObjectEnd (c :: rest))
termination_by 2 * s.length

end

/-- Passing over texts shorter than `n` takes something of a value, and adds nothing to what goes on after one. -/
structure ShrinksBelow (n : Nat) : Prop where
  value : ∀ {frames : List Frame} {s rest : List Char}, s.length < n →
    skipValue frames s = .ok rest → rest.length < s.length
  rest : ∀ {frames : List Frame} {s rest : List Char}, s.length < n →
    skipRest frames s = .ok rest → rest.length ≤ s.length

namespace ShrinksBelow

variable {n : Nat} {frames : List Frame} {s rest : List Char}

theorem value_next (below : ShrinksBelow n) (bound : s.length < n + 1)
    (skipped : skipValue frames s = .ok rest) : rest.length < s.length := by
  have spacesBound := length_dropSpaces_le s
  unfold skipValue at skipped
  split at skipped
  · simp at skipped
  · rename_i c after spaces
    rw [spaces, List.length_cons] at spacesBound
    have innerBound := length_dropSpaces_le after
    split at skipped
    · -- A list: it may be empty, and otherwise begins with a value.
      split at skipped
      · simp at skipped
      · rename_i d later inner
        rw [inner, List.length_cons] at innerBound
        split at skipped
        · have := below.rest (by omega) skipped
          omega
        · have := below.value (by simp only [List.length_cons]; omega) skipped
          simp only [List.length_cons] at this
          omega
    · split at skipped
      · -- An object: it may be empty, and otherwise begins with a key.
        split at skipped
        · simp at skipped
        · rename_i d later inner
          rw [inner, List.length_cons] at innerBound
          split at skipped
          · have := below.rest (by omega) skipped
            omega
          · split at skipped
            · simp at skipped
            · rename_i value key
              have keyBound := length_skipKey key
              simp only [List.length_cons] at keyBound
              have := below.value (by omega) skipped
              omega
      · split at skipped
        · simp at skipped
        · rename_i later scalar
          have scalarBound := length_skipScalar scalar
          have := below.rest (by omega) skipped
          omega

theorem rest_next (below : ShrinksBelow n) (bound : s.length < n + 1)
    (skipped : skipRest frames s = .ok rest) : rest.length ≤ s.length := by
  have spacesBound := length_dropSpaces_le s
  unfold skipRest at skipped
  split at skipped
  · simp only [Except.ok.injEq] at skipped
    exact skipped ▸ Nat.le_refl _
  · -- Inside a list there is a further value, or the end of the list.
    split at skipped
    · simp at skipped
    · rename_i c after spaces
      rw [spaces, List.length_cons] at spacesBound
      split at skipped
      · have := below.value (by omega) skipped
        omega
      · split at skipped
        · have := below.rest (by omega) skipped
          omega
        · simp at skipped
  · split at skipped
    · simp at skipped
    · rename_i c after spaces
      rw [spaces, List.length_cons] at spacesBound
      split at skipped
      · split at skipped
        · simp at skipped
        · rename_i later key
          have keyBound := length_skipKey key
          have := below.value (by omega) skipped
          omega
      · split at skipped
        · have := below.rest (by omega) skipped
          omega
        · simp at skipped

end ShrinksBelow

theorem shrinksBelow (n : Nat) : ShrinksBelow n := by
  induction n with
  | zero => exact ⟨fun short => absurd short (Nat.not_lt_zero _), fun short => absurd short (Nat.not_lt_zero _)⟩
  | succ n below => exact ⟨below.value_next, below.rest_next⟩

theorem length_skipValue {frames : List Frame} {s rest : List Char}
    (skipped : skipValue frames s = .ok rest) : rest.length < s.length :=
  (shrinksBelow (s.length + 1)).value (Nat.lt_succ_self _) skipped

end PageUpkeep.Json
