import PageUpkeep.Json.Fault
import PageUpkeep.Text.Hex

/-! Quoted texts of JSON: written, read, and passed over.

Writing escapes the quote, the backslash and the control characters, and nothing else. Reading takes
every escape of the format; one above U+FFFF is a pair of escapes. Passing over a text checks its
escapes one by one, but not whether surrogates are paired.
-/

set_option autoImplicit false

namespace PageUpkeep.Json

def isControl (c : Char) : Bool :=
  c.toNat < 0x20

def quoteChar (c : Char) : List Char :=
  if c = '"' then ['\\', '"']
  else if c = '\\' then ['\\', '\\']
  else if c = '\x08' then ['\\', 'b']
  else if c = '\x0c' then ['\\', 'f']
  else if c = '\n' then ['\\', 'n']
  else if c = '\r' then ['\\', 'r']
  else if c = '\t' then ['\\', 't']
  else if isControl c then
    ['\\', 'u', '0', '0', Nat.digitChar (c.toNat / 16), Nat.digitChar (c.toNat % 16)]
  else [c]

def quoted (text : List Char) : List Char :=
  '"' :: text.flatMap quoteChar ++ ['"']

def plainEscape? : Char → Option Char
  | '"' => some '"'
  | '\\' => some '\\'
  | '/' => some '/'
  | 'b' => some '\x08'
  | 'f' => some '\x0c'
  | 'n' => some '\n'
  | 'r' => some '\r'
  | 't' => some '\t'
  | _ => none

def readHex : List Char → Except Fault (Nat × List Char)
  | a :: b :: c :: d :: rest =>
    match Text.hexValue? a, Text.hexValue? b, Text.hexValue? c, Text.hexValue? d with
    | some x, some y, some z, some w => .ok (((x * 16 + y) * 16 + z) * 16 + w, rest)
    | _, _, _, _ => .error ⟨.invalidEscape, byteLength (a :: b :: c :: d :: rest) - 4⟩
  | short =>
    .error (if byteLength short < 4 then ⟨.eofText, 0⟩ else ⟨.invalidEscape, byteLength short - 4⟩)

theorem length_readHex {s rest : List Char} {value : Nat} (read : readHex s = .ok (value, rest)) :
    rest.length < s.length := by
  unfold readHex at read
  split at read
  · split at read
    · simp only [Except.ok.injEq, Prod.mk.injEq] at read
      rw [← read.2]
      simp only [List.length_cons]
      omega
    · simp at read
  · simp at read

/-- The second half of a character above U+FFFF, whose first half was `high`. -/
def readLowSurrogate (high : Nat) : List Char → Except Fault (Char × List Char)
  | [] | ['\\'] => .error ⟨.eofText, 0⟩
  | '\\' :: 'u' :: digits =>
    match readHex digits with
    | .error fault => .error fault
    | .ok (low, rest) =>
      if 0xdc00 ≤ low ∧ low ≤ 0xdfff then
        .ok (Char.ofNat (0x10000 + (high - 0xd800) * 0x400 + (low - 0xdc00)), rest)
      else .error (.before .loneSurrogate rest)
  | '\\' :: rest => .error (.upon .unendedSurrogate rest)
  | rest => .error (.upon .unendedSurrogate rest)

def readEscape : List Char → Except Fault (Char × List Char)
  | [] => .error ⟨.eofText, 0⟩
  | 'u' :: digits =>
    match readHex digits with
    | .error fault => .error fault
    | .ok (value, rest) =>
      if 0xdc00 ≤ value ∧ value ≤ 0xdfff then .error (.before .loneSurrogate rest)
      else if 0xd800 ≤ value ∧ value ≤ 0xdbff then readLowSurrogate value rest
      else .ok (Char.ofNat value, rest)
  | c :: rest =>
    match plainEscape? c with
    | some meant => .ok (meant, rest)
    | none => .error (.upon .invalidEscape (c :: rest))

theorem length_readLowSurrogate {high : Nat} {s rest : List Char} {c : Char}
    (read : readLowSurrogate high s = .ok (c, rest)) : rest.length < s.length := by
  unfold readLowSurrogate at read
  split at read
  · simp at read
  · simp at read
  · split at read
    · simp at read
    · rename_i digits low after hex
      have shorter := length_readHex hex
      split at read
      · simp only [Except.ok.injEq, Prod.mk.injEq] at read
        rw [← read.2]
        simp only [List.length_cons]
        omega
      · simp at read
  · simp at read
  · simp at read

theorem length_readEscape {s rest : List Char} {c : Char} (read : readEscape s = .ok (c, rest)) :
    rest.length < s.length := by
  unfold readEscape at read
  split at read
  · simp at read
  · split at read
    · simp at read
    · rename_i digits value after hex
      have shorter := length_readHex hex
      split at read
      · simp at read
      · split at read
        · have further := length_readLowSurrogate read
          simp only [List.length_cons]
          omega
        · simp only [Except.ok.injEq, Prod.mk.injEq] at read
          rw [← read.2]
          simp only [List.length_cons]
          omega
  · split at read
    · simp only [Except.ok.injEq, Prod.mk.injEq] at read
      rw [← read.2]
      simp
    · simp at read

/-- Reads a text up to its closing quote, the opening one having been taken. -/
def readText (s : List Char) : Except Fault (List Char × List Char) :=
  match s with
  | [] => .error ⟨.eofText, 0⟩
  | c :: rest =>
    if c = '"' then .ok ([], rest)
    else if c = '\\' then
      match escape : readEscape rest with
      | .error fault => .error fault
      | .ok (meant, after) =>
        have : after.length < rest.length := length_readEscape escape
        (readText after).map fun read => (meant :: read.1, read.2)
    else if isControl c then .error (.before .controlCharacter rest)
    else (readText rest).map fun read => (c :: read.1, read.2)
termination_by s.length

theorem length_readText {s text rest : List Char} (read : readText s = .ok (text, rest)) :
    rest.length < s.length := by
  fun_induction readText s generalizing text rest with
  | case1 => simp at read
  | case2 after =>
    simp only [Except.ok.injEq, Prod.mk.injEq] at read
    simp [← read.2]
  | case3 => simp at read
  | case4 after meant later escape shorter notQuote ih =>
    cases further : readText later with
    | error fault => simp [further, Except.map] at read
    | ok result =>
      simp only [further, Except.map, Except.ok.injEq, Prod.mk.injEq] at read
      have bound := ih further
      rw [← read.2]
      simp only [List.length_cons]
      omega
  | case5 => simp at read
  | case6 c after quote backslash control ih =>
    cases further : readText after with
    | error fault => simp [further, Except.map] at read
    | ok result =>
      simp only [further, Except.map, Except.ok.injEq, Prod.mk.injEq] at read
      have bound := ih further
      rw [← read.2]
      simp only [List.length_cons]
      omega

def skipEscape : List Char → Except Fault (List Char)
  | [] => .error ⟨.eofText, 0⟩
  | 'u' :: digits => (readHex digits).map Prod.snd
  | c :: rest =>
    match plainEscape? c with
    | some _ => .ok rest
    | none => .error (.upon .invalidEscape (c :: rest))

theorem length_skipEscape {s rest : List Char} (skipped : skipEscape s = .ok rest) :
    rest.length < s.length := by
  unfold skipEscape at skipped
  split at skipped
  · simp at skipped
  · rename_i digits
    cases hex : readHex digits with
    | error fault => simp [hex, Except.map] at skipped
    | ok result =>
      simp only [hex, Except.map, Except.ok.injEq] at skipped
      have shorter := length_readHex hex
      rw [← skipped]
      simp only [List.length_cons]
      omega
  · split at skipped
    · simp only [Except.ok.injEq] at skipped
      simp [← skipped]
    · simp at skipped

def skipText (s : List Char) : Except Fault (List Char) :=
  match s with
  | [] => .error ⟨.eofText, 0⟩
  | c :: rest =>
    if c = '"' then .ok rest
    else if c = '\\' then
      match escape : skipEscape rest with
      | .error fault => .error fault
      | .ok after =>
        have : after.length < rest.length := length_skipEscape escape
        skipText after
    else if isControl c then .error (.before .controlCharacter (c :: rest))
    else skipText rest
termination_by s.length

theorem length_skipText {s rest : List Char} (skipped : skipText s = .ok rest) :
    rest.length < s.length := by
  fun_induction skipText s generalizing rest with
  | case1 => simp at skipped
  | case2 after =>
    simp only [Except.ok.injEq] at skipped
    simp [← skipped]
  | case3 => simp at skipped
  | case4 after later escape shorter notQuote ih =>
    have bound := ih skipped
    simp only [List.length_cons]
    omega
  | case5 => simp at skipped
  | case6 c after quote backslash control ih =>
    have bound := ih skipped
    simp only [List.length_cons]
    omega

end PageUpkeep.Json
