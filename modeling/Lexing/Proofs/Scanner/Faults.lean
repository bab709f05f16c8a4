import Lexing.Proofs.Scanner.Session

/-!
# Lexical errors and their places

When a scan ends with a lexical error, and which bytes the error points at, said by the
offsets of the characters alone: neither gaps nor lexemes occur in `Scanner.IsExact`.

## Main definitions

* `Text.IsFirstMark`: the first character from an offset on that is not blank.
* `Scanner.IsExact`: errors come exactly where they should.

## Main results

* `Session.isExact_scannerAfter`: this holds of the scanner of a session.
-/

namespace Lexing

namespace Text

/-- The character starts at `offset`, and all characters from `cursor` up to there are
blank while it is not. -/
structure IsFirstMark (text : Text) (cursor offset : Nat) (c : Char) : Prop where
  cursor_le : cursor ≤ offset
  charAt?_eq : text.charAt? offset = some c
  not_blank : isBlank c = false
  blank_of_lt : ∀ n d, cursor ≤ n → n < offset → text.charAt? n = some d → isBlank d = true

variable {text rest : Text} {cursor offset : Nat} {c : Char}

/-- The first character that is not blank is the one behind the blanks. -/
theorem GoesOn.isFirstMark_iff (h : text.GoesOn cursor rest) :
    text.IsFirstMark cursor offset c ↔
      isBlank c = false ∧ ∃ gap after, IsGap gap ∧ rest = gap ++ c :: after ∧
        offset = cursor + gap.byteLength := by
  constructor
  · rintro ⟨hle, hchar, hc, hblank⟩
    obtain ⟨after, hafter⟩ := charAt?_eq_some_iff.1 hchar
    obtain ⟨n, rfl⟩ := Nat.exists_eq_add_of_le hle
    obtain ⟨gap, rfl, rfl⟩ := h.add_iff.1 hafter
    refine ⟨hc, gap, after, fun d hd => ?_, rfl, rfl⟩
    obtain ⟨front, back, rfl⟩ := List.append_of_mem hd
    have hd : text.GoesOn (cursor + byteLength front) (d :: (back ++ c :: after)) := by
      apply append
      simpa using h
    have hpos := Char.utf8Size_pos d
    apply hblank _ d (Nat.le_add_right _ _) _ (charAt?_eq_some_iff.2 ⟨_, hd⟩)
    rw [byteLength_append, byteLength_cons]
    omega
  · rintro ⟨hc, gap, after, hgap, rfl, rfl⟩
    refine ⟨Nat.le_add_right _ _, charAt?_eq_some_iff.2 ⟨after, h.append⟩, hc, ?_⟩
    intro n d hle hlt hchar
    obtain ⟨behind, hbehind⟩ := charAt?_eq_some_iff.1 hchar
    obtain ⟨m, rfl⟩ := Nat.exists_eq_add_of_le hle
    obtain ⟨front, hfront, rfl⟩ := h.add_iff.1 hbehind
    -- `d` starts in front of `c`, so it is one of the blanks.
    rcases List.append_eq_append_iff.1 hfront with ⟨inside, rfl, -⟩ | ⟨inside, rfl, hcons⟩
    · rw [byteLength_append] at hlt
      omega
    · cases inside with
      | nil => simp at hlt
      | cons e inside =>
        obtain ⟨rfl, -⟩ := List.cons.inj hcons
        exact hgap d (by simp)

theorem GoesOn.startsWithBlank_iff (h : text.GoesOn offset rest) :
    StartsWithBlank rest ↔ offset = text.byteLength ∨
      ∃ d, text.charAt? offset = some d ∧ isBlank d = true := by
  have hsize := h.add_byteLength
  cases rest with
  | nil => simpa [StartsWithBlank] using .inl hsize
  | cons d rest =>
    have hpos := Char.utf8Size_pos d
    have hne : offset ≠ text.byteLength := by
      rw [byteLength_cons] at hsize
      omega
    simp [StartsWithBlank, hne, charAt?_eq_some_iff.2 ⟨rest, h⟩]

end Text

/-- The characters that are no token by themselves. -/
theorem Vocabulary.classifyCharacter_eq_none_iff {c : Char} :
    classifyCharacter c = none ↔
      c ∉ [';', '=', '+', '-'] ∧ isAlphabetic c = false ∧ c.isDigit = false := by
  have hsymbol : Symbol.ofChar? c = none ↔ c ∉ [';', '=', '+', '-'] := by
    rw [Symbol.ofChar?, List.find?_eq_none]
    simp [Symbol.all, Symbol.character, ne_comm]
  rw [← hsymbol, classifyCharacter]
  cases Symbol.ofChar? c with
  | some symbol => simp
  | none => by_cases halphabetic : isAlphabetic c = true <;> simp [halphabetic]

namespace Scanner

/-- Lexical errors come exactly where they should. -/
structure IsExact (scanner : Scanner) : Prop where
  /-- A string is reported as unterminated exactly if the first character that is not
  blank is a quotation mark and there is no other one behind it. -/
  unterminatedString_iff : ∀ span,
    scanner.scan.1 = .error (.unterminatedString span) ↔
      ∃ p, scanner.source.content.IsFirstMark scanner.cursor p '"' ∧
        (∀ n, p < n → scanner.source.content.charAt? n ≠ some '"') ∧
          span = ⟨scanner.source, p, scanner.source.size⟩
  /-- All of the text has been read then. -/
  cursor_of_unterminatedString : ∀ span,
    scanner.scan.1 = .error (.unterminatedString span) →
      scanner.scan.2.cursor = scanner.source.size
  /-- A character is reported as unknown exactly if it is the first one that is not blank,
  begins no other token and stands alone. -/
  unknownCharacter_iff : ∀ span c,
    scanner.scan.1 = .error (.unknownCharacter span c) ↔
      ∃ p, scanner.source.content.IsFirstMark scanner.cursor p c ∧
        c ≠ '"' ∧ c ∉ [';', '=', '+', '-'] ∧ isAlphabetic c = false ∧ c.isDigit = false ∧
          (p + c.utf8Size = scanner.source.size ∨
            ∃ d, scanner.source.content.charAt? (p + c.utf8Size) = some d ∧
              isBlank d = true) ∧
            span = ⟨scanner.source, p, p + c.utf8Size⟩
  /-- Nothing but the character has been read then. -/
  of_unknownCharacter : ∀ span c,
    scanner.scan.1 = .error (.unknownCharacter span c) →
      span.text = [c] ∧ scanner.scan.2.cursor = span.stop
  /-- An error is between the cursor of its scan and the end of the text. -/
  offset_mem : ∀ n error,
    (afterScans n scanner).scan.1 = .error error →
      (afterScans n scanner).cursor ≤ error.offset ∧ error.offset < scanner.source.size
  /-- Each error is behind those before it. -/
  offset_lt : ∀ m n error later, m < n →
    (afterScans m scanner).scan.1 = .error error →
      (afterScans n scanner).scan.1 = .error later → error.offset < later.offset
  /-- After an unterminated string there is only the end. -/
  end_of_unterminatedString : ∀ m n span, m < n →
    (afterScans m scanner).scan.1 = .error (.unterminatedString span) →
      (afterScans n scanner).scan.1 = .ok none

variable {source : Source} {scanner behind : Scanner}

theorem scan_fst_eq_unterminatedString_iff (h : scanner.IsPlaced) {span : Span} :
    scanner.scan.1 = .error (.unterminatedString span) ↔
      ∃ gap content, scanner.rest = gap ++ '"' :: content ∧ IsGap gap ∧ '"' ∉ content ∧
        span = scanner.spanBehind gap ('"' :: content) := by
  constructor
  · intro hscan
    have hscans := scans_scan h
    rw [hscan] at hscans
    generalize scanner.scan.2 = behind at hscans
    cases hscans with
    | unclosed hrest hgap hcontent => exact ⟨_, _, hrest, hgap, hcontent, rfl⟩
  · rintro ⟨gap, content, hrest, hgap, hcontent, rfl⟩
    rw [(Scans.unclosed hrest hgap hcontent).scan_eq h]

theorem scan_fst_eq_unknownCharacter_iff (h : scanner.IsPlaced) {span : Span} {c : Char} :
    scanner.scan.1 = .error (.unknownCharacter span c) ↔
      ∃ gap rest, scanner.rest = gap ++ c :: rest ∧ IsGap gap ∧
        (Lexeme.bare [c]).Precedes rest ∧ Vocabulary.classifyCharacter c = none ∧
          span = scanner.spanBehind gap [c] := by
  constructor
  · intro hscan
    have hscans := scans_scan h
    rw [hscan] at hscans
    generalize scanner.scan.2 = behind at hscans
    cases hscans with
    | unknown hrest hgap hlexeme hunknown => exact ⟨_, _, hrest, hgap, hlexeme, hunknown, rfl⟩
  · rintro ⟨gap, rest, hrest, hgap, hlexeme, hunknown, rfl⟩
    rw [(Scans.unknown hrest hgap hlexeme hunknown).scan_eq h]

namespace IsPlaced

theorem unterminatedString_iff (h : scanner.IsPlaced) (span : Span) :
    scanner.scan.1 = .error (.unterminatedString span) ↔
      ∃ p, scanner.source.content.IsFirstMark scanner.cursor p '"' ∧
        (∀ n, p < n → scanner.source.content.charAt? n ≠ some '"') ∧
          span = ⟨scanner.source, p, scanner.source.size⟩ := by
  have hplaced : scanner.source.content.GoesOn scanner.cursor scanner.rest := h
  rw [scan_fst_eq_unterminatedString_iff h]
  constructor
  · rintro ⟨gap, content, hrest, hgap, hcontent, rfl⟩
    have hmark := hplaced.isFirstMark_iff.2 ⟨by decide, gap, content, hgap, hrest, rfl⟩
    rw [hrest] at hplaced
    refine ⟨_, hmark, fun n hlt hchar => ?_, ?_⟩
    · exact hcontent (hplaced.append.mem_tail_iff.2 ⟨n, hlt, hchar⟩)
    · rw [spanBehind, hplaced.append.add_byteLength, Source.size]
  · rintro ⟨p, hmark, hlast, rfl⟩
    obtain ⟨-, gap, content, hgap, hrest, rfl⟩ := hplaced.isFirstMark_iff.1 hmark
    rw [hrest] at hplaced
    refine ⟨gap, content, hrest, hgap, fun hmem => ?_, ?_⟩
    · obtain ⟨n, hlt, hchar⟩ := hplaced.append.mem_tail_iff.1 hmem
      exact hlast n hlt hchar
    · rw [spanBehind, hplaced.append.add_byteLength, Source.size]

theorem unknownCharacter_iff (h : scanner.IsPlaced) (span : Span) (c : Char) :
    scanner.scan.1 = .error (.unknownCharacter span c) ↔
      ∃ p, scanner.source.content.IsFirstMark scanner.cursor p c ∧
        c ≠ '"' ∧ c ∉ [';', '=', '+', '-'] ∧ isAlphabetic c = false ∧ c.isDigit = false ∧
          (p + c.utf8Size = scanner.source.size ∨
            ∃ d, scanner.source.content.charAt? (p + c.utf8Size) = some d ∧
              isBlank d = true) ∧
            span = ⟨scanner.source, p, p + c.utf8Size⟩ := by
  have hplaced : scanner.source.content.GoesOn scanner.cursor scanner.rest := h
  rw [scan_fst_eq_unknownCharacter_iff h]
  constructor
  · rintro ⟨gap, rest, hrest, hgap, ⟨⟨-, hhead, hblank⟩, hstart⟩, hunknown, rfl⟩
    have hc : isBlank c = false := hblank c (by simp)
    have hmark := hplaced.isFirstMark_iff.2 ⟨hc, gap, rest, hgap, hrest, rfl⟩
    rw [hrest] at hplaced
    obtain ⟨hsymbol, halphabetic, hdigit⟩ :=
      Vocabulary.classifyCharacter_eq_none_iff.1 hunknown
    refine ⟨_, hmark, fun heq => hhead (by rw [heq]; rfl), hsymbol, halphabetic, hdigit, ?_, ?_⟩
    · exact hplaced.append.cons.startsWithBlank_iff.1 hstart
    · simp [spanBehind]
  · rintro ⟨p, hmark, hquote, hsymbol, halphabetic, hdigit, hend, rfl⟩
    obtain ⟨hc, gap, rest, hgap, hrest, rfl⟩ := hplaced.isFirstMark_iff.1 hmark
    rw [hrest] at hplaced
    have hbare : IsBare [c] := ⟨by simp, by simpa using hquote, by simpa using hc⟩
    have hstart : StartsWithBlank rest := hplaced.append.cons.startsWithBlank_iff.2 hend
    refine ⟨gap, rest, hrest, hgap, ⟨hbare, hstart⟩, ?_, ?_⟩
    · exact Vocabulary.classifyCharacter_eq_none_iff.2 ⟨hsymbol, halphabetic, hdigit⟩
    · simp [spanBehind]

theorem scan_snd_of_unterminatedString (h : scanner.IsPlaced) {span : Span}
    (hscan : scanner.scan.1 = .error (.unterminatedString span)) :
    scanner.scan.2 = scanner.passing scanner.rest [] := by
  obtain ⟨gap, content, hrest, hgap, hcontent, rfl⟩ :=
    (scan_fst_eq_unterminatedString_iff h).1 hscan
  rw [(Scans.unclosed hrest hgap hcontent).scan_eq h]

theorem cursor_of_unterminatedString (h : scanner.IsPlaced) (span : Span)
    (hscan : scanner.scan.1 = .error (.unterminatedString span)) :
    scanner.scan.2.cursor = scanner.source.size := by
  have hsize : scanner.cursor + scanner.rest.byteLength = scanner.source.size :=
    Text.GoesOn.add_byteLength h
  rw [h.scan_snd_of_unterminatedString hscan, passing_cursor, hsize]

theorem of_unknownCharacter (h : scanner.IsPlaced) (span : Span) (c : Char)
    (hscan : scanner.scan.1 = .error (.unknownCharacter span c)) :
    span.text = [c] ∧ scanner.scan.2.cursor = span.stop := by
  obtain ⟨gap, rest, hrest, hgap, hlexeme, hunknown, rfl⟩ :=
    (scan_fst_eq_unknownCharacter_iff h).1 hscan
  have hfront : scanner.source.content.GoesOn (scanner.cursor + gap.byteLength) ([c] ++ rest) :=
    h.passing hrest
  constructor
  · exact hfront.slice_eq
  · rw [(Scans.unknown hrest hgap hlexeme hunknown).scan_eq h]
    simp [spanBehind, Nat.add_assoc]

end IsPlaced

/-- An error is in what its scan has read. -/
theorem Scans.offset_mem {error : LexicalError} (h : Scans scanner (.error error) behind) :
    scanner.cursor ≤ error.offset ∧ error.offset < behind.cursor := by
  cases h with
  | @unclosed gap content hrest =>
    have hpos := Char.utf8Size_pos '"'
    have hrest := congrArg Text.byteLength hrest
    rw [Text.byteLength_append, Text.byteLength_cons] at hrest
    constructor
    · exact Nat.le_add_right _ _
    · show scanner.cursor + gap.byteLength < scanner.cursor + scanner.rest.byteLength
      omega
  | @unknown gap rest c hrest =>
    have hpos := Char.utf8Size_pos c
    constructor
    · exact Nat.le_add_right _ _
    · show scanner.cursor + gap.byteLength < scanner.cursor + (gap ++ [c]).byteLength
      rw [Text.byteLength_append, Text.byteLength_cons]
      omega

namespace PlacedIn

/-- Errors of later scans are behind those of earlier ones. -/
theorem offset_lt (h : scanner.PlacedIn source) {m n : Nat} {error later : LexicalError}
    (hlt : m < n) (herror : (Scanner.afterScans m scanner).scan.1 = .error error)
    (hlater : (Scanner.afterScans n scanner).scan.1 = .error later) :
    error.offset < later.offset := by
  have hm := scans_scan (h.afterScans m).isPlaced
  have hn := scans_scan (h.afterScans n).isPlaced
  rw [herror] at hm
  rw [hlater] at hn
  -- The cursor behind the first of the two scans separates the errors.
  calc error.offset
      < (Scanner.afterScans m scanner).scan.2.cursor := hm.offset_mem.2
    _ = (Scanner.afterScans (m + 1) scanner).cursor := by rw [afterScans_succ]
    _ ≤ (Scanner.afterScans n scanner).cursor := h.cursor_afterScans_le hlt
    _ ≤ later.offset := hn.offset_mem.1

theorem offset_lt_size (h : scanner.PlacedIn source) {error : LexicalError}
    (herror : scanner.scan.1 = .error error) : error.offset < source.size := by
  have hscans := scans_scan h.isPlaced
  rw [herror] at hscans
  have hbehind := (Text.GoesOn.isBoundary h.scan.isPlaced).le_byteLength
  rw [h.scan.source_eq] at hbehind
  exact Nat.lt_of_lt_of_le hscans.offset_mem.2 hbehind

theorem end_of_unterminatedString (h : scanner.PlacedIn source) {m n : Nat} {span : Span}
    (hlt : m < n)
    (herror : (Scanner.afterScans m scanner).scan.1 = .error (.unterminatedString span)) :
    (Scanner.afterScans n scanner).scan.1 = .ok none := by
  -- The string took all that was left, and from there on only the end is found.
  have hgap : IsGap (Scanner.afterScans (m + 1) scanner).rest := by
    rw [afterScans_succ, (h.afterScans m).isPlaced.scan_snd_of_unterminatedString herror]
    exact .nil
  obtain ⟨k, rfl⟩ := Nat.exists_eq_add_of_le' hlt
  rw [scan_fst_eq_ok_none_iff, Scanner.afterScans, Function.iterate_add_apply]
  exact isGap_afterScans hgap k

theorem isExact (h : scanner.PlacedIn source) : scanner.IsExact := by
  obtain rfl := h.source_eq
  refine
    { unterminatedString_iff := h.isPlaced.unterminatedString_iff
      cursor_of_unterminatedString := h.isPlaced.cursor_of_unterminatedString
      unknownCharacter_iff := h.isPlaced.unknownCharacter_iff
      of_unknownCharacter := h.isPlaced.of_unknownCharacter
      offset_mem := fun n error herror => ?_
      offset_lt := fun m n error later hlt => h.offset_lt hlt
      end_of_unterminatedString := fun m n span hlt => h.end_of_unterminatedString hlt }
  have hscans := scans_scan (h.afterScans n).isPlaced
  rw [herror] at hscans
  exact ⟨hscans.offset_mem.1, (h.afterScans n).offset_lt_size herror⟩

end PlacedIn

end Scanner

/-- Whatever is done in a session, its scanner stays in its source and reports errors
exactly. -/
theorem Session.isExact_scannerAfter (source : Source) (steps : List Step) :
    (scannerAfter source steps).source = source ∧ (scannerAfter source steps).IsExact := by
  have hplaced := placedIn_scannerAfter source steps
  exact ⟨hplaced.source_eq, hplaced.isExact⟩

end Lexing
