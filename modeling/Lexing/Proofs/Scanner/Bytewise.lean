import Lexing.Proofs.Scanner.Scan

/-!
# Scanning byte by byte

A scanner can also be run on nothing but its source and its cursor. It then looks at
one character after the other through slices of the text, and three things can go wrong
with it: a slice may begin or end inside a character or behind the end of the text, a
number may be taken from a smaller one, and a loop may never end. A `Walk` is such a
computation. It is `none` where one of these happens, a loop being given a number of
rounds after which it has to be over.

From the cursor of a placed scanner none of them happens: the walk to the next token ends
with the result and the cursor of `Scanner.scan`, whatever the number of rounds, if only
it is greater than the number of bytes in the text.

## Main definitions

* `Walk`: computations that move a cursor over a text.
* `Walk.nextToken`: the walk to the next token.

## Main results

* `Walk.runAt_nextToken`: it ends, and it ends like `Scanner.scan`.
-/

namespace Lexing

/-- A computation that moves a cursor over a text. It ends with a result or with a
lexical error. It is `none` if it crashes or takes too long. -/
abbrev Walk (α : Type) := ExceptT LexicalError (StateT Nat Option) α

namespace Walk

/-- What a walk from a cursor ends with, and the cursor behind it. -/
def runAt {α : Type} (walk : Walk α) (cursor : Nat) : Option (Except LexicalError α × Nat) :=
  (ExceptT.run walk).run cursor

/-- The difference of two numbers, which crashes instead of becoming negative. -/
def difference (n m : Nat) : Walk Nat :=
  if m ≤ n then return n - m else (none : Option Nat)

/-- A slice of the text, which crashes where there is none. -/
def slice (text : Text) (start stop : Nat) : Walk Text :=
  (text.slice? start stop : Option Text)

/-- The number of bytes behind the cursor. -/
def remaining (text : Text) : Walk Nat := do
  difference text.byteLength (← get)

/-- The character behind an offset. -/
def characterAt (text : Text) (offset : Nat) : Walk Char := do
  match ← slice text offset text.byteLength with
  | c :: _ => return c
  | [] => throw (.cursorLost offset)

/-- The character behind the cursor. -/
def peek (text : Text) : Walk Char := do
  characterAt text (← get)

/-- Moves the cursor behind the next character. -/
def read (text : Text) : Walk Char := do
  let c ← peek text
  modify (· + c.utf8Size)
  return c

/-- The span between two offsets. -/
def span (source : Source) (start stop : Nat) : Walk Span :=
  match Span.new? source start stop with
  | some span => return span
  | none => throw (.cursorLost start)

/-- Does `body` again and again as long as `condition` holds, which has to be over after
that many rounds. -/
def repeatWhile (rounds : Nat) (condition : Walk Bool) (body : Walk Unit) : Walk Unit :=
  match rounds with
  | 0 => (none : Option Unit)
  | rounds + 1 => do
    if ← condition then
      body
      repeatWhile rounds condition body

/-- Whether there is a character behind the cursor, and one with the property. -/
def sees (text : Text) (p : Char → Bool) : Walk Bool := do
  if (← remaining text) = 0 then return false
  return p (← peek text)

/-- Moves the cursor behind a run of characters with the property. -/
def skip (rounds : Nat) (text : Text) (p : Char → Bool) : Walk Unit :=
  repeatWhile rounds (sees text p) do
    let _ ← read text
    return ()

/-- Reads on in a string that began at `start`. The answer is whether what was read
belongs to the string. -/
def readContent (source : Source) (start : Nat) : Walk Bool := do
  if (← remaining source.content) = 0 then
    throw (.unterminatedString (← span source start (← get)))
  else return (← read source.content) != '"'

/-- Reads a string from its quotation mark on. -/
def readQuoted (rounds : Nat) (source : Source) : Walk Token := do
  let start ← get
  if (← read source.content) ≠ '"' then throw (.cursorLost start)
  else
    let inside ← get
    repeatWhile rounds (readContent source start) (return ())
    -- The closing quotation mark takes one byte.
    return .string (← slice source.content inside (← difference (← get) 1))

/-- Reads a bare lexeme. -/
def readBare (rounds : Nat) (source : Source) (vocabulary : Vocabulary) : Walk Token := do
  let start ← get
  skip rounds source.content Lexeme.isMark
  match vocabulary.classify (← slice source.content start (← get)) with
  | some token => return token
  | none =>
    let span ← span source start (← get)
    throw (.unknownCharacter span (← characterAt source.content start))

/-- Reads the next token, or finds that there is none. -/
def nextToken (rounds : Nat) (source : Source) (vocabulary : Vocabulary) :
    Walk (Option Token) := do
  skip rounds source.content isBlank
  if (← remaining source.content) = 0 then return none
  if (← peek source.content) = '"' then return some (← readQuoted rounds source)
  return some (← readBare rounds source vocabulary)

variable {α β : Type}

theorem runAt_pure (a : α) (cursor : Nat) : (pure a : Walk α).runAt cursor = some (.ok a, cursor) :=
  rfl

theorem runAt_throw (error : LexicalError) (cursor : Nat) :
    (throw error : Walk α).runAt cursor = some (.error error, cursor) := rfl

theorem runAt_get (cursor : Nat) : (get : Walk Nat).runAt cursor = some (.ok cursor, cursor) := rfl

theorem runAt_modify (f : Nat → Nat) (cursor : Nat) :
    (modify f : Walk Unit).runAt cursor = some (.ok (), f cursor) := rfl

/-- A walk goes on from where its first part ends with a result. -/
theorem runAt_bind_of_ok {walk : Walk α} {next : α → Walk β} {cursor stop : Nat} {a : α}
    (h : walk.runAt cursor = some (.ok a, stop)) :
    (walk >>= next).runAt cursor = (next a).runAt stop := by
  unfold runAt at *
  rw [ExceptT.run_bind, StateT.run_bind, h]
  rfl

/-- A walk is over where its first part ends with an error. -/
theorem runAt_bind_of_error {walk : Walk α} {next : α → Walk β} {cursor stop : Nat}
    {error : LexicalError} (h : walk.runAt cursor = some (.error error, stop)) :
    (walk >>= next).runAt cursor = some (.error error, stop) := by
  unfold runAt at *
  rw [ExceptT.run_bind, StateT.run_bind, h]
  rfl

theorem runAt_difference {n m : Nat} (h : m ≤ n) (cursor : Nat) :
    (difference n m).runAt cursor = some (.ok (n - m), cursor) := by
  rw [difference, if_pos h]
  rfl

theorem runAt_slice {text inside rest : Text} {start : Nat}
    (h : text.GoesOn start (inside ++ rest)) (cursor : Nat) :
    (slice text start (start + inside.byteLength)).runAt cursor = some (.ok inside, cursor) := by
  rw [slice, h.slice?_eq]
  rfl

theorem runAt_span {source : Source} {inside rest : Text} {start : Nat}
    (h : source.content.GoesOn start (inside ++ rest)) (cursor : Nat) :
    (span source start (start + inside.byteLength)).runAt cursor =
      some (.ok ⟨source, start, start + inside.byteLength⟩, cursor) := by
  rw [span, Span.new?_of_goesOn h]
  rfl

section Steps

variable {text rest : Text} {cursor : Nat} {c : Char}

theorem runAt_remaining (h : text.GoesOn cursor rest) :
    (remaining text).runAt cursor = some (.ok rest.byteLength, cursor) := by
  have hsize := h.add_byteLength
  rw [remaining, runAt_bind_of_ok (runAt_get _), runAt_difference (by omega), ← hsize,
    Nat.add_sub_cancel_left]

theorem runAt_characterAt {offset : Nat} (h : text.GoesOn offset (c :: rest)) (cursor : Nat) :
    (characterAt text offset).runAt cursor = some (.ok c, cursor) := by
  have hwhole : text.GoesOn offset (c :: rest ++ []) := by rwa [List.append_nil]
  have hslice := runAt_slice hwhole cursor
  rw [h.add_byteLength] at hslice
  rw [characterAt, runAt_bind_of_ok hslice, runAt_pure]

theorem runAt_peek (h : text.GoesOn cursor (c :: rest)) :
    (peek text).runAt cursor = some (.ok c, cursor) := by
  rw [peek, runAt_bind_of_ok (runAt_get _), runAt_characterAt h]

theorem runAt_read (h : text.GoesOn cursor (c :: rest)) :
    (read text).runAt cursor = some (.ok c, cursor + c.utf8Size) := by
  rw [read, runAt_bind_of_ok (runAt_peek h), runAt_bind_of_ok (runAt_modify _ _), runAt_pure]

theorem runAt_sees (h : text.GoesOn cursor rest) (p : Char → Bool) :
    (sees text p).runAt cursor = some (.ok (rest.head?.any p), cursor) := by
  rw [sees, runAt_bind_of_ok (runAt_remaining h)]
  cases rest with
  | nil => rfl
  | cons c rest =>
    have hsize := Char.utf8Size_pos c
    rw [if_neg (by rw [Text.byteLength_cons]; omega), runAt_bind_of_ok (runAt_peek h), runAt_pure]
    rfl

end Steps

section Loops

variable {condition : Walk Bool} {body : Walk Unit} {rounds cursor stop : Nat}

theorem runAt_repeatWhile_of_false (h : condition.runAt cursor = some (.ok false, stop)) :
    (repeatWhile (rounds + 1) condition body).runAt cursor = some (.ok (), stop) := by
  rw [repeatWhile, runAt_bind_of_ok h]
  rfl

theorem runAt_repeatWhile_of_true {next : Nat}
    (h : condition.runAt cursor = some (.ok true, stop))
    (hbody : body.runAt stop = some (.ok (), next)) :
    (repeatWhile (rounds + 1) condition body).runAt cursor =
      (repeatWhile rounds condition body).runAt next := by
  rw [repeatWhile, runAt_bind_of_ok h, if_pos rfl, runAt_bind_of_ok hbody]

theorem runAt_repeatWhile_of_error {error : LexicalError}
    (h : condition.runAt cursor = some (.error error, stop)) :
    (repeatWhile (rounds + 1) condition body).runAt cursor = some (.error error, stop) := by
  rw [repeatWhile, runAt_bind_of_error h]

/-- Skipping ends behind the run of characters with the property, in one round for each
of them and one more. -/
theorem runAt_skip {text rest : Text} {p : Char → Bool} (run : Text)
    (hrun : ∀ c ∈ run, p c = true) (hrest : ∀ c ∈ rest.head?, p c = false)
    (hrounds : run.length < rounds) (h : text.GoesOn cursor (run ++ rest)) :
    (skip rounds text p).runAt cursor = some (.ok (), cursor + run.byteLength) := by
  have hsees := runAt_sees h p
  obtain ⟨rounds, rfl⟩ := Nat.exists_eq_succ_of_ne_zero (Nat.ne_zero_of_lt hrounds)
  rw [skip]
  -- Each round passes one character of the run, and the last one finds that it is over.
  induction run generalizing cursor rounds with
  | nil =>
    apply runAt_repeatWhile_of_false
    rw [hsees]
    cases rest with
    | nil => rfl
    | cons c rest => simp [hrest c rfl]
  | cons c run ih =>
    have hread : (read text >>= fun _ => pure () : Walk Unit).runAt cursor =
        some (.ok (), cursor + c.utf8Size) := by
      rw [runAt_bind_of_ok (runAt_read h), runAt_pure]
    rw [List.length_cons] at hrounds
    obtain ⟨rounds, rfl⟩ :=
      Nat.exists_eq_succ_of_ne_zero (Nat.ne_zero_of_lt (Nat.lt_of_succ_lt_succ hrounds))
    rw [List.cons_append] at h hsees
    rw [List.head?_cons, Option.any_some, hrun c List.mem_cons_self] at hsees
    rw [runAt_repeatWhile_of_true hsees hread,
      ih (fun d hd => hrun d (List.mem_cons_of_mem c hd)) h.cons (runAt_sees h.cons p) rounds
        (Nat.lt_of_succ_lt_succ hrounds),
      Text.byteLength_cons, Nat.add_assoc]

end Loops

section Lexemes

variable {source : Source} {rest : Text} {rounds cursor start : Nat}

theorem runAt_readContent_cons {c : Char} (h : source.content.GoesOn cursor (c :: rest)) :
    (readContent source start).runAt cursor = some (.ok (c != '"'), cursor + c.utf8Size) := by
  have hsize := Char.utf8Size_pos c
  rw [readContent, runAt_bind_of_ok (runAt_remaining h),
    if_neg (by rw [Text.byteLength_cons]; omega), runAt_bind_of_ok (runAt_read h), runAt_pure]

theorem runAt_readContent_nil {inside : Text} (hstart : source.content.GoesOn start inside)
    (h : source.content.GoesOn cursor []) :
    (readContent source start).runAt cursor =
      some (.error (.unterminatedString ⟨source, start, cursor⟩), cursor) := by
  have hwhole : source.content.GoesOn start (inside ++ []) := by rwa [List.append_nil]
  have hspan := runAt_span hwhole cursor
  rw [hstart.add_byteLength, ← h.add_byteLength, Text.byteLength_nil, Nat.add_zero] at hspan
  rw [readContent, runAt_bind_of_ok (runAt_remaining h), if_pos Text.byteLength_nil,
    runAt_bind_of_ok (runAt_get _), runAt_bind_of_ok hspan, runAt_throw]

/-- A round that reads a character of the string leads to the next round. -/
theorem runAt_content_cons {c : Char} (hc : c ≠ '"')
    (h : source.content.GoesOn cursor (c :: rest)) :
    (repeatWhile (rounds + 1) (readContent source start) (return ())).runAt cursor =
      (repeatWhile rounds (readContent source start) (return ())).runAt
        (cursor + c.utf8Size) := by
  have hread : (readContent source start).runAt cursor = _ := runAt_readContent_cons h
  rw [bne_iff_ne.2 hc] at hread
  exact runAt_repeatWhile_of_true hread (runAt_pure () _)

/-- What is read of a string ends behind its closing quotation mark. -/
theorem runAt_content (content : Text) (hcontent : '"' ∉ content)
    (hrounds : content.length < rounds)
    (h : source.content.GoesOn cursor (content ++ '"' :: rest)) :
    (repeatWhile rounds (readContent source start) (return ())).runAt cursor =
      some (.ok (), cursor + content.byteLength + '"'.utf8Size) := by
  obtain ⟨rounds, rfl⟩ := Nat.exists_eq_succ_of_ne_zero (Nat.ne_zero_of_lt hrounds)
  -- The round that reads the quotation mark is the last one.
  induction content generalizing cursor rounds with
  | nil => exact runAt_repeatWhile_of_false (runAt_readContent_cons h)
  | cons c content ih =>
    obtain ⟨hc, hcontent⟩ := not_or.1 (mt List.mem_cons.2 hcontent)
    have hrounds := Nat.lt_of_succ_lt_succ hrounds
    obtain ⟨rounds, rfl⟩ := Nat.exists_eq_succ_of_ne_zero (Nat.ne_zero_of_lt hrounds)
    rw [runAt_content_cons (Ne.symm hc) h, ih hcontent h.cons rounds hrounds,
      Text.byteLength_cons, Nat.add_assoc cursor]

/-- If there is no such mark, all of the text is read. -/
theorem runAt_content_of_notMem {inside : Text} (content : Text) (hcontent : '"' ∉ content)
    (hrounds : content.length < rounds) (hstart : source.content.GoesOn start inside)
    (h : source.content.GoesOn cursor content) :
    (repeatWhile rounds (readContent source start) (return ())).runAt cursor =
      some (.error (.unterminatedString ⟨source, start, cursor + content.byteLength⟩),
        cursor + content.byteLength) := by
  obtain ⟨rounds, rfl⟩ := Nat.exists_eq_succ_of_ne_zero (Nat.ne_zero_of_lt hrounds)
  -- The round behind the last character fails, with the span from the start on.
  induction content generalizing cursor rounds with
  | nil => exact runAt_repeatWhile_of_error (runAt_readContent_nil hstart h)
  | cons c content ih =>
    obtain ⟨hc, hcontent⟩ := not_or.1 (mt List.mem_cons.2 hcontent)
    have hrounds := Nat.lt_of_succ_lt_succ hrounds
    obtain ⟨rounds, rfl⟩ := Nat.exists_eq_succ_of_ne_zero (Nat.ne_zero_of_lt hrounds)
    rw [runAt_content_cons (Ne.symm hc) h, ih hcontent h.cons rounds hrounds,
      Text.byteLength_cons, Nat.add_assoc cursor]

theorem runAt_readQuoted {content : Text} (hcontent : '"' ∉ content)
    (hrounds : content.length < rounds)
    (h : source.content.GoesOn cursor ((Lexeme.quoted content).written ++ rest)) :
    (readQuoted rounds source).runAt cursor =
      some (.ok (.string content), cursor + (Lexeme.quoted content).written.byteLength) := by
  have hopen : source.content.GoesOn cursor ('"' :: (content ++ '"' :: rest)) := by
    simpa [Lexeme.written] using h
  have hinside := hopen.cons
  have hquote : '"'.utf8Size = 1 := by decide
  have hwritten : (Lexeme.quoted content).written.byteLength = 1 + content.byteLength + 1 := by
    simp [Lexeme.written, hquote, Nat.add_assoc]
  rw [readQuoted, runAt_bind_of_ok (runAt_get _), runAt_bind_of_ok (runAt_read hopen),
    if_neg (by simp), runAt_bind_of_ok (runAt_get _),
    runAt_bind_of_ok (runAt_content content hcontent hrounds hinside),
    runAt_bind_of_ok (runAt_get _), runAt_bind_of_ok (runAt_difference (by omega) _)]
  -- The content ends one byte in front of the cursor.
  rw [show cursor + '"'.utf8Size + content.byteLength + '"'.utf8Size - 1 =
      cursor + '"'.utf8Size + content.byteLength by omega,
    runAt_bind_of_ok (runAt_slice hinside _), runAt_pure]
  rw [hwritten, hquote, Nat.add_assoc, Nat.add_assoc, Nat.add_assoc]

theorem runAt_readQuoted_of_notMem {content : Text} (hcontent : '"' ∉ content)
    (hrounds : content.length < rounds)
    (h : source.content.GoesOn cursor ('"' :: content)) :
    (readQuoted rounds source).runAt cursor =
      some (.error (.unterminatedString ⟨source, cursor, source.size⟩), source.size) := by
  have hsize : cursor + '"'.utf8Size + content.byteLength = source.size := h.cons.add_byteLength
  rw [readQuoted, runAt_bind_of_ok (runAt_get _), runAt_bind_of_ok (runAt_read h),
    if_neg (by simp), runAt_bind_of_ok (runAt_get _),
    runAt_bind_of_error (runAt_content_of_notMem content hcontent hrounds h h.cons), hsize]

theorem runAt_skip_isMark {text : Text} (hlexeme : (Lexeme.bare text).Precedes rest)
    (hrounds : text.length < rounds) (h : source.content.GoesOn cursor (text ++ rest)) :
    (skip rounds source.content Lexeme.isMark).runAt cursor =
      some (.ok (), cursor + text.byteLength) := by
  obtain ⟨hbare, hrest⟩ := hlexeme
  apply runAt_skip text _ _ hrounds h
  · intro c hc
    simp [Lexeme.isMark, hbare.not_blank c hc]
  · intro c hc
    simp [Lexeme.isMark, hrest c hc]

theorem runAt_readBare {vocabulary : Vocabulary} {text : Text} {token : Token}
    (hlexeme : (Lexeme.bare text).Precedes rest)
    (htoken : vocabulary.classify text = some token) (hrounds : text.length < rounds)
    (h : source.content.GoesOn cursor (text ++ rest)) :
    (readBare rounds source vocabulary).runAt cursor =
      some (.ok token, cursor + text.byteLength) := by
  rw [readBare, runAt_bind_of_ok (runAt_get _),
    runAt_bind_of_ok (runAt_skip_isMark hlexeme hrounds h), runAt_bind_of_ok (runAt_get _),
    runAt_bind_of_ok (runAt_slice h _), htoken]
  rfl

theorem runAt_readBare_of_unknown {vocabulary : Vocabulary} {c : Char}
    (hlexeme : (Lexeme.bare [c]).Precedes rest)
    (hunknown : Vocabulary.classifyCharacter c = none) (hrounds : 1 < rounds)
    (h : source.content.GoesOn cursor (c :: rest)) :
    (readBare rounds source vocabulary).runAt cursor =
      some (.error (.unknownCharacter ⟨source, cursor, cursor + Text.byteLength [c]⟩ c),
        cursor + Text.byteLength [c]) := by
  have hfront : source.content.GoesOn cursor ([c] ++ rest) := h
  rw [readBare, runAt_bind_of_ok (runAt_get _),
    runAt_bind_of_ok (runAt_skip_isMark hlexeme hrounds h), runAt_bind_of_ok (runAt_get _),
    runAt_bind_of_ok (runAt_slice hfront _), Vocabulary.classify, hunknown]
  simp only
  rw [runAt_bind_of_ok (runAt_get _), runAt_bind_of_ok (runAt_span hfront _),
    runAt_bind_of_ok (runAt_characterAt h _), runAt_throw]

end Lexemes

section Tokens

variable {source : Source} {vocabulary : Vocabulary} {gap rest : Text} {rounds cursor stop : Nat}
  {ending : Except LexicalError Token}

theorem runAt_some {walk : Walk Token} (h : walk.runAt cursor = some (ending, stop)) :
    (do return some (← walk) : Walk (Option Token)).runAt cursor =
      some (ending.map some, stop) := by
  cases ending with
  | error error => exact runAt_bind_of_error h
  | ok token => rw [runAt_bind_of_ok h, runAt_pure, Except.map]

theorem runAt_nextToken_of_isGap (hgap : IsGap gap) (hrounds : gap.length < rounds)
    (h : source.content.GoesOn cursor gap) :
    (nextToken rounds source vocabulary).runAt cursor =
      some (.ok none, cursor + gap.byteLength) := by
  have hnil : source.content.GoesOn cursor (gap ++ []) := by rwa [List.append_nil]
  have hskip := runAt_skip gap hgap (by simp) hrounds hnil
  rw [nextToken, runAt_bind_of_ok hskip, runAt_bind_of_ok (runAt_remaining hnil.append),
    if_pos Text.byteLength_nil, runAt_pure]

/-- Behind blanks, the first other character decides how the walk goes on. -/
theorem runAt_nextToken_of_cons {c : Char} (hgap : IsGap gap) (hc : isBlank c = false)
    (hrounds : gap.length < rounds) (h : source.content.GoesOn cursor (gap ++ c :: rest))
    (hread : (if c = '"' then readQuoted rounds source
      else readBare rounds source vocabulary).runAt (cursor + gap.byteLength) =
        some (ending, stop)) :
    (nextToken rounds source vocabulary).runAt cursor = some (ending.map some, stop) := by
  have hsize := Char.utf8Size_pos c
  have hskip := runAt_skip gap hgap (by simpa using hc) hrounds h
  rw [nextToken, runAt_bind_of_ok hskip, runAt_bind_of_ok (runAt_remaining h.append),
    if_neg (by rw [Text.byteLength_cons]; omega), runAt_bind_of_ok (runAt_peek h.append)]
  by_cases hquote : c = '"'
  · rw [if_pos hquote] at hread ⊢
    exact runAt_some hread
  · rw [if_neg hquote] at hread ⊢
    exact runAt_some hread

end Tokens

/-- What a scan leads to, the walk from the same cursor leads to. -/
theorem runAt_nextToken_of_scans {scanner behind : Scanner} {rounds : Nat}
    {result : Except LexicalError (Option Token)} (hplaced : scanner.IsPlaced)
    (hrounds : scanner.rest.length < rounds) (hscans : scanner.Scans result behind) :
    (nextToken rounds scanner.source scanner.vocabulary).runAt scanner.cursor =
      some (result, behind.cursor) := by
  have h : scanner.source.content.GoesOn scanner.cursor scanner.rest := hplaced
  cases hscans with
  | finished hblank => exact runAt_nextToken_of_isGap hblank hrounds h
  | @quoted gap content rest hrest hgap hlexeme =>
    rw [hrest] at h hrounds
    simp only [Lexeme.written, List.length_append, List.length_cons] at hrounds
    have hread := runAt_readQuoted hlexeme (show _ < rounds by omega) h.append
    rw [runAt_nextToken_of_cons hgap (by decide) (by omega) h (by rw [if_pos rfl]; exact hread)]
    simp [Except.map, Nat.add_assoc]
  | @bare gap text rest token hrest hgap hlexeme htoken =>
    rw [hrest] at h hrounds
    simp only [List.length_append] at hrounds
    have hread := runAt_readBare hlexeme htoken (show _ < rounds by omega) h.append
    obtain ⟨⟨hne, hhead, hblank⟩, -⟩ := hlexeme
    cases text with
    | nil => exact absurd rfl hne
    | cons c text =>
      have hc : c ≠ '"' := fun heq => hhead (by rw [heq]; rfl)
      rw [runAt_nextToken_of_cons hgap (hblank c (by simp)) (by omega) h
        (by rw [if_neg hc]; exact hread)]
      simp [Except.map, Nat.add_assoc]
  | @unclosed gap content hrest hgap hcontent =>
    have hstop : scanner.source.size = scanner.cursor + scanner.rest.byteLength :=
      h.add_byteLength.symm
    rw [hrest] at h hrounds
    simp only [List.length_append, List.length_cons] at hrounds
    have hread := runAt_readQuoted_of_notMem hcontent (show _ < rounds by omega) h.append
    rw [runAt_nextToken_of_cons hgap (by decide) (by omega) h (by rw [if_pos rfl]; exact hread),
      hstop]
    simp [Except.map, Scanner.spanBehind, hrest, Nat.add_assoc]
  | @unknown gap rest c hrest hgap hlexeme hunknown =>
    rw [hrest] at h hrounds
    simp only [List.length_append, List.length_cons] at hrounds
    have hread : (readBare rounds scanner.source scanner.vocabulary).runAt _ = _ :=
      runAt_readBare_of_unknown hlexeme hunknown (by omega) h.append
    obtain ⟨⟨-, hhead, hblank⟩, -⟩ := hlexeme
    have hc : c ≠ '"' := fun heq => hhead (by rw [heq]; rfl)
    rw [runAt_nextToken_of_cons hgap (hblank c (by simp)) (by omega) h
      (by rw [if_neg hc]; exact hread)]
    simp [Except.map, Scanner.spanBehind, Nat.add_assoc]

/-- From the cursor of a placed scanner the walk to the next token ends, with the result
and the cursor of the scan. -/
theorem runAt_nextToken {scanner : Scanner} (h : scanner.IsPlaced) {rounds : Nat}
    (hrounds : scanner.source.size < rounds) :
    (nextToken rounds scanner.source scanner.vocabulary).runAt scanner.cursor =
      some (scanner.scan.1, scanner.scan.2.cursor) := by
  have hlength : scanner.rest.length ≤ scanner.source.size := Text.GoesOn.length_le h
  exact runAt_nextToken_of_scans h (by omega) (Scanner.scans_scan h)

end Walk
end Lexing
