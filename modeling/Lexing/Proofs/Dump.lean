import Lexing.Command.Program
import Lexing.Proofs.Scannable

/-!
# Dumps are unambiguous

A dump shows the tokens of a source line by line, but the strings in it are not escaped:
they can hold line feeds, text that looks like further lines, and quotation marks. All the
same the tokens can be told from the dump. A token other than a string ends at the first
blank. A string without a quotation mark in it ends at the first one, and a string with a
quotation mark has no blank in it, so that it ends at the first blank, together with the
quotation mark behind it; and none of the former kind looks like one of the latter.

## Main definitions

* `Vocabulary.SparesNumbers`: no reserved word looks like a number.

## Main results

* `Token.text_append_inj`: a token and what follows it can be told from the text.
* `TokenStream.render_inj`: sources with the same dump have the same tokens.
-/

namespace Lexing

/-- No number is shown as a reserved word. -/
def Vocabulary.SparesNumbers (vocabulary : Vocabulary) : Prop :=
  ∀ w ∈ vocabulary.words, ∀ x : Binary64, x.text ≠ w

section Runs

/-- A run of characters with a property, and what follows the character behind it, can be
told from the text. -/
theorem append_cons_inj {p : Char → Bool} {a b r s : Text} {x y : Char}
    (ha : ∀ c ∈ a, p c = true) (hb : ∀ c ∈ b, p c = true) (hx : p x = false)
    (hy : p y = false) (h : a ++ x :: r = b ++ y :: s) : a = b ∧ x = y ∧ r = s := by
  have hxr : ∀ c ∈ (x :: r).head?, p c = false := by simpa using hx
  have hys : ∀ c ∈ (y :: s).head?, p c = false := by simpa using hy
  have hrun : a = b := by
    rw [← Lexeme.takeWhile_append_of_head? ha hxr, h, Lexeme.takeWhile_append_of_head? hb hys]
  subst hrun
  obtain ⟨hxy, hrs⟩ := List.cons.inj (List.append_cancel_left h)
  exact ⟨rfl, hxy, hrs⟩

variable {a b r s : Text}

theorem isMark_of_isBare (h : IsBare a) : ∀ c ∈ a, Lexeme.isMark c = true := by
  intro c hc
  rw [Lexeme.isMark, h.not_blank c hc]
  rfl

theorem bare_append_inj (ha : IsBare a) (hb : IsBare b) (h : a ++ '\n' :: r = b ++ '\n' :: s) :
    a = b ∧ r = s := by
  obtain ⟨hab, -, hrs⟩ := append_cons_inj (isMark_of_isBare ha) (isMark_of_isBare hb)
    (by decide) (by decide) h
  exact ⟨hab, hrs⟩

/-- A string that ends at its first quotation mark is none that ends at a blank. -/
theorem quote_append_ne (ha : '"' ∉ a) (hb : IsBare b) (hquote : '"' ∈ b) :
    a ++ '"' :: '\n' :: r ≠ b ++ '"' :: '\n' :: s := by
  intro h
  obtain ⟨front, back, rfl, hfront⟩ := List.eq_append_cons_of_mem hquote
  rw [List.append_assoc, List.cons_append] at h
  obtain ⟨-, -, hback⟩ := append_cons_inj (Lexeme.isContent_of_notMem ha)
    (Lexeme.isContent_of_notMem hfront) (by decide) (by decide) h
  -- Behind the first quotation mark there is a line feed on one side only.
  cases back with
  | nil => exact absurd (List.cons.inj hback).1 (by decide)
  | cons c back =>
    obtain ⟨rfl, -⟩ := List.cons.inj hback
    have hblank := hb.not_blank '\n' (by simp)
    exact absurd hblank (by decide)

theorem string_append_inj (ha : '"' ∉ a ∨ ('"' ∈ a ∧ IsBare a))
    (hb : '"' ∉ b ∨ ('"' ∈ b ∧ IsBare b))
    (h : a ++ '"' :: '\n' :: r = b ++ '"' :: '\n' :: s) : a = b ∧ r = s := by
  rcases ha with ha | ⟨hqa, ha⟩
  · rcases hb with hb | ⟨hqb, hb⟩
    · obtain ⟨hab, -, hrs⟩ := append_cons_inj (Lexeme.isContent_of_notMem ha)
        (Lexeme.isContent_of_notMem hb) (by decide) (by decide) h
      exact ⟨hab, (List.cons.inj hrs).2⟩
    · exact absurd h (quote_append_ne ha hb hqb)
  · rcases hb with hb | ⟨hqb, hb⟩
    · exact absurd h.symm (quote_append_ne hb ha hqa)
    · have hmark : ∀ {t : Text}, IsBare t → ∀ c ∈ t ++ ['"'], Lexeme.isMark c = true := by
        intro t ht c hc
        rcases List.mem_append.1 hc with hc | hc
        · exact isMark_of_isBare ht c hc
        · rw [List.mem_singleton.1 hc]
          decide
      have hclosed : (a ++ ['"']) ++ '\n' :: r = (b ++ ['"']) ++ '\n' :: s := by
        simpa using h
      obtain ⟨hab, -, hrs⟩ := append_cons_inj (hmark ha) (hmark hb) (by decide) (by decide) hclosed
      exact ⟨List.append_cancel_right hab, hrs⟩

end Runs

namespace Token

variable {words : List Text} {t u : Token}

theorem IsScannable.isBare_or_string (h : t.IsScannable words) :
    IsBare t.text ∨ ∃ content, t = .string content := by
  cases t with
  | name identifier =>
    left
    rcases h with ⟨c, rfl, hletter⟩ | ⟨-, -, hbare⟩
    · exact isBare_of_isAlphabetic hletter
    · exact hbare
  | symbol kind => left; cases kind <;> decide
  | number x => exact Or.inl x.isBare_text
  | string content => exact Or.inr ⟨content, rfl⟩

theorem name_text_ne_symbol {identifier : Text} (h : (name identifier).IsScannable words)
    (kind : Symbol) : identifier ≠ [kind.character] := by
  rintro rfl
  rcases h with ⟨c, heq, hletter⟩ | ⟨-, hlength, -⟩
  · rw [← (List.cons.inj heq).1] at hletter
    cases kind <;> revert hletter <;> decide
  · simp at hlength

theorem number_text_ne_symbol {x : Binary64} (h : (number x).IsScannable words) (kind : Symbol) :
    x.text ≠ [kind.character] := by
  intro htext
  cases hinfinite : x.isInfinite with
  | false =>
    have hdigit := Binary64.isDigit_of_text_eq_singleton (Binary64.magnitude_lt h hinfinite) htext
    cases kind <;> revert hdigit <;> decide
  | true =>
    rw [Binary64.text_of_isInfinite hinfinite] at htext
    split at htext <;> simp at htext

theorem name_text_ne_number (hwords : ∀ w ∈ words, ∀ x : Binary64, x.text ≠ w)
    {identifier : Text} (h : (name identifier).IsScannable words) {x : Binary64}
    (hx : (number x).IsScannable words) : identifier ≠ x.text := by
  rintro rfl
  rcases h with ⟨c, htext, hletter⟩ | ⟨hmem, -, -⟩
  · cases hinfinite : x.isInfinite with
    | false =>
      have hfinite := Binary64.magnitude_lt hx hinfinite
      have hdigit := Binary64.isDigit_of_text_eq_singleton hfinite htext
      obtain ⟨n, hn, rfl⟩ := exists_digitChar_of_isDigit hdigit
      have hdigits : ∀ n, n < 10 → isAlphabetic (Nat.digitChar n) = false := by decide
      rw [hdigits n hn] at hletter
      cases hletter
    | true =>
      rw [Binary64.text_of_isInfinite hinfinite] at htext
      split at htext <;> simp at htext
  · exact hwords _ hmem x rfl

/-- Tokens other than strings can be told from how they are shown. -/
theorem eq_of_text_eq (hwords : ∀ w ∈ words, ∀ x : Binary64, x.text ≠ w)
    (ht : t.IsScannable words) (hu : u.IsScannable words)
    (hts : ∀ content, t ≠ .string content) (hus : ∀ content, u ≠ .string content)
    (h : t.text = u.text) : t = u := by
  cases t with
  | name identifier =>
    cases u with
    | name other => exact congrArg name h
    | symbol kind => exact absurd h (name_text_ne_symbol ht kind)
    | number x => exact absurd h (name_text_ne_number hwords ht hu)
    | string content => exact absurd rfl (hus content)
  | symbol kind =>
    cases u with
    | name identifier => exact absurd h.symm (name_text_ne_symbol hu kind)
    | symbol other =>
      revert h
      cases kind <;> cases other <;> decide
    | number x => exact absurd h.symm (number_text_ne_symbol hu kind)
    | string content => exact absurd rfl (hus content)
  | number x =>
    cases u with
    | name identifier => exact absurd h.symm (name_text_ne_number hwords hu ht)
    | symbol kind => exact absurd h (number_text_ne_symbol ht kind)
    | number y => exact congrArg number (Binary64.text_inj ht hu h)
    | string content => exact absurd rfl (hus content)
  | string content => exact absurd rfl (hts content)

theorem quote_ne_of_isBare {content : Text} (h : IsBare t.text) (r s : Text) :
    t.text ++ r ≠ (string content).text ++ s := by
  intro heq
  cases htext : t.text with
  | nil => exact h.ne_nil htext
  | cons c rest =>
    rw [htext] at heq
    obtain ⟨rfl, -⟩ := List.cons.inj heq
    exact h.head?_ne (by rw [htext]; rfl)

/-- A token on a line of its own, and the lines that follow, can be told from the text. -/
theorem text_append_inj (hwords : ∀ w ∈ words, ∀ x : Binary64, x.text ≠ w)
    (ht : t.IsScannable words) (hu : u.IsScannable words) {r s : Text}
    (h : t.text ++ '\n' :: r = u.text ++ '\n' :: s) : t = u ∧ r = s := by
  by_cases hts : ∃ content, t = .string content
  · obtain ⟨content, rfl⟩ := hts
    by_cases hus : ∃ content, u = .string content
    · obtain ⟨other, rfl⟩ := hus
      have hinside : content ++ '"' :: '\n' :: r = other ++ '"' :: '\n' :: s := by
        simpa [text] using h
      obtain ⟨rfl, hrs⟩ := string_append_inj (ht.imp_right fun h => ⟨h.1, h.2.1⟩)
        (hu.imp_right fun h => ⟨h.1, h.2.1⟩) hinside
      exact ⟨rfl, hrs⟩
    · have hbare := hu.isBare_or_string.resolve_right hus
      exact absurd h.symm (quote_ne_of_isBare hbare _ _)
  · have hbare := ht.isBare_or_string.resolve_right hts
    by_cases hus : ∃ content, u = .string content
    · obtain ⟨content, rfl⟩ := hus
      exact absurd h (quote_ne_of_isBare hbare _ _)
    · obtain ⟨htext, hrs⟩ :=
        bare_append_inj hbare (hu.isBare_or_string.resolve_right hus) h
      have htu := eq_of_text_eq hwords ht hu (fun content heq => hts ⟨content, heq⟩)
        (fun content heq => hus ⟨content, heq⟩) htext
      exact ⟨htu, hrs⟩

end Token

namespace TokenStream

/-- The lines for tokens of which the first one has the given position. -/
def dumpFrom (i : Nat) (tokens : List Token) : Text :=
  (tokens.zipIdx i).flatMap fun (token, i) => dumpLine i token

theorem dumpFrom_cons (i : Nat) (token : Token) (tokens : List Token) :
    dumpFrom i (token :: tokens) =
      (Text.numeral i ++ [':', ' ']) ++ (token.text ++ '\n' :: dumpFrom (i + 1) tokens) := by
  simp [dumpFrom, dumpLine]

theorem dumpFrom_inj {words : List Text} (hwords : ∀ w ∈ words, ∀ x : Binary64, x.text ≠ w)
    {tokens others : List Token} (htokens : ∀ token ∈ tokens, token.IsScannable words)
    (hothers : ∀ token ∈ others, token.IsScannable words) {i : Nat}
    (h : dumpFrom i tokens = dumpFrom i others) : tokens = others := by
  induction tokens generalizing others i with
  | nil =>
    cases others with
    | nil => rfl
    | cons other others =>
      rw [dumpFrom_cons] at h
      simp [dumpFrom] at h
  | cons token tokens ih =>
    cases others with
    | nil =>
      rw [dumpFrom_cons] at h
      simp [dumpFrom] at h
    | cons other others =>
      obtain ⟨htoken, hmore⟩ := List.forall_mem_cons.1 htokens
      obtain ⟨hother, hmore'⟩ := List.forall_mem_cons.1 hothers
      rw [dumpFrom_cons, dumpFrom_cons] at h
      obtain ⟨heq, hrest⟩ :=
        Token.text_append_inj hwords htoken hother (List.append_cancel_left h)
      rw [heq, ih hmore hmore' hrest]

end TokenStream

theorem Vocabulary.standard_sparesNumbers : standard.SparesNumbers := by
  intro w hw x htext
  have hfirst : ∀ w ∈ standard.words, ∀ c ∈ w.head?, c ∉ ['N', 'i', '-'] ∧ c.isDigit = false := by
    simp [standard, ReservedWord.all, ReservedWord.spelling]
  cases w with
  | nil => exact x.isBare_text.ne_nil htext
  | cons c rest =>
    obtain ⟨hmark, hdigit⟩ := hfirst _ hw c rfl
    rcases x.head?_text c (by rw [htext]; rfl) with h | h
    · exact hmark h
    · rw [hdigit] at h
      cases h

/-- If no reserved word looks like a number, which is so in the language itself, then
sources with the same dump have the same tokens. -/
theorem TokenStream.render_inj :
    Vocabulary.standard.SparesNumbers ∧
    ∀ (vocabulary : Vocabulary) (options : Options) (σ τ : Type)
      (receiver : Receiver σ LexicalError) (kept : σ) (other : Receiver τ LexicalError) (kept' : τ)
      (a b : Source) (tokens others : TokenStream),
      vocabulary.SparesNumbers → options.count = false →
        (ofSource a vocabulary receiver kept).1 = some tokens →
          (ofSource b vocabulary other kept').1 = some others →
            options.render tokens = options.render others → tokens = others := by
  refine ⟨Vocabulary.standard_sparesNumbers, ?_⟩
  intro vocabulary options σ τ receiver kept other kept' a b tokens others hwords hcount ha hb h
  have hreserved : ∀ w, vocabulary.isReserved w = true ↔ w ∈ vocabulary.words := by
    intro w
    rw [Vocabulary.isReserved, List.contains_iff_mem]
  have htokens : ∀ token ∈ tokens.tokens, token.IsScannable vocabulary.words :=
    fun token hmem => (ofSource_eq_some_iff.1 ha).isScannable hreserved hmem
  have hothers : ∀ token ∈ others.tokens, token.IsScannable vocabulary.words :=
    fun token hmem => (ofSource_eq_some_iff.1 hb).isScannable hreserved hmem
  have hrender : ∀ stream, options.render stream = dumpFrom 0 stream.tokens := by
    intro stream
    simp only [Options.render, hcount]
    rfl
  rw [hrender, hrender] at h
  obtain ⟨tokens⟩ := tokens
  obtain ⟨others⟩ := others
  exact congrArg mk (dumpFrom_inj hwords htokens hothers h)

/-- Two ways to write a string that looks like two lines of a dump, and a bare string with a
quotation mark in it. -/
theorem TokenStream.render_inj_inner_lines :
    let options : Options := ⟨[], [], false⟩
    let inner : Text := ['x', '\n', '1', ':', ' ', 'y']
    let a : Source := ⟨0, [], '"' :: inner ++ ['"', ' ', 'a', '"', 'b']⟩
    let b : Source := ⟨1, [], ['\t', '"'] ++ inner ++ ['"', 'a', '"', 'b', '\n']⟩
    let stream : TokenStream := ⟨[.string inner, .string ['a', '"', 'b']]⟩
    options.render stream = ("0: \"x\n1: y\"\n1: \"a\"b\"\n" : Text) ∧
      (ofSource a .standard Receiver.ignoring ()).1 = some stream ∧
      (ofSource a .standard Receiver.ignoring ()).1 =
        (ofSource b .standard Receiver.ignoring ()).1 := by
  intro options inner a b stream
  have hlast : ∀ gap rest, Lexeme.cut? (gap ++ ['a', '"', 'b'] ++ rest) =
        some ⟨gap, .bare ['a', '"', 'b'], rest⟩ → Lexeme.cut? rest = none →
      Vocabulary.standard.Reads (gap ++ ['a', '"', 'b'] ++ rest) [.string ['a', '"', 'b']] := by
    intro gap rest hcut hrest
    exact .token hcut rfl (.finished hrest)
  have hfirst : Lexeme.cut? a.content =
      some ⟨[], .quoted inner, [' ', 'a', '"', 'b']⟩ := rfl
  have hfirst' : Lexeme.cut? b.content =
      some ⟨['\t'], .quoted inner, ['a', '"', 'b', '\n']⟩ := rfl
  have ha : (ofSource a .standard Receiver.ignoring ()).1 = some stream :=
    ofSource_eq_some_iff.2 (.token hfirst rfl (hlast [' '] [] rfl rfl))
  have hb : (ofSource b .standard Receiver.ignoring ()).1 = some stream :=
    ofSource_eq_some_iff.2 (.token hfirst' rfl (hlast [] ['\n'] rfl rfl))
  have hsame := render_inj.2 .standard options Unit Unit Receiver.ignoring () Receiver.ignoring ()
    a b stream stream Vocabulary.standard_sparesNumbers rfl ha hb rfl
  exact ⟨by decide, ha, ha.trans ((congrArg some hsame).trans hb.symm)⟩

end Lexing
