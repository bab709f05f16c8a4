import Lexing.Proofs.Scannable

/-!
# The order of scanned tokens

Numbers are ordered by value, and a word that is NaN has no value. Two lists of tokens
are compared up to the first tokens that differ, so one NaN can leave them without an
order, and a list that holds one is not even equal to itself. No lexeme stands for NaN.
Without it the comparison of tokens is one of their *keys*: kind, number and letters,
in this order. Keys are totally ordered, and so are lists of them and what may be
missing. Two numbers of one key are equal as values: they are the same word, or the two
zeros.

## Main definitions

* `Token.place`, `Token.letters`: with `Token.rank` the key of a token. The instances of
  `Ord` for tokens and streams compare keys.
* `Token.isNaN`: the tokens to which the order of keys does not apply.
* `TokenStream.IsScanned`: what can come of a source, with or without an error.
* `TokenStream.IsTotallyOrdered`: what is expected of a total order.

## Main results

* `TokenStream.compareOptional?_eq`: without NaN, streams are compared by their keys.
* `TokenStream.isTotallyOrdered_isScanned`: what comes of sources is totally ordered.
-/

namespace Lexing

namespace Binary64

variable {x y : Binary64}

theorem place_eq_zero_of_magnitude (h : x.magnitude = 0) : x.place = 0 := by
  rw [place, h]
  split <;> rfl

theorem eq_of_isNegative_of_magnitude (hsign : x.isNegative = y.isNegative)
    (hmagnitude : x.magnitude = y.magnitude) : x = y := by
  rw [← x.ofMagnitude_magnitude, ← y.ofMagnitude_magnitude, hsign, hmagnitude]

/-- Only the two zeros share their place. -/
theorem place_eq_iff : x.place = y.place ↔ x = y ∨ (x.magnitude = 0 ∧ y.magnitude = 0) := by
  constructor
  · intro h
    by_cases hsign : x.isNegative = y.isNegative
    · refine Or.inl (eq_of_isNegative_of_magnitude hsign ?_)
      rw [place, place, hsign] at h
      split at h <;> omega
    · right
      cases hx : x.isNegative with
      | true =>
        have hy : y.isNegative = false := by simpa [hx] using hsign
        rw [place, place, hx, hy] at h
        simp only [if_true, Bool.false_eq_true, if_false] at h
        omega
      | false =>
        have hy : y.isNegative = true := by simpa [hx] using hsign
        rw [place, place, hx, hy] at h
        simp only [if_true, Bool.false_eq_true, if_false] at h
        omega
  · rintro (rfl | ⟨hx, hy⟩)
    · rfl
    · rw [place_eq_zero_of_magnitude hx, place_eq_zero_of_magnitude hy]

theorem compare?_eq (hx : x.isNaN = false) (hy : y.isNaN = false) :
    x.compare? y = some (compare x.place y.place) := by
  rw [compare?, hx, hy]
  rfl

-- The zeros are two words, and they are equal in the order.
example : (⟨0⟩ : Binary64).compare? ⟨0x8000000000000000⟩ = some .eq := by decide

theorem compare?_self_eq_none (hx : x.isNaN = true) : x.compare? x = none := by
  rw [compare?, hx]
  rfl

theorem sameValue_iff (hx : x.isNaN = false) (hy : y.isNaN = false) :
    x.sameValue y = true ↔ x.place = y.place := by
  rw [place_eq_iff, sameValue, hx, hy]
  simp

end Binary64

namespace Symbol

/-- The position of the symbol among the symbols. -/
def index : Symbol → Nat
  | semicolon => 0
  | equals => 1
  | plus => 2
  | minus => 3

theorem compare_eq (a b : Symbol) : compare a b = compare (a.index : Int) b.index := by
  cases a <;> cases b <;> rfl

theorem index_inj {a b : Symbol} : (a.index : Int) = b.index ↔ a = b := by
  cases a <;> cases b <;> decide

end Symbol

namespace Token

/-- The place of a token among those of its kind, as far as a number tells it. -/
def place : Token → Int
  | name _ => 0
  | symbol kind => kind.index
  | number x => x.place
  | string _ => 0

/-- The letters that tell tokens of one kind apart. -/
def letters : Token → Text
  | name identifier => identifier
  | symbol _ => []
  | number _ => []
  | string content => content

/-- Whether the token is a number that stands for none. -/
def isNaN : Token → Bool
  | number x => x.isNaN
  | _ => false

instance : Ord Token :=
  ⟨compareLex (compareOn rank) (compareLex (compareOn place) (compareOn letters))⟩

instance : Std.TransOrd Token :=
  inferInstanceAs (Std.TransCmp
    (compareLex (compareOn rank) (compareLex (compareOn place) (compareOn letters))))

variable {a b : Token}

theorem compare_eq (a b : Token) :
    compare a b =
      (compare a.rank b.rank).then
        ((compare a.place b.place).then (compare a.letters b.letters)) := rfl

theorem compare_eq_eq_iff :
    compare a b = .eq ↔ a.rank = b.rank ∧ a.place = b.place ∧ a.letters = b.letters := by
  rw [compare_eq, Ordering.then_eq_eq, Ordering.then_eq_eq, Std.compare_eq_iff_eq,
    Std.compare_eq_iff_eq, Std.compare_eq_iff_eq]

theorem compare?_eq (ha : a.isNaN = false) (hb : b.isNaN = false) :
    a.compare? b = some (compare a b) := by
  rw [compare_eq]
  cases a <;> cases b
  case number.number x y => simp [compare?, Binary64.compare?_eq ha hb, rank, place, letters]
  case name.name s t => simp [compare?, rank, place, letters]
  case symbol.symbol s t => simp [compare?, Symbol.compare_eq, rank, place, letters]
  case string.string s t => simp [compare?, rank, place, letters]
  -- Tokens of two kinds are told apart by the kind alone.
  all_goals rfl

theorem sameValue_iff (ha : a.isNaN = false) (hb : b.isNaN = false) :
    a.sameValue b = true ↔ compare a b = .eq := by
  rw [compare_eq_eq_iff]
  cases a <;> cases b
  case number.number x y => simp [sameValue, Binary64.sameValue_iff ha hb, rank, place, letters]
  case symbol.symbol s t =>
    have hplace : (symbol s).place = (symbol t).place ↔ s = t := Symbol.index_inj
    simp [sameValue, hplace, rank, letters]
  all_goals simp [sameValue, rank, place, letters]

theorem compare?_self_eq_none (ha : a.isNaN = true) : a.compare? a = none := by
  cases a with
  | number x => exact Binary64.compare?_self_eq_none ha
  | _ => cases ha

theorem isNaN_of_isScannable {words : List Text} (h : a.IsScannable words) : a.isNaN = false := by
  cases a with
  | number x => exact h
  | _ => rfl

theorem isNaN_of_classify {vocabulary : Vocabulary} {text : Text}
    (h : vocabulary.classify text = some a) : a.isNaN = false := by
  cases Vocabulary.classify_eq_some_iff.1 h with
  | digit => exact Binary64.isNaN_value _
  | literal => exact Binary64.isNaN_value _
  | _ => rfl

end Token

namespace TokenStream

/-- Whether some number of the stream is NaN. -/
def hasNaN (stream : TokenStream) : Bool :=
  stream.tokens.any Token.isNaN

instance : Ord TokenStream := ⟨compareOn tokens⟩

instance : Std.TransOrd TokenStream := inferInstanceAs (Std.TransCmp (compareOn tokens))

theorem compareTokens?_eq {as bs : List Token} (has : as.any Token.isNaN = false)
    (hbs : bs.any Token.isNaN = false) : compareTokens? as bs = some (compare as bs) := by
  induction as generalizing bs with
  | nil => cases bs <;> rfl
  | cons a as ih =>
    cases bs with
    | nil => rfl
    | cons b bs =>
      rw [List.any_cons, Bool.or_eq_false_iff] at has hbs
      rw [compareTokens?, Token.compare?_eq has.1 hbs.1, List.compare_cons_cons, ih has.2 hbs.2]
      cases compare a b <;> rfl

theorem sameTokens_iff {as bs : List Token} (has : as.any Token.isNaN = false)
    (hbs : bs.any Token.isNaN = false) : sameTokens as bs = true ↔ compare as bs = .eq := by
  induction as generalizing bs with
  | nil => cases bs <;> simp [sameTokens]
  | cons a as ih =>
    cases bs with
    | nil => simp [sameTokens]
    | cons b bs =>
      rw [List.any_cons, Bool.or_eq_false_iff] at has hbs
      rw [sameTokens, Bool.and_eq_true, Token.sameValue_iff has.1 hbs.1, ih has.2 hbs.2,
        List.compare_cons_cons, Ordering.then_eq_eq]

/-- A list is left without a place by its first NaN, also when compared with itself. -/
theorem compareTokens?_self_eq_none {tokens : List Token}
    (h : tokens.any Token.isNaN = true) : compareTokens? tokens tokens = none := by
  induction tokens with
  | nil => cases h
  | cons token tokens ih =>
    rw [compareTokens?]
    cases htoken : token.isNaN with
    | true => rw [Token.compare?_self_eq_none htoken]
    | false =>
      rw [List.any_cons, htoken, Bool.false_or] at h
      rw [Token.compare?_eq htoken htoken, Std.ReflOrd.compare_self]
      exact ih h

/-- What a source comes to under a vocabulary: a stream, or none if there is an error. -/
def IsScanned (result : Option TokenStream) : Prop :=
  ∃ (σ : Type) (receiver : Receiver σ LexicalError) (kept : σ) (source : Source)
    (vocabulary : Vocabulary), (ofSource source vocabulary receiver kept).1 = result

theorem IsScanned.hasNaN_eq_false {result : Option TokenStream} (h : IsScanned result) :
    ∀ stream ∈ result, stream.hasNaN = false := by
  obtain ⟨σ, receiver, kept, source, vocabulary, rfl⟩ := h
  intro stream hstream
  rw [hasNaN, List.any_eq_false]
  intro token hmem
  rw [Bool.not_eq_true]
  have hreads := ofSource_eq_some_iff.1 hstream
  exact Token.isNaN_of_isScannable (hreads.isScannable (fun _ => List.contains_iff_mem) hmem)

theorem compareOptional?_eq {x y : Option TokenStream} (hx : ∀ stream ∈ x, stream.hasNaN = false)
    (hy : ∀ stream ∈ y, stream.hasNaN = false) : compareOptional? x y = some (compare x y) := by
  cases x with
  | none => cases y <;> rfl
  | some a =>
    cases y with
    | none => rfl
    | some b => exact compareTokens?_eq (hx a rfl) (hy b rfl)

theorem sameOptional_iff {x y : Option TokenStream} (hx : ∀ stream ∈ x, stream.hasNaN = false)
    (hy : ∀ stream ∈ y, stream.hasNaN = false) :
    sameOptional x y = true ↔ compare x y = .eq := by
  cases x with
  | none => cases y <;> simp [sameOptional]
  | some a =>
    cases y with
    | none => simp [sameOptional]
    | some b => exact sameTokens_iff (hx a rfl) (hy b rfl)

/-- The order of streams, of which each may be missing, is total on `results`. -/
structure IsTotallyOrdered (results : Option TokenStream → Prop) : Prop where
  /-- Any two have an order. -/
  total {x y : Option TokenStream} : results x → results y →
    ∃ order, compareOptional? x y = some order
  /-- They are equal in this order exactly if they have the same tokens. -/
  eq_iff {x y : Option TokenStream} : results x → results y →
    (compareOptional? x y = some .eq ↔ sameOptional x y = true)
  /-- The other way round the order is reversed. -/
  swap {x y : Option TokenStream} : results x → results y →
    compareOptional? y x = (compareOptional? x y).map Ordering.swap
  /-- What is not greater than `y` is not greater than what `y` is not greater than, and
  equal to it only if all three are equal. -/
  trans {x y z : Option TokenStream} : results x → results y → results z →
    ∀ {first second : Ordering}, compareOptional? x y = some first →
      compareOptional? y z = some second → first.isLE = true → second.isLE = true →
        compareOptional? x z = some (first.then second)

theorem compare_eq_then {α : Type} [Ord α] [Std.TransOrd α] {x y z : α}
    (hxy : (compare x y).isLE = true) (hyz : (compare y z).isLE = true) :
    compare x z = (compare x y).then (compare y z) := by
  cases h : compare x y with
  | lt => exact Std.TransCmp.lt_of_lt_of_isLE h hyz
  | eq => exact Std.TransCmp.congr_left h
  | gt => rw [h] at hxy; cases hxy

/-- Results without NaN are totally ordered. -/
theorem isTotallyOrdered_of_hasNaN_eq_false {results : Option TokenStream → Prop}
    (h : ∀ {result}, results result → ∀ stream ∈ result, stream.hasNaN = false) :
    IsTotallyOrdered results where
  total hx hy := ⟨_, compareOptional?_eq (h hx) (h hy)⟩
  eq_iff hx hy := by
    rw [compareOptional?_eq (h hx) (h hy), sameOptional_iff (h hx) (h hy), Option.some.injEq]
  swap hx hy := by
    rw [compareOptional?_eq (h hx) (h hy), compareOptional?_eq (h hy) (h hx), Option.map_some,
      ← Std.OrientedCmp.eq_swap]
  trans hx hy hz := by
    intro first second hfirst hsecond hxy hyz
    rw [compareOptional?_eq (h hx) (h hy), Option.some.injEq] at hfirst
    rw [compareOptional?_eq (h hy) (h hz), Option.some.injEq] at hsecond
    subst hfirst
    subst hsecond
    rw [compareOptional?_eq (h hx) (h hz), compare_eq_then hxy hyz]

/-- The order of what comes of sources is total, as no lexeme stands for NaN. A stream that
is made with NaN has no order, not even with itself. -/
theorem isTotallyOrdered_isScanned :
    IsTotallyOrdered IsScanned ∧
      (∀ (vocabulary : Vocabulary) (text : Text),
        ∀ token ∈ vocabulary.classify text, token.isNaN = false) ∧
      ∀ stream : TokenStream,
        compareOptional? (some stream) (some stream) = none ↔ stream.hasNaN = true := by
  refine ⟨isTotallyOrdered_of_hasNaN_eq_false IsScanned.hasNaN_eq_false,
    fun _ _ _ => Token.isNaN_of_classify, fun stream => ⟨?_, compareTokens?_self_eq_none⟩⟩
  intro h
  by_contra hnumbers
  rw [Bool.not_eq_true] at hnumbers
  rw [compareOptional?, compare?, compareTokens?_eq hnumbers hnumbers] at h
  cases h

end TokenStream

end Lexing
