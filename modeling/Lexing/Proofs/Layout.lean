import Lexing.Proofs.Scanner.Reads

/-!
# Layouts

A layout writes a source as pieces with gaps around them. A piece is a text between
quotation marks or a bare lexeme, and behind a bare piece there has to be a blank
unless the source ends with it. Layouts are a grammar of their own: they do not say how
the pieces are found. A source has one layout at most, and it is scanned along it.

## Main definitions

* `Layout.Piece`: what becomes one token.
* `Layout`: pieces with the gaps around them.
* `Layout.IsLayoutOf`: the layouts of a source.

## Main results

* `Layout.IsLayoutOf.unique`: a source has one layout at most.
* `Vocabulary.reads_iff_layout`: a text is read along its layout.
* `TokenStream.ofSource_layout`: the same of a whole source.
-/

namespace Lexing

/-- A part of a source that becomes one token. -/
inductive Layout.Piece where
  /-- A text between quotation marks. -/
  | quoted (content : Text)
  /-- A run of characters that does not begin with one. -/
  | bare (text : Text)
  deriving DecidableEq, Repr

namespace Layout.Piece

/-- The characters of the piece. -/
def written : Piece → Text
  | quoted content => '"' :: content ++ ['"']
  | bare text => text

/-- The token that the piece stands for, if it stands for one. -/
def token? (vocabulary : Vocabulary) : Piece → Option Token
  | quoted content => some (.string content)
  | bare text => vocabulary.classify text

/-- The piece as a lexeme. -/
def lexeme : Piece → Lexeme
  | quoted content => .quoted content
  | bare text => .bare text

@[simp] theorem written_lexeme (piece : Piece) : piece.lexeme.written = piece.written := by
  cases piece <;> rfl

@[simp] theorem token?_lexeme (vocabulary : Vocabulary) (piece : Piece) :
    piece.lexeme.token? vocabulary = piece.token? vocabulary := by
  cases piece <;> rfl

theorem lexeme_inj {a b : Piece} : a.lexeme = b.lexeme ↔ a = b := by
  cases a <;> cases b <;> simp [lexeme]

theorem exists_lexeme_eq {vocabulary : Vocabulary} {lexeme : Lexeme} {token : Token}
    (h : lexeme.token? vocabulary = some token) : ∃ piece : Piece, piece.lexeme = lexeme := by
  cases lexeme with
  | quoted content => exact ⟨.quoted content, rfl⟩
  | bare text => exact ⟨.bare text, rfl⟩
  | unclosed content => cases h

end Layout.Piece

/-- A way to write a source. -/
structure Layout where
  /-- The gap in front of the first piece. -/
  gap : Text
  /-- The pieces, each with the gap behind it. -/
  chain : List (Layout.Piece × Text)
  deriving DecidableEq, Repr

namespace Layout

/-- The characters of pieces and of the gaps behind them. -/
def chainText (chain : List (Piece × Text)) : Text :=
  chain.flatMap fun (piece, gap) => piece.written ++ gap

/-- The pieces, in order. -/
def pieces (layout : Layout) : List Piece :=
  layout.chain.map Prod.fst

/-- The text that is written in this way. -/
def text (layout : Layout) : Text :=
  layout.gap ++ chainText layout.chain

/-- Pieces that may follow each other with these gaps. -/
inductive IsChain : List (Piece × Text) → Prop
  | nil : IsChain []
  /-- There is no quotation mark between those of a quoted piece. -/
  | quoted {content gap : Text} {chain : List (Piece × Text)} (hcontent : '"' ∉ content)
      (hgap : IsGap gap) (hchain : IsChain chain) : IsChain ((.quoted content, gap) :: chain)
  /-- Only the last piece of a source can be bare and without a gap behind it. -/
  | bare {text gap : Text} {chain : List (Piece × Text)} (htext : IsBare text)
      (hgap : IsGap gap) (hend : gap = [] → chain = []) (hchain : IsChain chain) :
      IsChain ((.bare text, gap) :: chain)

/-- The layout is a way to write the source. -/
structure IsLayoutOf (layout : Layout) (source : Text) : Prop where
  isGap : IsGap layout.gap
  isChain : IsChain layout.chain
  text_eq : layout.text = source

@[simp] theorem chainText_nil : chainText [] = [] := rfl

@[simp] theorem chainText_cons (piece : Piece) (gap : Text) (chain : List (Piece × Text)) :
    chainText ((piece, gap) :: chain) = piece.written ++ (gap ++ chainText chain) := by
  simp [chainText]

theorem IsChain.precedes {piece : Piece} {gap : Text} {chain : List (Piece × Text)}
    (h : IsChain ((piece, gap) :: chain)) : piece.lexeme.Precedes (gap ++ chainText chain) := by
  cases h with
  | quoted hcontent => exact hcontent
  | bare htext hgap hend =>
    refine ⟨htext, ?_⟩
    by_cases hempty : gap = []
    · rw [hempty, hend hempty]
      exact IsGap.nil.startsWithBlank
    · exact hgap.startsWithBlank_append hempty _

theorem IsChain.tail {piece : Piece} {gap : Text} {chain : List (Piece × Text)}
    (h : IsChain ((piece, gap) :: chain)) : IsGap gap ∧ IsChain chain := by
  cases h with
  | quoted _ hgap hchain => exact ⟨hgap, hchain⟩
  | bare _ hgap _ hchain => exact ⟨hgap, hchain⟩

theorem cut?_eq_some {first gap : Text} {piece : Piece} {chain : List (Piece × Text)}
    (hfirst : IsGap first) (hchain : IsChain ((piece, gap) :: chain)) :
    Lexeme.cut? (first ++ chainText ((piece, gap) :: chain)) =
      some ⟨first, piece.lexeme, gap ++ chainText chain⟩ :=
  Lexeme.cut?_eq_some_iff.2 ⟨by simp, hfirst, hchain.precedes⟩

/-- A gap that ends behind a bare piece, and is not needed there, ends the source. -/
theorem eq_nil_of_startsWithBlank {chain : List (Piece × Text)} (hchain : IsChain chain)
    (hblank : StartsWithBlank (chainText chain)) : chain = [] := by
  cases chain with
  | nil => rfl
  | cons head chain =>
    obtain ⟨piece, gap⟩ := head
    exfalso
    obtain ⟨c, tail, hwritten, hc⟩ := Lexeme.written_eq_cons_of_precedes hchain.precedes
    rw [Piece.written_lexeme] at hwritten
    have hhead : isBlank c = true := hblank c (by simp [hwritten])
    rw [hc] at hhead
    cases hhead

/-- Gaps and pieces that write the same text are the same. -/
theorem IsChain.unique {gapA gapB : Text} {a b : List (Piece × Text)} (ha : IsChain a)
    (hgapA : IsGap gapA) (hgapB : IsGap gapB) (hb : IsChain b)
    (htext : gapA ++ chainText a = gapB ++ chainText b) : gapA = gapB ∧ a = b := by
  -- Both begin with what is cut off the text.
  induction a generalizing gapA gapB b with
  | nil =>
    have hcut : Lexeme.cut? (gapA ++ chainText []) = none :=
      Lexeme.cut?_eq_none_iff.2 (by simpa using hgapA)
    cases b with
    | nil => exact ⟨by simpa using htext, rfl⟩
    | cons head b =>
      rw [htext, cut?_eq_some hgapB hb] at hcut
      cases hcut
  | cons headA a ih =>
    obtain ⟨pieceA, nextA⟩ := headA
    have hcutA := cut?_eq_some hgapA ha
    cases b with
    | nil =>
      have hcut : Lexeme.cut? (gapB ++ chainText []) = none :=
        Lexeme.cut?_eq_none_iff.2 (by simpa using hgapB)
      rw [htext, hcut] at hcutA
      cases hcutA
    | cons headB b =>
      obtain ⟨pieceB, nextB⟩ := headB
      have hcutB := cut?_eq_some hgapB hb
      rw [← htext, hcutA] at hcutB
      simp only [Option.some.injEq, Lexeme.Cut.mk.injEq, Piece.lexeme_inj] at hcutB
      obtain ⟨rfl, rfl, hrest⟩ := hcutB
      obtain ⟨rfl, rfl⟩ := ih ha.tail.2 ha.tail.1 hb.tail.1 hb.tail.2 hrest
      exact ⟨rfl, rfl⟩

theorem IsLayoutOf.unique {source : Text} {a b : Layout} (ha : a.IsLayoutOf source)
    (hb : b.IsLayoutOf source) : a = b := by
  obtain ⟨gapA, chainA⟩ := a
  obtain ⟨gapB, chainB⟩ := b
  obtain ⟨rfl, rfl⟩ := ha.isChain.unique ha.isGap hb.isGap hb.isChain
    (ha.text_eq.trans hb.text_eq.symm)
  rfl

end Layout

/-- A text is read along its layout: every piece stands for one token. -/
theorem Vocabulary.reads_iff_layout {vocabulary : Vocabulary} {text : Text}
    {tokens : List Token} :
    vocabulary.Reads text tokens ↔ ∃ layout : Layout, layout.IsLayoutOf text ∧
      tokens.map some = layout.pieces.map (·.token? vocabulary) := by
  constructor
  · intro h
    induction h with
    | @finished text hcut =>
      exact ⟨⟨text, []⟩, ⟨Lexeme.cut?_eq_none_iff.1 hcut, .nil, by simp [Layout.text]⟩, rfl⟩
    | @token text cut token tokens hcut htoken _ ih =>
      obtain ⟨gap, lexeme, rest⟩ := cut
      obtain ⟨rfl, hgap, hlexeme⟩ := Lexeme.cut?_eq_some_iff.1 hcut
      obtain ⟨⟨next, chain⟩, ⟨hnext, hchain, hrest⟩, htokens⟩ := ih
      obtain ⟨piece, rfl⟩ := Layout.Piece.exists_lexeme_eq htoken
      simp only [Layout.text] at hnext hchain hrest
      subst hrest
      refine ⟨⟨gap, (piece, next) :: chain⟩, ⟨hgap, ?_, by simp [Layout.text]⟩, ?_⟩
      · cases piece with
        | quoted content => exact .quoted hlexeme hnext hchain
        | bare text =>
          refine .bare hlexeme.1 hnext (fun hempty => ?_) hchain
          have hblank : StartsWithBlank (next ++ Layout.chainText chain) := hlexeme.2
          rw [hempty] at hblank
          exact Layout.eq_nil_of_startsWithBlank hchain hblank
      · have hpiece : piece.token? vocabulary = some token := by simpa using htoken
        simpa [Layout.pieces, hpiece] using htokens
  · rintro ⟨⟨gap, chain⟩, ⟨hgap, hchain, rfl⟩, htokens⟩
    simp only [Layout.text] at hgap hchain ⊢
    induction chain generalizing gap tokens with
    | nil =>
      obtain rfl : tokens = [] := by simpa [Layout.pieces] using htokens
      exact .finished (Lexeme.cut?_eq_none_iff.2 (by simpa using hgap))
    | cons head chain ih =>
      obtain ⟨piece, next⟩ := head
      cases tokens with
      | nil => simp [Layout.pieces] at htokens
      | cons token tokens =>
        simp only [Layout.pieces, List.map_cons, List.cons.injEq] at htokens
        refine .token (Layout.cut?_eq_some hgap hchain) ?_ ?_
        · simpa using htokens.1.symm
        · exact ih _ htokens.2 hchain.tail.1 hchain.tail.2

/-- A source has one layout at most. It has a token stream exactly if it has a layout
of which every bare piece stands for a token, and then the tokens are those of the
pieces, one for each and in their order. -/
theorem TokenStream.ofSource_layout {σ : Type} (source : Source) (vocabulary : Vocabulary)
    (receiver : Receiver σ LexicalError) (kept : σ) :
    (∀ a b : Layout, a.IsLayoutOf source.content → b.IsLayoutOf source.content → a = b) ∧
    ((ofSource source vocabulary receiver kept).1.isSome = true ↔
      ∃ layout : Layout, layout.IsLayoutOf source.content ∧
        ∀ text, .bare text ∈ layout.pieces → (vocabulary.classify text).isSome = true) ∧
    ∀ (stream : TokenStream) (layout : Layout),
      (ofSource source vocabulary receiver kept).1 = some stream →
      layout.IsLayoutOf source.content →
      stream.tokens.map some = layout.pieces.map (·.token? vocabulary) := by
  refine ⟨fun a b => Layout.IsLayoutOf.unique, ⟨fun hsome => ?_, ?_⟩, ?_⟩
  · obtain ⟨stream, hstream⟩ := Option.isSome_iff_exists.1 hsome
    obtain ⟨layout, hlayout, htokens⟩ :=
      Vocabulary.reads_iff_layout.1 (ofSource_eq_some_iff.1 hstream)
    refine ⟨layout, hlayout, fun text hmem => ?_⟩
    have hmap : vocabulary.classify text ∈ layout.pieces.map (·.token? vocabulary) :=
      List.mem_map_of_mem (f := (·.token? vocabulary)) hmem
    rw [← htokens] at hmap
    obtain ⟨token, -, htoken⟩ := List.mem_map.1 hmap
    rw [← htoken]
    rfl
  · rintro ⟨layout, hlayout, hbare⟩
    -- Every piece of the layout stands for a token, so there is the list of these.
    have hpieces : ∀ piece ∈ layout.pieces, (piece.token? vocabulary).isSome = true := by
      intro piece hpiece
      cases piece with
      | quoted content => rfl
      | bare text => exact hbare text hpiece
    have htokens : (layout.pieces.filterMap (·.token? vocabulary)).map some =
        layout.pieces.map (·.token? vocabulary) := by
      generalize layout.pieces = pieces at hpieces
      induction pieces with
      | nil => rfl
      | cons piece pieces ih =>
        obtain ⟨token, htoken⟩ := Option.isSome_iff_exists.1 (hpieces piece (by simp))
        have hrest := ih fun other hother => hpieces other (by simp [hother])
        simp [htoken, hrest]
    have hreads := Vocabulary.reads_iff_layout.2 ⟨layout, hlayout, htokens⟩
    exact Option.isSome_iff_exists.2 ⟨⟨_⟩, ofSource_eq_some_iff.2 hreads⟩
  · intro stream layout hstream hlayout
    obtain ⟨other, hother, htokens⟩ :=
      Vocabulary.reads_iff_layout.1 (ofSource_eq_some_iff.1 hstream)
    rw [hlayout.unique hother]
    exact htokens

end Lexing
