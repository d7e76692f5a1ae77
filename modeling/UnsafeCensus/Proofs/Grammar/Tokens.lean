/-
**Where tokens stand.**

Each part of the scanner ends at or after the offset at which it begins, and inside of the data. So the tokens
of some bytes follow one another inside of the data, and the first one stands at or after the first character
that is no blank.

* `Reaches`: an offset at or after another one, inside of the data;
* `reaches_classEnd`, `reaches_gapEnd`: what is passed over;
* `takes_tokenAt`: one token;
* `Ordered`: tokens that follow one another inside of some data;
* `ordered_scan`: the tokens of some bytes.
-/

import Mathlib
import UnsafeCensus.Grammar.Scanner
import UnsafeCensus.Proofs.Text.Subparts

namespace UnsafeCensus.Grammar

/-- An offset is at or after another one, and inside of the data. -/
structure Reaches (data : ByteArray) (offset stop : Nat) : Prop where
  after : offset ≤ stop
  inside : stop ≤ data.size

variable {data : ByteArray} {offset middle stop : Nat}

theorem Reaches.refl (inside : offset ≤ data.size) : Reaches data offset offset :=
  ⟨le_rfl, inside⟩

theorem Reaches.of_le (before : offset ≤ middle) (reaches : Reaches data middle stop) :
    Reaches data offset stop :=
  ⟨before.trans reaches.after, reaches.inside⟩

/-! ### Characters -/

theorem lt_of_isAt {letter : Char} (found : isAt data offset letter = true) : offset < data.size := by
  rw [isAt, beq_iff_eq, Option.map_eq_some_iff] at found
  obtain ⟨byte, known, _⟩ := found
  exact (getElem?_eq_some_iff.mp known).1

theorem size_le_of_head? {bytes : List UInt8} {piece : Utf8.Piece}
    (first : (Utf8.pieces bytes).head? = some piece) : piece.size ≤ bytes.length := by
  obtain ⟨rest, split⟩ := List.head?_eq_some_iff.mp first
  rw [← Utf8.sum_size_pieces, split, List.map_cons, List.sum_cons]
  exact Nat.le_add_right _ _

/-- A character ends inside of the data. -/
theorem inside_of_letterAt? {letter : Char} {width : Nat}
    (found : letterAt? data offset = some (letter, width)) :
    offset < data.size ∧ offset + width ≤ data.size := by
  unfold letterAt? at found
  split at found
  · cases found
  · rename_i byte known
    have below : offset < data.size := (getElem?_eq_some_iff.mp known).1
    refine ⟨below, ?_⟩
    split at found
    · cases found
      exact below
    · obtain ⟨piece, first, same⟩ := Option.map_eq_some_iff.mp found
      cases same
      have fits := size_le_of_head? first
      rw [Utf8.toList_eq_toList_data] at fits
      have length : (data.extract offset (offset + 4)).data.toList.length
          = min (offset + 4) data.size - offset := ByteArray.size_extract
      omega

theorem reaches_skipWhile (keeps : Char → Bool) (left : Nat) (inside : offset ≤ data.size) :
    Reaches data offset (skipWhile data keeps offset left) := by
  induction left generalizing offset with
  | zero => exact .refl inside
  | succ left hypothesis =>
    rw [skipWhile]
    split
    · rename_i letter width found
      split
      · exact (hypothesis (inside_of_letterAt? found).2).of_le (Nat.le_add_right _ _)
      · exact .refl inside
    · exact .refl inside

theorem reaches_classEnd (keeps : Char → Bool) (inside : offset ≤ data.size) :
    Reaches data offset (classEnd data keeps offset) :=
  reaches_skipWhile keeps _ inside

/-! ### Blanks and comments -/

/-- The offset at which the closing of a comment has to stand is one that was passed. -/
theorem le_ending_step {progress : BlockProgress} {bound : Nat} (low : Nat)
    (known : bound ≤ progress.ending) (before : bound ≤ offset) :
    bound ≤ (progress.step low offset).ending := by
  obtain ⟨state, depth, ending⟩ := progress
  have known : bound ≤ ending := known
  have later : bound ≤ offset + 1 := before.trans (Nat.le_succ _)
  cases state <;> simp only [BlockProgress.step] <;> split_ifs <;>
    first | exact known | exact before | exact later

theorem le_ending_runBlock {progress : BlockProgress} {bound : Nat} (left : Nat)
    (known : bound ≤ progress.ending) (before : bound ≤ offset) :
    bound ≤ (runBlock data progress offset left).ending := by
  induction left generalizing progress offset with
  | zero => exact known
  | succ left hypothesis =>
    rw [runBlock]
    split
    · exact known
    · split
      · exact hypothesis (le_ending_step _ known before) (before.trans (Nat.le_add_right _ _))
      · exact known

theorem le_blockClosing : offset ≤ blockClosing data offset := by
  unfold blockClosing
  split
  · exact le_rfl
  · dsimp only
    split
    · exact le_rfl
    · exact le_ending_runBlock _ (Nat.le_add_right _ _) (Nat.le_add_right _ _)

theorem le_blockContents : offset ≤ blockContents data offset := by
  unfold blockContents
  split_ifs <;> omega

theorem reaches_of_blockCommentEnd? (ends : blockCommentEnd? data offset = some stop) :
    Reaches data offset stop := by
  unfold blockCommentEnd? at ends
  dsimp only at ends
  split at ends
  · rename_i closed
    cases ends
    rw [Bool.and_eq_true] at closed
    have last := lt_of_isAt closed.2
    have first : offset ≤ blockClosing data (blockContents data offset) :=
      le_blockContents.trans le_blockClosing
    exact ⟨first.trans (Nat.le_add_right _ _), last⟩
  · cases ends

theorem reaches_lineCommentEnd (inside : offset ≤ data.size) :
    Reaches data offset (lineCommentEnd data offset) :=
  reaches_classEnd _ inside

/-- Blanks come first among what is left out. -/
theorem reaches_skipGaps_succ {left : Nat}
    (others : ∀ offset ≤ data.size, Reaches data offset (skipGaps data offset left))
    (inside : offset ≤ data.size) :
    Reaches data (classEnd data isGap offset) (skipGaps data offset (left + 1)) := by
  have blanks := (reaches_classEnd isGap inside).inside
  rw [skipGaps]
  split_ifs with line block
  · rw [Bool.and_eq_true] at line
    have opened : classEnd data isGap offset + 2 ≤ data.size := lt_of_isAt line.2
    have comment := reaches_lineCommentEnd opened
    exact ((others _ comment.inside).of_le comment.after).of_le (Nat.le_add_right _ _)
  · split
    · rename_i stop ends
      have comment := reaches_of_blockCommentEnd? ends
      exact ((others _ comment.inside).of_le comment.after).of_le (Nat.le_add_right _ _)
    · exact .refl blanks
  · exact .refl blanks

theorem reaches_skipGaps (left : Nat) (inside : offset ≤ data.size) :
    Reaches data offset (skipGaps data offset left) := by
  induction left generalizing offset with
  | zero => exact .refl inside
  | succ left hypothesis =>
    exact (reaches_skipGaps_succ (fun _ inside => hypothesis inside) inside).of_le
      (reaches_classEnd isGap inside).after

theorem reaches_gapEnd (inside : offset ≤ data.size) :
    Reaches data (classEnd data isGap offset) (gapEnd data offset) := by
  have rounds : data.size + 1 - offset = data.size - offset + 1 := by omega
  rw [gapEnd, rounds]
  exact reaches_skipGaps_succ (fun _ inside => reaches_skipGaps _ inside) inside

/-! ### Literals and names -/

theorem inside_of_areHexDigits (digits : areHexDigits data offset stop = true)
    (inside : offset ≤ data.size) : stop ≤ data.size :=
  (of_decide_eq_true digits).trans (reaches_classEnd isHexDigit inside).inside

theorem reaches_of_escapeEnd? (ends : escapeEnd? data offset = some stop) : Reaches data offset stop := by
  unfold escapeEnd? at ends
  split at ends
  · cases ends
  · rename_i letter width found
    obtain ⟨below, within⟩ := inside_of_letterAt? found
    dsimp only at ends
    split_ifs at ends with byte digits wide braced closed digits <;> cases ends
    · exact ⟨Nat.le_add_right _ _, inside_of_areHexDigits digits below⟩
    · rw [Bool.and_eq_true] at closed
      have opened : offset + 2 ≤ data.size := lt_of_isAt braced
      have digits := (reaches_classEnd isHexDigit opened).after
      exact ⟨by omega, lt_of_isAt closed.2⟩
    · exact ⟨Nat.le_add_right _ _, inside_of_areHexDigits digits below⟩
    · exact ⟨Nat.le_add_right _ _, within⟩

theorem reaches_of_runText {left : Nat} (inside : offset ≤ data.size)
    (ends : runText data offset left = some stop) : Reaches data offset stop := by
  induction left generalizing offset with
  | zero => cases ends
  | succ left hypothesis =>
    have plain := (reaches_classEnd (fun letter => letter != '"' && letter != '\\') inside).after
    rw [runText] at ends
    split_ifs at ends with quote escape
    · cases ends
      exact ⟨plain.trans (Nat.le_succ _), lt_of_isAt quote⟩
    · split at ends
      · rename_i next escaped
        have part := reaches_of_escapeEnd? escaped
        exact ((hypothesis part.inside ends).of_le part.after).of_le (plain.trans (Nat.le_succ _))
      · cases ends

theorem reaches_of_runRawText {hashes left : Nat} (inside : offset ≤ data.size)
    (ends : runRawText data hashes offset left = some stop) : Reaches data offset stop := by
  induction left generalizing offset with
  | zero => cases ends
  | succ left hypothesis =>
    have plain := (reaches_classEnd (fun letter => letter != '"') inside).after
    rw [runRawText] at ends
    dsimp only at ends
    split_ifs at ends with quote closed
    · cases ends
      have marks := (reaches_classEnd (fun letter => letter == '#') (lt_of_isAt quote)).inside
      exact ⟨by omega, closed.trans marks⟩
    · exact (hypothesis (lt_of_isAt quote) ends).of_le (plain.trans (Nat.le_succ _))

theorem reaches_of_rawTextEnd? (inside : offset ≤ data.size)
    (ends : rawTextEnd? data offset = some (some stop)) : Reaches data offset stop := by
  obtain ⟨⟨hashes, opened⟩, opening, found⟩ := Option.map_eq_some_iff.mp ends
  have marks := (reaches_classEnd (fun letter => letter == '#') inside).after
  unfold rawOpening? at opening
  dsimp only at opening
  split_ifs at opening with quote
  cases opening
  exact (reaches_of_runRawText (lt_of_isAt quote) found).of_le (marks.trans (Nat.le_succ _))

theorem reaches_of_characterEnd? (ends : characterEnd? data offset = some stop) :
    Reaches data offset stop := by
  have closed {place stop : Nat}
      (close : (if isAt data place '\'' then some (place + 1) else none) = some stop) :
      Reaches data place stop := by
    split_ifs at close with quote
    cases close
    exact ⟨Nat.le_succ _, lt_of_isAt quote⟩
  unfold characterEnd? at ends
  split at ends
  · cases ends
  · rename_i letter width found
    obtain ⟨below, within⟩ := inside_of_letterAt? found
    split_ifs at ends with empty escape
    · cases ends
      exact ⟨Nat.le_succ _, below⟩
    · obtain ⟨next, escaped, close⟩ := Option.bind_eq_some_iff.mp ends
      exact ((closed close).of_le (reaches_of_escapeEnd? escaped).after).of_le (Nat.le_succ _)
    · exact (closed ends).of_le (Nat.le_add_right _ _)

theorem reaches_of_fractionalEnd? (below : offset < data.size)
    (ends : fractionalEnd? data offset = some stop) : Reaches data offset stop := by
  unfold fractionalEnd? at ends
  extract_lets whole letterAfterPoint pointed stopsAtPoint fraction marked signed power exponent number
    suffixed suffix at ends
  have digits : Reaches data offset whole :=
    (reaches_classEnd isDigitOrLowLine below).of_le (Nat.le_succ _)
  split at ends
  · cases ends
  have decimals : Reaches data offset fraction := by
    unfold fraction
    split
    · rename_i point
      exact (reaches_classEnd isDigitOrLowLine (lt_of_isAt point)).of_le
        (digits.after.trans (Nat.le_succ _))
    · exact digits
  have powers (mark : marked = true) : Reaches data offset exponent := by
    have mark : fraction < data.size :=
      (Bool.or_eq_true _ _ ▸ mark).elim lt_of_isAt lt_of_isAt
    have sign : Reaches data offset power := by
      unfold power
      split
      · rename_i sign
        have sign : fraction + 1 < data.size :=
          (Bool.or_eq_true _ _ ▸ sign).elim lt_of_isAt lt_of_isAt
        exact ⟨decimals.after.trans (Nat.le_add_right _ _), sign⟩
      · exact ⟨decimals.after.trans (Nat.le_succ _), mark⟩
    exact (reaches_classEnd isDigitOrLowLine sign.inside).of_le sign.after
  split at ends
  · exact Option.some.inj ends ▸ decimals
  split at ends
  · cases ends
  have numbers : Reaches data offset number := by
    unfold number
    split
    · exact powers ‹_›
    · exact decimals
  split at ends
  · rename_i suffixes
    rw [Bool.and_eq_true] at suffixes
    have letter : number < data.size := by
      have letter := suffixes.1
      simp only [suffixed, Bool.or_eq_true] at letter
      exact letter.elim (fun letter => letter.elim lt_of_isAt lt_of_isAt) lt_of_isAt
    exact Option.some.inj ends ▸ (reaches_classEnd Char.isDigit letter).of_le
      (numbers.after.trans (Nat.le_succ _))
  · exact Option.some.inj ends ▸ numbers

theorem inside_of_startsWith {letters : List Char} (inside : offset ≤ data.size)
    (found : startsWith data offset letters = true) : offset + letters.length ≤ data.size := by
  induction letters generalizing offset with
  | nil => exact inside
  | cons letter rest hypothesis =>
    rw [startsWith, Bool.and_eq_true] at found
    have others := hypothesis (lt_of_isAt found.1) found.2
    rw [List.length_cons]
    omega

theorem reaches_foldl_max {stops : List Nat} (inside : offset ≤ data.size)
    (all : ∀ stop ∈ stops, stop ≤ data.size) : Reaches data offset (stops.foldl max offset) := by
  induction stops generalizing offset with
  | nil => exact .refl inside
  | cons stop rest hypothesis =>
    rw [List.forall_mem_cons] at all
    exact (hypothesis (max_le inside all.1) all.2).of_le (le_max_left _ _)

theorem reaches_suffixEnd (inside : offset ≤ data.size) :
    Reaches data offset (suffixEnd data offset) := by
  refine reaches_foldl_max inside fun stop member => ?_
  obtain ⟨suffix, found, rfl⟩ := List.mem_map.mp member
  exact inside_of_startsWith inside (List.of_mem_filter found)

theorem reaches_wholeEnd (below : offset < data.size) : Reaches data offset (wholeEnd data offset) := by
  unfold wholeEnd
  extract_lets based binary octal digits
  have inBase (base : Char) (isDigit : Char → Bool) :
      ∀ stop ∈ based base isDigit, Reaches data offset stop := by
    intro stop ends
    have ends : based base isDigit = some stop := ends
    simp only [based, Option.ite_none_right_eq_some] at ends
    obtain ⟨opened, same⟩ := ends
    cases same
    simp only [Bool.and_eq_true] at opened
    have letter : offset + 1 < data.size := lt_of_isAt opened.1.2
    have opened : offset + 2 ≤ data.size := letter
    exact (reaches_classEnd _ opened).of_le (Nat.le_add_right _ _)
  have digits : Reaches data offset digits := by
    unfold digits
    cases sixteen : based 'x' isHexDigit with
    | some stop => exact inBase _ _ stop sixteen
    | none =>
      cases two : binary with
      | some stop => exact inBase _ _ stop two
      | none =>
        cases eight : octal with
        | some stop => exact inBase _ _ stop eight
        | none => exact reaches_classEnd isDigitOrLowLine below.le
  exact (reaches_suffixEnd digits.inside).of_le digits.after

theorem reaches_of_wordEnd? (ends : wordEnd? data offset = some stop) : Reaches data offset stop := by
  unfold wordEnd? at ends
  split at ends
  · rename_i letter width found
    split at ends
    · cases ends
      exact (reaches_classEnd Identifier.isContinue (inside_of_letterAt? found).2).of_le
        (Nat.le_add_right _ _)
    · cases ends
  · cases ends

/-! ### Tokens -/

/-- A token begins at an offset and ends inside of the data. -/
structure Takes (data : ByteArray) (offset : Nat) (token : Token) : Prop where
  start : token.start = offset
  reaches : Reaches data offset token.stop

variable {token : Token}

theorem takes_stray (inside : offset ≤ data.size) : Takes data offset ⟨.stray, offset, data.size⟩ :=
  ⟨rfl, inside, le_rfl⟩

theorem takes_literalOrStray {found : Option Nat} (inside : offset ≤ data.size)
    (ends : ∀ stop, found = some stop → Reaches data offset stop) :
    Takes data offset (literalOrStray data offset found) := by
  cases found with
  | none => exact takes_stray inside
  | some stop => exact ⟨rfl, ends stop rfl⟩

theorem takes_of_quotedAt? (below : offset < data.size) (found : quotedAt? data offset = some token) :
    Takes data offset token := by
  unfold quotedAt? at found
  extract_lets lettered quote at found
  have before : offset ≤ quote := by
    unfold quote
    split_ifs
    · exact Nat.le_succ _
    · exact le_rfl
  have opened {letter : Char} (opening : isAt data quote letter = true) : quote + 1 ≤ data.size :=
    lt_of_isAt opening
  have passed : offset ≤ quote + 1 := before.trans (Nat.le_succ _)
  split_ifs at found with text raw character
  · cases found
    exact takes_literalOrStray below.le fun stop ends =>
      (reaches_of_runText (opened text) ends).of_le passed
  · obtain ⟨closing, known, rfl⟩ := Option.map_eq_some_iff.mp found
    rw [Bool.and_eq_true] at raw
    refine takes_literalOrStray below.le fun stop ends => ?_
    exact (reaches_of_rawTextEnd? (opened raw.1) (known.trans (congrArg some ends))).of_le passed
  · obtain ⟨stop, ends, rfl⟩ := Option.map_eq_some_iff.mp found
    exact ⟨rfl, (reaches_of_characterEnd? ends).of_le passed⟩

theorem takes_of_wordAt? (found : wordAt? data offset = some token) : Takes data offset token := by
  unfold wordAt? at found
  extract_lets raw at found
  obtain ⟨stop, ends, rfl⟩ := Option.map_eq_some_iff.mp found
  refine ⟨rfl, ?_⟩
  rcases Option.or_eq_some_iff.mp ends with marked | ⟨_, plain⟩
  · unfold raw at marked
    split_ifs at marked
    exact (reaches_of_wordEnd? marked).of_le (Nat.le_add_right _ _)
  · exact reaches_of_wordEnd? plain

theorem takes_numberAt (below : offset < data.size) (afterPoint : Bool) :
    Takes data offset (numberAt data offset afterPoint) := by
  unfold numberAt
  split
  · rename_i stop ends
    split_ifs at ends
    exact ⟨rfl, reaches_of_fractionalEnd? below ends⟩
  · exact ⟨rfl, reaches_wholeEnd below⟩

/-- The token at an offset begins there and ends inside of the data. -/
theorem takes_tokenAt (below : offset < data.size) (letter : Char) (afterPoint : Bool) :
    Takes data offset (tokenAt data offset letter afterPoint) := by
  unfold tokenAt
  split
  · exact takes_of_quotedAt? below ‹_›
  split
  · exact takes_of_wordAt? ‹_›
  split_ifs
  · exact takes_numberAt below afterPoint
  · exact ⟨rfl, Nat.le_succ _, below⟩
  · exact takes_stray below.le

/-- Tokens follow one another between two offsets. -/
structure Ordered (first last : Nat) (tokens : Array Token) : Prop where
  covers : ∀ {index : Nat} {token : Token}, tokens[index]? = some token →
    first ≤ token.start ∧ token.start ≤ token.stop ∧ token.stop ≤ last
  follows : ∀ {index : Nat} {before after : Token}, tokens[index]? = some before →
    tokens[index + 1]? = some after → before.stop ≤ after.start

variable {tokens : Array Token} {first : Nat}

theorem ordered_push (ordered : Ordered first data.size tokens) (lower : first ≤ offset)
    (past : ∀ token ∈ tokens.back?, token.stop ≤ offset) (takes : Takes data offset token) :
    Ordered first data.size (tokens.push token) := by
  have later {index : Nat} {other : Token} (there : (tokens.push token)[index]? = some other) :
      tokens[index]? = some other ∨ index = tokens.size ∧ other = token := by
    rw [Array.getElem?_push] at there
    split_ifs at there with last
    · exact .inr ⟨last, (Option.some.inj there).symm⟩
    · exact .inl there
  constructor
  · intro index other there
    rcases later there with known | ⟨_, rfl⟩
    · exact ordered.covers known
    · exact ⟨takes.start ▸ lower, takes.start ▸ takes.reaches.after, takes.reaches.inside⟩
  · intro index before after there next
    rcases later there with known | ⟨rfl, _⟩
    · rcases later next with known' | ⟨last, rfl⟩
      · exact ordered.follows known known'
      · rw [takes.start]
        refine past before ?_
        rw [Option.mem_def, Array.back?_eq_getElem?, ← last, Nat.add_sub_cancel, known]
    · have inside := (Array.getElem?_eq_some_iff.mp next).1
      rw [Array.size_push] at inside
      exact absurd inside (Nat.lt_irrefl _)

/-- Each round adds a token after the others, by induction on the rounds that are left. -/
theorem ordered_scanFrom (left : Nat) (inside : offset ≤ data.size) (lower : first ≤ offset)
    (ordered : Ordered first data.size tokens) (past : ∀ token ∈ tokens.back?, token.stop ≤ offset) :
    Ordered first data.size (scanFrom data tokens offset left) := by
  induction left generalizing tokens offset with
  | zero => exact ordered
  | succ left hypothesis =>
    have gap := (reaches_gapEnd inside).of_le (reaches_classEnd isGap inside).after
    rw [scanFrom]
    generalize gapEnd data offset = start at gap ⊢
    split
    · exact ordered
    · rename_i letter _ found
      have takes : Takes data start (tokenAt data start letter (endsWithPoint tokens)) :=
        takes_tokenAt (inside_of_letterAt? found).1 letter _
      have pushed := ordered_push ordered (lower.trans gap.after)
        (fun token known => (past token known).trans gap.after) takes
      dsimp only
      split_ifs
      · exact pushed
      · refine hypothesis takes.reaches.inside ((lower.trans gap.after).trans takes.reaches.after) pushed ?_
        intro token known
        rw [Array.back?_push, Option.mem_def, Option.some.injEq] at known
        exact known ▸ le_rfl

/-- **The tokens of some bytes follow one another**, from the first character that is no blank up to the
end. -/
theorem ordered_scan (data : ByteArray) :
    (scan data).first ≤ data.size ∧ Ordered (scan data).first data.size (scan data).tokens := by
  unfold scan
  extract_lets origin first start start'
  have mark : origin ≤ data.size := by
    unfold origin
    split_ifs with marked
    · exact inside_of_startsWith (Nat.zero_le _) marked
    · exact Nat.zero_le _
  have gap : Reaches data first start := reaches_gapEnd mark
  have line : Reaches data first start' := by
    unfold start'
    cases ends : interpreterEnd? data start with
    | none => exact gap
    | some stop =>
      unfold interpreterEnd? at ends
      extract_lets stop' at ends
      split_ifs at ends with opened
      cases ends
      simp only [Bool.and_eq_true] at opened
      have hash : start + 1 < data.size := lt_of_isAt opened.1.1.2
      have body : start + 2 ≤ stop' := (reaches_classEnd _ hash).after
      have further : start ≤ stop' + 1 := by omega
      exact ⟨gap.after.trans further, lt_of_isAt opened.2⟩
  refine ⟨gap.after.trans gap.inside, ?_⟩
  exact ordered_scanFrom _ line.inside line.after ⟨nofun, nofun⟩ nofun

end UnsafeCensus.Grammar
