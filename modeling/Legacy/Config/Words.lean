import Mathlib.Data.List.Chain

/-!
# The words of a configuration line

Model of `DOTCONFDocument::cleanupLine` (`src/src/shared/Config/dotconfpp/dotconfpp.cpp`), which cuts a line of a
configuration file into words. The buffer of the line is rewritten in place, with `bg` never after `line`, so what is
still to be read is the rest of the list, and what stands between `start` and `bg` is the word that is being written.
-/

namespace Legacy.Config

/-- A C string without its NUL at the end: a `Char` stands for a byte of it. -/
abbrev Word := List Char

/-- The NUL character that ends a C string. -/
abbrev nul : Char := Char.ofNat 0

/-- Source `isspace`. -/
def isspace (c : Char) : Bool := c = ' ' || (9 ≤ c.toNat && c.toNat ≤ 13)

/-- What `cleanupLine` keeps while it goes through a line; `quoted` and `words` outlive the line. -/
structure Cleanup where
  words : List Word
  start : Word
  concat : Bool
  quoted : Bool
deriving DecidableEq, Repr

/-- The end of a word: an empty one is dropped, and the first word after a line that ended inside quotes goes on with
the last word of that line. -/
def Cleanup.push (s : Cleanup) : Cleanup :=
  if s.start = [] then s
  else if s.concat then
    { s with words := s.words.dropLast ++ [s.words.getLast?.getD [] ++ s.start], concat := false, start := [] }
  else { s with words := s.words ++ [s.start], start := [] }

/-- A character is written to the word. -/
def Cleanup.put (s : Cleanup) (c : Char) : Cleanup := { s with start := s.start ++ [c] }

/-- The loop over the characters of a line, where `skip` is the inner loop over white space. The result is `-1` for an
unterminated quote and `1` when the next line continues this one. -/
def cleanupLoop (skip : Bool) (s : Cleanup) : List Char → Cleanup × Int
  | [] => (s, if s.quoted then -1 else 0)
  | c :: line =>
    if skip && isspace c then cleanupLoop true s line
    else if (c = '#' || c = ';') && !s.quoted then (s.push, 0)
    else if c = '=' && !s.quoted then cleanupLoop true s.push line
    else if c = '\\' then
      match line with
      | [] => cleanupLoop false (s.put '\\') []
      | d :: rest =>
        if d = '\'' then cleanupLoop false (s.put '\'') rest
        else if d = 'n' then cleanupLoop false (s.put '\n') rest
        else if d = 'r' then cleanupLoop false (s.put '\r') rest
        else if d = '\n' || d = '\r' then (s.push, 1)
        else cleanupLoop false (s.put '\\') (d :: rest)
    else if c = '"' || c = '\'' then cleanupLoop false { s with quoted := !s.quoted } line
    else if isspace c && !s.quoted then cleanupLoop true s.push line
    else cleanupLoop false (s.put c) line

/-- Source `DOTCONFDocument::cleanupLine`. -/
def cleanupLine (words : List Word) (quoted : Bool) (line : List Char) : Cleanup × Int :=
  cleanupLoop false ⟨words, [], !words.isEmpty && quoted, quoted⟩ line

section Spelling

/-- A character that stands for itself outside quotes. -/
def Bare (c : Char) : Prop :=
  isspace c = false ∧ c ≠ '#' ∧ c ≠ ';' ∧ c ≠ '=' ∧ c ≠ '\\' ∧ c ≠ '"' ∧ c ≠ '\'' ∧ c ≠ nul

/-- A character that ends a word outside quotes. -/
def Separates (c : Char) : Prop := (isspace c = true ∨ c = '=') ∧ c ≠ '\n'

/-- How a character is written between double quotes. -/
def encode (c : Char) : List Char :=
  if c = '\'' then ['\\', '\''] else if c = '\n' then ['\\', 'n'] else if c = '\r' then ['\\', 'r'] else [c]

/-- A text that can be written between double quotes: a backslash stands for itself unless an escape would begin. -/
def Quotable (w : Word) : Prop :=
  (∀ c ∈ w, c ≠ '"' ∧ c ≠ nul) ∧ w.IsChain fun c d => c = '\\' → d ≠ 'n' ∧ d ≠ 'r'

instance (c : Char) : Decidable (Bare c) := inferInstanceAs (Decidable (_ ∧ _))
instance (c : Char) : Decidable (Separates c) := inferInstanceAs (Decidable (_ ∧ _))
instance (w : Word) : Decidable (Quotable w) :=
  haveI := List.decidableBAll (fun c => c ≠ '"' ∧ c ≠ nul) w
  inferInstanceAs (Decidable (_ ∧ _))

/-- The ways to write a word: bare characters and quoted parts, one after the other. -/
inductive Spells : Word → List Char → Prop where
  | nil : Spells [] []
  | bare {c w t} : Bare c → Spells w t → Spells (c :: w) (c :: t)
  | quote {v w t} : Quotable v → Spells w t → Spells (v ++ w) ('"' :: v.flatMap encode ++ '"' :: t)

/-- The rest of a line after a word, with its words. The line ends with a line feed, after a comment perhaps, or with a
backslash before the line feed, and then `more` is true and the next line continues it. -/
inductive Ending : Bool → List Char → List Word → Prop where
  | newline : Ending false ['\n'] []
  | comment {c t} : c = '#' ∨ c = ';' → '\n' ∉ t → nul ∉ t → Ending false (c :: t ++ ['\n']) []
  | continued : Ending true ['\\', '\n'] []
  | word {more c w t rest ws} : Separates c → Spells w t → Ending more rest ws →
      Ending more (c :: t ++ rest) (if w = [] then ws else w :: ws)

/-- A line with its words: words that are spelled by nothing, or by a pair of quotes, are not among them. -/
inductive Line : Bool → List Char → List Word → Prop where
  | mk {more w t rest ws} : Spells w t → Ending more rest ws → Line more (t ++ rest) (if w = [] then ws else w :: ws)

variable {s : Cleanup} {skip more : Bool} {c : Char} {v w : Word} {t rest line : List Char} {ws words : List Word}

/-- White space is not among the characters that the loop looks for first. -/
lemma plain_of_isspace (space : isspace c = true) :
    c ≠ '#' ∧ c ≠ ';' ∧ c ≠ '=' ∧ c ≠ '\\' ∧ c ≠ '"' ∧ c ≠ '\'' := by
  refine ⟨?_, ?_, ?_, ?_, ?_, ?_⟩ <;> rintro rfl <;> cases space

/-- An empty word is dropped. -/
lemma push_of_nil (empty : s.start = []) : s.push = s := if_pos empty

/-- A new word begins empty. -/
lemma start_push : s.push.start = [] := by
  unfold Cleanup.push
  split_ifs with empty
  · exact empty
  · rfl
  · rfl

/-- The end of a word does not end the quotes. -/
lemma quoted_push : s.push.quoted = s.quoted := by
  unfold Cleanup.push
  split_ifs <;> rfl

/-- A word that stands alone goes behind the others. -/
lemma push_eq (alone : s.concat = false) :
    s.push = { s with words := s.words ++ (if s.start = [] then [] else [s.start]), start := [] } := by
  obtain ⟨words, start, concat, quoted⟩ := s
  cases alone
  cases start with
  | nil => exact congrArg (Cleanup.mk · [] false quoted) (List.append_nil words).symm
  | cons c cs => rfl

/-- A separator outside quotes ends the word. -/
lemma cleanupLoop_separates (bare : s.quoted = false) (sep : isspace c = true ∨ c = '=') :
    cleanupLoop false s (c :: line) = cleanupLoop true s.push line := by
  rw [cleanupLoop.eq_def, bare]
  rcases sep with space | rfl
  · obtain ⟨noHash, noSemicolon, noEquals, noBackslash, noQuote, noApostrophe⟩ := plain_of_isspace space
    simp only [Bool.false_eq_true, if_false, noHash, noSemicolon, noEquals, noBackslash, noQuote,
      noApostrophe, decide_false, Bool.or_false, space, Bool.not_false, Bool.and_true, if_true]
  · rfl

/-- White space is passed over. -/
lemma cleanupLoop_isspace (space : isspace c = true) : cleanupLoop true s (c :: line) = cleanupLoop true s line := by
  rw [cleanupLoop.eq_def]
  dsimp only
  rw [space]
  rfl

/-- A character that is no white space ends the inner loop. -/
lemma cleanupLoop_notSpace (other : isspace c = false) :
    cleanupLoop true s (c :: line) = cleanupLoop false s (c :: line) := by
  rw [cleanupLoop.eq_def, cleanupLoop.eq_def false s (c :: line)]
  dsimp only
  rw [other]
  rfl

/-- The inner loop over white space skips what the outer loop would skip. -/
lemma cleanupLoop_skip (bare : s.quoted = false) (empty : s.start = []) :
    cleanupLoop true s line = cleanupLoop false s line := by
  cases line with
  | nil => rfl
  | cons c line =>
    cases space : isspace c with
    | true => rw [cleanupLoop_separates bare (Or.inl space), push_of_nil empty, cleanupLoop_isspace space]
    | false => exact cleanupLoop_notSpace space

/-- A bare character is written to the word. -/
lemma cleanupLoop_put (bare : Bare c) : cleanupLoop false s (c :: line) = cleanupLoop false (s.put c) line := by
  obtain ⟨noSpace, noHash, noSemicolon, noEquals, noBackslash, noQuote, noApostrophe, -⟩ := bare
  rw [cleanupLoop.eq_def]
  simp only [Bool.false_and, Bool.false_eq_true, if_false, noHash, noSemicolon, noEquals, noBackslash, noQuote,
    noApostrophe, decide_false, Bool.or_false, noSpace]

/-- A double quote begins a quoted part or ends it. -/
lemma cleanupLoop_quote :
    cleanupLoop false s ('"' :: line) = cleanupLoop false { s with quoted := !s.quoted } line := by
  rw [cleanupLoop.eq_def]
  rfl

/-- Between quotes a character comes out as it was before it was encoded. -/
lemma cleanupLoop_encode (inside : s.quoted = true) (noQuote : c ≠ '"')
    (next : c = '\\' → ∀ d ∈ line.head?, d ≠ '\'' ∧ d ≠ 'n' ∧ d ≠ 'r' ∧ d ≠ '\n' ∧ d ≠ '\r') :
    cleanupLoop false s (encode c ++ line) = cleanupLoop false (s.put c) line := by
  unfold encode
  split_ifs with apostrophe lineFeed carriageReturn
  · subst apostrophe
    rfl
  · subst lineFeed
    rfl
  · subst carriageReturn
    rfl
  · rw [List.singleton_append, cleanupLoop.eq_def, inside]
    by_cases backslash : c = '\\'
    · subst backslash
      cases line with
      | nil => rfl
      | cons d line =>
        obtain ⟨noApostrophe, noN, noR, noFeed, noReturn⟩ := next rfl d rfl
        simp only [noApostrophe, noN, noR, noFeed, noReturn, decide_false, Bool.or_self, Bool.false_eq_true, if_false]
        rfl
    · simp only [backslash, noQuote, apostrophe, decide_false, Bool.not_true, Bool.and_false, Bool.or_self,
        Bool.false_eq_true, if_false, Bool.false_and]

/-- An encoded character does not begin like the rest of an escape. -/
lemma head_encode (c : Char) (line : List Char) : (c ≠ 'n' ∧ c ≠ 'r') → c ≠ '"' → ∀ d ∈ (encode c ++ line).head?,
    d ≠ '\'' ∧ d ≠ 'n' ∧ d ≠ 'r' ∧ d ≠ '\n' ∧ d ≠ '\r' := by
  intro noEscape _ d mem
  unfold encode at mem
  split_ifs at mem with apostrophe lineFeed carriageReturn
  · cases mem
    decide
  · cases mem
    decide
  · cases mem
    decide
  · cases mem
    exact ⟨apostrophe, noEscape.1, noEscape.2, lineFeed, carriageReturn⟩

/-- A quoted part is read as the text that it is the encoding of. -/
lemma cleanupLoop_quotable (quotable : Quotable v) (inside : s.quoted = true) :
    cleanupLoop false s (v.flatMap encode ++ '"' :: line) =
      cleanupLoop false { s with start := s.start ++ v } ('"' :: line) := by
  obtain ⟨chars, chain⟩ := quotable
  induction v generalizing s with
  | nil =>
    rw [List.append_nil]
    rfl
  | cons c v ih =>
    obtain ⟨noQuote, -⟩ := chars c List.mem_cons_self
    rw [List.flatMap_cons, List.append_assoc, cleanupLoop_encode inside noQuote]
    · rw [ih (s := s.put c) inside (fun d mem => chars d (List.mem_cons_of_mem c mem)) chain.tail]
      rw [Cleanup.put, List.append_assoc, List.singleton_append]
    · rintro rfl
      cases v with
      | nil =>
        intro d mem
        cases mem
        decide
      | cons d v =>
        rw [List.flatMap_cons, List.append_assoc]
        exact head_encode d _ (List.isChain_cons_cons.mp chain |>.1 rfl)
          (chars d (List.mem_cons_of_mem _ List.mem_cons_self)).1

/-- However a word is written, its characters are added to what was read of it. -/
lemma cleanupLoop_spells (spells : Spells w t) (bare : s.quoted = false) :
    cleanupLoop false s (t ++ rest) = cleanupLoop false { s with start := s.start ++ w } rest := by
  induction spells generalizing s with
  | nil => rw [List.append_nil, List.nil_append]
  | @bare c w t plain spells ih =>
    rw [List.cons_append, cleanupLoop_put plain, ih (s := s.put c) bare, Cleanup.put, List.append_assoc,
      List.singleton_append]
  | @quote v w t quotable spells ih =>
    rw [List.cons_append, List.cons_append, List.append_assoc, List.cons_append, cleanupLoop_quote,
      cleanupLoop_quotable quotable (congrArg not bare), cleanupLoop_quote]
    dsimp only
    rw [Bool.not_not, ih (s := { s with start := s.start ++ v }) bare]
    dsimp only
    rw [List.append_assoc]

/-- A word is put behind other words, unless it is empty. -/
lemma append_word (w : Word) :
    (words ++ if w = [] then [] else [w]) ++ ws = words ++ if w = [] then ws else w :: ws := by
  cases w with
  | nil => rw [if_pos rfl, if_pos rfl, List.append_nil]
  | cons d w =>
    rw [if_neg (List.cons_ne_nil d w), if_neg (List.cons_ne_nil d w), List.append_assoc]
    rfl

/-- The rest of a line ends its word and has its words behind it. -/
lemma cleanupLoop_ending (ending : Ending more line ws) (bare : s.quoted = false) (alone : s.concat = false) :
    cleanupLoop false s line = ({ s.push with words := s.push.words ++ ws }, if more then 1 else 0) := by
  induction ending generalizing s with
  | newline =>
    rw [cleanupLoop_separates bare (Or.inl rfl), List.append_nil, cleanupLoop, quoted_push, bare]
    rfl
  | comment mark =>
    rw [List.append_nil, List.cons_append, cleanupLoop.eq_def, bare]
    rcases mark with rfl | rfl <;> rfl
  | continued =>
    rw [List.append_nil]
    rfl
  | @word more c w t rest ws sep spells ending ih =>
    have bare' : s.push.quoted = false := quoted_push.trans bare
    have alone' : s.push.concat = false := by
      rw [push_eq alone]
      exact alone
    have start' : s.push.start = [] := start_push
    rw [List.cons_append, cleanupLoop_separates bare sep.1, cleanupLoop_skip bare' start',
      cleanupLoop_spells spells bare']
    generalize s.push = s' at bare' alone' start'
    obtain ⟨words, start, concat, quoted⟩ := s'
    dsimp only at bare' alone' start' ⊢
    subst bare' alone' start'
    rw [ih rfl rfl, push_eq rfl, List.nil_append]
    exact congrArg (fun words => (Cleanup.mk words [] false false, if more then 1 else 0)) (append_word w)

/-- A line is read as its words, behind the words of the lines that it continues. -/
theorem cleanupLine_line (here : Line more line ws) :
    cleanupLine words false line = (⟨words ++ ws, [], false, false⟩, if more then 1 else 0) := by
  obtain @⟨w, t, rest, ws, spells, ending⟩ := here
  rw [cleanupLine, Bool.and_false, cleanupLoop_spells spells rfl, cleanupLoop_ending ending rfl rfl, push_eq rfl]
  dsimp only
  rw [List.nil_append]
  exact congrArg (fun words => (Cleanup.mk words [] false false, if more then 1 else 0)) (append_word w)

/-- A text without a line feed or a NUL before its end. -/
def Unbroken (t : List Char) : Prop := ∀ c ∈ t, c ≠ '\n' ∧ c ≠ nul

/-- The empty text is unbroken. -/
lemma unbroken_nil : Unbroken [] := fun _ mem => absurd mem List.not_mem_nil

/-- A text is unbroken when its first character and its rest are. -/
lemma unbroken_cons : Unbroken (c :: t) ↔ (c ≠ '\n' ∧ c ≠ nul) ∧ Unbroken t := List.forall_mem_cons

/-- So are two texts one behind the other. -/
lemma unbroken_append {t' : List Char} : Unbroken (t ++ t') ↔ Unbroken t ∧ Unbroken t' := List.forall_mem_append

/-- A character between quotes is written without a line feed. -/
lemma unbroken_encode (c : Char) (other : c ≠ nul) : Unbroken (encode c) := by
  unfold encode
  split_ifs with apostrophe lineFeed carriageReturn
  · exact unbroken_cons.mpr ⟨by decide, unbroken_cons.mpr ⟨by decide, unbroken_nil⟩⟩
  · exact unbroken_cons.mpr ⟨by decide, unbroken_cons.mpr ⟨by decide, unbroken_nil⟩⟩
  · exact unbroken_cons.mpr ⟨by decide, unbroken_cons.mpr ⟨by decide, unbroken_nil⟩⟩
  · exact unbroken_cons.mpr ⟨⟨lineFeed, other⟩, unbroken_nil⟩

/-- So is a text between quotes. -/
lemma unbroken_flatMap_encode (chars : ∀ d ∈ v, d ≠ nul) : Unbroken (v.flatMap encode) := by
  intro d mem
  obtain ⟨c, there, mem⟩ := List.mem_flatMap.mp mem
  exact unbroken_encode c (chars c there) d mem

/-- A character that ends a word ends no line. -/
lemma Separates.ne (sep : Separates c) : c ≠ '\n' ∧ c ≠ nul := by
  refine ⟨sep.2, ?_⟩
  rintro rfl
  rcases sep.1 with space | eq
  · cases space
  · exact absurd eq (by decide)

/-- A word is written without a line feed. -/
lemma Spells.unbroken (spells : Spells w t) : Unbroken t := by
  induction spells with
  | nil => exact unbroken_nil
  | @bare c w t plain spells ih =>
    refine unbroken_cons.mpr ⟨⟨?_, plain.2.2.2.2.2.2.2⟩, ih⟩
    rintro rfl
    cases plain.1
  | @quote v w t quotable spells ih =>
    have inside := unbroken_flatMap_encode fun d mem => (quotable.1 d mem).2
    refine unbroken_append.mpr ⟨unbroken_cons.mpr ⟨by decide, inside⟩, ?_⟩
    exact unbroken_cons.mpr ⟨by decide, ih⟩

/-- The only line feed of a line is at its end. -/
lemma Ending.unbroken (ending : Ending more line ws) : ∃ t, line = t ++ ['\n'] ∧ Unbroken t := by
  induction ending with
  | newline => exact ⟨[], rfl, unbroken_nil⟩
  | @comment c t mark noFeed noNul =>
    refine ⟨c :: t, rfl, unbroken_cons.mpr ⟨?_, fun d mem => ⟨?_, ?_⟩⟩⟩
    · rcases mark with rfl | rfl <;> decide
    · rintro rfl
      exact noFeed mem
    · rintro rfl
      exact noNul mem
  | continued => exact ⟨['\\'], rfl, unbroken_cons.mpr ⟨by decide, unbroken_nil⟩⟩
  | @word more c w t rest ws sep spells ending ih =>
    obtain ⟨t', rfl, unbroken⟩ := ih
    refine ⟨c :: t ++ t', (List.append_assoc ..).symm, ?_⟩
    exact unbroken_append.mpr ⟨unbroken_cons.mpr ⟨sep.ne, spells.unbroken⟩, unbroken⟩

/-- A line ends with its only line feed, and has no NUL in it. -/
lemma Line.unbroken (here : Line more line ws) : ∃ t, line = t ++ ['\n'] ∧ Unbroken t := by
  obtain ⟨spells, ending⟩ := here
  obtain ⟨t, rfl, unbroken⟩ := ending.unbroken
  exact ⟨_, (List.append_assoc ..).symm, unbroken_append.mpr ⟨spells.unbroken, unbroken⟩⟩

/-- No word is empty when it has ended. -/
lemma push_words (some_char : ∀ w ∈ s.words, w ≠ []) : ∀ w ∈ s.push.words, w ≠ [] := by
  unfold Cleanup.push
  split_ifs with empty joined
  · exact some_char
  · intro w mem
    rcases List.mem_append.mp mem with mem | mem
    · exact some_char w (List.dropLast_subset _ mem)
    · cases List.mem_singleton.mp mem
      exact List.append_ne_nil_of_right_ne_nil _ empty
  · intro w mem
    rcases List.mem_append.mp mem with mem | mem
    · exact some_char w mem
    · cases List.mem_singleton.mp mem
      exact empty

variable (skip line) in
/-- No line makes an empty word. -/
lemma cleanupLoop_words (some_char : ∀ w ∈ s.words, w ≠ []) : ∀ w ∈ (cleanupLoop skip s line).1.words, w ≠ [] := by
  fun_induction cleanupLoop skip s line with
  | case1 => exact some_char
  | case3 => exact push_words some_char
  | case9 => exact push_words some_char
  | case4 _ _ _ _ _ _ _ ih => exact ih (push_words some_char)
  | case12 _ _ _ _ _ _ _ _ _ _ ih => exact ih (push_words some_char)
  | _ => rename_i ih; exact ih some_char

end Spelling

end Legacy.Config
