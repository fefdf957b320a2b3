import OroEdge.Lib.Cron
import Mathlib.Tactic.Common

/-!
# Reading a crontab

The lines of a system crontab, as cron reads them: blank lines and comments, settings of the
environment, and entries of five fields, a user and a command.  Of the fields, `readField` knows
the fragment of `OroEdge.Lib.Cron`; a line with any other field is not an entry.

An entry that is written out is read back, whatever its words are, if these have no blanks and no
equals signs (`readLine_text`).

Reading is done in three layers, which are also those of the proof.  A text is cut into lines
and a line into words by one function (`pieces`), and a text of words with blanks between them
is cut into just these words (`words_unwords`).  A field or a number is read back by itself
(`readField_render`), since its text has no characters but digits, `*` and `/`
(`render_facts`).  And a line is an entry only if it is not a comment or a setting, which is
decided by its first word and its first equals sign; that is what `Entry.Plain` keeps apart.

A file is read line by line (`read_append`), so what holds of a line holds of each line of a
file that is written in a loop.
-/

namespace OroEdge.Lib.Cron

/-! ## Pieces of a text -/

/-- The text is cut at each separator. -/
def pieces (isSep : Char → Bool) : List Char → List (List Char)
  | [] => [[]]
  | c :: rest => if isSep c then [] :: pieces isSep rest else (pieces isSep rest).modifyHead (c :: ·)

theorem pieces_ne_nil (isSep : Char → Bool) (text : List Char) : pieces isSep text ≠ [] := by
  induction text with
  | nil => exact List.cons_ne_nil _ _
  | cons c rest ih =>
      rw [pieces]
      split
      · exact List.cons_ne_nil _ _
      · cases hpieces : pieces isSep rest with
        | nil => exact absurd hpieces ih
        | cons first others => exact List.cons_ne_nil _ _

/-- The pieces of two texts with a separator between them. -/
theorem pieces_append {isSep : Char → Bool} {sep : Char} (hsep : isSep sep = true)
    (first second : List Char) :
    pieces isSep (first ++ sep :: second) = pieces isSep first ++ pieces isSep second := by
  induction first with
  | nil => simp [pieces, hsep]
  | cons c first ih =>
      rw [List.cons_append, pieces, pieces]
      split
      · rw [ih, List.cons_append]
      · rw [ih]
        cases hpieces : pieces isSep first with
        | nil => exact absurd hpieces (pieces_ne_nil isSep first)
        | cons piece others => rfl

theorem pieces_of_forall {isSep : Char → Bool} {piece : List Char}
    (hpiece : ∀ c ∈ piece, isSep c = false) : pieces isSep piece = [piece] := by
  induction piece with
  | nil => rfl
  | cons c piece ih =>
      obtain ⟨hc, hpiece⟩ := List.forall_mem_cons.mp hpiece
      rw [pieces, if_neg (by simp [hc]), ih hpiece]
      rfl

def isBlank (c : Char) : Bool := c = ' ' || c = '\t'

/-- The lines of a text, without their ends. -/
def lines : List Char → List (List Char) := pieces (· = '\n')

def words (line : List Char) : List (List Char) := (pieces isBlank line).filter (· ≠ [])

/-! ### Words with blanks between them -/

/-- A word that is not empty and has no blank. -/
def IsWord (word : List Char) : Prop := word ≠ [] ∧ ∀ c ∈ word, isBlank c = false

instance (word : List Char) : Decidable (IsWord word) :=
  @instDecidableAnd _ _ _ (List.decidableBAll _ word)

/-- The words of a line, with a blank between them. -/
def unwords : List (List Char) → List Char
  | [] => []
  | [word] => word
  | word :: rest => word ++ ' ' :: unwords rest

theorem words_unwords {ws : List (List Char)} (hwords : ∀ word ∈ ws, IsWord word) :
    words (unwords ws) = ws := by
  induction ws with
  | nil => rfl
  | cons word rest ih =>
      obtain ⟨⟨hne, hword⟩, hrest⟩ := List.forall_mem_cons.mp hwords
      cases rest with
      | nil =>
          rw [unwords, words, pieces_of_forall hword]
          simp [hne]
      | cons next rest =>
          have hih := ih hrest
          rw [words] at hih
          rw [unwords, words, pieces_append (by decide), pieces_of_forall hword,
            List.singleton_append, List.filter_cons_of_pos (by simp [hne]), hih]
          exact List.cons_ne_nil _ _

/-! ## Fields -/

/-- A number is one digit or more. -/
def readNumber (digits : List Char) : Option ℕ :=
  if digits ≠ [] ∧ digits.all Char.isDigit then some (Nat.ofDigitChars 10 digits 0) else none

/-- A field of the pattern. -/
def readField : List Char → Option Field
  | ['*'] => some .any
  | '*' :: '/' :: digits => (readNumber digits).map .every
  | digits => (readNumber digits).map .value

theorem readNumber_toDigits (n : ℕ) : readNumber (Nat.toDigits 10 n) = some n := by
  have hdigits : (Nat.toDigits 10 n).all Char.isDigit = true :=
    List.all_eq_true.mpr fun c hc => Nat.isDigit_of_mem_toDigits (by omega) (by omega) hc
  rw [readNumber, if_pos ⟨Nat.toDigits_ne_nil, hdigits⟩, Nat.ofDigitChars_ten_toDigits]

theorem toList_toString (n : ℕ) : (toString n).toList = Nat.toDigits 10 n := Nat.toList_repr

theorem readField_of_digits {digits : List Char} (hdigits : ∀ c ∈ digits, c.isDigit = true) :
    readField digits = (readNumber digits).map .value := by
  unfold readField
  split
  · exact absurd (hdigits '*' List.mem_cons_self) (by decide)
  · exact absurd (hdigits '*' List.mem_cons_self) (by decide)
  · rfl

theorem isDigit_of_mem_toDigits {n : ℕ} {c : Char} (hc : c ∈ Nat.toDigits 10 n) :
    c.isDigit = true :=
  Nat.isDigit_of_mem_toDigits (by omega) (by omega) hc

theorem toList_render (field : Field) : field.render.toList =
    match field with
    | .any => ['*']
    | .every n => '*' :: '/' :: Nat.toDigits 10 n
    | .value n => Nat.toDigits 10 n := by
  cases field with
  | any => rfl
  | every n =>
      rw [Field.render, String.toList_append, toList_toString]
      rfl
  | value n => exact toList_toString n

/-- A field is read back. -/
theorem readField_render (field : Field) : readField field.render.toList = some field := by
  rw [toList_render]
  cases field with
  | any => rfl
  | every n =>
      dsimp only
      rw [readField, readNumber_toDigits]
      rfl
  | value n =>
      dsimp only
      rw [readField_of_digits fun c hc => isDigit_of_mem_toDigits hc, readNumber_toDigits]
      rfl

theorem digit_facts {c : Char} (hc : c.isDigit = true) :
    isBlank c = false ∧ c ≠ '=' ∧ c ≠ '#' ∧ c ≠ '\n' := by
  refine ⟨?_, ?_, ?_, ?_⟩
  · have hspace : c ≠ ' ' := by
      rintro rfl
      exact absurd hc (by decide)
    have htab : c ≠ '\t' := by
      rintro rfl
      exact absurd hc (by decide)
    simp [isBlank, hspace, htab]
  all_goals
    rintro rfl
    exact absurd hc (by decide)

/-- The characters of a field. -/
theorem render_facts (field : Field) : field.render.toList ≠ [] ∧
    ∀ c ∈ field.render.toList, isBlank c = false ∧ c ≠ '=' ∧ c ≠ '#' ∧ c ≠ '\n' := by
  rw [toList_render]
  cases field with
  | any => exact ⟨List.cons_ne_nil _ _, List.forall_mem_singleton.mpr (by decide)⟩
  | every n =>
      refine ⟨List.cons_ne_nil _ _, ?_⟩
      refine List.forall_mem_cons.mpr ⟨by decide, List.forall_mem_cons.mpr ⟨by decide, ?_⟩⟩
      exact fun c hc => digit_facts (isDigit_of_mem_toDigits hc)
  | value n => exact ⟨Nat.toDigits_ne_nil, fun c hc => digit_facts (isDigit_of_mem_toDigits hc)⟩

/-! ## Entries -/

/-- A line that starts a command: when, as whom, and the words of the command. -/
structure Entry where
  pattern : Pattern
  user : List Char
  command : List (List Char)
  deriving DecidableEq, Repr

/-- The fields, in the order in which they are written. -/
def Pattern.fields (p : Pattern) : List Field :=
  [p.minute, p.hour, p.dayOfMonth, p.month, p.dayOfWeek]

def Entry.words (entry : Entry) : List (List Char) :=
  entry.pattern.fields.map (fun field => field.render.toList) ++ entry.user :: entry.command

/-- The line of an entry. -/
def Entry.text (entry : Entry) : List Char := unwords entry.words

/-- A line with less than six words is no entry. -/
def readWords : List (List Char) → Option Entry
  | minute :: hour :: dayOfMonth :: month :: dayOfWeek :: user :: command => do
      let minute ← readField minute
      let hour ← readField hour
      let dayOfMonth ← readField dayOfMonth
      let month ← readField month
      let dayOfWeek ← readField dayOfWeek
      return ⟨⟨minute, hour, dayOfMonth, month, dayOfWeek⟩, user, command⟩
  | _ => none

/-- `NAME = value`, with a name of one word. -/
def isSetting (line : List Char) : Bool :=
  decide ('=' ∈ line) && decide ((words (line.takeWhile (· ≠ '='))).length = 1)

/-- The entry of a line, if it is one. -/
def readLine (line : List Char) : Option Entry :=
  match line.dropWhile isBlank with
  | [] => none
  | '#' :: _ => none
  | text => if isSetting text then none else readWords (words text)

/-- The entries of a crontab. -/
def read (text : List Char) : List Entry := (lines text).filterMap readLine

/-! ### Reading back -/

/-- The words of the entry can be told apart from each other, and the line from a setting. -/
structure Entry.Plain (entry : Entry) : Prop where
  words : ∀ word ∈ entry.user :: entry.command, IsWord word
  noEquals : ∀ word ∈ entry.user :: entry.command, '=' ∉ word

theorem Entry.Plain.isWord {entry : Entry} (hplain : entry.Plain) :
    ∀ word ∈ entry.words, IsWord word := by
  refine List.forall_mem_append.mpr ⟨fun word hword => ?_, hplain.words⟩
  obtain ⟨field, -, rfl⟩ := List.mem_map.mp hword
  obtain ⟨hne, hchars⟩ := render_facts field
  exact ⟨hne, fun c hc => (hchars c hc).1⟩

theorem mem_unwords {ws : List (List Char)} {c : Char} (hc : c ∈ unwords ws) :
    c = ' ' ∨ ∃ word ∈ ws, c ∈ word := by
  induction ws with
  | nil => cases hc
  | cons word rest ih =>
      cases rest with
      | nil => exact Or.inr ⟨word, List.mem_cons_self, hc⟩
      | cons next rest =>
          rcases List.mem_append.mp hc with hfirst | hrest
          · exact Or.inr ⟨word, List.mem_cons_self, hfirst⟩
          · rcases List.mem_cons.mp hrest with rfl | hrest
            · exact Or.inl rfl
            · refine (ih hrest).imp_right fun ⟨other, hother, hmem⟩ => ?_
              exact ⟨other, List.mem_cons_of_mem _ hother, hmem⟩

theorem Entry.Plain.noEquals_text {entry : Entry} (hplain : entry.Plain) : '=' ∉ entry.text := by
  intro hmem
  rcases mem_unwords hmem with hblank | ⟨word, hword, hc⟩
  · exact absurd hblank (by decide)
  · rcases List.mem_append.mp hword with hfield | hrest
    · obtain ⟨field, -, rfl⟩ := List.mem_map.mp hfield
      exact ((render_facts field).2 _ hc).2.1 rfl
    · exact hplain.noEquals word hrest hc

theorem readWords_words (entry : Entry) : readWords entry.words = some entry := by
  simp only [Entry.words, Pattern.fields, List.map_cons, List.map_nil, List.cons_append,
    List.nil_append, readWords, readField_render]
  rfl

theorem exists_unwords_cons (c : Char) (tail : List Char) (rest : List (List Char)) :
    ∃ text, unwords ((c :: tail) :: rest) = c :: text := by
  cases rest with
  | nil => exact ⟨tail, rfl⟩
  | cons next rest => exact ⟨_, rfl⟩

/-- The line starts with a character of its first field. -/
theorem Entry.exists_text (entry : Entry) : ∃ c rest, entry.text = c :: rest ∧
    isBlank c = false ∧ c ≠ '#' := by
  obtain ⟨hne, hchars⟩ := render_facts entry.pattern.minute
  obtain ⟨c, tail, hminute⟩ := List.exists_cons_of_ne_nil hne
  obtain ⟨hblank, -, hhash, -⟩ := hchars c (hminute ▸ List.mem_cons_self)
  obtain ⟨text, htext⟩ := exists_unwords_cons c tail entry.words.tail
  refine ⟨c, text, ?_, hblank, hhash⟩
  rw [← htext, ← hminute]
  rfl

/-- **An entry is read back.** -/
theorem readLine_text {entry : Entry} (hplain : entry.Plain) :
    readLine entry.text = some entry := by
  have hwords : Cron.words entry.text = entry.words := words_unwords hplain.isWord
  have hsetting : isSetting entry.text = false := by
    rw [isSetting, decide_eq_false hplain.noEquals_text, Bool.false_and]
  obtain ⟨c, rest, htext, hblank, hhash⟩ := entry.exists_text
  have hdrop : entry.text.dropWhile isBlank = entry.text := by
    rw [htext, List.dropWhile_cons_of_neg (by simp [hblank])]
  rw [readLine, hdrop]
  split
  · rename_i hnil
    rw [htext] at hnil
    cases hnil
  · rename_i hcomment
    rw [htext] at hcomment
    exact absurd (List.cons.inj hcomment).1 hhash
  · rw [hsetting, hwords]
    exact readWords_words entry

/-- Line by line. -/
theorem read_append (first second : List Char) :
    read (first ++ '\n' :: second) = read first ++ read second := by
  rw [read, lines, pieces_append (by decide), List.filterMap_append]
  rfl

theorem read_line {line : List Char} (hline : '\n' ∉ line) :
    read line = (readLine line).toList := by
  have hpieces : lines line = [line] := by
    refine pieces_of_forall fun c hc => decide_eq_false ?_
    rintro rfl
    exact hline hc
  rw [read, hpieces, List.filterMap_cons]
  cases readLine line <;> rfl

theorem read_comment {comment : List Char} (hcomment : '\n' ∉ comment) :
    read ('#' :: comment) = [] := by
  rw [read_line (by simp [hcomment])]
  rfl

theorem Entry.newline_notMem_text {entry : Entry}
    (hplain : ∀ word ∈ entry.user :: entry.command, '\n' ∉ word) : '\n' ∉ entry.text := by
  intro hmem
  rcases mem_unwords hmem with hblank | ⟨word, hword, hc⟩
  · exact absurd hblank (by decide)
  · rcases List.mem_append.mp hword with hfield | hrest
    · obtain ⟨field, -, rfl⟩ := List.mem_map.mp hfield
      exact ((render_facts field).2 _ hc).2.2.2 rfl
    · exact hplain word hrest hc

end OroEdge.Lib.Cron
