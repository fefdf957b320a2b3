import OroEdge.Lib.Calendar
import OroEdge.Lib.Word

/-!
# Scanning numbers

The fragment of `sscanf` with the directive `%d` and literal characters that are
no white space.  `scan` returns the numbers that are converted; the return value
of `sscanf` is their count.  A number beyond the range of `long` saturates, and
its low 32 bits are stored.

A conversion stops at the first thing that does not fit, and what was converted before it
stays.  So a text that is cut short, such as one without its last field, gives fewer numbers and
not an error, and the caller's variables keep what they held.  A program that does not look at
the count goes on with them.

The lemmas are about texts in which the numbers are separated as the format says.  A run of
digits ends at a character that is none (`scanInt_append`), so a number is read off the front of
the text, the separator is skipped (`scan_literal`), and what is left is a shorter text with a
shorter format.  The fields of two digits of a time of day are the case that is needed most
(`scan_padded_literal`, `scan_padded_end`).
-/

namespace OroEdge.Lib

/-- `%d`, or a character that has to be there. -/
inductive Directive
  | int
  | literal (c : Char)
  deriving DecidableEq, Repr

namespace Directive

/-- `isspace`. -/
def isSpace (c : Char) : Bool := c = ' ' || (9 ≤ c.toNat && c.toNat ≤ 13)

/-- The value of a list of decimal digits. -/
def digitsValue (digits : List Char) : ℕ :=
  digits.foldl (fun value digit => 10 * value + (digit.toNat - '0'.toNat)) 0

/-- What `%d` stores for a number of the input. -/
def stored (n : ℤ) : ℤ := wrap32 (max int64Min (min n (-int64Min - 1)))

/-- The digits after the sign, and the input that is left. -/
def scanDigits (negative : Bool) (input : List Char) : Option (ℤ × List Char) :=
  match input.takeWhile Char.isDigit with
  | [] => none
  | digits =>
      let magnitude : ℤ := digitsValue digits
      some (stored (if negative then -magnitude else magnitude), input.dropWhile Char.isDigit)

/-- Blanks and a sign may come before the digits. -/
def scanInt (input : List Char) : Option (ℤ × List Char) :=
  match input.dropWhile isSpace with
  | '-' :: rest => scanDigits true rest
  | '+' :: rest => scanDigits false rest
  | rest => scanDigits false rest

/-- The integers that are read before the first directive that fails. -/
def scan : List Directive → List Char → List ℤ
  | [], _ => []
  | .int :: format, input =>
      match scanInt input with
      | some (n, rest) => n :: scan format rest
      | none => []
  | .literal c :: format, d :: rest => if d = c then scan format rest else []
  | .literal _ :: _, [] => []

/-! ### A run of digits -/

theorem scanDigits_append {digits rest : List Char} (hne : digits ≠ [])
    (hdigits : ∀ c ∈ digits, c.isDigit = true) (hrest : ∀ c ∈ rest.head?, c.isDigit = false)
    (negative : Bool) :
    scanDigits negative (digits ++ rest) =
      some (stored (if negative then -digitsValue digits else digitsValue digits), rest) := by
  have htake : (digits ++ rest).takeWhile Char.isDigit = digits := by
    rw [List.takeWhile_append_of_pos hdigits]
    cases rest with
    | nil => exact List.append_nil digits
    | cons c rest => rw [List.takeWhile_cons_of_neg (by simp [hrest c rfl]), List.append_nil]
  have hdrop : (digits ++ rest).dropWhile Char.isDigit = rest := by
    rw [List.dropWhile_append_of_pos hdigits]
    cases rest with
    | nil => rfl
    | cons c rest => rw [List.dropWhile_cons_of_neg (by simp [hrest c rfl])]
  unfold scanDigits
  rw [htake, hdrop]
  cases digits with
  | nil => exact absurd rfl hne
  | cons c digits => rfl

theorem digit_facts {c : Char} (hdigit : c.isDigit = true) :
    isSpace c = false ∧ c ≠ '-' ∧ c ≠ '+' := by
  refine ⟨?_, ?_, ?_⟩
  · have hlow := (Char.isDigit_iff_toNat.mp hdigit).1
    have hne : c ≠ ' ' := by
      rintro rfl
      exact absurd hdigit (by decide)
    have hfar : ¬ c.toNat ≤ 13 := fun hle => absurd (hlow.trans hle) (by decide)
    simp [isSpace, hne, hfar]
  · rintro rfl
    exact absurd hdigit (by decide)
  · rintro rfl
    exact absurd hdigit (by decide)

/-- `%d` reads the digits up to a character that is none. -/
theorem scanInt_append {digits rest : List Char} (hne : digits ≠ [])
    (hdigits : ∀ c ∈ digits, c.isDigit = true) (hrest : ∀ c ∈ rest.head?, c.isDigit = false) :
    scanInt (digits ++ rest) = some (stored (digitsValue digits), rest) := by
  have hscan := scanDigits_append hne hdigits hrest false
  obtain ⟨c, digits, rfl⟩ := List.exists_cons_of_ne_nil hne
  obtain ⟨hspace, hminus, hplus⟩ := digit_facts (hdigits c List.mem_cons_self)
  rw [if_neg Bool.false_ne_true] at hscan
  rw [← hscan, List.cons_append, scanInt, List.dropWhile_cons_of_neg (by simp [hspace])]
  split
  · rename_i hsplit
    exact absurd (List.cons.inj hsplit).1 hminus
  · rename_i hsplit
    exact absurd (List.cons.inj hsplit).1 hplus
  · rfl

/-- A number ends at a separator. -/
theorem isDigit_head_cons {sep : Char} (hsep : sep.isDigit = false) (rest : List Char) :
    ∀ c ∈ (sep :: rest).head?, c.isDigit = false := by
  intro c hc
  rw [← Option.some.inj hc]
  exact hsep

/-! ### Two digits -/

theorem digitChar_facts : ∀ d : Fin 10, (Nat.digitChar d).isDigit = true ∧
    (Nat.digitChar d).toNat - '0'.toNat = d := by
  decide

theorem stored_of_lt {n : ℕ} (hlt : n < 2147483648) : stored n = n := by
  have hlow : int64Min = -9223372036854775808 := rfl
  have hinner : max int64Min (min (n : ℤ) (-int64Min - 1)) = n := by omega
  rw [stored, hinner, wrap32]
  exact Int.bmod_eq_of_le (by omega) (by omega)

theorem scanInt_two {a b : ℕ} (ha : a < 10) (hb : b < 10) {rest : List Char}
    (hrest : ∀ c ∈ rest.head?, c.isDigit = false) :
    scanInt (Nat.digitChar a :: Nat.digitChar b :: rest) =
      some (((10 * a + b : ℕ) : ℤ), rest) := by
  obtain ⟨hdigit, hvalue⟩ := digitChar_facts ⟨a, ha⟩
  obtain ⟨hdigit', hvalue'⟩ := digitChar_facts ⟨b, hb⟩
  have hdigits : ∀ c ∈ [Nat.digitChar a, Nat.digitChar b], c.isDigit = true := by
    intro c hc
    rcases List.mem_cons.mp hc with rfl | hc
    · exact hdigit
    · rw [List.mem_singleton.mp hc]
      exact hdigit'
  have hnumber : digitsValue [Nat.digitChar a, Nat.digitChar b] = 10 * a + b := by
    simp only [] at hvalue hvalue'
    simp only [digitsValue, List.foldl_cons, List.foldl_nil, hvalue, hvalue']
    omega
  rw [← stored_of_lt (show 10 * a + b < 2147483648 by omega), ← hnumber]
  exact scanInt_append (List.cons_ne_nil _ _) hdigits hrest

@[simp]
theorem scan_literal (c : Char) (format : List Directive) (rest : List Char) :
    scan (.literal c :: format) (c :: rest) = scan format rest := by
  rw [scan, if_pos rfl]

/-- A field of two digits. -/
theorem scan_padded {x : ℤ} (hnonneg : 0 ≤ x) (hlt : x < 100) (format : List Directive)
    {rest : List Char} (hrest : ∀ c ∈ rest.head?, c.isDigit = false) :
    scan (.int :: format) ((padded 2 x).toList ++ rest) = x :: scan format rest := by
  have hvalue : ((10 * (x.toNat / 10) + x.toNat % 10 : ℕ) : ℤ) = x := by omega
  rw [toList_padded_two hnonneg hlt, List.cons_append, List.singleton_append, scan,
    scanInt_two (by omega) (by omega) hrest, hvalue]

/-- A field of two digits and its separator. -/
theorem scan_padded_literal {x : ℤ} (hnonneg : 0 ≤ x) (hlt : x < 100) {sep : Char}
    (hsep : sep.isDigit = false) (format : List Directive) (rest : List Char) :
    scan (.int :: .literal sep :: format) ((padded 2 x).toList ++ sep :: rest) =
      x :: scan format rest := by
  rw [scan_padded hnonneg hlt _ (isDigit_head_cons hsep rest), scan_literal]

/-- The last field of two digits. -/
theorem scan_padded_end {x : ℤ} (hnonneg : 0 ≤ x) (hlt : x < 100) (format : List Directive) :
    scan (.int :: format) (padded 2 x).toList = x :: scan format [] := by
  have hfield := scan_padded hnonneg hlt format
    (show ∀ c ∈ ([] : List Char).head?, c.isDigit = false by simp)
  rwa [List.append_nil] at hfield

end Directive

/-- `sscanf(s, "%d:%d:%d", …)`, with `sep` for the colon. -/
def scanTriple (sep : Char) (s : String) : List ℤ :=
  Directive.scan [.int, .literal sep, .int, .literal sep, .int] s.toList

example : scanTriple ':' "17:08:00" = [17, 8, 0] ∧ scanTriple ':' "17:08" = [17, 8] ∧
    scanTriple '-' "2026-06-08" = [2026, 6, 8] ∧ scanTriple ':' "noon" = [] := by decide

end OroEdge.Lib
