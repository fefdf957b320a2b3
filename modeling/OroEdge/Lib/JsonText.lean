import OroEdge.Lib.Json
import OroEdge.Lib.Numeral
import Mathlib.Algebra.Order.BigOperators.Group.List
import Mathlib.Data.List.Perm.Subperm
import Mathlib.Tactic.Ring

/-!
# JSON texts

The grammar of JSON: which texts denote which values (`Document`).  Of a key that is there
twice the last value counts.

A value has a length that no text of it falls short of (`leastLength`): a character of a
string that has to be escaped takes two characters or more.  So a text that is just long
enough for the fields that it should have holds nothing else, and escapes nothing
(`Document.length_of_fields`).

The grammar is a family of inductive relations between texts and values, one for each
nonterminal, rather than a parser: so it can be said of a text that it is not JSON, or that it
denotes another value than was meant, without fixing how it would be read.  Escapes, pairs of
surrogates, the forms of numbers and the white space around tokens are all part of it.

The length is what makes statements about all readings of a text possible.  By induction on the
derivations, no text is shorter than its value asks for (`Value.length_le`,
`Separated.length_le`), and a character that is not plain costs at least one more
(`specials_cons_le`).  A text that was put together without escaping has exactly the least
length, so if it can be read as the fields that were meant, then there was nothing to escape.
-/

namespace OroEdge.Lib.JsonText

/-! ## Numbers -/

/-- One digit or more. -/
structure Digits (digits : List Char) : Prop where
  nonempty : digits ≠ []
  isDigit : ∀ c ∈ digits, c.isDigit = true

/-- The digits of a natural number, without a leading zero. -/
structure Natural (digits : List Char) : Prop extends Digits digits where
  noLeadingZero : digits.head? = some '0' → digits = ['0']

/-- The number that digits stand for. -/
def naturalValue (digits : List Char) : ℕ := Nat.ofDigitChars 10 digits 0

/-- The digits of an exponent, with or without a sign. -/
inductive Exponent : List Char → ℤ → Prop
  | unsigned {digits : List Char} (h : Digits digits) : Exponent digits (naturalValue digits)
  | plus {digits : List Char} (h : Digits digits) : Exponent ('+' :: digits) (naturalValue digits)
  | minus {digits : List Char} (h : Digits digits) :
      Exponent ('-' :: digits) (-naturalValue digits)

/-- The value of the digits before and after a point. -/
def decimalValue (whole fraction : List Char) : ℚ :=
  naturalValue (whole ++ fraction) / 10 ^ fraction.length

/-- A number with a fraction, an exponent, or both. -/
inductive Real : List Char → ℚ → Prop
  | fraction {whole fraction : List Char} (hwhole : Natural whole) (hfraction : Digits fraction) :
      Real (whole ++ '.' :: fraction) (decimalValue whole fraction)
  | exponent {whole exponent : List Char} {letter : Char} {n : ℤ} (hwhole : Natural whole)
      (hletter : letter = 'e' ∨ letter = 'E') (hexponent : Exponent exponent n) :
      Real (whole ++ letter :: exponent) (naturalValue whole * 10 ^ n)
  | both {whole fraction exponent : List Char} {letter : Char} {n : ℤ} (hwhole : Natural whole)
      (hfraction : Digits fraction) (hletter : letter = 'e' ∨ letter = 'E')
      (hexponent : Exponent exponent n) :
      Real (whole ++ '.' :: fraction ++ letter :: exponent) (decimalValue whole fraction * 10 ^ n)

/-! ## Strings -/

/-- A character that a string holds as it is. -/
def isPlain (c : Char) : Bool := 0x20 ≤ c.toNat && c ≠ '\"' && c ≠ '\\'

/-- The character that a letter after a backslash stands for. -/
def escaped? : Char → Option Char
  | '\"' => some '\"'
  | '\\' => some '\\'
  | '/' => some '/'
  | 'b' => some '\x08'
  | 'f' => some '\x0c'
  | 'n' => some '\n'
  | 'r' => some '\r'
  | 't' => some '\t'
  | _ => none

/-- Four hexadecimal digits, and the code unit that they stand for. -/
structure CodeUnit (digits : List Char) (code : ℕ) : Prop where
  length : digits.length = 4
  isDigit : ∀ c ∈ digits, isHexDigit c = true
  value : code = digits.foldl (fun value digit => 16 * value + hexValue digit) 0

/-- The code point of a pair of surrogates. -/
def joined (high low : ℕ) : ℕ := 0x10000 + (high - 0xD800) * 0x400 + (low - 0xDC00)

/-- What stands between the quotes of a string, and the characters of the string. -/
inductive Body : List Char → List Char → Prop
  | nil : Body [] []
  | plain {c : Char} {raw chars : List Char} (hplain : isPlain c = true) (hrest : Body raw chars) :
      Body (c :: raw) (c :: chars)
  | escape {letter c : Char} {raw chars : List Char} (hletter : escaped? letter = some c)
      (hrest : Body raw chars) : Body ('\\' :: letter :: raw) (c :: chars)
  | unit {digits raw chars : List Char} {code : ℕ} (hunit : CodeUnit digits code)
      (hvalid : code.isValidChar) (hrest : Body raw chars) :
      Body ('\\' :: 'u' :: digits ++ raw) (Char.ofNat code :: chars)
  | pair {digits digits' raw chars : List Char} {high low : ℕ} (hhigh : CodeUnit digits high)
      (hlow : CodeUnit digits' low) (hhigh' : 0xD800 ≤ high ∧ high ≤ 0xDBFF)
      (hlow' : 0xDC00 ≤ low ∧ low ≤ 0xDFFF) (hrest : Body raw chars) :
      Body ('\\' :: 'u' :: digits ++ '\\' :: 'u' :: digits' ++ raw)
        (Char.ofNat (joined high low) :: chars)

example : Body ['\\', 'n', '/'] ['\n', '/'] := .escape rfl (.plain (by decide) .nil)

example : Body ['\\', 'u', 'd', '8', '3', 'd', '\\', 'u', 'd', 'e', '0', '0']
    [Char.ofNat 0x1F600] :=
  @Body.pair ['d', '8', '3', 'd'] ['d', 'e', '0', '0'] [] [] 0xD83D 0xDE00
    ⟨rfl, by simp [isHexDigit], by decide⟩ ⟨rfl, by simp [isHexDigit], by decide⟩ (by decide)
    (by decide) .nil

/-! ## Values -/

def isBlank (c : Char) : Bool := c = ' ' || c = '\t' || c = '\n' || c = '\r'

def Blank (text : List Char) : Prop := ∀ c ∈ text, isBlank c = true

section

variable {α : Type}

/-- White space around a text. -/
inductive Padded (item : List Char → α → Prop) : List Char → α → Prop
  | intro {before text after : List Char} {a : α} (hbefore : Blank before) (hitem : item text a)
      (hafter : Blank after) : Padded item (before ++ text ++ after) a

/-- Texts with commas between them. -/
inductive Separated (item : List Char → α → Prop) : List Char → List α → Prop
  | single {text : List Char} {a : α} (hitem : item text a) : Separated item text [a]
  | cons {text rest : List Char} {a : α} {as : List α} (hitem : item text a)
      (hrest : Separated item rest as) : Separated item (text ++ ',' :: rest) (a :: as)

end

/-- A text in quotes. -/
inductive Key : List Char → String → Prop
  | intro {raw : List Char} {key : String} (hbody : Body raw key.toList) :
      Key ('\"' :: raw ++ ['\"']) key

/-- A key and its value, around a colon. -/
inductive Member (value : List Char → Json → Prop) : List Char → String × Json → Prop
  | intro {keyText text : List Char} {key : String} {inner : Json}
      (hkey : Padded Key keyText key) (hvalue : Padded value text inner) :
      Member value (keyText ++ ':' :: text) (key, inner)

/-- A value without white space around it. -/
inductive Value : List Char → Json → Prop
  | null : Value "null".toList .null
  | true : Value "true".toList (.bool Bool.true)
  | false : Value "false".toList (.bool Bool.false)
  | int {digits : List Char} (h : Natural digits) : Value digits (.int (naturalValue digits))
  | negInt {digits : List Char} (h : Natural digits) :
      Value ('-' :: digits) (.int (-naturalValue digits))
  | float {text : List Char} {q : ℚ} (h : Real text q) : Value text (.float q)
  | negFloat {text : List Char} {q : ℚ} (h : Real text q) : Value ('-' :: text) (.float (-q))
  | str {text : List Char} {s : String} (h : Key text s) : Value text (.str s)
  | emptyArr {text : List Char} (h : Blank text) : Value ('[' :: text ++ [']']) (.arr [])
  | arr {text : List Char} {items : List Json} (h : Separated (Padded Value) text items) :
      Value ('[' :: text ++ [']']) (.arr items)
  | emptyObj {text : List Char} (h : Blank text) : Value ('\x7b' :: text ++ ['\x7d']) (.obj [])
  | obj {text : List Char} {members : List (String × Json)}
      (h : Separated (Member Value) text members) :
      Value ('\x7b' :: text ++ ['\x7d']) (Json.ofFields members)

/-- A text of one value. -/
def Document : List Char → Json → Prop := Padded Value

/-! ## The length of a text -/

/-- How many characters have to be escaped. -/
def specials (chars : List Char) : ℕ := chars.countP fun c => !isPlain c

/-- A length that no text of a value falls short of. -/
def leastLength : Json → ℕ
  | .str s => s.toList.length + specials s.toList + 2
  | .int n => (Nat.toDigits 10 n.natAbs).length
  | _ => 0

def memberLength (member : String × Json) : ℕ :=
  leastLength (.str member.1) + 1 + leastLength member.2

theorem specials_eq_zero_iff {chars : List Char} :
    specials chars = 0 ↔ ∀ c ∈ chars, isPlain c = true := by
  simp [specials, List.countP_eq_zero]

theorem specials_cons_le (c : Char) (chars : List Char) :
    specials (c :: chars) ≤ specials chars + 1 := by
  unfold specials
  rw [List.countP_cons]
  split <;> omega

theorem Body.length_le {raw chars : List Char} (hbody : Body raw chars) :
    chars.length + specials chars ≤ raw.length := by
  induction hbody with
  | nil => simp [specials]
  | @plain c raw chars hplain _ ih =>
      have hsame : specials (c :: chars) = specials chars := by simp [specials, hplain]
      simp only [List.length_cons, hsame]
      omega
  | @escape letter c raw chars _ _ ih =>
      have hmore := specials_cons_le c chars
      simp only [List.length_cons]
      omega
  | @unit digits raw chars code _ _ _ ih =>
      have hmore := specials_cons_le (Char.ofNat code) chars
      simp only [List.length_cons, List.length_append]
      omega
  | @pair digits digits' raw chars high low _ _ _ _ _ ih =>
      have hmore := specials_cons_le (Char.ofNat (joined high low)) chars
      simp only [List.length_cons, List.length_append]
      omega

theorem Key.length_le {text : List Char} {key : String} (hkey : Key text key) :
    leastLength (.str key) ≤ text.length := by
  cases hkey with
  | intro hbody =>
      have hlength := hbody.length_le
      simp only [leastLength, List.length_append, List.length_cons, List.length_nil]
      omega

theorem Digits.value_lt {digits : List Char} (hdigits : ∀ c ∈ digits, c.isDigit = true) :
    naturalValue digits < 10 ^ digits.length := by
  induction digits with
  | nil => simp [naturalValue]
  | cons c digits ih =>
      have hrest := ih fun d hd => hdigits d (List.mem_cons_of_mem c hd)
      have hc : c.toNat - '0'.toNat ≤ 9 := by
        have hc := hdigits c List.mem_cons_self
        simp only [Char.isDigit, Bool.and_eq_true, decide_eq_true_eq] at hc
        have hle := UInt32.le_iff_toNat_le.mp hc.2
        simp only [Char.toNat]
        simp at hle ⊢
        omega
      unfold naturalValue at hrest ⊢
      rw [Nat.ofDigitChars_cons, Nat.ofDigitChars_eq_ofDigitChars_zero, List.length_cons,
        Nat.pow_succ]
      calc 10 ^ digits.length * (10 * 0 + (c.toNat - '0'.toNat)) + Nat.ofDigitChars 10 digits 0
          < 10 ^ digits.length * 9 + 10 ^ digits.length := by
            apply Nat.add_lt_add_of_le_of_lt _ hrest
            apply Nat.mul_le_mul_left
            omega
        _ = 10 ^ digits.length * 10 := by ring

theorem Natural.length_le {digits : List Char} (hdigits : Natural digits) :
    (Nat.toDigits 10 (naturalValue digits)).length ≤ digits.length := by
  have hpos : 0 < digits.length := List.length_pos_iff.mpr hdigits.nonempty
  rw [Nat.length_toDigits_le_iff (by omega) hpos]
  exact Digits.value_lt hdigits.isDigit

theorem Value.length_le {text : List Char} {j : Json} (hvalue : Value text j) :
    leastLength j ≤ text.length := by
  cases hvalue with
  | int h => simpa [leastLength] using h.length_le
  | negInt h =>
      have hlength := h.length_le
      simp only [leastLength, Int.natAbs_neg, Int.natAbs_natCast, List.length_cons]
      omega
  | str h => exact h.length_le
  | obj _ => simp [leastLength, Json.ofFields]
  | _ => simp [leastLength]

section

variable {α : Type} {item : List Char → α → Prop} (least : α → ℕ)

theorem Padded.length_le (hitem : ∀ text a, item text a → least a ≤ text.length)
    {text : List Char} {a : α} (hpadded : Padded item text a) : least a ≤ text.length := by
  cases hpadded with
  | @intro before inner after _ _ hinner _ =>
      have hle := hitem inner a hinner
      simp only [List.length_append]
      omega

theorem Separated.length_le (hitem : ∀ text a, item text a → least a ≤ text.length)
    {text : List Char} {as : List α} (hseparated : Separated item text as) :
    (as.map fun a => least a + 1).sum ≤ text.length + 1 := by
  induction hseparated with
  | single hsingle => simpa using hitem _ _ hsingle
  | cons hfirst _ ih =>
      have hle := hitem _ _ hfirst
      simp only [List.map_cons, List.sum_cons, List.length_append, List.length_cons]
      omega

end

theorem Member.length_le {text : List Char} {member : String × Json}
    (hmember : Member Value text member) : memberLength member ≤ text.length := by
  cases hmember with
  | @intro keyText text key inner hkey hvalue =>
      have hkeyLength := hkey.length_le (fun key => leastLength (.str key))
        fun _ _ => Key.length_le
      have hvalueLength := hvalue.length_le leastLength fun _ _ => Value.length_le
      simp only [memberLength, List.length_append, List.length_cons]
      omega

/-- A text with given fields is as long as a text of these fields alone. -/
theorem Document.length_of_fields {text : List Char} {j : Json} (hdocument : Document text j)
    {fields : List (String × Json)} (hnodup : fields.Nodup) (hne : fields ≠ [])
    (hfields : ∀ field ∈ fields, j.get? field.1 = some field.2) :
    (fields.map fun field => memberLength field + 1).sum + 1 ≤ text.length := by
  obtain ⟨field, hfield⟩ := List.exists_mem_of_ne_nil fields hne
  cases hdocument with
  | @intro before inner after _ _ hvalue _ =>
      cases hvalue with
      | @obj text members hmembers =>
          have hsubset : fields ⊆ members := fun field hfield =>
            Json.mem_of_get?_ofFields (hfields field hfield)
          have hsum : (fields.map fun field => memberLength field + 1).sum ≤
              (members.map fun field => memberLength field + 1).sum := by
            obtain ⟨sublist, hperm, hsublist⟩ := List.Nodup.subperm hnodup hsubset
            calc (fields.map fun field => memberLength field + 1).sum
                = (sublist.map fun field => memberLength field + 1).sum :=
                  ((hperm.map _).sum_eq).symm
              _ ≤ _ := (hsublist.map _).sum_le_sum fun _ _ => Nat.zero_le _
          have hle := hmembers.length_le memberLength fun _ _ => Member.length_le
          simp only [List.length_append, List.length_cons, List.length_nil]
          omega
      | _ => cases hfields field hfield

/-! ## Texts without white space -/

theorem body_self {chars : List Char} (hplain : ∀ c ∈ chars, isPlain c = true) :
    Body chars chars := by
  induction chars with
  | nil => exact .nil
  | cons c chars ih =>
      exact .plain (hplain c List.mem_cons_self)
        (ih fun d hd => hplain d (List.mem_cons_of_mem c hd))

theorem natural_toDigits (n : ℕ) : Natural (Nat.toDigits 10 n) := by
  refine ⟨⟨Nat.toDigits_ne_nil, fun c hc =>
    Nat.isDigit_of_mem_toDigits (by omega) (by omega) hc⟩, ?_⟩
  induction n using Nat.strongRecOn with
  | ind n ih =>
      intro hzero
      rcases Nat.lt_or_ge n 10 with hlt | hge
      · rw [Nat.toDigits_of_lt_base hlt] at hzero ⊢
        rw [Option.some.inj hzero]
      · have hcons := Nat.toDigits_of_base_le (b := 10) (by omega) hge
        have hhead : (Nat.toDigits 10 (n / 10)).head? = some '0' := by
          rw [hcons, List.head?_append] at hzero
          cases hdigits : Nat.toDigits 10 (n / 10) with
          | nil => exact absurd hdigits Nat.toDigits_ne_nil
          | cons c digits =>
              rw [hdigits] at hzero
              exact hzero
        -- the digits before the last one would be those of 0
        have hvalue := Nat.ofDigitChars_ten_toDigits (n := n / 10)
        rw [ih (n / 10) (by omega) hhead] at hvalue
        have hzero : n / 10 = 0 := hvalue.symm
        omega

/-- Plain characters in quotes. -/
def quoted (chars : List Char) : List Char := '\"' :: chars ++ ['\"']

/-- A member of an object, with the text of its value. -/
def memberText (key : String) (text : List Char) : List Char := quoted key.toList ++ ':' :: text

theorem value_quoted {s : String} (hplain : ∀ c ∈ s.toList, isPlain c = true) :
    Value (quoted s.toList) (.str s) :=
  .str (.intro (body_self hplain))

theorem value_toDigits (n : ℕ) : Value (Nat.toDigits 10 n) (.int n) := by
  have hvalue := Value.int (natural_toDigits n)
  rwa [naturalValue, Nat.ofDigitChars_ten_toDigits] at hvalue

theorem padded_self {α : Type} {item : List Char → α → Prop} {text : List Char} {a : α}
    (hitem : item text a) : Padded item text a := by
  have hblank : Blank [] := by simp [Blank]
  have hpadded := Padded.intro hblank hitem hblank
  rwa [List.nil_append, List.append_nil] at hpadded

theorem member_memberText {key : String} (hplain : ∀ c ∈ key.toList, isPlain c = true)
    {text : List Char} {inner : Json} (hvalue : Value text inner) :
    Member Value (memberText key text) (key, inner) :=
  .intro (padded_self (.intro (body_self hplain))) (padded_self hvalue)

end OroEdge.Lib.JsonText
