import Mathlib.Algebra.Order.Ring.Int
import Mathlib.Data.List.Basic
import Mathlib.Tactic.Common

/-!
# Names made of a stem, a number and a time

`stamped stem n t` is the text `stem`, `n`, an underscore, and `t`, the numbers in decimal.
Two such names with one stem are equal only if both numbers are (`stamped_inj`), since no
digit is an underscore.

Programs make ids in this way where no other source of unique ids is at hand, with a clock for
the time.  Two ids are then different unless the same kind of thing happened twice within the
resolution of the clock, and it is `stamped_inj` that says so: both numbers can be read off the
name.

The number before the underscore ends there, since the digits of a number are digits
(`takeWhile_isDigit_toString`, `isDigit_of_mem_toString`), and the second one is the rest of the
text.  Numbers are printed in one way only, negative ones included (`intToString_inj`).  That
names with different stems are different as well is a matter of the stems: neither may begin
with the other (`BeginsWith.not`).
-/

namespace OroEdge.Lib

/-- An id that is made of a number and a time. -/
def stamped (stem : String) (n : ℕ) (t : ℤ) : String := stem ++ toString n ++ "_" ++ toString t

/-- The text `s` begins with `stem`. -/
def BeginsWith (stem s : String) : Prop := stem.toList <+: s.toList

instance (stem s : String) : Decidable (BeginsWith stem s) :=
  inferInstanceAs (Decidable (_ <+: _))

theorem toList_stamped (stem : String) (n : ℕ) (t : ℤ) :
    (stamped stem n t).toList =
      stem.toList ++ ((toString n).toList ++ '_' :: (toString t).toList) := by
  simp [stamped]

theorem beginsWith_stamped (stem : String) (n : ℕ) (t : ℤ) :
    BeginsWith stem (stamped stem n t) := by
  unfold BeginsWith
  rw [toList_stamped]
  exact List.prefix_append _ _

/-- A text does not begin with two stems that are not prefixes of each other. -/
theorem BeginsWith.not {stem other s : String} (hs : BeginsWith stem s)
    (hne : ¬ (stem.toList <+: other.toList ∨ other.toList <+: stem.toList)) :
    ¬ BeginsWith other s :=
  fun hother => hne (List.prefix_or_prefix_of_prefix hs hother)

theorem isDigit_of_mem_toString {n : ℕ} {c : Char} (hc : c ∈ (toString n).toList) :
    c.isDigit = true := by
  rw [Nat.toString_eq_repr, Nat.toList_repr] at hc
  exact Nat.isDigit_of_mem_toDigits (by decide) (by decide) hc

theorem natToString_inj {n n' : ℕ} (h : (toString n).toList = (toString n').toList) : n = n' := by
  rw [Nat.toString_eq_repr, Nat.toString_eq_repr, Nat.toList_repr, Nat.toList_repr] at h
  -- reading the digits gives the number back
  have hread := congrArg (fun digits => Nat.ofDigitChars 10 digits 0) h
  simpa using hread

theorem toList_toString_ofNat (n : ℕ) : (toString (Int.ofNat n)).toList = (toString n).toList := rfl

theorem toList_toString_negSucc (n : ℕ) :
    (toString (Int.negSucc n)).toList = '-' :: (toString (n + 1)).toList := by
  have hrepr : toString (Int.negSucc n) = "-" ++ toString (n + 1) := rfl
  rw [hrepr, String.toList_append]
  rfl

theorem intToString_inj {t t' : ℤ} (h : (toString t).toList = (toString t').toList) : t = t' := by
  -- a minus sign is no digit
  have hsign : ∀ m n : ℕ, (toString m).toList ≠ '-' :: (toString n).toList := by
    intro m n hmn
    have hdigit : '-'.isDigit = true :=
      isDigit_of_mem_toString (n := m) (by rw [hmn]; exact List.mem_cons_self)
    exact absurd hdigit (by decide)
  cases t with
  | ofNat m =>
      cases t' with
      | ofNat n =>
          rw [toList_toString_ofNat, toList_toString_ofNat] at h
          rw [natToString_inj h]
      | negSucc n =>
          rw [toList_toString_ofNat, toList_toString_negSucc] at h
          exact absurd h (hsign _ _)
  | negSucc m =>
      cases t' with
      | ofNat n =>
          rw [toList_toString_ofNat, toList_toString_negSucc] at h
          exact absurd h.symm (hsign _ _)
      | negSucc n =>
          rw [toList_toString_negSucc, toList_toString_negSucc, List.cons_inj_right] at h
          rw [Nat.succ.inj (natToString_inj h)]

/-- The digits come to an end at an underscore. -/
theorem takeWhile_isDigit_toString (n : ℕ) (rest : List Char) :
    ((toString n).toList ++ '_' :: rest).takeWhile Char.isDigit = (toString n).toList := by
  rw [List.takeWhile_append_of_pos fun c hc => isDigit_of_mem_toString hc,
    List.takeWhile_cons_of_neg (by decide), List.append_nil]

/-- The numbers of a stamped name can be read off it. -/
theorem stamped_inj {stem : String} {n n' : ℕ} {t t' : ℤ} :
    stamped stem n t = stamped stem n' t' ↔ n = n' ∧ t = t' := by
  constructor
  · intro h
    have hlist := congrArg String.toList h
    rw [toList_stamped, toList_stamped, List.append_cancel_left_eq] at hlist
    have hdigits := congrArg (List.takeWhile Char.isDigit) hlist
    rw [takeWhile_isDigit_toString, takeWhile_isDigit_toString] at hdigits
    obtain rfl := natToString_inj hdigits
    rw [List.append_cancel_left_eq, List.cons_inj_right] at hlist
    exact ⟨rfl, intToString_inj hlist⟩
  · rintro ⟨rfl, rfl⟩
    rfl

end OroEdge.Lib
