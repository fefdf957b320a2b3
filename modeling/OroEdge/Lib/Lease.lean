import Mathlib.Logic.Function.Basic
import Mathlib.Order.Lattice
import Mathlib.Tactic.Common

/-!
# Leases

A lease lets one of several parties hold a resource until a time.  The register keeps the
lease that was given last, and gives another once that has expired; each party keeps the
time until which it relies on its own.  A party may go on after that time, and may give up
or renew a lease that is no longer its own: the register does nothing then.

The invariant is that the register backs what a party relies on (`Backed`): the register
has this very lease.  So no two parties rely on a lease at the same time
(`Backed.exclusive`).

The parties and the times are of any type, and the times need an order only.  What can happen is
a relation (`Move`), with one case for each kind of call, so that a system whose calls can fail,
or can be carried out without an answer, is related to it by saying which move each of its steps
is.

The proof looks at one party at a time.  A party that relies on a lease is backed by the
register, so a lease that has expired is relied on by nobody (`Backed.lt_of_expired`), and a
lease that has not can only be relied on by its holder (`Backed.lt_of_held`).  These two facts
are all that the moves need, through one lemma about changes that concern one party
(`Backed.rely`).
-/

namespace OroEdge.Lib

/-- Who holds the resource, and until when. -/
structure Lease (Party Time : Type*) where
  holder : Party
  expiry : Time
  deriving DecidableEq, Repr

/-- The clock, the register, and what the parties rely on. -/
structure Leasing (Party Time : Type*) where
  now : Time
  lease : Option (Lease Party Time)
  relied : Party → Option Time

namespace Leasing

variable {Party Time : Type*} [DecidableEq Party]

/-- A party relies on its lease until another time, or no longer. -/
def rely (s : Leasing Party Time) (party : Party) (expiry : Option Time) : Leasing Party Time :=
  { s with relied := Function.update s.relied party expiry }

/-- The lease is replaced; what the parties rely on stays. -/
def setLease (s : Leasing Party Time) (lease : Option (Lease Party Time)) : Leasing Party Time :=
  { s with lease }

theorem rely_relied_self (s : Leasing Party Time) (party : Party) (expiry : Option Time) :
    (s.rely party expiry).relied party = expiry :=
  Function.update_self ..

theorem rely_relied_of_ne (s : Leasing Party Time) {party other : Party} (hne : other ≠ party)
    (expiry : Option Time) : (s.rely party expiry).relied other = s.relied other :=
  Function.update_of_ne hne ..

variable [LinearOrder Time]

/-- What can happen to a lease. -/
inductive Move (s : Leasing Party Time) : Leasing Party Time → Prop
  | idle : Move s s
  | advance {t : Time} (hle : s.now ≤ t) : Move s { s with now := t }
  | grant (party : Party) (expiry : Time) (hexpired : ∀ lease ∈ s.lease, lease.expiry < s.now) :
      Move s ((s.setLease (some ⟨party, expiry⟩)).rely party (some expiry))
  /-- The party does not hear that it has got the lease. -/
  | unheard (party : Party) (expiry : Time) (hexpired : ∀ lease ∈ s.lease, lease.expiry < s.now) :
      Move s (s.setLease (some ⟨party, expiry⟩))
  | renew {party : Party} {old : Time} (expiry : Time) (hheld : s.lease = some ⟨party, old⟩) :
      Move s ((s.setLease (some ⟨party, expiry⟩)).rely party
        ((s.relied party).map fun _ => expiry))
  | release {party : Party} {old : Time} (hheld : s.lease = some ⟨party, old⟩) :
      Move s ((s.setLease none).rely party none)
  /-- The lease that is given up is no longer that of the party. -/
  | forget (party : Party) : Move s (s.rely party none)

/-- What a party relies on is the lease in the register. -/
def Backed (s : Leasing Party Time) : Prop :=
  ∀ party expiry, s.relied party = some expiry → s.now ≤ expiry →
    s.lease = some ⟨party, expiry⟩

section

omit [DecidableEq Party]

variable {s : Leasing Party Time} (hbacked : s.Backed)
include hbacked

/-- Nobody relies on a lease that has expired. -/
theorem Backed.lt_of_expired (hexpired : ∀ lease ∈ s.lease, lease.expiry < s.now) {party : Party}
    {expiry : Time} (hrelied : s.relied party = some expiry) : expiry < s.now := by
  by_contra hnot
  have hle := not_lt.mp hnot
  exact absurd hle (not_le.mpr (hexpired _ (hbacked party expiry hrelied hle)))

/-- Only the holder relies on the lease. -/
theorem Backed.lt_of_held {party other : Party} {old expiry : Time}
    (hheld : s.lease = some ⟨party, old⟩) (hne : other ≠ party)
    (hrelied : s.relied other = some expiry) : expiry < s.now := by
  by_contra hnot
  have hlease := (hbacked other expiry hrelied (not_lt.mp hnot)).symm.trans hheld
  exact hne (congrArg Lease.holder (Option.some.inj hlease))

/-- Two parties do not rely on a lease at the same time. -/
theorem Backed.exclusive {first second : Party} {e e' : Time}
    (hfirst : s.relied first = some e) (hle : s.now ≤ e)
    (hsecond : s.relied second = some e') (hle' : s.now ≤ e') : first = second := by
  have hlease := (hbacked first e hfirst hle).symm.trans (hbacked second e' hsecond hle')
  exact congrArg Lease.holder (Option.some.inj hlease)

end

/-- A change that leaves the clock, and what others rely on, keeps the invariant if nobody else
relies on the lease. -/
theorem Backed.rely {s : Leasing Party Time} (hbacked : s.Backed) {party : Party}
    {expiry : Option Time} {lease : Option (Lease Party Time)}
    (hparty : ∀ e ∈ expiry, lease = some ⟨party, e⟩)
    (hother : ∀ other ≠ party, ∀ e, s.relied other = some e → s.now ≤ e → lease = s.lease) :
    ((s.setLease lease).rely party expiry).Backed := by
  intro other e hrelied hle
  by_cases hsame : other = party
  · subst hsame
    rw [rely_relied_self] at hrelied
    exact hparty e hrelied
  · rw [rely_relied_of_ne _ hsame] at hrelied
    show lease = some ⟨other, e⟩
    rw [hother other hsame e hrelied hle]
    exact hbacked other e hrelied hle

/-- Every move keeps the invariant. -/
theorem Move.backed {s s' : Leasing Party Time} (hmove : Move s s') (hbacked : s.Backed) :
    s'.Backed := by
  cases hmove with
  | idle => exact hbacked
  | advance hadvance =>
      intro party expiry hrelied hle
      exact hbacked party expiry hrelied (le_trans hadvance hle)
  | grant party expiry hexpired =>
      refine hbacked.rely (fun e he => ?_) fun other _ e hrelied hle => ?_
      · cases he
        rfl
      · exact absurd hle (not_le.mpr (hbacked.lt_of_expired hexpired hrelied))
  | unheard party expiry hexpired =>
      intro other e hrelied hle
      exact absurd hle (not_le.mpr (hbacked.lt_of_expired hexpired hrelied))
  | renew expiry hheld =>
      refine hbacked.rely (fun e he => ?_) fun other hne e hrelied hle => ?_
      · obtain ⟨-, -, rfl⟩ := Option.map_eq_some_iff.mp he
        rfl
      · exact absurd hle (not_le.mpr (hbacked.lt_of_held hheld hne hrelied))
  | release hheld =>
      refine hbacked.rely (fun e he => by cases he) fun other hne e hrelied hle => ?_
      exact absurd hle (not_le.mpr (hbacked.lt_of_held hheld hne hrelied))
  | forget party => exact hbacked.rely (fun e he => by cases he) fun _ _ _ _ _ => rfl

end Leasing

end OroEdge.Lib
