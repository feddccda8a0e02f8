import Voyagent.PassportMrz
import Voyagent.WeightedChecks

/-!
# Misread digits in a machine-readable zone

The weights 7, 3 and 1 are coprime to ten, so a field with one digit misread
has another check digit, and a misread check digit is not the one computed.
-/

namespace Voyagent.MrzMisreads

open FallibleResults PassportMrz WeightedChecks

/-! ## Check digits as weighted sums -/

/-- The value of a character, zero where it has none. -/
def valueOf (u : CodeUnit) : Nat := (mrzValue u).toOption.getD 0

theorem weight_coprime (i : Nat) : Nat.Coprime (weight i) 10 := by
  have hcases : ∀ r<3,Nat.Coprime ([7,3,1].getD r 0) 10 := by decide
  exact hcases (i%3) (Nat.mod_lt i (by decide))

variable {us : List CodeUnit}

theorem mrzSum_eq {k : Nat} {sum : Nat} (h : mrzSum k us=.ok sum) :
    sum=weightedSum weight k (us.map valueOf) := by
  induction us generalizing k sum with
  | nil => exact (Except.ok.inj h).symm
  | cons u us ih =>
    obtain ⟨v,hv,h⟩ := bind_ok.mp h
    obtain ⟨rest,hrest,hsum⟩ := bind_pure_ok.mp h
    have hvalue : valueOf u=v := by
      unfold valueOf
      rw [hv]
      rfl
    rw [List.map_cons,weightedSum,hvalue,← ih hrest]
    exact hsum.symm

theorem mrzCheckDigit_eq {n : Nat} (h : mrzCheckDigit us=.ok n) :
    n=weightedSum weight 0 (us.map valueOf)%10 := by
  obtain ⟨sum,hsum,hn⟩ := bind_pure_ok.mp h
  rw [← mrzSum_eq hsum]
  exact hn.symm

variable {u : CodeUnit}

theorem valueOf_digit (h : isDigit u=true) : valueOf u=u.toNat-48 := by
  unfold valueOf mrzValue
  rw [if_pos h]
  rfl

theorem isDigit_bounds (h : isDigit u=true) : 48≤u.toNat ∧ u.toNat≤57 := by
  obtain ⟨hlow,hhigh⟩ := Bool.and_eq_true_iff.mp h
  exact ⟨UInt16.le_iff_toNat_le.mp (of_decide_eq_true hlow),
    UInt16.le_iff_toNat_le.mp (of_decide_eq_true hhigh)⟩

variable {d d' : CodeUnit}

/-- Different digits have different values. -/
theorem valueOf_ne (hd : isDigit d=true) (hd' : isDigit d'=true) (hne : d'≠d) :
    valueOf d'%10≠valueOf d%10 := by
  obtain ⟨hlow,hhigh⟩ := isDigit_bounds hd
  obtain ⟨hlow',hhigh'⟩ := isDigit_bounds hd'
  have hvalues : d'.toNat≠d.toNat := fun h => hne (UInt16.toNat_inj.mp h)
  rw [valueOf_digit hd,valueOf_digit hd']
  omega

variable {i : Nat}

/-- A misread digit changes the check digit of its field. -/
theorem mrzCheckDigit_set_ne {n n' : Nat} (hd : us[i]?=some d) (hdigit : isDigit d=true)
    (hdigit' : isDigit d'=true) (hne : d'≠d) (h : mrzCheckDigit us=.ok n)
    (h' : mrzCheckDigit (us.set i d')=.ok n') : n'≠n := by
  obtain ⟨hi,hget⟩ := List.getElem?_eq_some_iff.mp hd
  have hlen : i < (us.map valueOf).length := by rwa [List.length_map]
  rw [mrzCheckDigit_eq h,mrzCheckDigit_eq h',List.map_set]
  refine weightedSum_set_ne 0 hlen (weight_coprime _) ?_
  rw [List.getElem_map,hget]
  exact valueOf_ne hdigit hdigit' hne

/-! ## Fields of a line -/

/-- The field between two positions has its check digit at the position behind it. -/
def Checked (start stop : Nat) (zone : List CodeUnit) : Prop :=
  ∃ n,mrzCheckDigit (slice start stop zone)=.ok n ∧ zone[stop]?=some (unitOf (Nat.digitChar n))

variable {stop : Nat}

theorem slice_set_inside {start : Nat} (hi : start ≤ i) (zone : List CodeUnit) (u : CodeUnit) :
    slice start stop (zone.set i u)=(slice start stop zone).set (i-start) u := by
  unfold slice
  rw [List.take_set,List.drop_set,if_neg (Nat.not_lt.mpr hi)]

theorem slice_set_behind {start : Nat} (hi : stop ≤ i) (zone : List CodeUnit) (u : CodeUnit) :
    slice start stop (zone.set i u)=slice start stop zone := by
  unfold slice
  rw [List.take_set,List.set_eq_of_length_le ((List.length_take_le _ _).trans hi)]

theorem getElem?_slice {start : Nat} (hi : start ≤ i) (hi' : i < stop) (zone : List CodeUnit) :
    (slice start stop zone)[i-start]?=zone[i]? := by
  unfold slice
  rw [List.getElem?_drop,Nat.add_sub_cancel' hi,List.getElem?_take_of_lt hi']

/-- A digit is known by its character. -/
theorem digit_injective {a b : Nat} (ha : a<10) (hb : b<10)
    (h : unitOf (Nat.digitChar a)=unitOf (Nat.digitChar b)) : a=b := by
  have hall : ∀ a<10,∀ b<10,unitOf (Nat.digitChar a)=unitOf (Nat.digitChar b) → a=b := by decide
  exact hall a ha b hb h

/-- No misread digit of a field, or of its check digit, leaves the field checked. -/
theorem not_checked_set {start : Nat} {zone : List CodeUnit} (h : Checked start stop zone)
    (hi : start ≤ i) (hi' : i ≤ stop) (hd : zone[i]?=some d) (hdigit : isDigit d=true)
    (hdigit' : isDigit d'=true) (hne : d'≠d) : ¬Checked start stop (zone.set i d') := by
  rintro ⟨n',hcheck',hgot'⟩
  obtain ⟨n,hcheck,hgot⟩ := h
  rcases Nat.lt_or_eq_of_le hi' with hlt|rfl
  · -- the same check digit stands behind a field with another one
    rw [slice_set_inside hi] at hcheck'
    rw [List.getElem?_set_ne (Nat.ne_of_lt hlt),hgot] at hgot'
    rw [← getElem?_slice hi hlt] at hd
    have hdiffer := mrzCheckDigit_set_ne hd hdigit hdigit' hne hcheck hcheck'
    exact hdiffer (digit_injective (mrzCheckDigit_lt hcheck') (mrzCheckDigit_lt hcheck)
      (Option.some.inj hgot').symm)
  · -- the field is unchanged, its check digit is not
    rw [slice_set_behind (Nat.le_refl _),hcheck] at hcheck'
    cases hcheck'
    obtain ⟨hlen,-⟩ := List.getElem?_eq_some_iff.mp hd
    rw [List.getElem?_set_self hlen] at hgot'
    rw [hgot] at hd
    exact hne (Option.some.inj (hgot'.trans hd))

/-! ## The two lines -/

variable {line1 line2 : List CodeUnit} {f : PassportFields}

/-- The fields of an accepted pair of lines that carry a check digit of their own. -/
theorem checked_of_accepted (h : Accepted line1 line2 f) :
    Checked 0 9 line2 ∧ Checked 13 19 line2 ∧ Checked 21 27 line2 :=
  ⟨checkField_ok.mp h.documentCheck,checkField_ok.mp h.dobCheck,checkField_ok.mp h.expCheck⟩

/-- A pair of lines that is accepted is refused as soon as one digit of the
document number, the dates or their check digits is another one. -/
theorem misread_digit_rejected (h : parseMrz line1 line2=.ok f) {i : Nat} {d d' : CodeUnit}
    (hi : i≤9 ∨ (13 ≤ i ∧ i≤19) ∨ (21 ≤ i ∧ i≤27)) (hd : line2[i]?=some d)
    (hdigit : isDigit d=true) (hdigit' : isDigit d'=true) (hne : d'≠d) :
    ∃ e,parseMrz line1 (line2.set i d')=.error e := by
  obtain ⟨hnumber,hbirth,hexpiry⟩ := checked_of_accepted (accepted_of_parseMrz h)
  cases haltered : parseMrz line1 (line2.set i d') with
  | error e => exact ⟨e,rfl⟩
  | ok f' =>
    exfalso
    obtain ⟨hnumber',hbirth',hexpiry'⟩ := checked_of_accepted (accepted_of_parseMrz haltered)
    rcases hi with hi|⟨hi,hi'⟩|⟨hi,hi'⟩
    · exact not_checked_set hnumber (Nat.zero_le i) hi hd hdigit hdigit' hne hnumber'
    · exact not_checked_set hbirth hi hi' hd hdigit hdigit' hne hbirth'
    · exact not_checked_set hexpiry hi hi' hd hdigit hdigit' hne hexpiry'

/-- The last digit of the specimen's birth date, read as a zero. -/
theorem misread_digit_rejected_specimen :
    ∃ e,parseMrz specimen1 (specimen2.set 18 48)=.error e := by
  have hparse : parseMrz specimen1 specimen2=.ok specimenFields := by decide +kernel
  exact misread_digit_rejected hparse (.inr (.inl ⟨by decide,by decide⟩)) (d:=54) (by decide)
    (by decide) (by decide) (by decide)

end Voyagent.MrzMisreads
