import Voyagent.CanonicalTravel
import Voyagent.MrzMisreads

/-!
# What an accepted machine-readable zone holds

The check digits have every character of the fields they cover looked at. The
names, the issuing state and the nationality carry none, and a date is taken
whenever its month and its day are within 12 and 31.
-/

namespace Voyagent.MrzValidity

open FallibleResults PassportMrz MrzMisreads CalendarDates

/-! ## The claim on one pair of lines -/

/-- A character of the format: a digit, a capital letter or the filler. -/
def isMrzChar (u : CodeUnit) : Bool := isDigit u || isLetter u || u==filler

/-- A digit, a capital letter, or the blank a filler is shown as. -/
def isFieldChar (u : CodeUnit) : Bool := isDigit u || isLetter u || u==32

def FieldText (us : List CodeUnit) : Prop := ∀ u∈us,isFieldChar u=true

/-- A day of the calendar, written year, month and day. -/
def IsoDate (text : List CodeUnit) : Prop :=
  ∃ d : CalendarDate,text=units (CanonicalTravel.isoformat d)

/-- Six digits, read with a pivot, name a day of the calendar. -/
def RealDay (pivot : Nat) (raw : List CodeUnit) : Prop :=
  IsDate (fullYear pivot (parseDigits (slice 0 2 raw))) (parseDigits (slice 2 4 raw))
    (parseDigits (slice 4 6 raw))

instance (pivot : Nat) (raw : List CodeUnit) : Decidable (RealDay pivot raw) := by
  unfold RealDay
  infer_instance

/-- Dates of the calendar, and texts of the format's characters. -/
structure ValidFields (line1 : List CodeUnit) (f : PassportFields) : Prop where
  number : FieldText f.documentNumber
  surname : FieldText f.surname
  givenNames : FieldText f.givenNames
  nationality : FieldText f.nationality
  state : FieldText (issuingState line1)
  dob : IsoDate f.dateOfBirth
  expiration : IsoDate f.expirationDate

/-- An accepted pair of lines has valid fields, and one with an unknown
character or a day that does not exist is refused. -/
def MrzSound (line1 line2 : List CodeUnit) : Prop :=
  (∀ f,parseMrz line1 line2=.ok f → ValidFields line1 f) ∧
  ((∃ u∈line1++line2,isMrzChar u=false) ∨ ¬RealDay 30 (dobRaw line2) ∨ ¬RealDay 79 (expRaw line2) →
    ∃ e,parseMrz line1 line2=.error e)

/-- What `parseMrz` leaves unchecked is in order: the characters behind the
document code and those of the nationality, and the lengths of the months. -/
def UncheckedInOrder (line1 line2 : List CodeUnit) : Prop :=
  (∀ u∈line1.drop 1,isMrzChar u=true) ∧ (∀ u∈slice 10 13 line2,isMrzChar u=true) ∧
    RealDay 30 (dobRaw line2) ∧ RealDay 79 (expRaw line2)

/-! ## Characters -/

variable {u : CodeUnit}

theorem isMrzChar_of_value {v : Nat} (h : mrzValue u=.ok v) : isMrzChar u=true := by
  unfold mrzValue at h
  unfold isMrzChar
  split at h
  · rename_i hd
    rw [hd]
    rfl
  split at h
  · rename_i hl
    rw [hl,Bool.or_true]
    rfl
  split at h
  · rename_i hf
    rw [hf]
    rfl
  · cases h

variable {us : List CodeUnit}

/-- A check digit is computed of known characters only. -/
theorem mrzSum_chars {k : Nat} {sum : Nat} (h : mrzSum k us=.ok sum) : ∀ u∈us,isMrzChar u=true := by
  induction us generalizing k sum with
  | nil => exact fun u hu => absurd hu List.not_mem_nil
  | cons u us ih =>
    obtain ⟨v,hv,h⟩ := bind_ok.mp h
    obtain ⟨rest,hrest,-⟩ := bind_pure_ok.mp h
    intro w hw
    rcases List.mem_cons.mp hw with rfl|hw
    · exact isMrzChar_of_value hv
    · exact ih hrest w hw

variable {field : CheckedField}

theorem checkField_chars {input : List CodeUnit} {got : Option CodeUnit}
    (h : checkField field input got=.ok ()) : ∀ u∈input,isMrzChar u=true := by
  obtain ⟨n,hn,-⟩ := checkField_ok.mp h
  obtain ⟨sum,hsum,-⟩ := bind_pure_ok.mp hn
  exact mrzSum_chars hsum

theorem isMrzChar_digit {n : Nat} (hn : n<10) : isMrzChar (unitOf (Nat.digitChar n))=true := by
  have hall : ∀ n<10,isMrzChar (unitOf (Nat.digitChar n))=true := by decide
  exact hall n hn

theorem checkField_digit {input : List CodeUnit} (h : checkField field input (some u)=.ok ()) :
    isMrzChar u=true := by
  obtain ⟨n,hn,hu⟩ := checkField_ok.mp h
  rw [Option.some.inj hu]
  exact isMrzChar_digit (mrzCheckDigit_lt hn)

theorem parseSex_char {sex : Sex} (h : parseSex (some u)=.ok sex) : isMrzChar u=true := by
  unfold parseSex at h
  split at h
  · rename_i hu; rw [Option.some.inj hu]; rfl
  split at h
  · rename_i hu; rw [Option.some.inj hu]; rfl
  split at h
  · rename_i hu
    rcases hu with hu|hu <;> rw [Option.some.inj hu] <;> rfl
  · cases h

variable {stop : Nat}

theorem mem_slice {start i : Nat} (hi : start ≤ i) (hi' : i < stop) (hu : us[i]?=some u) :
    u∈slice start stop us := by
  rw [← getElem?_slice hi hi'] at hu
  exact List.mem_of_getElem? hu

theorem mem_of_mem_slice {start : Nat} (hu : u∈slice start stop us) :
    u∈us := List.mem_of_mem_take (List.mem_of_mem_drop hu)

/-- Every character of an accepted second line outside the nationality is known. -/
theorem line2_chars {line1 line2 : List CodeUnit} {f : PassportFields} (h : Accepted line1 line2 f)
    (hstate : ∀ u∈slice 10 13 line2,isMrzChar u=true) : ∀ u∈line2,isMrzChar u=true := by
  intro u hu
  obtain ⟨i,hi⟩ := List.mem_iff_getElem?.mp hu
  obtain ⟨hlen,-⟩ := List.getElem?_eq_some_iff.mp hi
  rw [h.length2] at hlen
  have hcomposite : u∈compositeInput line2 → isMrzChar u=true := checkField_chars h.compositeCheck u
  have hdigit : ∀ j,i=j → u∈line2[j]?.toList := fun j hj => by
    rw [← hj,hi]
    exact List.mem_singleton.mpr rfl
  unfold compositeInput documentNumber dobRaw expRaw at hcomposite
  simp only [List.mem_append] at hcomposite
  have hcases : i<9 ∨ i=9 ∨ (10 ≤ i ∧ i<13) ∨ (13 ≤ i ∧ i<19) ∨ i=19 ∨ i=20 ∨ (21 ≤ i ∧ i<27) ∨
      i=27 ∨ (28 ≤ i ∧ i<42) ∨ i=42 ∨ i=43 := by
    unfold td3LineLen at hlen
    omega
  rcases hcases with hc|hc|⟨hc,hc'⟩|⟨hc,hc'⟩|hc|hc|⟨hc,hc'⟩|hc|⟨hc,hc'⟩|hc|hc
  · exact hcomposite (by simp [mem_slice (Nat.zero_le i) hc hi])
  · exact hcomposite (by simp [hdigit 9 hc])
  · exact hstate u (mem_slice hc hc' hi)
  · exact hcomposite (by simp [mem_slice hc hc' hi])
  · exact hcomposite (by simp [hdigit 19 hc])
  · have hsex := h.sex
    rw [← hc,hi] at hsex
    exact parseSex_char hsex
  · exact hcomposite (by simp [mem_slice hc hc' hi])
  · exact hcomposite (by simp [hdigit 27 hc])
  · exact hcomposite (by simp [mem_slice hc hc' hi])
  · exact hcomposite (by simp [hdigit 42 hc])
  · have hlast := h.compositeCheck
    rw [← hc,hi] at hlast
    exact checkField_digit hlast

/-! ## Texts and dates answered -/

theorem isFieldChar_of_ne (h : isMrzChar u=true) (hne : u≠filler) : isFieldChar u=true := by
  unfold isMrzChar at h
  unfold isFieldChar
  rw [beq_false_of_ne hne,Bool.or_false] at h
  rw [h]
  rfl

/-- Fillers left out. -/
theorem fieldText_dropFiller (h : ∀ u∈us,isMrzChar u=true) : FieldText (dropFiller us) := by
  intro u hu
  obtain ⟨hmem,hne⟩ := List.mem_filter.mp hu
  exact isFieldChar_of_ne (h u hmem) (of_decide_eq_true hne)

theorem fieldText_collapse (h : FieldText us) (shown : Bool) : FieldText (collapse shown us) := by
  induction us generalizing shown with
  | nil => exact fun u hu => absurd hu List.not_mem_nil
  | cons u us ih =>
    have hrest : FieldText us := fun w hw => h w (List.mem_cons_of_mem _ hw)
    unfold collapse
    split
    · split
      · exact ih hrest true
      · intro w hw
        rcases List.mem_cons.mp hw with rfl|hw
        · rfl
        · exact ih hrest true w hw
    · intro w hw
      rcases List.mem_cons.mp hw with rfl|hw
      · exact h w List.mem_cons_self
      · exact ih hrest false w hw

/-- Fillers shown as blanks. -/
theorem fieldText_stripFiller (h : ∀ u∈us,isMrzChar u=true) : FieldText (stripFiller us) := by
  refine fieldText_collapse (fun u hu => ?_) false
  have hmem : u∈us.map fun u => if u=filler then 32 else u :=
    List.dropWhile_subset _ ((List.rdropWhile_prefix _ _).subset hu)
  obtain ⟨w,hw,rfl⟩ := List.mem_map.mp hmem
  split
  · rfl
  · rename_i hne
    exact isFieldChar_of_ne (h w hw) hne

theorem units_append (a b : String) : units (a++b)=units a++units b := by
  unfold units
  rw [String.toList_append,List.map_append]

/-- Years of this century and the last are written with four digits. -/
theorem leftpad_year {year : Nat} (h : 1000≤year) :
    String.ofList ((toString year).toList.leftpad 4 '0')=toString year := by
  have hlong : ¬(Nat.toDigits 10 year).length≤3 := by
    rw [Nat.length_toDigits_le_iff (by decide) (by decide)]
    exact Nat.not_lt.mpr h
  have hpad : (toString year).toList.leftpad 4 '0'=(toString year).toList := by
    rw [Nat.toString_eq_repr,Nat.toList_repr,List.leftpad,Nat.sub_eq_zero_of_le (by omega)]
    rfl
  rw [hpad,String.ofList_toList]

/-- A date that is taken and exists is written in ISO form. -/
theorem isoDate_of_realDay {raw text : List CodeUnit} {pivot : Nat} (h : parseMrzDate raw pivot=.ok text)
    (hreal : RealDay pivot raw) : IsoDate text := by
  unfold parseMrzDate at h
  split at h
  · cases h
  dsimp only at h
  split at h
  · cases h
  have hyear : 1000≤fullYear pivot (parseDigits (slice 0 2 raw)) := by
    unfold fullYear
    split <;> omega
  refine ⟨⟨_,_,_,hreal⟩,?_⟩
  rw [← Except.ok.inj h]
  unfold CanonicalTravel.isoformat padStart2
  dsimp only
  rw [leftpad_year hyear]
  simp only [units_append]

/-- What is cut out behind the document code. -/
theorem mem_drop_one_of_mem_slice {start : Nat} (hstart : 1 ≤ start) (hu : u∈slice start stop us) :
    u∈us.drop 1 := by
  obtain ⟨k,rfl⟩ : ∃ k,start=1+k := ⟨start-1,by omega⟩
  unfold slice at hu
  rw [List.drop_take,← List.drop_drop] at hu
  exact List.mem_of_mem_drop (List.mem_of_mem_take hu)

/-! ## Accepted lines -/

variable {line1 line2 : List CodeUnit} {f : PassportFields}

theorem validFields_of_order (h : Accepted line1 line2 f) (horder : UncheckedInOrder line1 line2) :
    ValidFields line1 f := by
  obtain ⟨hline1,hnation,hbirth,hexpiry⟩ := horder
  obtain ⟨sepIdx,-,hsurname,hgiven⟩ := h.names
  have hnames : ∀ u∈nameField line1,isMrzChar u=true := fun u hu =>
    hline1 u (mem_drop_one_of_mem_slice (by decide) hu)
  have hstate : FieldText (issuingState line1) :=
    fieldText_dropFiller fun u hu => hline1 u (mem_drop_one_of_mem_slice (by decide) hu)
  refine ⟨?_,?_,?_,?_,hstate,isoDate_of_realDay h.dob hbirth,isoDate_of_realDay h.expiration hexpiry⟩
  · rw [h.number]
    exact fieldText_dropFiller (checkField_chars h.documentCheck)
  · rw [hsurname]
    exact fieldText_stripFiller fun u hu => hnames u (List.mem_of_mem_take hu)
  · rw [hgiven]
    exact fieldText_stripFiller fun u hu => hnames u (List.mem_of_mem_drop hu)
  · rw [h.state]
    split
    · exact hstate
    · exact fieldText_dropFiller hnation

theorem line1_chars (h : Accepted line1 line2 f) (hline1 : ∀ u∈line1.drop 1,isMrzChar u=true) :
    ∀ u∈line1,isMrzChar u=true := by
  have hcode := h.code
  cases line1 with
  | nil => cases hcode
  | cons first rest =>
    intro u hu
    rcases List.mem_cons.mp hu with rfl|hu
    · rw [Option.some.inj hcode]
      rfl
    · exact hline1 u hu

/-- For an accepted pair of lines the fields are valid, and nothing unknown was
let through, exactly where the unchecked characters and days are in order. -/
theorem mrz_sound_iff (h : parseMrz line1 line2=.ok f) :
    MrzSound line1 line2 ↔ UncheckedInOrder line1 line2 := by
  have haccepted := accepted_of_parseMrz h
  constructor
  · rintro ⟨-,hrefused⟩
    have hkept : ¬((∃ u∈line1++line2,isMrzChar u=false) ∨ ¬RealDay 30 (dobRaw line2) ∨
        ¬RealDay 79 (expRaw line2)) := fun hbad => by
      obtain ⟨e,he⟩ := hrefused hbad
      rw [h] at he
      cases he
    rw [not_or,not_or,not_not,not_not] at hkept
    obtain ⟨hchars,hbirth,hexpiry⟩ := hkept
    have hknown : ∀ u∈line1++line2,isMrzChar u=true := fun u hu => by
      by_contra hu'
      exact hchars ⟨u,hu,Bool.eq_false_iff.mpr hu'⟩
    exact ⟨fun u hu => hknown u (List.mem_append_left _ (List.mem_of_mem_drop hu)),
      fun u hu => hknown u (List.mem_append_right _ (mem_of_mem_slice hu)),hbirth,hexpiry⟩
  · intro horder
    obtain ⟨hline1,hnation,hbirth,hexpiry⟩ := horder
    refine ⟨fun f' h' => validFields_of_order (accepted_of_parseMrz h') ⟨hline1,hnation,hbirth,hexpiry⟩,
      fun hbad => ?_⟩
    exfalso
    rcases hbad with ⟨u,hu,hunknown⟩|hbad|hbad
    · have hknown : isMrzChar u=true := (List.mem_append.mp hu).elim
        (line1_chars haccepted hline1 u) (line2_chars haccepted hnation u)
      rw [hknown] at hunknown
      cases hunknown
    · exact hbad hbirth
    · exact hbad hexpiry

/-- The specimen is in order. -/
theorem mrz_sound_iff_specimen :
    MrzSound specimen1 specimen2 ↔ UncheckedInOrder specimen1 specimen2 := by
  have hparse : parseMrz specimen1 specimen2=.ok specimenFields := by decide +kernel
  exact mrz_sound_iff hparse

/-- The specimen with a surname the reader took for small letters. -/
def smallLetters1 : List CodeUnit := units "P<UTOeriksson<<ANNA<MARIA<<<<<<<<<<<<<<<<<<<"

/-- The specimen of someone born on the thirtieth of February, its check digits right. -/
def februaryLine2 : List CodeUnit := units "L898902C<3UTO9002306F9406236ZE184226B<<<<<12"

/-- Small letters in a name and a day that does not exist are taken. -/
theorem small_letters_and_february_thirtieth_accepted :
    ¬MrzSound smallLetters1 specimen2 ∧ ¬MrzSound specimen1 februaryLine2 := by
  constructor
  · rintro ⟨-,hrefused⟩
    obtain ⟨e,he⟩ := hrefused (.inl ⟨unitOf 'e',by decide,by decide⟩)
    have hparse : parseMrz smallLetters1 specimen2=.ok {specimenFields with
        surname := units "eriksson", rawMrz := [smallLetters1,specimen2]} := by decide +kernel
    rw [hparse] at he
    cases he
  · rintro ⟨-,hrefused⟩
    obtain ⟨e,he⟩ := hrefused (.inr (.inl (by decide)))
    have hparse : parseMrz specimen1 februaryLine2=.ok {specimenFields with
        dateOfBirth := units "1990-02-30", rawMrz := [specimen1,februaryLine2]} := by decide +kernel
    rw [hparse] at he
    cases he

end Voyagent.MrzValidity
