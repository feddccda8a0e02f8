import Mathlib.Data.List.DropRight

/-!
# References resolved against a web page

The basic URL parser on references, as far as the origin of the result goes:
the normalisation of its input, the states up to the port, and what each of
them takes from the base. The states behind the port only write path, query
and fragment and never fail. Absolute references and host names are read by
parameters, so whatever they do is covered.
-/

namespace Voyagent.UrlReferences

/-- A text as a script holds it: code units that need not pair up. -/
abbrev ScriptText : Type := List UInt16

def isLead (u : UInt16) : Bool := decide (0xD800≤u.toNat) && decide (u.toNat<0xDC00)

def isTrail (u : UInt16) : Bool := decide (0xDC00≤u.toNat) && decide (u.toNat<0xE000)

/-- One unit on its own; a lone surrogate is replaced. -/
def unitChar (u : UInt16) : Char :=
  if isLead u || isTrail u then Char.ofNat 0xFFFD else Char.ofNat u.toNat

/-- The character of a surrogate pair. -/
def pairChar (u v : UInt16) : Char :=
  Char.ofNat (0x10000+(u.toNat-0xD800)*0x400+(v.toNat-0xDC00))

/-- Conversion of a text to scalar values. -/
def scalarValues : ScriptText → List Char
  | [] => []
  | [u] => [unitChar u]
  | u::v::us =>
    if isLead u && isTrail v then pairChar u v::scalarValues us
    else unitChar u::scalarValues (v::us)

/-- A control character below the space, or the space. -/
def isC0ControlOrSpace (c : Char) : Bool := decide (c.toNat≤0x20)

def isTabOrNewline (c : Char) : Bool := c.toNat=0x09 || c.toNat=0x0A || c.toNat=0x0D

/-- The input as the parser's states see it. -/
def normalForm (cs : List Char) : List Char :=
  ((cs.dropWhile isC0ControlOrSpace).rdropWhile isC0ControlOrSpace).filter fun c =>
    !isTabOrNewline c

/-- A parsed host. -/
inductive Host where
  | domain (name : String)
  | ipv4 (address : Nat)
  | ipv6 (address : Nat)
  deriving DecidableEq

/-- The origin of a special URL. -/
structure Origin where
  scheme : String
  host : Host
  port : Option Nat
  deriving DecidableEq

def defaultPort (scheme : String) : Option Nat :=
  if scheme="http" || scheme="ws" then some 80
  else if scheme="https" || scheme="wss" then some 443
  else if scheme="ftp" then some 21
  else none

/-- A solidus, or the reverse solidus a special URL treats alike. -/
def isSlash (c : Char) : Bool := c= '/' || c= '\\'

/-- What ends the authority of a special URL. -/
def endsAuthority (c : Char) : Bool := isSlash c || c= '?' || c= '#'

/-- The port state on the rest of the authority. -/
def portState (scheme : String) (buffer : List Char) : Option (Option Nat) :=
  if buffer.all Char.isDigit then
    if buffer=[] then some none
    else
      let port := buffer.foldl (fun n c => n*10+(c.toNat-0x30)) 0
      if port≤65535 then
        if defaultPort scheme=some port then some none else some (some port)
      else none
  else none

/-- The host's text and, behind a colon outside brackets, the port's. -/
def splitPort : Bool → List Char → List Char × Option (List Char)
  | _,[] => ([],none)
  | insideBrackets,c::cs =>
    if c= ':' && !insideBrackets then ([],some cs)
    else
      let inside := if c= '[' then true else if c= ']' then false else insideBrackets
      (c::(splitPort inside cs).1,(splitPort inside cs).2)

/-- What follows the last `@`, and whether there was one. -/
def behindCredentials (cs : List Char) : List Char × Bool :=
  (cs.rtakeWhile fun c => !(c= '@' : Bool),cs.contains '@')

section Parser

variable (hostParser : List Char → Option Host) (schemeState : List Char → Origin → Option Origin)

/-- The host state: a host, and the port state when a colon follows. -/
def hostState (scheme : String) (cs : List Char) : Option Origin := do
  let text := (splitPort false cs).1
  if text=[] then none
  else
    let host ← hostParser text
    match (splitPort false cs).2 with
    | none => some ⟨scheme,host,none⟩
    | some buffer => do
      let port ← portState scheme buffer
      some ⟨scheme,host,port⟩

/-- The authority state: skip the credentials, then read the host. -/
def authorityState (scheme : String) (cs : List Char) : Option Origin :=
  let host := behindCredentials (cs.takeWhile fun c => !endsAuthority c)
  if host.2 && host.1.isEmpty then none else hostState hostParser scheme host.1

/-- The relative slash state: a second slash starts an authority. -/
def relativeSlashState (cs : List Char) (base : Origin) : Option Origin :=
  match cs with
  | [] => some base
  | c::cs =>
    if isSlash c then authorityState hostParser base.scheme (cs.dropWhile isSlash) else some base

/-- The relative state: host and port of the base, unless a slash leads on. -/
def relativeState (cs : List Char) (base : Origin) : Option Origin :=
  match cs with
  | [] => some base
  | c::cs => if isSlash c then relativeSlashState hostParser cs base else some base

/-- The origin of a reference resolved against a special base, or failure. -/
def resolve (reference : ScriptText) (base : Origin) : Option Origin :=
  let input := normalForm (scalarValues reference)
  match input with
  | [] => relativeState hostParser [] base
  | c::_ => if c.isAlpha then schemeState input base else relativeState hostParser input base

end Parser

/-! ## What decides whether an authority starts -/

/-- A unit that the parser removes. -/
def isTabOrNewlineUnit (u : UInt16) : Bool := u=0x09 || u=0x0A || u=0x0D

/-- A unit of one of the two slashes. -/
def isSlashUnit (u : UInt16) : Bool := u=0x2F || u=0x5C

/-- The rest of a text behind a first slash starts with a second one, once
the units the parser removes are gone. -/
def secondSlash (us : ScriptText) : Bool :=
  (us.dropWhile isTabOrNewlineUnit).head?.any isSlashUnit

variable {hostParser : List Char → Option Host} {schemeState : List Char → Origin → Option Origin}

variable (cs : List Char) (us : ScriptText) (u : UInt16)

/-- The code of a converted single unit. -/
theorem toNat_unitChar :
    (unitChar u).toNat=if isLead u || isTrail u then 0xFFFD else u.toNat := by
  unfold unitChar
  split
  · rfl
  · rename_i h
    simp only [isLead,isTrail,Bool.or_eq_true,Bool.and_eq_true,decide_eq_true_eq,not_or,not_and,
      Nat.not_lt] at h
    have hbound : u.toNat<65536 := u.toNat_lt
    have hvalid : u.toNat.isValidChar := by
      unfold Nat.isValidChar
      omega
    rw [Char.ofNat,dif_pos hvalid]
    rfl

/-- The code of a converted pair lies above the basic plane. -/
theorem toNat_pairChar {u v : UInt16} (hu : isLead u=true) (hv : isTrail v=true) :
    0x10000≤(pairChar u v).toNat := by
  simp only [isLead,isTrail,Bool.and_eq_true,decide_eq_true_eq] at hu hv
  have hvalid : (0x10000+(u.toNat-0xD800)*0x400+(v.toNat-0xDC00)).isValidChar := by
    unfold Nat.isValidChar
    omega
  rw [pairChar,Char.ofNat,dif_pos hvalid]
  change 0x10000≤0x10000+(u.toNat-0xD800)*0x400+(v.toNat-0xDC00)
  omega

theorem isSlash_eq (c : Char) : isSlash c=(decide (c.toNat=0x2F) || decide (c.toNat=0x5C)) := by
  have hsolidus : c= '/' ↔ c.toNat=0x2F := (Char.toNat_inj (d:= '/')).symm
  have hreverse : c= '\\' ↔ c.toNat=0x5C := (Char.toNat_inj (d:= '\\')).symm
  rw [isSlash,decide_eq_decide.mpr hsolidus,decide_eq_decide.mpr hreverse]

theorem isSlash_unitChar : isSlash (unitChar u)=isSlashUnit u := by
  have hsolidus : u=0x2F ↔ u.toNat=0x2F := UInt16.toNat_inj.symm
  have hreverse : u=0x5C ↔ u.toNat=0x5C := UInt16.toNat_inj.symm
  rw [isSlash_eq,toNat_unitChar,isSlashUnit,decide_eq_decide.mpr hsolidus,
    decide_eq_decide.mpr hreverse]
  split
  · rename_i h
    simp only [isLead,isTrail,Bool.or_eq_true,Bool.and_eq_true,decide_eq_true_eq] at h
    have h2F : u.toNat≠0x2F := by omega
    have h5C : u.toNat≠0x5C := by omega
    simp [h2F,h5C]
  · rfl

theorem isTabOrNewline_unitChar :
    isTabOrNewline (unitChar u)=isTabOrNewlineUnit u := by
  have htab : u=0x09 ↔ u.toNat=0x09 := UInt16.toNat_inj.symm
  have hfeed : u=0x0A ↔ u.toNat=0x0A := UInt16.toNat_inj.symm
  have hreturn : u=0x0D ↔ u.toNat=0x0D := UInt16.toNat_inj.symm
  rw [isTabOrNewline,toNat_unitChar,isTabOrNewlineUnit,decide_eq_decide.mpr htab,
    decide_eq_decide.mpr hfeed,decide_eq_decide.mpr hreturn]
  split
  · rename_i h
    simp only [isLead,isTrail,Bool.or_eq_true,Bool.and_eq_true,decide_eq_true_eq] at h
    have h09 : u.toNat≠0x09 := by omega
    have h0A : u.toNat≠0x0A := by omega
    have h0D : u.toNat≠0x0D := by omega
    simp [h09,h0A,h0D]
  · rfl

/-- A character above the basic plane is neither removed nor a slash. -/
theorem kind_of_large {c : Char} (h : 0x10000≤c.toNat) :
    isTabOrNewline c=false ∧ isSlash c=false := by
  constructor
  · have h09 : c.toNat≠0x09 := by omega
    have h0A : c.toNat≠0x0A := by omega
    have h0D : c.toNat≠0x0D := by omega
    simp [isTabOrNewline,h09,h0A,h0D]
  · have h2F : c.toNat≠0x2F := by omega
    have h5C : c.toNat≠0x5C := by omega
    rw [isSlash_eq,decide_eq_false h2F,decide_eq_false h5C]
    rfl

/-- A high surrogate is neither a slash nor a unit that is removed. -/
theorem kind_of_lead {u : UInt16} (hu : isLead u=true) :
    isTabOrNewlineUnit u=false ∧ isSlashUnit u=false := by
  have hunit : (unitChar u).toNat=0xFFFD := by rw [toNat_unitChar,hu]; rfl
  rw [← isTabOrNewline_unitChar,← isSlash_unitChar,isTabOrNewline,isSlash_eq,hunit]
  exact ⟨by decide,by decide⟩

/-- A first character and a first unit that both stay decide alike. -/
theorem head_kept {c : Char} {u : UInt16} (hc : isTabOrNewline c=false)
    (hu : isTabOrNewlineUnit u=false) (hslash : isSlash c=isSlashUnit u) :
    ((c::cs).filter fun c => !isTabOrNewline c).head?.any isSlash=secondSlash (u::us) := by
  rw [secondSlash,List.filter_cons_of_pos (by simp [hc]),List.dropWhile_cons_of_neg (by simp [hu])]
  simp [hslash]

/-- Whether a slash comes first is seen on the units as on the characters. -/
theorem scalarValues_head :
    ((scalarValues us).filter fun c => !isTabOrNewline c).head?.any isSlash=secondSlash us := by
  have hsingle : ∀ (u : UInt16) (us : ScriptText),
      ((scalarValues us).filter fun c => !isTabOrNewline c).head?.any isSlash=secondSlash us →
      ((unitChar u::scalarValues us).filter fun c => !isTabOrNewline c).head?.any isSlash=
        secondSlash (u::us) := by
    intro u us ih
    have hkind := isTabOrNewline_unitChar u
    cases htab : isTabOrNewlineUnit u with
    | true =>
      rw [secondSlash,List.filter_cons_of_neg (by simp [hkind,htab]),List.dropWhile_cons_of_pos htab]
      exact ih
    | false => exact head_kept _ _ (hkind.trans htab) htab (isSlash_unitChar u)
  induction us using scalarValues.induct with
  | case1 => rfl
  | case2 u => exact hsingle u [] rfl
  | case3 u v us hpair ih =>
    obtain ⟨hu,hv⟩ := Bool.and_eq_true_iff.mp hpair
    obtain ⟨hkeep,hslash⟩ := kind_of_large (toNat_pairChar hu hv)
    obtain ⟨htab,hunit⟩ := kind_of_lead hu
    rw [scalarValues,if_pos hpair]
    exact head_kept _ _ hkeep htab (hslash.trans hunit.symm)
  | case4 u v us hpair ih =>
    rw [scalarValues,if_neg hpair]
    exact hsingle u (v::us) ih

/-- Nothing that is stripped at the end is a slash. -/
theorem stripped_not_slash {c : Char} (h : isC0ControlOrSpace c=true) : isSlash c=false := by
  have hc : c.toNat≤0x20 := of_decide_eq_true h
  simp only [isSlash_eq,Bool.or_eq_false_iff,decide_eq_false_iff_not]
  omega

/-- Stripping the end keeps the first character unless nothing is left. -/
theorem rdropWhile_cons {α : Type} (p : α → Bool) (c : α) (cs : List α) :
    (c::cs).rdropWhile p=if (c::cs).all p then [] else c::cs.rdropWhile p := by
  rw [List.rdropWhile,List.reverse_cons,List.dropWhile_append]
  cases hcs : cs.all p with
  | true =>
    have hnil : cs.reverse.dropWhile p=[] := by
      rw [List.dropWhile_eq_nil_iff]
      exact fun x hx => List.all_eq_true.mp hcs x (List.mem_reverse.mp hx)
    cases hc : p c <;> simp [List.rdropWhile,hnil,hcs,hc,List.dropWhile]
  | false =>
    have hcons : cs.reverse.dropWhile p≠[] := by
      intro h
      have hall := List.dropWhile_eq_nil_iff.mp h
      have : cs.all p=true := List.all_eq_true.mpr fun x hx => hall x (List.mem_reverse.mpr hx)
      rw [hcs] at this
      cases this
    simp [List.rdropWhile,hcons,hcs]

/-- Stripping the end does not change whether a slash comes first. -/
theorem strip_head :
    ((cs.rdropWhile isC0ControlOrSpace).filter fun c => !isTabOrNewline c).head?.any isSlash=
      (cs.filter fun c => !isTabOrNewline c).head?.any isSlash := by
  induction cs with
  | nil => rfl
  | cons c cs ih =>
    rw [rdropWhile_cons]
    split
    · rename_i hall
      have hnone : ∀ x,((c::cs).filter fun c => !isTabOrNewline c).head?=some x → isSlash x=false := by
        intro x hx
        have hmem := List.mem_of_mem_filter (List.mem_of_mem_head? hx)
        exact stripped_not_slash (List.all_eq_true.mp hall x hmem)
      cases hhead : ((c::cs).filter fun c => !isTabOrNewline c).head? with
      | none => rfl
      | some x => simp [hnone x hhead]
    · cases hc : isTabOrNewline c with
      | true => simpa [hc] using ih
      | false => simp [hc]

/-- A text that starts with a slash keeps it in its normal form. -/
theorem normalForm_slash : ∃ cs,
    normalForm (scalarValues (0x2F::us))= '/'::cs ∧ cs.head?.any isSlash=secondSlash us := by
  have hhead : scalarValues (0x2F::us)= '/'::scalarValues us := by
    cases us with
    | nil => rfl
    | cons v us =>
      have hlead : isLead 0x2F=false := by decide
      rw [scalarValues,if_neg (by simp [hlead])]
      rfl
  refine ⟨((scalarValues us).rdropWhile isC0ControlOrSpace).filter fun c => !isTabOrNewline c,?_,?_⟩
  · rw [normalForm,hhead,List.dropWhile_cons_of_neg (by decide),rdropWhile_cons,
      if_neg (by simp [isC0ControlOrSpace]),List.filter_cons_of_pos (by decide)]
  · rw [strip_head,scalarValues_head]

/-- A reference that starts with one slash keeps the base's origin, and one
that starts with two takes whatever its own text says. -/
theorem resolve_slash (hostParser : List Char → Option Host)
    (schemeState : List Char → Origin → Option Origin) (us : ScriptText) :
    (secondSlash us=false → ∀ base,resolve hostParser schemeState (0x2F::us) base=some base) ∧
    (secondSlash us=true → ∃ cs,∀ base,resolve hostParser schemeState (0x2F::us) base=
      authorityState hostParser base.scheme cs) := by
  obtain ⟨cs,hform,hsecond⟩ := normalForm_slash us
  have hresolve : ∀ base,resolve hostParser schemeState (0x2F::us) base=
      relativeSlashState hostParser cs base := by
    intro base
    rw [resolve,hform]
    rfl
  constructor
  · intro h base
    rw [hresolve]
    cases cs with
    | nil => rfl
    | cons c cs =>
      have hc : isSlash c=false := by simpa [h] using hsecond
      simp [relativeSlashState,hc]
  · intro h
    cases cs with
    | nil =>
      rw [h] at hsecond
      cases hsecond
    | cons c cs =>
      have hc : isSlash c=true := by simpa [h] using hsecond
      exact ⟨cs.dropWhile isSlash,fun base => by rw [hresolve,relativeSlashState,if_pos hc]⟩

/-- What an authority says has its own host, whatever page refers to it. -/
theorem authority_leaves (hostParser : List Char → Option Host) (scheme : String)
    (cs : List Char) : ∃ base : Origin,base.scheme=scheme ∧
      authorityState hostParser scheme cs≠some base := by
  cases h : authorityState hostParser scheme cs with
  | none => exact ⟨⟨scheme,.ipv4 0,none⟩,rfl,fun h => by cases h⟩
  | some o =>
    by_cases ho : o.host=.ipv4 0
    · refine ⟨⟨scheme,.ipv4 1,none⟩,rfl,fun heq => ?_⟩
      rw [Option.some.inj heq] at ho
      cases ho
    · refine ⟨⟨scheme,.ipv4 0,none⟩,rfl,fun heq => ho ?_⟩
      rw [Option.some.inj heq]

end Voyagent.UrlReferences
