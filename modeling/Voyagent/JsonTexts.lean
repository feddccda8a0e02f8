import Voyagent.RuntimeValues

/-!
# JSON texts

`json.dumps` with its default separators and a reader of JSON texts after
`json.loads`. Floats are shown and read by the caller's functions. A value
whose objects repeat no key is read back from its text, whatever white space
stands behind commas and colons.
-/

namespace Voyagent.JsonTexts

open RuntimeValues KeyedMap

/-! ## Writing -/

mutual
/-- `json.dumps(value)`, with the text of floats given. -/
def dumps (floatText : Rat → String) : Json → List Char
  | .null => "null".toList
  | .bool true => "true".toList
  | .bool false => "false".toList
  | .int n => (toString n).toList
  | .float q => (floatText q).toList
  | .str s => (jsonString s).toList
  | .arr [] => ['[',']']
  | .arr (v::vs) => '['::(dumps floatText v++dumpItems floatText vs)
  | .obj [] => ['\x7b','\x7d']
  | .obj ((k,v)::fs) =>
    '\x7b'::((jsonString k).toList++(':':: ' '::(dumps floatText v++dumpMembers floatText fs)))
/-- The elements behind the first one, and the end of their array. -/
def dumpItems (floatText : Rat → String) : List Json → List Char
  | [] => [']']
  | v::vs => ',':: ' '::(dumps floatText v++dumpItems floatText vs)
/-- The members behind the first one, and the end of their object. -/
def dumpMembers (floatText : Rat → String) : List (String × Json) → List Char
  | [] => ['\x7d']
  | (k,v)::fs => ',':: ' '::((jsonString k).toList++
      (':':: ' '::(dumps floatText v++dumpMembers floatText fs)))
end

mutual
/-- The text of a value with `gap` behind commas and colons. -/
def spaced (gap : List Char) (floatText : Rat → String) : Json → List Char
  | .null => "null".toList
  | .bool true => "true".toList
  | .bool false => "false".toList
  | .int n => (toString n).toList
  | .float q => (floatText q).toList
  | .str s => (jsonString s).toList
  | .arr [] => ['[',']']
  | .arr (v::vs) => '['::(spaced gap floatText v++spacedItems gap floatText vs)
  | .obj [] => ['\x7b','\x7d']
  | .obj ((k,v)::fs) => '\x7b'::((jsonString k).toList++
      (':'::(gap++(spaced gap floatText v++spacedMembers gap floatText fs))))
def spacedItems (gap : List Char) (floatText : Rat → String) : List Json → List Char
  | [] => [']']
  | v::vs => ','::(gap++(spaced gap floatText v++spacedItems gap floatText vs))
def spacedMembers (gap : List Char) (floatText : Rat → String) : List (String × Json) → List Char
  | [] => ['\x7d']
  | (k,v)::fs => ','::(gap++((jsonString k).toList++
      (':'::(gap++(spaced gap floatText v++spacedMembers gap floatText fs)))))
end

mutual
/-- The default separators leave a blank. -/
theorem dumps_eq_spaced (floatText : Rat → String) : ∀ v : Json,
    dumps floatText v=spaced [' '] floatText v
  | .null => rfl
  | .bool true => rfl
  | .bool false => rfl
  | .int _ => rfl
  | .float _ => rfl
  | .str _ => rfl
  | .arr [] => rfl
  | .arr (v::vs) => by
    change '['::(dumps floatText v++dumpItems floatText vs)=_
    rw [dumps_eq_spaced floatText v,dumpItems_eq_spaced floatText vs]
    rfl
  | .obj [] => rfl
  | .obj ((k,v)::fs) => by
    change '\x7b'::((jsonString k).toList++
      (':':: ' '::(dumps floatText v++dumpMembers floatText fs)))=_
    rw [dumps_eq_spaced floatText v,dumpMembers_eq_spaced floatText fs]
    rfl
theorem dumpItems_eq_spaced (floatText : Rat → String) : ∀ vs : List Json,
    dumpItems floatText vs=spacedItems [' '] floatText vs
  | [] => rfl
  | v::vs => by
    change ',':: ' '::(dumps floatText v++dumpItems floatText vs)=_
    rw [dumps_eq_spaced floatText v,dumpItems_eq_spaced floatText vs]
    rfl
theorem dumpMembers_eq_spaced (floatText : Rat → String) : ∀ fs : List (String × Json),
    dumpMembers floatText fs=spacedMembers [' '] floatText fs
  | [] => rfl
  | (k,v)::fs => by
    change ',':: ' '::((jsonString k).toList++
      (':':: ' '::(dumps floatText v++dumpMembers floatText fs)))=_
    rw [dumps_eq_spaced floatText v,dumpMembers_eq_spaced floatText fs]
    rfl
end

/-- Texts joined by commas, one comma and text at a time. -/
theorem toList_joinWith (s : String) (ss : List String) :
    (joinWith "," (s::ss)).toList=s.toList++ss.flatMap fun t => ','::t.toList := by
  induction ss generalizing s with
  | nil => simp [joinWith]
  | cons t ss ih =>
    rw [joinWith,String.toList_append,String.toList_append,ih,List.flatMap_cons,List.append_assoc]
    rfl

mutual
/-- The compact separators leave nothing. -/
theorem toList_compactJson (floatText : Rat → String) : ∀ v : Json,
    (compactJson floatText v).toList=spaced [] floatText v
  | .null => rfl
  | .bool true => rfl
  | .bool false => rfl
  | .int _ => rfl
  | .float _ => rfl
  | .str _ => rfl
  | .arr [] => by
    rw [compactJson,compactItems,String.toList_append,String.toList_append]
    rfl
  | .arr (v::vs) => by
    rw [compactJson,compactItems,String.toList_append,String.toList_append,toList_joinWith,
      toList_compactJson floatText v,spaced,← toList_compactItems floatText vs,List.append_assoc,
      List.append_assoc]
    rfl
  | .obj [] => by
    rw [compactJson,compactFields,String.toList_append,String.toList_append]
    rfl
  | .obj ((k,v)::fs) => by
    rw [compactJson,compactFields,String.toList_append,String.toList_append,toList_joinWith,
      String.toList_append,String.toList_append,toList_compactJson floatText v,spaced,
      ← toList_compactFields floatText fs,List.append_assoc,List.append_assoc,List.append_assoc,
      List.append_assoc]
    rfl
theorem toList_compactItems (floatText : Rat → String) : ∀ vs : List Json,
    ((compactItems floatText vs).flatMap fun t => ','::t.toList)++[']']=spacedItems [] floatText vs
  | [] => rfl
  | v::vs => by
    rw [compactItems,List.flatMap_cons,List.append_assoc,toList_compactItems floatText vs,
      toList_compactJson floatText v,spacedItems]
    rfl
theorem toList_compactFields (floatText : Rat → String) : ∀ fs : List (String × Json),
    ((compactFields floatText fs).flatMap fun t => ','::t.toList)++['\x7d']=
      spacedMembers [] floatText fs
  | [] => rfl
  | (k,v)::fs => by
    rw [compactFields,List.flatMap_cons,List.append_assoc,toList_compactFields floatText fs,
      String.toList_append,String.toList_append,toList_compactJson floatText v,spacedMembers]
    simp only [List.cons_append,List.append_assoc,List.nil_append]
    rfl
end

/-! ## Reading -/

def isJsonSpace (c : Char) : Bool := [' ','\t','\n','\r'].contains c

def skipSpace (cs : List Char) : List Char := cs.dropWhile isJsonSpace

def hexValue (c : Char) : Option Nat :=
  let n := c.toNat
  if 48≤n && n≤57 then some (n-48)
  else if 97≤n && n≤102 then some (n-87)
  else if 65≤n && n≤70 then some (n-55)
  else none

/-- Four hexadecimal digits. -/
def readUnit : List Char → Option (Nat × List Char)
  | a::b::c::d::cs => do
    let a ← hexValue a
    let b ← hexValue b
    let c ← hexValue c
    let d ← hexValue d
    return (a*4096+b*256+c*16+d,cs)
  | _ => none

/-- The short escapes. -/
def unescape (c : Char) : Option Char :=
  if c= '"' ∨ c= '\\' ∨ c= '/' then some c
  else if c= 'b' then some (Char.ofNat 0x08)
  else if c= 'f' then some (Char.ofNat 0x0C)
  else if c= 'n' then some '\n'
  else if c= 'r' then some '\r'
  else if c= 't' then some '\t'
  else none

/-- The code point of an escape: a unit of the basic plane, or a high surrogate
with the low one behind it. -/
def readEscape (u : Nat) (cs : List Char) : Option (Char × List Char) :=
  if 0xD800≤u && u<0xDC00 then
    match cs with
    | '\\':: 'u'::cs => do
      let (v,cs) ← readUnit cs
      if 0xDC00≤v && v<0xE000 then return (Char.ofNat (0x10000+(u-0xD800)*1024+(v-0xDC00)),cs)
      else none
    | _ => none
  else if 0xDC00≤u && u<0xE000 then none
  else some (Char.ofNat u,cs)

/-- One code point of a string, or the end of the string. -/
def readChar : List Char → Option (Option Char × List Char)
  | [] => none
  | '"'::cs => some (none,cs)
  | '\\':: 'u'::cs => do
    let (u,cs) ← readUnit cs
    let (c,cs) ← readEscape u cs
    return (some c,cs)
  | '\\'::c::cs => (unescape c).map fun d => (some d,cs)
  | '\\'::[] => none
  | c::cs => if c.toNat<0x20 then none else some (some c,cs)

/-- The rest of a string behind its opening quote; the bound is on its code points. -/
def readChars : Nat → List Char → Option (List Char × List Char)
  | 0,_ => none
  | n+1,cs =>
    match readChar cs with
    | some (some c,rest) => (readChars n rest).map fun r => (c::r.1,r.2)
    | some (none,rest) => some ([],rest)
    | none => none

def readString (cs : List Char) : Option (String × List Char) :=
  (readChars (cs.length+1) cs).map fun r => (String.ofList r.1,r.2)

/-- `0|[1-9]\d*`. -/
def readWhole (cs : List Char) : Option (List Char × List Char) :=
  match cs with
  | '0'::rest => some (['0'],rest)
  | _ =>
    if cs.takeWhile Char.isDigit=[] then none
    else some (cs.takeWhile Char.isDigit,cs.dropWhile Char.isDigit)

/-- `(\.\d+)?`. -/
def readFraction (cs : List Char) : List Char × List Char :=
  match cs with
  | '.'::rest =>
    if rest.takeWhile Char.isDigit=[] then ([],cs)
    else ('.'::rest.takeWhile Char.isDigit,rest.dropWhile Char.isDigit)
  | _ => ([],cs)

/-- The sign of an exponent. -/
def readSign : List Char → List Char × List Char
  | '-'::rest => (['-'],rest)
  | '+'::rest => (['+'],rest)
  | rest => ([],rest)

/-- `([eE][-+]?\d+)?`. -/
def readExponent (cs : List Char) : List Char × List Char :=
  match cs with
  | [] => ([],[])
  | e::rest =>
    let (sign,digits) := readSign rest
    if (e= 'e' ∨ e= 'E') ∧ digits.takeWhile Char.isDigit≠[] then
      (e::(sign++digits.takeWhile Char.isDigit),digits.dropWhile Char.isDigit)
    else ([],cs)

/-- A number without its minus sign. -/
def readUnsigned (floatOf : List Char → Option Rat) (minus : Bool) (cs : List Char) :
    Option (Json × List Char) := do
  let (whole,cs) ← readWhole cs
  let (fraction,cs) := readFraction cs
  let (exponent,cs) := readExponent cs
  if fraction=[] ∧ exponent=[] then
    let n : Int := Nat.ofDigitChars 10 whole 0
    return (.int (if minus then -n else n),cs)
  else
    let q ← floatOf ((if minus then ['-'] else [])++whole++fraction++exponent)
    return (.float q,cs)

def readNumber (floatOf : List Char → Option Rat) : List Char → Option (Json × List Char)
  | '-'::cs => readUnsigned floatOf true cs
  | cs => readUnsigned floatOf false cs

mutual
/-- One value; the bound is on the values and members still to read. -/
def readValue (floatOf : List Char → Option Rat) : Nat → List Char → Option (Json × List Char)
  | 0,_ => none
  | n+1,cs =>
    match cs with
    | '"'::rest => (readString rest).map fun r => (.str r.1,r.2)
    | '['::rest =>
      match skipSpace rest with
      | ']'::rest => some (.arr [],rest)
      | rest => (readItems floatOf n rest).map fun r => (.arr r.1,r.2)
    | '\x7b'::rest =>
      match skipSpace rest with
      | '\x7d'::rest => some (.obj [],rest)
      | rest => (readMembers floatOf n rest).map fun r => (.obj (ofPairs r.1),r.2)
    | 'n':: 'u':: 'l':: 'l'::rest => some (.null,rest)
    | 't':: 'r':: 'u':: 'e'::rest => some (.bool true,rest)
    | 'f':: 'a':: 'l':: 's':: 'e'::rest => some (.bool false,rest)
    | cs => readNumber floatOf cs
/-- The elements of an array and its end. -/
def readItems (floatOf : List Char → Option Rat) : Nat → List Char → Option (List Json × List Char)
  | 0,_ => none
  | n+1,cs => do
    let (v,rest) ← readValue floatOf n cs
    match skipSpace rest with
    | ','::rest => (readItems floatOf n (skipSpace rest)).map fun r => (v::r.1,r.2)
    | ']'::rest => some ([v],rest)
    | _ => none
/-- The members of an object and its end. -/
def readMembers (floatOf : List Char → Option Rat) :
    Nat → List Char → Option (List (String × Json) × List Char)
  | 0,_ => none
  | n+1,'"'::cs => do
    let (k,rest) ← readString cs
    match skipSpace rest with
    | ':'::rest => do
      let (v,rest) ← readValue floatOf n (skipSpace rest)
      match skipSpace rest with
      | ','::rest => (readMembers floatOf n (skipSpace rest)).map fun r => ((k,v)::r.1,r.2)
      | '\x7d'::rest => some ([(k,v)],rest)
      | _ => none
    | _ => none
  | _+1,_ => none
end

/-- `json.loads`, nothing but white space behind the value. -/
def loads (floatOf : List Char → Option Rat) (cs : List Char) : Option Json :=
  (readValue floatOf (cs.length+1) (skipSpace cs)).bind fun r =>
    if skipSpace r.2=[] then some r.1 else none

/-! ## Strings read back -/

theorem hexValue_digitChar {d : Nat} (hd : d<16) : hexValue (Nat.digitChar d)=some d := by
  have hall : ∀ d<16,hexValue (Nat.digitChar d)=some d := by decide
  exact hall d hd

variable {n : Nat}

theorem readUnit_digits (hn : n<0x10000) (cs : List Char) :
    readUnit ([n/4096,n/256%16,n/16%16,n%16].map Nat.digitChar++cs)=some (n,cs) := by
  have hsum : n/4096*4096+n/256%16*256+n/16%16*16+n%16=n := by omega
  simp only [List.map_cons,List.map_nil,List.cons_append,List.nil_append,readUnit,
    hexValue_digitChar (show n/4096<16 by omega),hexValue_digitChar (show n/256%16<16 by omega),
    hexValue_digitChar (show n/16%16<16 by omega),hexValue_digitChar (show n%16<16 by omega),
    Option.bind_eq_bind,Option.bind_some,hsum]
  rfl

theorem toNat_valid (c : Char) : c.toNat<0xD800 ∨ (0xDFFF<c.toNat ∧ c.toNat<0x110000) := c.valid

variable {c : Char}

theorem eq_ofNat (h : c.toNat=n) : c=Char.ofNat n := by
  rw [← h,Char.ofNat_toNat]

/-- The text of a unit. -/
theorem toList_unit (n : Nat) (cs : List Char) :
    ("\\u"++String.ofList ([n/4096,n/256%16,n/16%16,n%16].map Nat.digitChar)).toList++cs=
      '\\':: 'u'::([n/4096,n/256%16,n/16%16,n%16].map Nat.digitChar++cs) := by
  simp only [String.toList_append,String.toList_ofList,List.append_assoc]
  rfl

theorem readChar_unit (cs : List Char) : readChar ('\\':: 'u'::cs)=
    (readUnit cs).bind fun r => (readEscape r.1 r.2).bind fun e => some (some e.1,e.2) := rfl

/-- A unit of the basic plane that is no surrogate stands for itself. -/
theorem readChar_basic (hn : n<0x10000) (hs : n<0xD800 ∨ 0xDFFF<n) (cs : List Char) :
    readChar ('\\':: 'u'::([n/4096,n/256%16,n/16%16,n%16].map Nat.digitChar++cs))=
      some (some (Char.ofNat n),cs) := by
  have hescape : readEscape n cs=some (Char.ofNat n,cs) := by
    unfold readEscape
    rw [if_neg (by simp; omega),if_neg (by simp; omega)]
  rw [readChar_unit,readUnit_digits hn,Option.bind_some,hescape,Option.bind_some]

variable {cs ds : List Char}

theorem readEscape_pair {u v : Nat} (hu : 0xD800≤u ∧ u<0xDC00) (hv : 0xDC00≤v ∧ v<0xE000)
    (hlow : readUnit cs=some (v,ds)) :
    readEscape u ('\\':: 'u'::cs)=some (Char.ofNat (0x10000+(u-0xD800)*1024+(v-0xDC00)),ds) := by
  unfold readEscape
  rw [if_pos (by simp; omega)]
  simp only [hlow,Option.bind_eq_bind,Option.bind_some]
  rw [if_pos (by simp; omega),Option.pure_def]

/-- A pair of surrogates stands for the code point it was made of. -/
theorem readChar_pair {u v : Nat} (hn : 0x10000≤n) (hn' : n<0x110000)
    (hu : u=0xD800+(n-0x10000)/1024) (hv : v=0xDC00+(n-0x10000)%1024) (cs : List Char) :
    readChar ('\\':: 'u'::([u/4096,u/256%16,u/16%16,u%16].map Nat.digitChar++
      '\\':: 'u'::([v/4096,v/256%16,v/16%16,v%16].map Nat.digitChar++cs)))=
      some (some (Char.ofNat n),cs) := by
  have hsum : 0x10000+(u-0xD800)*1024+(v-0xDC00)=n := by omega
  rw [readChar_unit,readUnit_digits (by omega),Option.bind_some,
    readEscape_pair (by omega) (by omega) (readUnit_digits (by omega) cs),hsum,Option.bind_some]

/-- One code point is read back from its text. -/
theorem readChar_jsonChar (c : Char) (cs : List Char) :
    readChar ((jsonChar c).toList++cs)=some (some c,cs) := by
  have hvalid := toNat_valid c
  unfold jsonChar
  dsimp only
  split
  · rename_i h; rw [eq_ofNat h]; rfl
  · rename_i h; rw [eq_ofNat h]; rfl
  · rename_i h; rw [eq_ofNat h]; rfl
  · rename_i h; rw [eq_ofNat h]; rfl
  · rename_i h; rw [eq_ofNat h]; rfl
  · rename_i h; rw [eq_ofNat h]; rfl
  · rename_i h; rw [eq_ofNat h]; rfl
  · rename_i hquote hslash _ _ _ _ _
    split
    · -- printable, and neither of the two characters that are escaped
      rename_i hprint
      have hge : ¬c.toNat<0x20 := by simp at hprint; omega
      have hq : c≠ '"' := fun h => hquote (by rw [h]; rfl)
      have hb : c≠ '\\' := fun h => hslash (by rw [h]; rfl)
      rw [String.toList_singleton,List.singleton_append]
      unfold readChar
      split <;> simp_all
    · split
      · rename_i hbasic
        rw [toList_unit,readChar_basic hbasic (by omega),Char.ofNat_toNat]
      · rw [String.toList_append,List.append_assoc,toList_unit,toList_unit,
          readChar_pair (by omega) (by omega) rfl rfl,Char.ofNat_toNat]

/-- A string is read back up to its closing quote. -/
theorem readChars_jsonChars (s : List Char) (cs : List Char) (hn : s.length<n) :
    readChars n ((s.flatMap fun c => (jsonChar c).toList)++ '"'::cs)=some (s,cs) := by
  induction s generalizing n with
  | nil =>
    obtain ⟨n,rfl⟩ : ∃ k,n=k+1 := ⟨n-1,by simp at hn; omega⟩
    rfl
  | cons c s ih =>
    obtain ⟨n,rfl⟩ : ∃ k,n=k+1 := ⟨n-1,by simp at hn; omega⟩
    rw [List.flatMap_cons,List.append_assoc]
    simp only [readChars,readChar_jsonChar,ih (by simpa using hn),Option.map_some]

theorem length_le_jsonChars (s : List Char) :
    s.length≤(s.flatMap fun c => (jsonChar c).toList).length := by
  induction s with
  | nil => exact le_refl 0
  | cons c s ih =>
    have hpos : 0<(jsonChar c).toList.length := by
      refine List.length_pos_iff.mpr fun h => ?_
      have hread := readChar_jsonChar c []
      rw [h] at hread
      cases hread
    rw [List.flatMap_cons,List.length_append,List.length_cons]
    omega

theorem toList_jsonString (s : String) :
    (jsonString s).toList= '"'::((s.toList.flatMap fun c => (jsonChar c).toList)++['"']) := by
  unfold jsonString
  rw [String.toList_append,String.toList_append,String.toList_join,List.flatMap_map]
  rfl

theorem readString_jsonString (s : String) (cs : List Char) :
    readString (((s.toList.flatMap fun c => (jsonChar c).toList)++['"'])++cs)=some (s,cs) := by
  have hlen := length_le_jsonChars s.toList
  unfold readString
  rw [List.append_assoc,List.singleton_append,readChars_jsonChars s.toList cs
    (by rw [List.length_append]; omega),Option.map_some,String.ofList_toList]

/-! ## Numbers read back -/

variable {floatText : Rat → String} {floatOf : List Char → Option Rat} {gap : List Char}

/-- What may follow a number without changing it. -/
def EndsNumber (cs : List Char) : Prop :=
  ∀ c∈cs.head?,c.isDigit=false ∧ c≠ '.' ∧ c≠ 'e' ∧ c≠ 'E'

/-- The text of a float is a number with a fraction or an exponent, and reads back. -/
def FloatReadsBack (floatText : Rat → String) (floatOf : List Char → Option Rat) (q : Rat) : Prop :=
  ∀ cs,EndsNumber cs → readNumber floatOf ((floatText q).toList++cs)=some (.float q,cs)

theorem endsNumber_cons (hd : c.isDigit=false) (h : c≠ '.' ∧ c≠ 'e' ∧ c≠ 'E') (cs : List Char) :
    EndsNumber (c::cs) := by
  intro d hc
  cases hc
  exact ⟨hd,h⟩

theorem takeWhile_digits (hds : ∀ c∈ds,c.isDigit=true) (hcs : EndsNumber cs) :
    (ds++cs).takeWhile Char.isDigit=ds ∧ (ds++cs).dropWhile Char.isDigit=cs := by
  have hstop : cs.takeWhile Char.isDigit=[] ∧ cs.dropWhile Char.isDigit=cs := by
    cases cs with
    | nil => exact ⟨rfl,rfl⟩
    | cons c cs =>
      have hc : ¬c.isDigit=true := by rw [(hcs c rfl).1]; exact Bool.false_ne_true
      exact ⟨List.takeWhile_cons_of_neg hc,List.dropWhile_cons_of_neg hc⟩
  rw [List.takeWhile_append_of_pos hds,List.dropWhile_append_of_pos hds,hstop.1,hstop.2,List.append_nil]
  exact ⟨rfl,rfl⟩

theorem isDigit_toDigits : ∀ c∈Nat.toDigits 10 n,c.isDigit=true := fun _ hc =>
  Nat.isDigit_of_mem_toDigits (by decide) (by decide) hc

/-- Only zero is written with a zero in front. -/
theorem toDigits_zero_head (h : Nat.toDigits 10 n= '0'::ds) : ds=[] := by
  induction n using Nat.strongRecOn generalizing ds with
  | ind n ih =>
    rw [Nat.toDigits_eq_if (by decide)] at h
    split at h
    · exact (List.cons.inj h).2.symm
    · rename_i hge
      obtain ⟨front,hfront⟩ : ∃ front,Nat.toDigits 10 (n/10)= '0'::front := by
        cases hd : Nat.toDigits 10 (n/10) with
        | nil => exact absurd hd Nat.toDigits_ne_nil
        | cons d front =>
          rw [hd] at h
          exact ⟨front,by rw [(List.cons.inj h).1]⟩
      have hnil := ih (n/10) (by omega) hfront
      have hzero : Nat.ofDigitChars 10 (Nat.toDigits 10 (n/10)) 0=0 := by
        rw [hfront,hnil]
        rfl
      rw [Nat.ofDigitChars_ten_toDigits] at hzero
      omega

theorem readWhole_toDigits (n : Nat) (hcs : EndsNumber cs) :
    readWhole (Nat.toDigits 10 n++cs)=some (Nat.toDigits 10 n,cs) := by
  obtain ⟨htake,hdrop⟩ := takeWhile_digits isDigit_toDigits hcs
  unfold readWhole
  split
  · rename_i rest heq
    cases hd : Nat.toDigits 10 n with
    | nil => exact absurd hd Nat.toDigits_ne_nil
    | cons d ds =>
      rw [hd] at heq
      obtain ⟨rfl,hrest⟩ := List.cons.inj heq
      have hnil := toDigits_zero_head hd
      subst hnil
      rw [← hrest]
      rfl
  · rw [htake,hdrop,if_neg Nat.toDigits_ne_nil]

theorem readFraction_none (hcs : EndsNumber cs) : readFraction cs=([],cs) := by
  unfold readFraction
  split
  · exact absurd rfl (hcs '.' rfl).2.1
  · rfl

theorem readExponent_none (hcs : EndsNumber cs) : readExponent cs=([],cs) := by
  cases cs with
  | nil => rfl
  | cons e rest =>
    obtain ⟨-,-,he,hE⟩ := hcs e rfl
    unfold readExponent
    simp only [he,hE,or_self,false_and,if_false]

theorem readUnsigned_toDigits (minus : Bool) (n : Nat) {cs : List Char} (hcs : EndsNumber cs) :
    readUnsigned floatOf minus (Nat.toDigits 10 n++cs)=
      some (.int (if minus then -(n : Int) else n),cs) := by
  unfold readUnsigned
  simp only [readWhole_toDigits n hcs,Option.bind_eq_bind,Option.bind_some,readFraction_none hcs,
    readExponent_none hcs,and_self,if_true,Nat.ofDigitChars_ten_toDigits]
  rfl

/-- An integer is read back from its text. -/
theorem readNumber_int (n : Int) {cs : List Char} (hcs : EndsNumber cs) :
    readNumber floatOf ((toString n).toList++cs)=some (.int n,cs) := by
  rw [Int.toString_eq_repr,Int.repr_eq_if]
  split
  · rename_i hpos
    rw [Nat.toList_repr]
    have hread := @readUnsigned_toDigits floatOf false n.toNat _ hcs
    unfold readNumber
    split
    · rename_i rest heq
      exfalso
      cases hd : Nat.toDigits 10 n.toNat with
      | nil => exact Nat.toDigits_ne_nil hd
      | cons d ds =>
        rw [hd] at heq
        have hdigit := isDigit_toDigits d (hd ▸ List.mem_cons_self)
        rw [(List.cons.inj heq).1] at hdigit
        exact absurd hdigit (by decide)
    · rw [hread,if_neg Bool.false_ne_true,Int.toNat_of_nonneg hpos]
  · rename_i hneg
    rw [String.toList_append,Nat.toList_repr,List.append_assoc]
    change readUnsigned floatOf true (Nat.toDigits 10 (-n).toNat++cs)=_
    rw [readUnsigned_toDigits true _ hcs,if_pos rfl,Int.toNat_of_nonneg (by omega),Int.neg_neg]

/-- A number starts with its sign or a digit. -/
theorem readNumber_head {r : Json × List Char} (h : readNumber floatOf cs=some r) :
    ∃ c rest,cs=c::rest ∧ (c= '-' ∨ c.isDigit=true) := by
  cases cs with
  | nil => cases h
  | cons c rest =>
    refine ⟨c,rest,rfl,?_⟩
    by_contra hc
    rw [not_or] at hc
    have hzero : c≠ '0' := fun h0 => hc.2 (by rw [h0]; rfl)
    have hnone : readWhole (c::rest)=none := by
      unfold readWhole
      split
      · rename_i heq
        exact absurd (List.cons.inj heq).1 hzero
      · rw [List.takeWhile_cons_of_neg hc.2,if_pos rfl]
    unfold readNumber at h
    split at h
    · rename_i heq
      exact hc.1 (List.cons.inj heq).1
    · unfold readUnsigned at h
      rw [hnone] at h
      cases h

/-! ## Values read back -/

mutual
/-- No object in a value repeats a key, as no `dict` does, and its floats read back. -/
def Readable (floatText : Rat → String) (floatOf : List Char → Option Rat) : Json → Prop
  | .float q => FloatReadsBack floatText floatOf q
  | .arr items => ItemsReadable floatText floatOf items
  | .obj fields => (fields.map Prod.fst).Nodup ∧ MembersReadable floatText floatOf fields
  | .null | .bool _ | .int _ | .str _ => True
def ItemsReadable (floatText : Rat → String) (floatOf : List Char → Option Rat) : List Json → Prop
  | [] => True
  | v::vs => Readable floatText floatOf v ∧ ItemsReadable floatText floatOf vs
def MembersReadable (floatText : Rat → String) (floatOf : List Char → Option Rat) :
    List (String × Json) → Prop
  | [] => True
  | (_,v)::fs => Readable floatText floatOf v ∧ MembersReadable floatText floatOf fs
end

mutual
/-- The bound a value is read within. -/
def weight : Json → Nat
  | .arr items => 1+weightItems items
  | .obj fields => 1+weightMembers fields
  | _ => 1
def weightItems : List Json → Nat
  | [] => 0
  | v::vs => 1+weight v+weightItems vs
def weightMembers : List (String × Json) → Nat
  | [] => 0
  | (_,v)::fs => 1+weight v+weightMembers fs
end

/-- A text that starts a value, and no end of one. -/
def StartsValue (cs : List Char) : Prop :=
  ∃ c rest,cs=c::rest ∧ isJsonSpace c=false ∧ c≠ ']' ∧ c≠ '\x7d'

theorem StartsValue.skipSpace (h : StartsValue cs) : skipSpace cs=cs := by
  obtain ⟨c,rest,rfl,hc,-⟩ := h
  exact List.dropWhile_cons_of_neg (by rw [hc]; exact Bool.false_ne_true)

/-- The first character of a number. -/
theorem number_char (h : c= '-' ∨ c.isDigit=true) :
    (isJsonSpace c=false ∧ c≠ ']' ∧ c≠ '\x7d') ∧
      c≠ '"' ∧ c≠ '[' ∧ c≠ '\x7b' ∧ c≠ 'n' ∧ c≠ 't' ∧ c≠ 'f' := by
  rcases h with rfl|h
  · decide
  · have hne : ∀ d : Char,d.isDigit=false → c≠d := fun d hd hcd => by
      rw [hcd,hd] at h
      cases h
    refine ⟨⟨?_,hne _ (by decide),hne _ (by decide)⟩,hne _ (by decide),hne _ (by decide),
      hne _ (by decide),hne _ (by decide),hne _ (by decide),hne _ (by decide)⟩
    simp [isJsonSpace,hne ' ' (by decide),hne '\t' (by decide),hne '\n' (by decide),
      hne '\r' (by decide)]

variable {v : Json}

/-- A text that is read as a number is a value. -/
theorem readValue_number {rest : List Char} (n : Nat) (h : readNumber floatOf cs=some (v,rest)) :
    readValue floatOf (n+1) cs=some (v,rest) ∧ StartsValue cs := by
  obtain ⟨c,tail,rfl,hc⟩ := readNumber_head h
  obtain ⟨hstart,hq,hb,ho,hn,ht,hf⟩ := number_char hc
  refine ⟨?_,c,tail,rfl,hstart⟩
  rw [← h]
  unfold readValue
  split <;> simp_all

theorem startsValue_spaced {v : Json} (hv : Readable floatText floatOf v) {cs : List Char}
    (hcs : EndsNumber cs) : StartsValue (spaced gap floatText v++cs) := by
  cases v with
  | null => exact ⟨'n',_,rfl,by decide⟩
  | bool b =>
    cases b with
    | false => exact ⟨'f',_,rfl,by decide⟩
    | true => exact ⟨'t',_,rfl,by decide⟩
  | int n => exact (readValue_number 0 (@readNumber_int floatOf n _ hcs)).2
  | float q => exact (readValue_number 0 (hv cs hcs)).2
  | str s =>
    unfold spaced
    rw [toList_jsonString]
    exact ⟨'"',_,rfl,by decide⟩
  | arr items =>
    cases items with
    | nil => exact ⟨'[',_,rfl,by decide⟩
    | cons v vs => exact ⟨'[',_,rfl,by decide⟩
  | obj fields =>
    cases fields with
    | nil => exact ⟨'\x7b',_,rfl,by decide⟩
    | cons e fs => exact ⟨'\x7b',_,rfl,by decide⟩

theorem endsNumber_spacedItems (floatText : Rat → String) (vs : List Json) (cs : List Char) :
    EndsNumber (spacedItems gap floatText vs++cs) := by
  cases vs with
  | nil | cons v vs => exact endsNumber_cons (by decide) (by decide) _

theorem endsNumber_spacedMembers (floatText : Rat → String) (fs : List (String × Json))
    (cs : List Char) : EndsNumber (spacedMembers gap floatText fs++cs) := by
  cases fs with
  | nil | cons e fs => exact endsNumber_cons (by decide) (by decide) _

/-! One value, element or member at a time. -/

/-- White space in front of a value is skipped. -/
theorem skipSpace_gap (hgap : ∀ c∈gap,isJsonSpace c=true) (h : StartsValue cs) :
    skipSpace (gap++cs)=cs := by
  have hskip : skipSpace (gap++cs)=skipSpace cs := List.dropWhile_append_of_pos hgap
  rw [hskip,h.skipSpace]

theorem readValue_array (n : Nat) {cs : List Char} (h : StartsValue cs) :
    readValue floatOf (n+1) ('['::cs)=(readItems floatOf n cs).map fun r => (.arr r.1,r.2) := by
  have hskip := h.skipSpace
  obtain ⟨c,rest,rfl,-,hne,-⟩ := h
  unfold readValue
  simp only [hskip]
  split
  · rename_i heq
    exact absurd (List.cons.inj heq).1 hne
  · rfl

theorem readValue_object (n : Nat) (cs : List Char) : readValue floatOf (n+1) ('\x7b':: '"'::cs)=
    (readMembers floatOf n ('"'::cs)).map fun r => (.obj (ofPairs r.1),r.2) := rfl

theorem readItems_last {n : Nat} {cs rest : List Char} {v : Json}
    (h : readValue floatOf n cs=some (v,']'::rest)) : readItems floatOf (n+1) cs=some ([v],rest) := by
  rw [readItems,h]
  rfl

theorem readItems_next (hgap : ∀ c∈gap,isJsonSpace c=true)
    (h : readValue floatOf n cs=some (v,','::(gap++ds))) (hds : StartsValue ds) :
    readItems floatOf (n+1) cs=(readItems floatOf n ds).map fun r => (v::r.1,r.2) := by
  rw [readItems,h]
  change (readItems floatOf n (skipSpace (gap++ds))).map _=_
  rw [skipSpace_gap hgap hds]

theorem readMembers_last (hgap : ∀ c∈gap,isJsonSpace c=true) {rest : List Char} {k : String}
    (hk : readString cs=some (k,':'::(gap++ds))) (hds : StartsValue ds)
    (h : readValue floatOf n ds=some (v,'\x7d'::rest)) :
    readMembers floatOf (n+1) ('"'::cs)=some ([(k,v)],rest) := by
  rw [readMembers,hk]
  change (readValue floatOf n (skipSpace (gap++ds)) >>= _)=_
  rw [skipSpace_gap hgap hds,h]
  rfl

theorem readMembers_next (hgap : ∀ c∈gap,isJsonSpace c=true) {es : List Char} {k : String}
    (hk : readString cs=some (k,':'::(gap++ds))) (hds : StartsValue ds)
    (h : readValue floatOf n ds=some (v,','::(gap++ '"'::es))) :
    readMembers floatOf (n+1) ('"'::cs)=
      (readMembers floatOf n ('"'::es)).map fun r => ((k,v)::r.1,r.2) := by
  have hes : StartsValue ('"'::es) := ⟨'"',es,rfl,by decide⟩
  rw [readMembers,hk]
  change (readValue floatOf n (skipSpace (gap++ds)) >>= _)=_
  rw [skipSpace_gap hgap hds,h]
  change (readMembers floatOf n (skipSpace (gap++ '"'::es))).map _=_
  rw [skipSpace_gap hgap hes]

mutual
/-- A value is read back from its text. -/
theorem readValue_spaced (hgap : ∀ c∈gap,isJsonSpace c=true) : ∀ (v : Json) (n : Nat)
    (cs : List Char),Readable floatText floatOf v → weight v≤n → EndsNumber cs →
      readValue floatOf n (spaced gap floatText v++cs)=some (v,cs)
  | v,0,_,_,hn,_ => by cases v <;> simp [weight] at hn
  | .null,n+1,cs,_,_,_ => rfl
  | .bool true,n+1,cs,_,_,_ => rfl
  | .bool false,n+1,cs,_,_,_ => rfl
  | .int i,n+1,cs,_,_,hcs => (readValue_number n (readNumber_int i hcs)).1
  | .float q,n+1,cs,hq,_,hcs => (readValue_number n (hq cs hcs)).1
  | .str s,n+1,cs,_,_,_ => by
    unfold spaced
    rw [toList_jsonString]
    unfold readValue
    simp only [List.cons_append,readString_jsonString,Option.map_some]
  | .arr [],n+1,cs,_,_,_ => rfl
  | .arr (v::vs),n+1,cs,hd,hn,_ => by
    have hread := readItems_spaced hgap v vs n cs hd.1 hd.2 (by simp [weight] at hn; omega)
    have hstart := @startsValue_spaced _ _ gap v hd.1 _ (@endsNumber_spacedItems gap floatText vs cs)
    unfold spaced
    rw [List.cons_append,List.append_assoc,readValue_array n hstart,hread,Option.map_some]
  | .obj [],n+1,cs,_,_,_ => rfl
  | .obj ((k,v)::fs),n+1,cs,hd,hn,_ => by
    have hread := readMembers_spaced hgap k v fs n cs hd.2.1 hd.2.2 (by simp [weight] at hn; omega)
    have hkeys : ofPairs ((k,v)::fs)=(k,v)::fs := ofPairs_of_nodup hd.1
    unfold spaced
    rw [toList_jsonString] at hread ⊢
    simp only [List.cons_append,List.append_assoc] at hread ⊢
    rw [readValue_object,hread,Option.map_some,hkeys]
/-- The elements of an array are read back with its end. -/
theorem readItems_spaced (hgap : ∀ c∈gap,isJsonSpace c=true) : ∀ (v : Json) (vs : List Json)
    (n : Nat) (cs : List Char),Readable floatText floatOf v → ItemsReadable floatText floatOf vs →
      weightItems (v::vs)≤n →
      readItems floatOf n (spaced gap floatText v++(spacedItems gap floatText vs++cs))=
        some (v::vs,cs)
  | v,vs,0,_,_,_,hn => by simp [weightItems] at hn
  | v,[],n+1,cs,hv,_,hn => by
    refine readItems_last (readValue_spaced hgap v n _ hv (by simp [weightItems] at hn; omega) ?_)
    exact endsNumber_cons (by decide) (by decide) _
  | v,w::vs,n+1,cs,hv,hvs,hn => by
    have hends := @endsNumber_spacedItems gap floatText (w::vs) cs
    have hread := readValue_spaced hgap v n _ hv (by simp [weightItems] at hn; omega) hends
    have hrest := readItems_spaced hgap w vs n cs hvs.1 hvs.2 (by simp [weightItems] at hn ⊢; omega)
    have hstart := @startsValue_spaced _ _ gap w hvs.1 _ (@endsNumber_spacedItems gap floatText vs cs)
    unfold spacedItems at hread ⊢
    rw [List.cons_append,List.append_assoc,List.append_assoc] at hread ⊢
    rw [readItems_next hgap hread hstart,hrest,Option.map_some]
/-- The members of an object are read back with its end. -/
theorem readMembers_spaced (hgap : ∀ c∈gap,isJsonSpace c=true) : ∀ (k : String) (v : Json)
    (fs : List (String × Json)) (n : Nat) (cs : List Char),Readable floatText floatOf v →
      MembersReadable floatText floatOf fs → weightMembers ((k,v)::fs)≤n →
      readMembers floatOf n ((jsonString k).toList++
        (':'::(gap++(spaced gap floatText v++(spacedMembers gap floatText fs++cs)))))=
          some ((k,v)::fs,cs)
  | k,v,fs,0,_,_,_,hn => by simp [weightMembers] at hn
  | k,v,[],n+1,cs,hv,_,hn => by
    have hends := @endsNumber_spacedMembers gap floatText [] cs
    have hread := readValue_spaced hgap v n _ hv (by simp [weightMembers] at hn; omega) hends
    have hstart := @startsValue_spaced _ _ gap v hv _ hends
    rw [toList_jsonString,List.cons_append]
    exact readMembers_last hgap (readString_jsonString k _) hstart hread
  | k,v,(l,w)::fs,n+1,cs,hv,hfs,hn => by
    have hends := @endsNumber_spacedMembers gap floatText ((l,w)::fs) cs
    have hread := readValue_spaced hgap v n _ hv (by simp [weightMembers] at hn; omega) hends
    have hrest := readMembers_spaced hgap l w fs n cs hfs.1 hfs.2
      (by simp [weightMembers] at hn ⊢; omega)
    have hstart := @startsValue_spaced _ _ gap v hv _ hends
    have hkey := readString_jsonString k
      (':'::(gap++(spaced gap floatText v++(spacedMembers gap floatText ((l,w)::fs)++cs))))
    rw [toList_jsonString,List.cons_append]
    unfold spacedMembers at hkey hread hstart ⊢
    rw [toList_jsonString] at hkey hread hstart hrest ⊢
    simp only [List.cons_append,List.append_assoc] at hkey hread hstart hrest ⊢
    rw [readMembers_next hgap hkey hstart hread,hrest,Option.map_some]
end

theorem endsNumber_nil : EndsNumber [] := fun _ hc => by cases hc

theorem spaced_length_pos (hv : Readable floatText floatOf v) :
    1≤(spaced gap floatText v).length := by
  have hstart := @startsValue_spaced _ _ gap v hv _ endsNumber_nil
  rw [List.append_nil] at hstart
  obtain ⟨c,rest,hcons,-⟩ := hstart
  rw [hcons]
  exact Nat.le_add_left 1 _

mutual
/-- The text of a value is long enough for the bound it is read within. -/
theorem weight_le_length : ∀ v : Json,Readable floatText floatOf v →
    weight v≤(spaced gap floatText v).length
  | .null,hv => spaced_length_pos hv
  | .bool _,hv => spaced_length_pos hv
  | .int _,hv => spaced_length_pos hv
  | .float _,hv => spaced_length_pos hv
  | .str _,hv => spaced_length_pos hv
  | .arr [],hv => spaced_length_pos hv
  | .arr (v::vs),h => by
    have hv := weight_le_length v h.1
    have hvs := weightItems_le_length vs h.2
    simp only [weight,weightItems,spaced,List.length_cons,List.length_append]
    omega
  | .obj [],hv => spaced_length_pos hv
  | .obj ((k,v)::fs),h => by
    have hv := weight_le_length v h.2.1
    have hfs := weightMembers_le_length fs h.2.2
    simp only [weight,weightMembers,spaced,List.length_cons,List.length_append]
    omega
theorem weightItems_le_length : ∀ vs : List Json,ItemsReadable floatText floatOf vs →
    weightItems vs+1≤(spacedItems gap floatText vs).length
  | [],_ => Nat.le_refl 1
  | v::vs,h => by
    have hv := weight_le_length v h.1
    have hvs := weightItems_le_length vs h.2
    simp only [weightItems,spacedItems,List.length_cons,List.length_append]
    omega
theorem weightMembers_le_length : ∀ fs : List (String × Json),MembersReadable floatText floatOf fs →
    weightMembers fs+1≤(spacedMembers gap floatText fs).length
  | [],_ => Nat.le_refl 1
  | (k,v)::fs,h => by
    have hv := weight_le_length v h.1
    have hfs := weightMembers_le_length fs h.2
    simp only [weightMembers,spacedMembers,List.length_cons,List.length_append]
    omega
end

/-- `json.loads` undoes `json.dumps`, with any white space behind separators. -/
theorem loads_spaced (hgap : ∀ c∈gap,isJsonSpace c=true) (hv : Readable floatText floatOf v) :
    loads floatOf (spaced gap floatText v)=some v := by
  have hstart := @startsValue_spaced _ _ gap v hv _ endsNumber_nil
  have hread := readValue_spaced hgap v ((spaced gap floatText v).length+1) [] hv
    (Nat.le_succ_of_le (weight_le_length v hv)) endsNumber_nil
  rw [List.append_nil] at hstart hread
  unfold loads
  rw [hstart.skipSpace,hread]
  rfl

theorem loads_dumps (hv : Readable floatText floatOf v) :
    loads floatOf (dumps floatText v)=some v := by
  rw [dumps_eq_spaced]
  exact loads_spaced (List.forall_mem_singleton.mpr rfl) hv

theorem loads_compactJson {v : Json} (hv : Readable floatText floatOf v) :
    loads floatOf (compactJson floatText v).toList=some v := by
  rw [toList_compactJson]
  exact loads_spaced (List.forall_mem_nil fun c => isJsonSpace c=true) hv

end Voyagent.JsonTexts
