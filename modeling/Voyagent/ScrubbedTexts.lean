import Voyagent.CodePoints

/-!
# What the scrubber looks for in texts

The names of sensitive headers, the pattern of sensitive fields, and the
substitution of what looks like a JWT. No JWT reaches across an equals sign,
so a text is scrubbed on each side of one.
-/

namespace Voyagent.ScrubbedTexts

open CodePoints

/-- `_SENSITIVE_HEADER_NAMES`. -/
def sensitiveHeaderNames : List Text :=
  ["authorization","cookie","set-cookie","x-api-key","x-voyagent-auth-detail",
    "proxy-authorization"].map codePoints

/-- The words that `_SENSITIVE_FIELD_PATTERNS` stands for. -/
def sensitiveFieldWords : List Text :=
  ["password","passwd","secret","token","apikey","api_key","api-key","refreshtoken",
    "refresh_token","refresh-token","accesstoken","access_token","access-token",
    "authorization"].map codePoints

def isUpper (c : Nat) : Bool := 0x41 ≤ c && c ≤ 0x5A

/-- `str.lower` as far as it leads to ASCII: of capitals and of the Kelvin sign. -/
def lowered (c : Nat) : Nat :=
  if isUpper c then c+0x20 else if c=0x212A then 0x6B else c

/-- The lower-case letter a pattern must have for `re.IGNORECASE` to match it; the
letters beyond ASCII are the dotted and the dotless i, the long s and the Kelvin sign. -/
def ignoringCase (c : Nat) : Nat :=
  if c=0x130 ∨ c=0x131 then 0x69 else if c=0x17F then 0x73 else lowered c

/-- `key.lower() in _SENSITIVE_HEADER_NAMES`. -/
def isSensitiveHeader (key : Text) : Bool := sensitiveHeaderNames.contains (key.map lowered)

/-- `_SENSITIVE_FIELD_PATTERNS.search(key)` finds something. -/
def isSensitiveField (key : Text) : Bool :=
  (key.map ignoringCase).tails.any fun rest => sensitiveFieldWords.any fun w => w.isPrefixOf rest

/-- A key under which values are credentials. -/
def isSensitive (key : Text) : Bool := isSensitiveHeader key || isSensitiveField key

/-! ## JWTs -/

/-- `[A-Za-z0-9_-]`. -/
def isTokenChar (c : Nat) : Bool :=
  isUpper c || (0x61 ≤ c && c ≤ 0x7A) || (0x30 ≤ c && c ≤ 0x39) || c=0x5F || c=0x2D

def dot : Nat := 0x2E

/-- `[A-Za-z0-9_-]+?\.` at the start of a text: what follows it. -/
def segment (t : Text) : Option Text :=
  match t.takeWhile isTokenChar,t.dropWhile isTokenChar with
  | _::_,c::rest => if c=dot then some rest else none
  | _,_ => none

/-- `[A-Za-z0-9_-]+`, which takes as much as it can. -/
def lastSegment (t : Text) : Option Text :=
  match t.takeWhile isTokenChar with
  | [] => none
  | _::_ => some (t.dropWhile isTokenChar)

def jwtHeader : Text := codePoints "eyJ"

/-- `_JWT_RE` at the start of a text: what follows it. -/
def jwt (t : Text) : Option Text :=
  if jwtHeader.isPrefixOf t then
    (segment (t.drop jwtHeader.length)).bind fun rest => (segment rest).bind lastSegment
  else none

/-- `_REDACTED`. -/
def redactedText : Text := codePoints "[scrubbed]"

/-- The substitution, from left to right, within a number of characters. -/
def scrubWithin : Nat → Text → Text
  | 0,t => t
  | _+1,[] => []
  | n+1,c::cs =>
    match jwt (c::cs) with
    | some rest => redactedText++scrubWithin n rest
    | none => c::scrubWithin n cs

/-- `_JWT_RE.sub(_REDACTED, text)`. -/
def scrubJwts (t : Text) : Text := scrubWithin t.length t

/-! ## Scrubbing around a separator -/

variable {t rest a b : Text} {c : Nat}

theorem takeWhile_stop {p : Nat → Bool} (hc : p c=false) :
    (a++c::b).takeWhile p=a.takeWhile p := by
  induction a with
  | nil => simp [hc]
  | cons x a ih => cases hx : p x <;> simp [hx,ih]

theorem dropWhile_stop {p : Nat → Bool} (hc : p c=false) :
    (a++c::b).dropWhile p=a.dropWhile p++c::b := by
  induction a with
  | nil => simp [hc]
  | cons x a ih => cases hx : p x <;> simp [hx,ih]

/-- No segment reaches beyond a character that is neither of a token nor a dot. -/
theorem segment_append (hc : isTokenChar c=false) (hd : c≠dot) :
    segment (a++c::b)=(segment a).map (·++c::b) := by
  unfold segment
  rw [takeWhile_stop hc,dropWhile_stop hc]
  cases a.takeWhile isTokenChar with
  | nil => rfl
  | cons x xs =>
    cases a.dropWhile isTokenChar with
    | nil => simp [hd]
    | cons y ys =>
      by_cases hy : y=dot
      · simp [hy]
      · simp [hy]

theorem lastSegment_append (hc : isTokenChar c=false) :
    lastSegment (a++c::b)=(lastSegment a).map (·++c::b) := by
  unfold lastSegment
  rw [takeWhile_stop hc,dropWhile_stop hc]
  cases a.takeWhile isTokenChar <;> rfl

/-- A word is at the start of a text if it is at the start of what stands before
a character the word does not have. -/
theorem isPrefixOf_append {word : Text} (hc : c∉word) :
    word.isPrefixOf (a++c::b)=word.isPrefixOf a := by
  rw [Bool.eq_iff_iff,List.isPrefixOf_iff_prefix,List.isPrefixOf_iff_prefix]
  refine ⟨fun h => ?_,fun h => h.trans (List.prefix_append a _)⟩
  by_cases hle : word.length≤a.length
  · exact List.prefix_of_prefix_length_le h (List.prefix_append a _) hle
  · have hlonger : a++[c] <+: word := by
      have hcut : a++[c] <+: a++c::b := ⟨b,by simp⟩
      refine List.prefix_of_prefix_length_le hcut h ?_
      rw [List.length_append,List.length_singleton]
      omega
    exact absurd (hlonger.subset (List.mem_append_right a (List.mem_singleton_self c))) hc

theorem jwt_append (hc : isTokenChar c=false) (hd : c≠dot) :
    jwt (a++c::b)=(jwt a).map (·++c::b) := by
  have hheader : c∉jwtHeader := fun hmem => by
    have htoken : ∀ x∈jwtHeader,isTokenChar x=true := by decide
    exact Bool.false_ne_true (hc.symm.trans (htoken c hmem))
  unfold jwt
  rw [isPrefixOf_append hheader]
  split
  · rename_i hstart
    have hlen := (List.isPrefixOf_iff_prefix.mp hstart).length_le
    rw [List.drop_append_of_le_length hlen,segment_append hc hd]
    cases segment (a.drop jwtHeader.length) with
    | none => rfl
    | some rest =>
      simp only [Option.map_some,Option.bind_some,segment_append hc hd]
      cases segment rest with
      | none => rfl
      | some rest => simp only [Option.map_some,Option.bind_some,lastSegment_append hc]
  · rfl

theorem length_segment (h : segment t=some rest) : rest.length<t.length := by
  unfold segment at h
  split at h
  · rename_i c rest' htake hdrop
    split at h
    · cases h
      have hsum := congrArg List.length (List.takeWhile_append_dropWhile (p:=isTokenChar) (l:=t))
      rw [hdrop,List.length_append,List.length_cons] at hsum
      omega
    · cases h
  · cases h

theorem length_lastSegment (h : lastSegment t=some rest) : rest.length≤t.length := by
  unfold lastSegment at h
  split at h
  · cases h
  · cases h
    exact (List.dropWhile_sublist isTokenChar).length_le

theorem length_jwt (h : jwt t=some rest) : rest.length<t.length := by
  unfold jwt at h
  split at h
  · obtain ⟨r,hr,h⟩ := Option.bind_eq_some_iff.mp h
    obtain ⟨r',hr',h⟩ := Option.bind_eq_some_iff.mp h
    have h1 := length_segment hr
    have h2 := length_segment hr'
    have h3 := length_lastSegment h
    rw [List.length_drop] at h1
    omega
  · cases h

/-- Any bound that the length is within gives the same. -/
theorem scrubWithin_eq {m n : Nat} (hm : t.length ≤ m) (hn : t.length ≤ n) :
    scrubWithin m t=scrubWithin n t := by
  induction m generalizing n t with
  | zero =>
    obtain rfl := List.eq_nil_of_length_eq_zero (Nat.le_zero.mp hm)
    cases n <;> rfl
  | succ m ih =>
    cases t with
    | nil => cases n <;> rfl
    | cons c cs =>
      cases n with
      | zero => cases hn
      | succ n =>
        rw [List.length_cons] at hm hn
        simp only [scrubWithin]
        split
        · rename_i rest hjwt
          have hlt := length_jwt hjwt
          rw [List.length_cons] at hlt
          rw [ih (by omega) (by omega : rest.length ≤ n)]
        · rw [ih (by omega) (by omega : cs.length ≤ n)]

/-- A JWT at the start is replaced. -/
theorem scrubJwts_some (h : jwt t=some rest) : scrubJwts t=redactedText++scrubJwts rest := by
  cases t with
  | nil => cases h
  | cons c cs =>
    have hlt := length_jwt h
    rw [List.length_cons] at hlt
    unfold scrubJwts
    rw [List.length_cons]
    simp only [scrubWithin,h]
    rw [scrubWithin_eq (by omega) (Nat.le_refl rest.length)]

/-- Any other first character stays. -/
theorem scrubJwts_none (h : jwt (c::a)=none) : scrubJwts (c::a)=c::scrubJwts a := by
  unfold scrubJwts
  rw [List.length_cons]
  simp only [scrubWithin,h]

/-- A text is scrubbed on each side of a character that no JWT has. -/
theorem scrubJwts_append (hc : isTokenChar c=false) (hd : c≠dot) :
    scrubJwts (a++c::b)=scrubJwts a++c::scrubJwts b := by
  induction hn : a.length using Nat.strongRecOn generalizing a with
  | ind n ih =>
    have happend := jwt_append (a:=a) (b:=b) hc hd
    cases hjwt : jwt a with
    | some rest =>
      rw [hjwt,Option.map_some] at happend
      have hlt := length_jwt hjwt
      rw [scrubJwts_some happend,scrubJwts_some hjwt,ih rest.length (by omega) rfl,
        List.append_assoc]
    | none =>
      rw [hjwt,Option.map_none] at happend
      cases a with
      | nil => exact scrubJwts_none happend
      | cons x xs =>
        rw [List.length_cons] at hn
        rw [List.cons_append] at happend
        rw [List.cons_append,scrubJwts_none happend,scrubJwts_none hjwt,
          ih xs.length (by omega) rfl,List.cons_append]

/-- A character that starts no JWT stays. -/
theorem scrubJwts_cons (hc : jwtHeader.head?≠some c) : scrubJwts (c::a)=c::scrubJwts a := by
  refine scrubJwts_none (if_neg fun hstart => ?_)
  obtain ⟨rest,hrest⟩ := List.isPrefixOf_iff_prefix.mp hstart
  have hhead := congrArg List.head? hrest
  rw [List.head?_append] at hhead
  cases hjwt : jwtHeader.head? with
  | none => exact absurd hjwt (by decide)
  | some d =>
    rw [hjwt] at hhead hc
    exact hc hhead

end Voyagent.ScrubbedTexts
