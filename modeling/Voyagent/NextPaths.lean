import Voyagent.UrlReferences

/-!
# The redirect after sign-in

The validator looks at the units it is given, the browser at what is left of
them without tabs and line ends. A returned path stays on the site of every
page exactly when no second slash hides behind such units.
-/

namespace Voyagent.NextPaths

open UrlReferences

/-- A text of the basic plane as a script holds it. -/
def scriptText (s : String) : ScriptText := s.toList.map fun c => UInt16.ofNat c.toNat

/-- `SAFE_NEXT_DEFAULT`. -/
def safeNextDefault : ScriptText := scriptText "/chat"

/-- `safeNextPath`; a missing parameter is `none`. -/
def safeNextPath (raw : Option ScriptText) : ScriptText :=
  match raw with
  | none => safeNextDefault
  | some value =>
    if value=[] then safeNextDefault
    else if !(scriptText "/").isPrefixOf value then safeNextDefault
    else if (scriptText "//").isPrefixOf value then safeNextDefault
    else if value.contains 0x5C then safeNextDefault
    else if value.contains 0x3A then safeNextDefault
    else value

/-- The path resolved against a page keeps that page's origin. -/
def StaysOnSite (hostParser : List Char → Option Host)
    (schemeState : List Char → Origin → Option Origin) (path : ScriptText) : Prop :=
  ∀ page : Origin,page.scheme="https" → resolve hostParser schemeState path page=some page

/-- Two slashes with only tabs and line ends between them, at least one, and
behind them nothing the validator refuses. -/
def HidesAuthority (raw : Option ScriptText) : Prop :=
  ∃ gap more : ScriptText,raw=some (0x2F::gap++0x2F::more) ∧ gap≠[] ∧
    (∀ u∈gap,isTabOrNewlineUnit u=true) ∧ 0x5C∉more ∧ 0x3A∉more

variable {raw : Option ScriptText} {value : ScriptText}

/-- What the validator lets through unchanged. -/
structure Accepted (value : ScriptText) : Prop where
  slash : ∃ us,value=0x2F::us ∧ us.head?≠some 0x2F
  backslash : 0x5C∉value
  colon : 0x3A∉value

/-- The path is the default, or the accepted parameter itself. -/
theorem safeNextPath_cases (raw : Option ScriptText) :
    safeNextPath raw=safeNextDefault ∨ ∃ value,raw=some value ∧ safeNextPath raw=value ∧
      Accepted value := by
  cases raw with
  | none => exact .inl rfl
  | some value =>
    unfold safeNextPath
    dsimp only
    split
    · exact .inl rfl
    · split
      · exact .inl rfl
      · rename_i hslash
        split
        · exact .inl rfl
        · rename_i hdouble
          split
          · exact .inl rfl
          · rename_i hbackslash
            split
            · exact .inl rfl
            · rename_i hcolon
              refine .inr ⟨value,rfl,rfl,?_,by simpa using hbackslash,by simpa using hcolon⟩
              have hprefix : scriptText "/" <+: value := by simpa using hslash
              obtain ⟨us,rfl⟩ := hprefix
              refine ⟨us,rfl,fun hhead => hdouble ?_⟩
              cases us with
              | nil => cases hhead
              | cons u us =>
                cases hhead
                rfl

/-- What passes every check is returned as it is. -/
theorem safeNextPath_accepted (h : Accepted value) : safeNextPath (some value)=value := by
  obtain ⟨us,rfl,hhead⟩ := h.slash
  have hdouble : (scriptText "//").isPrefixOf (0x2F::us)=false := by
    cases us with
    | nil => rfl
    | cons u us =>
      have hu : (0x2F==u)=false := by
        simp only [beq_eq_false_iff_ne]
        exact fun heq => hhead (by rw [heq]; rfl)
      change (true && ((0x2F==u) && true))=false
      rw [hu]
      rfl
  have hslash : (scriptText "/").isPrefixOf (0x2F::us)=true := rfl
  have hbackslash : 0x5C∉us := fun hm => h.backslash (List.mem_cons_of_mem _ hm)
  have hcolon : 0x3A∉us := fun hm => h.colon (List.mem_cons_of_mem _ hm)
  unfold safeNextPath
  simp [hdouble,hslash,hbackslash,hcolon]

/-- A second slash among the units of an accepted path is a hidden one. -/
theorem hides_iff {us : ScriptText} (h : Accepted (0x2F::us)) :
    secondSlash us=true ↔ HidesAuthority (some (0x2F::us)) := by
  obtain ⟨_,heq,hhead⟩ := h.slash
  cases heq
  have hsplit : us=us.takeWhile isTabOrNewlineUnit++us.dropWhile isTabOrNewlineUnit :=
    List.takeWhile_append_dropWhile.symm
  constructor
  · intro hsecond
    unfold secondSlash at hsecond
    cases hdrop : us.dropWhile isTabOrNewlineUnit with
    | nil =>
      rw [hdrop] at hsecond
      cases hsecond
    | cons u more =>
      rw [hdrop] at hsecond hsplit
      have hin : ∀ x∈u::more,x∈us := fun x hx => by
        rw [hsplit]
        exact List.mem_append_right _ hx
      have hback : 0x5C∉us := fun hm => h.backslash (List.mem_cons_of_mem _ hm)
      have hcol : 0x3A∉us := fun hm => h.colon (List.mem_cons_of_mem _ hm)
      have hu : u=0x2F := by
        simp only [List.head?_cons,Option.any_some,isSlashUnit,Bool.or_eq_true,
          decide_eq_true_eq] at hsecond
        rcases hsecond with rfl|rfl
        · rfl
        · exact absurd (hin _ List.mem_cons_self) hback
      subst hu
      refine ⟨us.takeWhile isTabOrNewlineUnit,more,congrArg (fun l => some (0x2F::l)) hsplit,?_,?_,
        fun hm => hback (hin _ (List.mem_cons_of_mem _ hm)),
        fun hm => hcol (hin _ (List.mem_cons_of_mem _ hm))⟩
      · intro hnil
        rw [hnil,List.nil_append] at hsplit
        exact hhead (by rw [hsplit]; rfl)
      · exact fun u hu => List.mem_takeWhile_imp hu
  · rintro ⟨gap,more,heq,_,hgap,_,_⟩
    have hus : us=gap++0x2F::more := (List.cons.inj (Option.some.inj heq)).2
    rw [secondSlash,hus,List.dropWhile_append_of_pos hgap]
    rfl

/-- Nothing in a text with a hidden authority is refused. -/
theorem accepted_of_hides (h : HidesAuthority raw) :
    ∃ us,raw=some (0x2F::us) ∧ Accepted (0x2F::us) := by
  obtain ⟨gap,more,rfl,hne,hgap,hback,hcol⟩ := h
  have hnot : ∀ u,isTabOrNewlineUnit u=false → u∉gap := fun u hu hm => by
    rw [hgap u hm] at hu
    cases hu
  have hmem : ∀ u,u∉gap → u≠0x2F → u∉more → u∉(0x2F::(gap++0x2F::more) : ScriptText) := by
    intro u hgap hu hmore hm
    simp [hu,hgap,hmore] at hm
  refine ⟨gap++0x2F::more,rfl,⟨gap++0x2F::more,rfl,?_⟩,?_,?_⟩
  · obtain ⟨u,gap,rfl⟩ := List.exists_cons_of_ne_nil hne
    intro hhead
    cases hhead
    exact hnot 0x2F (by decide) List.mem_cons_self
  · exact hmem _ (hnot _ (by decide)) (by decide) hback
  · exact hmem _ (hnot _ (by decide)) (by decide) hcol

/-- For every parameter, every host parser and every reading of absolute
references: the returned path stays on the site of all https pages if and only
if the parameter hides no authority. -/
theorem staysOnSite_iff (hostParser : List Char → Option Host)
    (schemeState : List Char → Origin → Option Origin) (raw : Option ScriptText) :
    StaysOnSite hostParser schemeState (safeNextPath raw) ↔ ¬HidesAuthority raw := by
  constructor
  · intro hstays hhides
    obtain ⟨us,rfl,haccepted⟩ := accepted_of_hides hhides
    rw [safeNextPath_accepted haccepted] at hstays
    obtain ⟨cs,hcs⟩ :=
      (resolve_slash hostParser schemeState us).2 ((hides_iff haccepted).mpr hhides)
    obtain ⟨page,hscheme,hleaves⟩ := authority_leaves hostParser "https" cs
    have hresolved := hstays page hscheme
    rw [hcs,hscheme] at hresolved
    exact hleaves hresolved
  · intro hhides page _
    rcases safeNextPath_cases raw with h|⟨value,rfl,h,haccepted⟩
    · rw [h]
      exact (resolve_slash hostParser schemeState _).1 rfl page
    · rw [h]
      obtain ⟨us,rfl,_⟩ := haccepted.slash
      refine (resolve_slash hostParser schemeState us).1 ?_ page
      cases hsecond : secondSlash us with
      | false => rfl
      | true => exact absurd ((hides_iff haccepted).mp hsecond) hhides

/-- A tab between two slashes passes the checks and is gone for the browser. -/
theorem tab_leaves_site :
    let hostParser : List Char → Option Host := fun cs => some (.domain (String.ofList cs))
    let raw := scriptText "/\t/evil.com"
    safeNextPath (some raw)=raw ∧
      resolve hostParser (fun _ _ => none) raw ⟨"https",.domain "app.voyagent.ai",none⟩=
        some ⟨"https",.domain "evil.com",none⟩ ∧
      ¬∀ raw,StaysOnSite hostParser (fun _ _ => none) (safeNextPath raw) := by
  refine ⟨by decide +kernel,by decide +kernel,fun h => ?_⟩
  have hpage := h (some (scriptText "/\t/evil.com")) ⟨"https",.ipv4 0,none⟩ rfl
  revert hpage
  decide +kernel

end Voyagent.NextPaths
