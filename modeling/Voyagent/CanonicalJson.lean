import Voyagent.JsonTexts
import Mathlib.Data.List.Sort

/-!
# Canonical JSON texts

`json.dumps` with sorted keys and compact separators. Objects of strings have
the same text exactly when they read the same.
-/

namespace Voyagent.CanonicalJson

open RuntimeValues KeyedMap JsonTexts

/-- Members by their keys. -/
def keyLe (a b : String × Json) : Prop := a.1≤b.1

instance : DecidableRel keyLe := fun a b => inferInstanceAs (Decidable (a.1≤b.1))

mutual
/-- A value with the keys of every object in order. -/
def sortKeys : Json → Json
  | .arr items => .arr (sortItems items)
  | .obj fields => .obj ((sortMembers fields).insertionSort keyLe)
  | .null => .null
  | .bool b => .bool b
  | .int n => .int n
  | .float q => .float q
  | .str s => .str s
def sortItems : List Json → List Json
  | [] => []
  | v::vs => sortKeys v::sortItems vs
def sortMembers : List (String × Json) → List (String × Json)
  | [] => []
  | (k,v)::fs => (k,sortKeys v)::sortMembers fs
end

/-- `json.dumps(value, sort_keys=True, separators=(",", ":"))`. -/
def canonical (floatText : Rat → String) (v : Json) : List Char :=
  (compactJson floatText (sortKeys v)).toList

/-- A `dict[str, str]` as a value. -/
def textObject (d : Table String String) : Json := .obj (mapValues (fun _ s => .str s) d)

/-- A `dict[str, str]` with its keys in order. -/
def sortedTexts (d : Table String String) : Table String String :=
  d.insertionSort fun a b => a.1≤b.1

theorem sortMembers_texts (d : Table String String) :
    sortMembers (mapValues (fun _ s => .str s) d)=mapValues (fun _ s => .str s) d := by
  induction d with
  | nil => rfl
  | cons e d ih => exact congrArg _ ih

theorem sortKeys_textObject (d : Table String String) :
    sortKeys (textObject d)=textObject (sortedTexts d) := by
  unfold textObject sortKeys
  rw [sortMembers_texts]
  exact congrArg Json.obj (List.map_insertionSort (fun a b : String × String => a.1≤b.1) keyLe
    (fun e => (e.1,Json.str e.2)) d fun a _ b _ => Iff.rfl).symm

theorem sortedTexts_perm (d : Table String String) : (sortedTexts d).Perm d :=
  List.perm_insertionSort _ d

variable {d : Table String String}

theorem nodup_sortedTexts (h : (d.map Prod.fst).Nodup) : ((sortedTexts d).map Prod.fst).Nodup :=
  (((sortedTexts_perm d).map Prod.fst).nodup_iff).mpr h

/-- Sorting does not change what is read. -/
theorem get_sortedTexts (h : (d.map Prod.fst).Nodup) (k : String) : get (sortedTexts d) k=get d k :=
  (perm_iff_get (nodup_sortedTexts h) h).mp (sortedTexts_perm d) k

variable {d' : Table String String}

/-- Tables that read the same are the same in order. -/
theorem sortedTexts_eq (h : (d.map Prod.fst).Nodup) (h' : (d'.map Prod.fst).Nodup)
    (hget : ∀ k,get d k=get d' k) : sortedTexts d=sortedTexts d' := by
  have hperm : (sortedTexts d).Perm (sortedTexts d') :=
    ((sortedTexts_perm d).trans ((perm_iff_get h h').mpr hget)).trans (sortedTexts_perm d').symm
  have hsorted : ∀ d : Table String String,(sortedTexts d).Pairwise fun a b => a.1≤b.1 := by
    intro d
    have : Std.Total fun a b : String × String => a.1≤b.1 := ⟨fun a b => String.le_total a.1 b.1⟩
    have : IsTrans (String × String) fun a b => a.1≤b.1 := ⟨fun _ _ _ => String.le_trans⟩
    exact List.pairwise_insertionSort _ d
  refine hperm.eq_of_pairwise (fun a b ha hb hab hba => ?_) (hsorted d) (hsorted d')
  have hkey : a.1=b.1 := String.le_antisymm hab hba
  have hread : get (sortedTexts d') a.1=some a.2 :=
    (mem_iff_get (nodup_sortedTexts h')).mp (hperm.mem_iff.mp ha)
  have hread' : get (sortedTexts d') b.1=some b.2 := (mem_iff_get (nodup_sortedTexts h')).mp hb
  rw [hkey,hread'] at hread
  exact Prod.ext hkey (Option.some.inj hread).symm

variable {floatText : Rat → String} {floatOf : List Char → Option Rat}

theorem membersReadable_texts (d : Table String String) :
    MembersReadable floatText floatOf (mapValues (fun _ s => .str s) d) := by
  induction d with
  | nil => trivial
  | cons e d ih => exact ⟨trivial,ih⟩

theorem readable_textObject (h : (d.map Prod.fst).Nodup) :
    Readable floatText floatOf (textObject d) := by
  refine ⟨?_,membersReadable_texts d⟩
  rwa [keys_mapValues]

theorem textObject_inj (h : textObject d=textObject d') : d=d' := by
  have hinj : Function.Injective fun e : String × String => (e.1,Json.str e.2) := by
    rintro ⟨k,s⟩ ⟨k',s'⟩ heq
    cases heq
    rfl
  exact List.map_injective_iff.mpr hinj (Json.obj.inj h)

/-- Objects of strings have one canonical text exactly when they read the same. -/
theorem canonical_texts_iff (h : (d.map Prod.fst).Nodup) (h' : (d'.map Prod.fst).Nodup) :
    canonical floatText (textObject d)=canonical floatText (textObject d') ↔
      ∀ k,get d k=get d' k := by
  unfold canonical
  rw [sortKeys_textObject,sortKeys_textObject]
  constructor
  · intro htext k
    have hread := @loads_compactJson floatText (fun _ => none) _
      (readable_textObject (nodup_sortedTexts h))
    rw [htext,loads_compactJson (readable_textObject (nodup_sortedTexts h'))] at hread
    rw [← get_sortedTexts h,← get_sortedTexts h',textObject_inj (Option.some.inj hread)]
  · intro hget
    rw [sortedTexts_eq h h' hget]

end Voyagent.CanonicalJson
