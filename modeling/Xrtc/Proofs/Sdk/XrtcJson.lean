import Xrtc.Lib.Fuel
import Xrtc.Proofs.Sdk.JsonText

/-!
# `Xrtc.Proofs.Sdk.XrtcJson`: what comes back from JSON

`FromJson` of the text of a value calls itself for every element and every container inside. The
call for the text of a container settles on the container (`settles_fromJson`), but the text of
anything else leaves the value null. A member of an object that is no container is taken from
the tree instead, and an element of an array is not. So what comes back is the value with these
elements null (`blanked`), and `fromJson_iff` says when this is the value itself.

A text that is refused gets past the test of `parse` to the `return true` at the end, unless
the reader has thrown.
-/

set_option autoImplicit false

namespace Xrtc.Proofs.Sdk

open Xrtc.Lib
open Xrtc.Sdk
open Xrtc.Sdk.JsonValue
open Xrtc.Ice (ascii)
open Xrtc.Proofs.Sdk.JsonText (jsonText openBrace)

variable {D : Type}

/-! ### Trees -/

/-- The values that are built from objects and arrays that are not empty, strings, booleans and
integers. -/
inductive Tree : JsonValue D → Prop where
  | string (s : Bytes) : Tree (.string s)
  | bool (b : Bool) : Tree (.bool b)
  | ofInt (n : Int32) : Tree (ofInt n)
  | ofUnsignedLongLong (n : UInt64) : Tree (ofUnsignedLongLong n)
  | array {values : List (JsonValue D)} (hne : values ≠ []) (h : ∀ v ∈ values, Tree v) :
      Tree (.array values)
  | object {entries : List (Bytes × JsonValue D)} (hne : entries ≠ [])
      (hsorted : SortedMap.Sorted entries) (h : ∀ entry ∈ entries, Tree entry.2) :
      Tree (.object entries)

/-- The value is an object or an array. -/
def isContainer : JsonValue D → Bool
  | .array _ => true
  | .object _ => true
  | _ => false

/-- No array in the value has an element that is neither an object nor an array. -/
inductive NoScalarElements : JsonValue D → Prop where
  | scalar {v : JsonValue D} (h : isContainer v = false) : NoScalarElements v
  | array {values : List (JsonValue D)} (hcontainers : ∀ v ∈ values, isContainer v = true)
      (h : ∀ v ∈ values, NoScalarElements v) : NoScalarElements (.array values)
  | object {entries : List (Bytes × JsonValue D)}
      (h : ∀ entry ∈ entries, NoScalarElements entry.2) : NoScalarElements (.object entries)

mutual

/-- The value with the elements of arrays null that are neither objects nor arrays. -/
def blanked : JsonValue D → JsonValue D
  | .array values => .array (blankedElements values)
  | .object entries => .object (blankedEntries entries)
  | v => v

/-- The elements of an array. -/
def blankedElements : List (JsonValue D) → List (JsonValue D)
  | [] => []
  | v :: values => (if isContainer v then blanked v else .null) :: blankedElements values

/-- The entries of an object. -/
def blankedEntries : List (Bytes × JsonValue D) → List (Bytes × JsonValue D)
  | [] => []
  | (key, v) :: entries => (key, blanked v) :: blankedEntries entries

end

/-- What `FromJson` of the text of a value makes of the value it is called for. -/
def received (self v : JsonValue D) : JsonValue D := if isContainer v then blanked v else self

/-- The elements of an array, without the recursion through the tree. -/
theorem blankedElements_eq (values : List (JsonValue D)) :
    blankedElements values = values.map (received .null) := by
  induction values with
  | nil => rfl
  | cons v values ih => rw [blankedElements, ih, List.map_cons, received]

/-- The entries of an object, in the same way. -/
theorem blankedEntries_eq (entries : List (Bytes × JsonValue D)) :
    blankedEntries entries = entries.map fun entry => (entry.1, blanked entry.2) := by
  induction entries with
  | nil => rfl
  | cons entry entries ih => rw [blankedEntries, ih, List.map_cons]

/-! ### The text of a value -/

/-- The elements are printed one by one. -/
theorem toJsonValues_eq (values : List (JsonValue D)) :
    toJsonValues values = values.map toJsonValue := by
  induction values with
  | nil => rfl
  | cons v values ih => rw [toJsonValues, ih, List.map_cons]

/-- The entries are put into the members one by one, in the order of the entries. -/
theorem toJsonMembers_eq (entries : List (Bytes × JsonValue D)) (members : List (Bytes × Json D)) :
    toJsonMembers entries members
      = (entries.map fun entry => (entry.1, entry.2.toJsonValue)).foldl
          (fun members member => SortedMap.insert member.1 member.2 members) members := by
  induction entries generalizing members with
  | nil => rfl
  | cons entry entries ih => rw [toJsonMembers, ih, List.map_cons, List.foldl_cons]

/-- An array with an element is an array of the elements. An empty one is nothing at all for
JsonCpp. -/
theorem toJsonValue_array {values : List (JsonValue D)} (hne : values ≠ []) :
    (JsonValue.array values).toJsonValue = .array (values.map toJsonValue) := by
  rw [toJsonValue, if_neg (by rw [List.isEmpty_iff]; exact hne), toJsonValues_eq]

/-- The members are in the order of the entries. -/
theorem toJsonValue_object {entries : List (Bytes × JsonValue D)} (hne : entries ≠ [])
    (hsorted : SortedMap.Sorted entries) :
    (JsonValue.object entries).toJsonValue
      = .object (entries.map fun entry => (entry.1, entry.2.toJsonValue)) := by
  rw [toJsonValue, if_neg (by rw [List.isEmpty_iff]; exact hne), toJsonMembers_eq]
  exact congrArg Json.object (SortedMap.ofList_eq (hsorted.map toJsonValue))

/-- What is made of a tree is never empty in the sense of JsonCpp, since no container in a tree
is. -/
theorem isEmptyValue_toJsonValue {v : JsonValue D} (h : Tree v) :
    isEmptyValue v.toJsonValue = false := by
  cases h with
  | array hne _ =>
      rw [toJsonValue_array hne]
      simpa [isEmptyValue] using hne
  | object hne hsorted _ =>
      rw [toJsonValue_object hne hsorted]
      simpa [isEmptyValue] using hne
  | _ => rfl

/-- What is written is a tree of the library. Induction on how the value is built. -/
theorem inOrder_toJsonValue {v : JsonValue D} (h : Tree v) : v.toJsonValue.InOrder := by
  induction h with
  | string s => trivial
  | bool b => trivial
  | ofInt n => trivial
  | ofUnsignedLongLong n => trivial
  | array hne _ ih =>
      rw [toJsonValue_array hne, Json.InOrder, Json.valuesInOrder_iff, List.forall_mem_map]
      exact ih
  | object hne hsorted _ ih =>
      rw [toJsonValue_object hne hsorted, Json.InOrder, Json.membersInOrder_iff,
        List.forall_mem_map]
      exact ⟨hsorted.map toJsonValue, ih⟩

/-! ### Reading a text back -/

/-- Two lists with the same image, element by element. -/
theorem forall₂_of_map_eq {α β γ : Type} {f : α → γ} {g : β → γ} {P : α → Prop} {xs : List α}
    {ys : List β} (h : ys.map g = xs.map f) (hP : ∀ x ∈ xs, P x) :
    List.Forall₂ (fun y x => P x ∧ g y = f x) ys xs := by
  induction xs generalizing ys with
  | nil =>
      rw [List.map_nil, List.map_eq_nil_iff] at h
      rw [h]
      exact .nil
  | cons x xs ih =>
      cases ys with
      | nil => cases h
      | cons y ys =>
          obtain ⟨hfirst, hrest⟩ := List.cons.inj h
          exact .cons ⟨hP x List.mem_cons_self, hfirst⟩
            (ih hrest fun x' hx' => hP x' (List.mem_cons_of_mem x hx'))

section

variable (j : JsonCpp D)

/-- `FromJson` of any text that the reader turns into the tree of a value, whichever of its types
an integer has. -/
def ReadsBack (v : JsonValue D) : Prop :=
  ∀ (value : Json D) (self : JsonValue D) (text : Bytes), value.normal = v.toJsonValue.normal →
    j.parse text = .parsed value →
    Settles (fun fuel => fromJson j fuel self text) (true, received self v)

variable {j}

/-- The call for a text that `FromJson` has written itself. -/
theorem ReadsBack.nested {v : JsonValue D} (htree : Tree v) (h : ReadsBack j v) {item : Json D}
    (hnormal : item.normal = v.toJsonValue.normal) :
    Settles (fun fuel => fromJson j fuel .null (j.write item)) (true, received .null v) := by
  have hitem : item.InOrder := (inOrder_toJsonValue htree).of_normal_eq hnormal
  obtain ⟨value, hparse, hsame⟩ := j.parse_write item hitem
  exact h value .null (j.write item) (hsame.trans hnormal) hparse

/-- An element that is read back is what the call for it leaves, if it is a container. The call
returns nothing else. -/
theorem ReadsBack.ofElement {v : JsonValue D} (htree : Tree v) (h : ReadsBack j v)
    {item : Json D} (hnormal : item.normal = v.toJsonValue.normal) :
    Settles (fun fuel => ofElement j (fromJson j fuel .null) item) (received .null v) :=
  (ReadsBack.nested htree h hnormal).map Prod.snd

/-- A member that is a container comes from a call, any other one from the tree. -/
theorem ReadsBack.ofMember {v : JsonValue D} (htree : Tree v) (h : ReadsBack j v) {item : Json D}
    (hnormal : item.normal = v.toJsonValue.normal) :
    Settles (fun fuel => ofMember j (fromJson j fuel .null) item) (some (blanked v)) := by
  have hnested := (ReadsBack.nested htree h hnormal).map fun r => if r.1 then some r.2 else none
  cases htree with
  | string s =>
      obtain rfl := Json.eq_string_of_normal hnormal
      exact .of_forall fun _ => rfl
  | bool b =>
      obtain rfl := Json.eq_bool_of_normal hnormal
      exact .of_forall fun _ => rfl
  | ofInt n =>
      rcases Json.eq_integer_of_normal hnormal with rfl | rfl
      · exact .of_forall fun _ => rfl
      · exact .of_forall fun _ => rfl
  | ofUnsignedLongLong n =>
      rcases Json.eq_integer_of_normal hnormal with rfl | rfl
      · exact .of_forall fun _ => rfl
      · exact .of_forall fun _ => rfl
  | array hne _ =>
      rw [toJsonValue_array hne] at hnormal
      obtain ⟨values, rfl, -⟩ := Json.eq_array_of_normal hnormal
      exact hnested
  | object hne hsorted _ =>
      rw [toJsonValue_object hne hsorted] at hnormal
      obtain ⟨members, rfl, -⟩ := Json.eq_object_of_normal hnormal
      exact hnested

/-- An entry that is read back goes to its key. -/
theorem ReadsBack.storeMember {v : JsonValue D} (htree : Tree v) (h : ReadsBack j v)
    {member : Bytes × Json D} {key : Bytes} (hkey : member.1 = key)
    (hnormal : member.2.normal = v.toJsonValue.normal) (acc : List (Bytes × JsonValue D)) :
    Settles (fun fuel => storeMember j (fromJson j fuel .null) acc member)
      (SortedMap.insert key (blanked v) acc) := by
  subst hkey
  exact (ReadsBack.ofMember htree h hnormal).map _

/-- A number is read back as it is. -/
theorem readsBack_int (n : UInt64) : ReadsBack j (.int n) := by
  intro value self text hnormal hparse
  refine .of_forall_succ fun fuel => ?_
  rcases Json.eq_integer_of_normal hnormal with rfl | rfl
  · rw [fromJson, hparse]
    rfl
  · rw [fromJson, hparse]
    rfl

/-- What the calls for the elements settle on. -/
theorem readsBack_array {values : List (JsonValue D)} (hne : values ≠ [])
    (htree : ∀ v ∈ values, Tree v) (h : ∀ v ∈ values, ReadsBack j v) :
    ReadsBack j (.array values) := by
  intro value self text hnormal hparse
  rw [toJsonValue_array hne, Json.normal, Json.normalValues_eq, List.map_map] at hnormal
  obtain ⟨items, rfl, hitems⟩ := Json.eq_array_of_normal hnormal
  -- one call for each element, of a value that is null
  have hrounds : List.Forall₂
      (fun item v => Settles (fun fuel => JsonValue.ofElement j (fromJson j fuel .null) item) v)
      items (values.map (received .null)) := by
    rw [List.forall₂_map_right_iff]
    refine (forall₂_of_map_eq hitems fun v hv => And.intro (htree v hv) (h v hv)).imp ?_
    intro item v hv
    obtain ⟨⟨htree, hreads⟩, hnormal⟩ := hv
    exact ReadsBack.ofElement htree hreads hnormal
  have hloop := (Settles.mapM hrounds).map fun values => (true, JsonValue.array values)
  have hreceived : received self (.array values) = .array (values.map (received .null)) :=
    congrArg JsonValue.array (blankedElements_eq values)
  rw [hreceived]
  refine .of_succ ?_
  simp only [fromJson, hparse]
  exact hloop

/-- What the calls for the members settle on: each member is read back by the induction, and goes
to its place by its key. -/
theorem readsBack_object {entries : List (Bytes × JsonValue D)} (hne : entries ≠ [])
    (hsorted : SortedMap.Sorted entries) (htree : ∀ entry ∈ entries, Tree entry.2)
    (h : ∀ entry ∈ entries, ReadsBack j entry.2) : ReadsBack j (.object entries) := by
  intro value self text hnormal hparse
  rw [toJsonValue_object hne hsorted, Json.normal, Json.normalMembers_eq, List.map_map] at hnormal
  obtain ⟨members, rfl, hmembers⟩ := Json.eq_object_of_normal hnormal
  -- the entries are stored one after the other, whatever is stored before
  have hrounds : List.Forall₂
      (fun member entry => ∀ acc,
        Settles (fun fuel => JsonValue.storeMember j (fromJson j fuel .null) acc member)
          (SortedMap.insert entry.1 entry.2 acc))
      members (entries.map fun entry => (entry.1, blanked entry.2)) := by
    rw [List.forall₂_map_right_iff]
    refine (forall₂_of_map_eq hmembers fun entry hentry =>
      And.intro (htree entry hentry) (h entry hentry)).imp ?_
    intro member entry hentry acc
    obtain ⟨⟨htree, hreads⟩, hsame⟩ := hentry
    obtain ⟨hkey, hnormal⟩ := Prod.mk.inj hsame
    exact ReadsBack.storeMember htree hreads hkey hnormal acc
  have hloop := (Settles.foldlM hrounds []).map fun values => (true, JsonValue.object values)
  -- the keys come in order, so each entry goes to the end
  have hstored := SortedMap.ofList_eq (hsorted.map blanked)
  have hreceived : received self (.object entries)
      = .object (SortedMap.ofList (entries.map fun entry => (entry.1, blanked entry.2))) := by
    rw [hstored]
    exact congrArg JsonValue.object (blankedEntries_eq entries)
  rw [hreceived]
  refine .of_succ ?_
  simp only [fromJson, hparse]
  exact hloop

/-- Induction on how the value is built. -/
theorem settles_fromJson {v : JsonValue D} (htree : Tree v) : ReadsBack j v := by
  induction htree with
  | string s =>
      intro value self text hnormal hparse
      obtain rfl := Json.eq_string_of_normal hnormal
      refine .of_forall_succ fun fuel => ?_
      rw [fromJson, hparse]
      rfl
  | bool b =>
      intro value self text hnormal hparse
      obtain rfl := Json.eq_bool_of_normal hnormal
      refine .of_forall_succ fun fuel => ?_
      rw [fromJson, hparse]
      rfl
  | ofInt n => exact readsBack_int _
  | ofUnsignedLongLong n => exact readsBack_int n
  | array hne htree ih => exact readsBack_array hne htree ih
  | object hne hsorted htree ih => exact readsBack_object hne hsorted htree ih

/-- `FromJson` of the text of an object or an array. -/
theorem fromJson_toJson {v : JsonValue D} (htree : Tree v) (hcontainer : isContainer v = true)
    (self : JsonValue D) :
    Settles (fun fuel => fromJson j fuel self (v.toJson j)) (true, blanked v) := by
  obtain ⟨value, hparse, hnormal⟩ := j.parse_write v.toJsonValue (inOrder_toJsonValue htree)
  have htext : v.toJson j = j.write v.toJsonValue := by
    exact if_neg (by rw [isEmptyValue_toJsonValue htree]; exact Bool.false_ne_true)
  have hreceived : received self v = blanked v := if_pos hcontainer
  rw [htext, ← hreceived]
  exact settles_fromJson htree value self _ hnormal hparse

end

/-! ### What comes back is the value -/

/-- A map changes nothing in a list exactly if it changes none of its elements. -/
theorem map_eq_self_iff {α : Type} {f : α → α} {xs : List α} :
    xs.map f = xs ↔ ∀ x ∈ xs, f x = x := by
  have hmap := List.map_inj_left (l := xs) (f := f) (g := id)
  rw [List.map_id] at hmap
  exact hmap

/-- As an element, a value comes back exactly if it is a container, and comes back as one. -/
theorem received_null_eq_iff {v : JsonValue D} (htree : Tree v)
    (h : blanked v = v ↔ NoScalarElements v) :
    received .null v = v ↔ isContainer v = true ∧ NoScalarElements v := by
  unfold received
  cases hcontainer : isContainer v with
  | true => simpa using h
  | false =>
      -- the element is null now, and no tree is
      refine iff_of_false ?_ (fun hc => nomatch hc.1)
      intro hnull
      have hnull : JsonValue.null = v := hnull
      rw [← hnull] at htree
      cases htree

/-- The value is as it was if and only if no array has had such an element. Induction on how it
is built. -/
theorem blanked_eq_iff {v : JsonValue D} (htree : Tree v) : blanked v = v ↔ NoScalarElements v := by
  induction htree with
  | string s => exact iff_of_true rfl (.scalar rfl)
  | bool b => exact iff_of_true rfl (.scalar rfl)
  | ofInt n => exact iff_of_true rfl (.scalar rfl)
  | ofUnsignedLongLong n => exact iff_of_true rfl (.scalar rfl)
  | array hne h ih =>
      rename_i values
      have hblanked : blanked (.array values) = .array (values.map (received .null)) :=
        congrArg JsonValue.array (blankedElements_eq values)
      -- each element must be a container, and be as it was itself
      have helements := fun v hv => received_null_eq_iff (h v hv) (ih v hv)
      rw [hblanked, JsonValue.array.injEq, map_eq_self_iff]
      constructor
      · intro hsame
        exact .array (fun v hv => ((helements v hv).mp (hsame v hv)).1)
          fun v hv => ((helements v hv).mp (hsame v hv)).2
      · intro hnone v hv
        cases hnone with
        | scalar hscalar => cases hscalar
        | array hcontainers hall => exact (helements v hv).mpr ⟨hcontainers v hv, hall v hv⟩
  | object hne hsorted h ih =>
      rename_i entries
      have hblanked : blanked (.object entries)
          = .object (entries.map fun entry => (entry.1, blanked entry.2)) :=
        congrArg JsonValue.object (blankedEntries_eq entries)
      rw [hblanked, JsonValue.object.injEq, map_eq_self_iff]
      constructor
      · intro hsame
        exact .object fun entry hentry =>
          (ih entry hentry).mp (congrArg Prod.snd (hsame entry hentry))
      · intro hnone entry hentry
        cases hnone with
        | scalar hscalar => cases hscalar
        | object hall => exact Prod.ext rfl ((ih entry hentry).mpr (hall entry hentry))

/-! ### The wrapper -/

section

variable (j : JsonCpp D)

/-- The text of the value is read back as the value, by any value, and `FromJson` returns true. -/
def RoundTrips (v : JsonValue D) : Prop :=
  ∀ self, Settles (fun fuel => fromJson j fuel self (v.toJson j)) (true, v)

/-- The reader refuses the text, whichever way. -/
def Rejects (text : Bytes) : Prop := ∀ value, j.parse text ≠ .parsed value

/-- `FromJson` returns false for the text. -/
def ReturnsFalse (text : Bytes) : Prop :=
  ∀ self, ∃ v, Settles (fun fuel => fromJson j fuel self text) (false, v)

/-- So a container comes back exactly if no array in it has a scalar element. -/
theorem roundTrips_iff {v : JsonValue D} (htree : Tree v) (hcontainer : isContainer v = true) :
    RoundTrips j v ↔ NoScalarElements v := by
  rw [← blanked_eq_iff htree]
  constructor
  · intro hround
    have hresult := (fromJson_toJson (j := j) htree hcontainer .null).unique (hround .null)
    exact congrArg Prod.snd hresult
  · intro hsame self
    have hresult := fromJson_toJson (j := j) htree hcontainer self
    rw [hsame] at hresult
    exact hresult

variable {j}

/-- A text that the reader refuses leaves the object as it is, and the call returns true. -/
theorem fromJson_of_failed {text : Bytes} (h : j.parse text = .failed) (self : JsonValue D) :
    Settles (fun fuel => fromJson j fuel self text) (true, self) := by
  refine .of_forall_succ fun fuel => ?_
  rw [fromJson, h]

/-- A text that it throws at leaves the object as it is, and the call returns false. -/
theorem fromJson_of_thrown {text : Bytes} (h : j.parse text = .thrown) (self : JsonValue D) :
    Settles (fun fuel => fromJson j fuel self text) (false, self) := by
  refine .of_forall_succ fun fuel => ?_
  rw [fromJson, h]

variable (j)

/-- So `fromJson` returns false for a refused text exactly if the reader throws. -/
theorem returnsFalse_iff {text : Bytes} (hrejects : Rejects j text) :
    ReturnsFalse j text ↔ j.parse text = .thrown := by
  constructor
  · intro hfalse
    cases hparse : j.parse text with
    | parsed value => exact absurd hparse (hrejects value)
    | failed =>
        -- the `return true` at the end
        obtain ⟨v, hresult⟩ := hfalse .null
        have heq := hresult.unique (fromJson_of_failed hparse .null)
        cases heq
    | thrown => rfl
  · intro hthrown self
    exact ⟨self, fromJson_of_thrown hthrown self⟩

/-- A value with an object or an array at its root comes back from its text if and only if no
array in it has an element that is neither. A text that the reader refuses makes `FromJson`
return false if and only if the reader throws. -/
theorem fromJson_iff :
    (∀ v, Tree v → isContainer v = true → (RoundTrips j v ↔ NoScalarElements v)) ∧
      ∀ text, Rejects j text → (ReturnsFalse j text ↔ j.parse text = .thrown) :=
  ⟨fun _ htree hcontainer => roundTrips_iff j htree hcontainer,
    fun _ hrejects => returnsFalse_iff j hrejects⟩

end

/-! ### A value and a text -/

/-- `{"a":[{"b":1}]}`. -/
def objectInArray : JsonValue Empty :=
  .object [(ascii "a", .array [.object [(ascii "b", ofInt 1)]])]

/-- The reader of the example refuses a single brace without throwing. -/
theorem parse_openBrace : jsonText.parse [openBrace] = .failed := rfl

/-- So a single brace is a text that is refused. -/
theorem rejects_openBrace : Rejects jsonText [openBrace] := by
  intro value hparsed
  rw [parse_openBrace] at hparsed
  cases hparsed

/-- An object within an array comes back, and a single brace is not reported. -/
theorem objectInArray_readsBack :
    RoundTrips jsonText objectInArray ∧ ¬ ReturnsFalse jsonText [openBrace] := by
  have hone : ∀ entry ∈ [(ascii "b", ofInt (D := Empty) 1)], Tree entry.2 := by
    simpa using Tree.ofInt 1
  have hinner : Tree (JsonValue.object [(ascii "b", ofInt (D := Empty) 1)]) :=
    .object (List.cons_ne_nil _ _) (List.pairwise_singleton _ _) hone
  have htree : Tree objectInArray := by
    refine .object (List.cons_ne_nil _ _) (List.pairwise_singleton _ _) ?_
    simpa using Tree.array (List.cons_ne_nil _ _) (by simpa using hinner)
  have hnone : NoScalarElements objectInArray := by
    refine .object ?_
    simpa using NoScalarElements.array (by simp [isContainer])
      (by simpa using NoScalarElements.object (by simpa using NoScalarElements.scalar rfl))
  refine ⟨((fromJson_iff jsonText).1 objectInArray htree rfl).mpr hnone, ?_⟩
  intro hfalse
  have hthrown := ((fromJson_iff jsonText).2 [openBrace] rejects_openBrace).mp hfalse
  rw [parse_openBrace] at hthrown
  cases hthrown

/-- `[1]`. -/
def integerInArray : JsonValue Empty := .array [ofInt 1]

/-- The element is lost, and a text that ends too early is taken. -/
theorem integerInArray_not_readsBack :
    (Tree integerInArray ∧ isContainer integerInArray = true ∧
        ¬ RoundTrips jsonText integerInArray) ∧
      Rejects jsonText [openBrace] ∧ ¬ ReturnsFalse jsonText [openBrace] := by
  have htree : Tree integerInArray :=
    .array (List.cons_ne_nil _ _) (by simpa using Tree.ofInt 1)
  refine ⟨⟨htree, rfl, ?_⟩, rejects_openBrace, ?_⟩
  · intro hround
    have hnone := (roundTrips_iff jsonText htree rfl).mp hround
    cases hnone with
    | scalar hscalar => cases hscalar
    | array hcontainers _ => cases hcontainers _ List.mem_cons_self
  · intro hfalse
    have hthrown := (returnsFalse_iff jsonText rejects_openBrace).mp hfalse
    rw [parse_openBrace] at hthrown
    cases hthrown

end Xrtc.Proofs.Sdk
