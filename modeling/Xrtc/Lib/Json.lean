import Xrtc.Lib.Bytes
import Xrtc.Lib.SortedMap

/-!
# `Xrtc.Lib.Json`: JSON values

The trees that a JSON library reads and writes. A library with machine integers has two kinds of
them, and an integer that both can hold may be written as one and read as the other. `normal`
makes it a signed one, and two trees with the same normal form have the same shape, texts and
numbers. The members of an object are the list of its entries, and in a tree that such a library
holds they are in the order of their keys (`InOrder`). The type of the numbers that are not
integers is a parameter. Nothing here names a program.
-/

set_option autoImplicit false

namespace Xrtc.Lib

/-- A JSON value. -/
inductive Json (D : Type) where
  | null
  | int (n : Int64)
  | uint (n : UInt64)
  | real (d : D)
  | string (s : Bytes)
  | bool (b : Bool)
  | array (values : List (Json D))
  | object (members : List (Bytes × Json D))

namespace Json

variable {D : Type}

mutual

/-- The tree, with every integer a signed one that can be. -/
def normal : Json D → Json D
  | .null => .null
  | .int n => .int n
  | .uint n => if n.toNat < 2 ^ 63 then .int n.toInt64 else .uint n
  | .real d => .real d
  | .string s => .string s
  | .bool b => .bool b
  | .array values => .array (normalValues values)
  | .object members => .object (normalMembers members)

/-- The elements of an array. -/
def normalValues : List (Json D) → List (Json D)
  | [] => []
  | value :: values => value.normal :: normalValues values

/-- The members of an object. -/
def normalMembers : List (Bytes × Json D) → List (Bytes × Json D)
  | [] => []
  | (key, value) :: members => (key, value.normal) :: normalMembers members

end

/-- The values of an array are normalized one by one. -/
theorem normalValues_eq (values : List (Json D)) : normalValues values = values.map normal := by
  induction values with
  | nil => rfl
  | cons value values ih => rw [normalValues, ih, List.map_cons]

/-- So are the members of an object, under their keys. -/
theorem normalMembers_eq (members : List (Bytes × Json D)) :
    normalMembers members = members.map fun member => (member.1, member.2.normal) := by
  induction members with
  | nil => rfl
  | cons member members ih => rw [normalMembers, ih, List.map_cons]

/-! ### The order of the members -/

mutual

/-- Every object in the tree has its members in the order of their keys. -/
def InOrder : Json D → Prop
  | .array values => ValuesInOrder values
  | .object members => SortedMap.Sorted members ∧ MembersInOrder members
  | _ => True

/-- The elements of an array. -/
def ValuesInOrder : List (Json D) → Prop
  | [] => True
  | value :: values => value.InOrder ∧ ValuesInOrder values

/-- The members of an object. -/
def MembersInOrder : List (Bytes × Json D) → Prop
  | [] => True
  | (_, value) :: members => value.InOrder ∧ MembersInOrder members

end

/-- An array is in order if each of its values is. -/
theorem valuesInOrder_iff {values : List (Json D)} :
    ValuesInOrder values ↔ ∀ value ∈ values, value.InOrder := by
  induction values with
  | nil => simp [ValuesInOrder]
  | cons value values ih => rw [ValuesInOrder, ih, List.forall_mem_cons]

/-- Members are in order if each of their values is. -/
theorem membersInOrder_iff {members : List (Bytes × Json D)} :
    MembersInOrder members ↔ ∀ member ∈ members, member.2.InOrder := by
  induction members with
  | nil => simp [MembersInOrder]
  | cons member members ih => rw [MembersInOrder, ih, List.forall_mem_cons]

/-- The keys stay, and so does their order. -/
theorem sorted_normalMembers {members : List (Bytes × Json D)} :
    SortedMap.Sorted (normalMembers members) ↔ SortedMap.Sorted members := by
  rw [normalMembers_eq]
  exact List.pairwise_map

mutual

/-- The order is one of the keys, which a normal form keeps. -/
theorem inOrder_normal : ∀ value : Json D, value.normal.InOrder ↔ value.InOrder
  | .null | .int _ | .real _ | .string _ | .bool _ => Iff.rfl
  | .uint n => by
      rw [normal]
      split
      · exact Iff.rfl
      · exact Iff.rfl
  | .array values => by
      rw [normal, InOrder, InOrder]
      exact valuesInOrder_normal values
  | .object members => by
      rw [normal, InOrder, InOrder, sorted_normalMembers]
      exact and_congr_right fun _ => membersInOrder_normal members

/-- The normal form is in order exactly when the tree is, for the values of an array. -/
theorem valuesInOrder_normal :
    ∀ values : List (Json D), ValuesInOrder (normalValues values) ↔ ValuesInOrder values
  | [] => Iff.rfl
  | value :: values => by
      rw [normalValues, ValuesInOrder, ValuesInOrder]
      exact and_congr (inOrder_normal value) (valuesInOrder_normal values)

/-- The same for the members of an object. -/
theorem membersInOrder_normal :
    ∀ members : List (Bytes × Json D),
      MembersInOrder (normalMembers members) ↔ MembersInOrder members
  | [] => Iff.rfl
  | (_, value) :: members => by
      rw [normalMembers, MembersInOrder, MembersInOrder]
      exact and_congr (inOrder_normal value) (membersInOrder_normal members)

end

/-- Two trees with one normal form. -/
theorem InOrder.of_normal_eq {value value' : Json D} (h : value'.InOrder)
    (hnormal : value.normal = value'.normal) : value.InOrder := by
  rw [← inOrder_normal, hnormal, inOrder_normal]
  exact h

/-! ### What a normal form says about a tree -/

section

variable {value : Json D}

/-- Only a string has itself as the normal form. -/
theorem eq_string_of_normal {s : Bytes} (h : value.normal = .string s) : value = .string s := by
  cases value with
  | uint n =>
      rw [normal] at h
      split at h <;> cases h
  | _ => cases h <;> rfl

/-- The same for a Boolean. -/
theorem eq_bool_of_normal {b : Bool} (h : value.normal = .bool b) : value = .bool b := by
  cases value with
  | uint n =>
      rw [normal] at h
      split at h <;> cases h
  | _ => cases h <;> rfl

/-- An array comes from an array, value by value. -/
theorem eq_array_of_normal {values : List (Json D)} (h : value.normal = .array values) :
    ∃ values', value = .array values' ∧ values'.map normal = values := by
  cases value with
  | uint n =>
      rw [normal] at h
      split at h <;> cases h
  | array values' =>
      rw [normal, normalValues_eq] at h
      exact ⟨values', rfl, Json.array.inj h⟩
  | _ => cases h

/-- An object comes from an object, member by member. -/
theorem eq_object_of_normal {members : List (Bytes × Json D)} (h : value.normal = .object members) :
    ∃ members', value = .object members' ∧
      (members'.map fun member => (member.1, member.2.normal)) = members := by
  cases value with
  | uint n =>
      rw [normal] at h
      split at h <;> cases h
  | object members' =>
      rw [normal, normalMembers_eq] at h
      exact ⟨members', rfl, Json.object.inj h⟩
  | _ => cases h

/-- An integer, in one of its two forms. -/
theorem eq_integer_of_normal {n : UInt64} (h : value.normal = (Json.uint n).normal) :
    value = .uint n ∨ value = .int n.toInt64 := by
  rw [normal] at h
  cases value with
  | uint m =>
      left
      rw [normal] at h
      split at h
      · split at h
        · have hsame := congrArg Int64.toUInt64 (Json.int.inj h)
          rw [UInt64.toUInt64_toInt64, UInt64.toUInt64_toInt64] at hsame
          rw [hsame]
        · cases h
      · split at h
        · cases h
        · exact h
  | int m =>
      right
      split at h <;> cases h
      rfl
  | _ => split at h <;> cases h

end

end Json

end Xrtc.Lib
