import Mathlib.Data.List.Perm.Basic
import TypedRecords.Json.Codec

namespace TypedRecords.Json

variable {key k : String} {v : Json} {members members' : List (Text × Json)}

theorem lookup_perm (key : String) (h : members.Perm members') :
    lookup key members = lookup key members' := by
  have hfound := h.filter fun m => m.1 == some key
  rw [lookup, lookup]
  generalize (members.filter fun m => m.1 == some key) = found at hfound
  generalize (members'.filter fun m => m.1 == some key) = found' at hfound
  match found, hfound with
  | [], hfound => rw [List.nil_perm.mp hfound]
  | [m], hfound => rw [List.singleton_perm.mp hfound]
  | m :: m' :: rest, hfound =>
      match found', hfound.length_eq with
      | _ :: _ :: _, _ => rfl

theorem keysHaveText_perm (h : members.Perm members') :
    keysHaveText members = keysHaveText members' :=
  h.all_eq

theorem lookup_cons_ne (h : k ≠ key) (v : Json) (members : List (Text × Json)) :
    lookup key ((some k, v) :: members) = lookup key members := by
  have hkey : (some k == some key) = false := by simp [h]
  rw [lookup, List.filter_cons_of_neg (by simp [hkey]), ← lookup]

theorem lookup_cons_self (key : String) (v : Json) (members : List (Text × Json)) :
    lookup key ((some key, v) :: members) =
      match lookup key members with
      | .absent => .present v
      | _ => .repeated := by
  rw [lookup, List.filter_cons_of_pos (by simp), lookup]
  cases members.filter fun m => m.1 == some key with
  | nil => rfl
  | cons m rest => cases rest <;> rfl

end TypedRecords.Json
