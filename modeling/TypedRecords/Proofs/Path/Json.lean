import TypedRecords.Path.Json
import TypedRecords.Proofs.Json.Codec
import TypedRecords.Proofs.Json.Parsing

namespace TypedRecords.Path

open Json (lookup keysHaveText)

def nodeKeys : List String :=
  ["name", "parent", "root"]

/-- Values that differ in nothing a path has, whether or not they are the form of a path. -/
inductive Variant : Json → Json → Prop
  | refl (v : Json) : Variant v v
  | symm {v w : Json} (h : Variant v w) : Variant w v
  | trans {u v w : Json} (h : Variant u v) (h' : Variant v w) : Variant u w
  | order {members members' : List (Json.Text × Json)} (h : members.Perm members') :
      Variant (.object members) (.object members')
  | unknown {key : String} (h : key ∉ nodeKeys) (v : Json) (members : List (Json.Text × Json)) :
      Variant (.object members) (.object ((some key, v) :: members))
  | noParent {members : List (Json.Text × Json)} (h : lookup "parent" members = .absent) :
      Variant (.object members) (.object ((some "parent", .null) :: members))
  | noRoot {members : List (Json.Text × Json)} (h : lookup "root" members = .absent) :
      Variant (.object members) (.object ((some "root", .bool false) :: members))
  | array (name parent isRoot : Json) :
      Variant (.object [(some "name", name), (some "parent", parent), (some "root", isRoot)])
        (.array [name, parent, isRoot])
  | shortRoot (name parent : Json) :
      Variant (.array [name, parent, .bool false]) (.array [name, parent])
  | shortParent (name : Json) : Variant (.array [name, .null]) (.array [name])
  | parent {v w : Json} (h : Variant v w) (members : List (Json.Text × Json)) :
      Variant (.object ((some "parent", v) :: members)) (.object ((some "parent", w) :: members))

theorem Variant.eq_null_iff {v w : Json} (h : Variant v w) : v = .null ↔ w = .null := by
  induction h with
  | refl => exact Iff.rfl
  | symm _ ih => exact ih.symm
  | trans _ _ ih ih' => exact ih.trans ih'
  | _ => exact ⟨nofun, nofun⟩

theorem parentOfJson?_of_ne_null {v : Json} (h : v ≠ .null) (readPath : Json → Option Path) :
    parentOfJson? readPath v = (readPath v).map some := by
  cases v with
  | null => exact absurd rfl h
  | _ => rfl

theorem parentOfJson?_congr {readPath : Json → Option Path} {v w : Json}
    (hnull : v = .null ↔ w = .null) (h : readPath v = readPath w) :
    parentOfJson? readPath v = parentOfJson? readPath w := by
  by_cases hv : v = .null
  · rw [hv, hnull.mp hv]
  · rw [parentOfJson?_of_ne_null hv, parentOfJson?_of_ne_null (mt hnull.mpr hv), h]

theorem ofJson?_object_congr {members members' : List (Json.Text × Json)}
    (htext : keysHaveText members = keysHaveText members')
    (hname : lookup "name" members = lookup "name" members')
    (hparent : ∀ depth, parentOfMember? (ofJson? depth) (lookup "parent" members) =
      parentOfMember? (ofJson? depth) (lookup "parent" members'))
    (hroot : rootOfMember? (lookup "root" members) = rootOfMember? (lookup "root" members'))
    (depth : Nat) : ofJson? depth (.object members) = ofJson? depth (.object members') := by
  cases depth with
  | zero => rfl
  | succ depth => simp only [ofJson?, htext, hname, hparent, hroot]

theorem ofJson?_array (depth : Nat) (name parent isRoot : Json) :
    ofJson? depth
        (.object [(some "name", name), (some "parent", parent), (some "root", isRoot)]) =
      ofJson? depth (.array [name, parent, isRoot]) := by
  cases depth with
  | zero => rfl
  | succ depth =>
      have hobject : ofJson? (depth + 1)
          (.object [(some "name", name), (some "parent", parent), (some "root", isRoot)]) = do
            let parent ← parentOfJson? (ofJson? depth) parent
            let isRoot ← isRoot.toBool?
            return assemble (← name.toString?) parent isRoot := by
        simp [ofJson?, keysHaveText, lookup, parentOfMember?, rootOfMember?]
      rw [hobject, ofJson?]
      cases name.toString? <;> cases parentOfJson? (ofJson? depth) parent <;>
        cases isRoot.toBool? <;> rfl

theorem Variant.ofJson?_eq {v w : Json} (h : Variant v w) (depth : Nat) :
    ofJson? depth v = ofJson? depth w := by
  induction h generalizing depth with
  | refl => rfl
  | symm _ ih => exact (ih depth).symm
  | trans _ _ ih ih' => exact (ih depth).trans (ih' depth)
  | order h =>
      refine ofJson?_object_congr ?_ ?_ (fun depth => ?_) ?_ depth
      · exact Json.keysHaveText_perm h
      · rw [Json.lookup_perm _ h]
      · rw [Json.lookup_perm _ h]
      · rw [Json.lookup_perm _ h]
  | unknown h v members =>
      simp only [nodeKeys, List.mem_cons, List.not_mem_nil, or_false, not_or] at h
      refine ofJson?_object_congr ?_ ?_ (fun depth => ?_) ?_ depth
      · rfl
      · rw [Json.lookup_cons_ne h.1]
      · rw [Json.lookup_cons_ne h.2.1]
      · rw [Json.lookup_cons_ne h.2.2]
  | noParent h =>
      refine ofJson?_object_congr ?_ ?_ (fun depth => ?_) ?_ depth
      · rfl
      · rw [Json.lookup_cons_ne (by decide)]
      · rw [Json.lookup_cons_self, h]
        rfl
      · rw [Json.lookup_cons_ne (by decide)]
  | noRoot h =>
      refine ofJson?_object_congr ?_ ?_ (fun depth => ?_) ?_ depth
      · rfl
      · rw [Json.lookup_cons_ne (by decide)]
      · rw [Json.lookup_cons_ne (by decide)]
      · rw [Json.lookup_cons_self, h]
        rfl
  | array name parent isRoot => exact ofJson?_array depth name parent isRoot
  | shortRoot name parent =>
      cases depth with
      | zero => rfl
      | succ depth => simp [ofJson?, Json.toBool?]
  | shortParent name =>
      cases depth with
      | zero => rfl
      | succ depth => simp [ofJson?, parentOfJson?]
  | parent h members ih =>
      refine ofJson?_object_congr ?_ ?_ (fun depth => ?_) ?_ depth
      · rfl
      · rw [Json.lookup_cons_ne (by decide), Json.lookup_cons_ne (by decide)]
      · rw [Json.lookup_cons_self, Json.lookup_cons_self]
        cases lookup "parent" members with
        | absent => exact parentOfJson?_congr h.eq_null_iff (ih depth)
        | _ => rfl
      · rw [Json.lookup_cons_ne (by decide), Json.lookup_cons_ne (by decide)]

theorem ofJson?_outermost (depth : Nat) (node : Node) :
    ofJson? (depth + 1) (nodesToJson node []) = some { node := node } := by
  obtain ⟨name, isRoot⟩ := node
  cases isRoot <;>
    simp [nodesToJson, nameMember, rootMembers, ofJson?, keysHaveText, lookup, parentOfMember?,
      rootOfMember?, Json.ofString, Json.toString?, Json.toBool?, assemble]

theorem ofJson?_below {depth : Nat} {next : Node} {above : List Node} {parent : Path}
    (h : ofJson? depth (nodesToJson next above) = some parent) (node : Node) :
    ofJson? (depth + 1) (nodesToJson node (next :: above)) =
      some (Path.under { node := node } parent) := by
  have hnull : nodesToJson next above ≠ .null := by cases above <;> nofun
  obtain ⟨name, isRoot⟩ := node
  cases isRoot <;>
    simp [nodesToJson, nameMember, rootMembers, ofJson?, keysHaveText, lookup, parentOfMember?,
      parentOfJson?_of_ne_null hnull, h, rootOfMember?, Json.ofString, Json.toString?,
      Json.toBool?, assemble]

theorem ofJson?_nodesToJson {depth : Nat} (node : Node) {above : List Node}
    (h : above.length < depth) :
    ofJson? depth (nodesToJson node above) = some { node := node, above := above } := by
  induction above generalizing node depth with
  | nil =>
      cases depth with
      | zero => exact absurd h (Nat.not_lt_zero _)
      | succ depth => exact ofJson?_outermost depth node
  | cons next above ih =>
      cases depth with
      | zero => exact absurd h (Nat.not_lt_zero _)
      | succ depth => exact ofJson?_below (ih next (Nat.lt_of_succ_lt_succ h)) node

theorem ofJson?_toJson {depth : Nat} {p : Path} (h : p.length ≤ depth) :
    ofJson? depth p.toJson = some p :=
  ofJson?_nodesToJson p.node h

theorem ofJsonText?_of_written {v : Json} {s : String} (h : v.Written s) :
    ofJsonText? s = ofJson? nestingLimit v := by
  rw [ofJsonText?, h.parse_eq]
  rfl

theorem toJsonText_injective {p q : Path} (h : p.toJsonText = q.toJsonText) : p = q := by
  have hvalue : some p.toJson = some q.toJson := by
    rw [← Json.parse_render, ← Json.parse_render]
    exact congrArg Json.parse h
  have hp := ofJson?_toJson (Nat.le_max_left p.length q.length)
  have hq := ofJson?_toJson (Nat.le_max_right p.length q.length)
  rw [Option.some.inj hvalue, hq] at hp
  exact (Option.some.inj hp).symm

/-- The JSON form of paths loses nothing: a path of less than 128 nodes is read back from its text,
different paths have different texts, and texts that write variants of a value are read alike. -/
theorem json_lossless :
    (∀ p : Path, p.length < 128 → ofJsonText? p.toJsonText = some p) ∧
      (∀ p q : Path, p.toJsonText = q.toJsonText → p = q) ∧
        ∀ v w s t, Variant v w → v.Written s → w.Written t → ofJsonText? s = ofJsonText? t := by
  refine ⟨?_, fun p q => toJsonText_injective, ?_⟩
  · intro p h
    exact (ofJsonText?_of_written p.toJson.written_render).trans
      (ofJson?_toJson (Nat.le_of_lt_succ h))
  · intro v w s t h hs ht
    rw [ofJsonText?_of_written hs, ofJsonText?_of_written ht, h.ofJson?_eq]

def quotedColumn : Path :=
  (single "column").under (root "my \"db\"")

/-- The column as an array of its parts, its root as an object with an unknown member. -/
def quotedColumnArray : Json :=
  .array [.string (some "column"), .object [(some "kind", .number .real),
    (some "root", .bool true), (some "name", .string (some "my \"db\""))]]

theorem json_lossless_quotedColumn :
    quotedColumn.length < 128 ∧ Variant quotedColumn.toJson quotedColumnArray ∧
      ofJsonText? " [\"column\",\x7b\"kind\":0.0,\"root\":true,\"name\":\"my \\\"db\\\"\"\x7d]" =
        some quotedColumn := by
  obtain ⟨hread, -, halike⟩ := json_lossless
  have hroot : Variant (root "my \"db\"").toJson (.object [(some "kind", .number .real),
      (some "root", .bool true), (some "name", .string (some "my \"db\""))]) :=
    .trans (.unknown (by decide) _ _) (.order (.cons _ (.swap _ _ _)))
  have hparent := Variant.trans (.order (.swap _ _ _))
    (.parent hroot [nameMember { name := "column" }])
  have hfull := hparent.trans (.trans (.noRoot (by rfl)) (.order (List.reverse_perm _).symm))
  have hcolumn : Variant quotedColumn.toJson quotedColumnArray :=
    hfull.trans (.trans (.array _ _ _) (.shortRoot _ _))
  have hspaced : quotedColumnArray.Written
      " [\"column\",\x7b\"kind\":0.0,\"root\":true,\"name\":\"my \\\"db\\\"\"\x7d]" :=
    .space (by decide) (Json.written_render quotedColumnArray)
  have hsame := halike _ _ _ _ hcolumn (Json.written_render _) hspaced
  have hlength : quotedColumn.length < 128 := by decide
  exact ⟨hlength, hcolumn, hsame.symm.trans (hread _ hlength)⟩

end TypedRecords.Path
