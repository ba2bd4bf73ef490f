import WindowGateway.Builtin.Uppercase
import WindowGateway.Json.Parse
import WindowGateway.Json.Render
import WindowGateway.Proofs.Except
import WindowGateway.Proofs.Text.Letters

/-! Documents in upper case. What a document becomes has the same tree, node for node: the same kind
of node at every place, with the same keys or as many items, and equal to it but for strings, which
are in the upper case of Unicode. No other document is so, and upper case once is upper case for
good. -/

namespace WindowGateway.Json.Value

/-! ### Places in a tree -/

/-- The values right below a value, in their order. -/
def children : Value → List Value
  | array items => items
  | object members => members.map Prod.snd
  | null | bool _ | number _ | string _ => []

/-- The value at a place, which is told by the positions on the way down to it. -/
def node? : List Nat → Value → Option Value
  | [], v => some v
  | i :: path, v => v.children[i]?.bind (node? path)

theorem sizeOf_lt_of_mem_children {v c : Value} (hc : c ∈ v.children) : sizeOf c < sizeOf v := by
  cases v with
  | array items =>
    have hlt := List.sizeOf_lt_of_mem (show c ∈ items from hc)
    simp only [array.sizeOf_spec]
    omega
  | object members =>
    obtain ⟨⟨key, c⟩, hm, rfl⟩ := List.mem_map.mp hc
    have hlt := List.sizeOf_lt_of_mem hm
    simp only [Prod.mk.sizeOf_spec] at hlt
    simp only [object.sizeOf_spec]
    omega
  | null | bool _ | number _ | string _ => exact absurd hc List.not_mem_nil

/-- What holds of a value if it holds of those right below it holds of every value. -/
theorem children_induction {P : Value → Prop} (h : ∀ v, (∀ c ∈ v.children, P c) → P v)
    (v : Value) : P v :=
  h v fun c _ => children_induction h c
termination_by v
decreasing_by exact sizeOf_lt_of_mem_children ‹_›

/-! ### Equal but for strings -/

/-- Two nodes are of the same kind, with the same keys or as many items, and equal if they have
neither; but where there is a string in the first, its image is in the second. -/
inductive SameNode (f : String → String) : Value → Value → Prop
  | null : SameNode f null null
  | bool (b : Bool) : SameNode f (bool b) (bool b)
  | number (n : Number) : SameNode f (number n) (number n)
  | string (s : String) : SameNode f (string s) (string (f s))
  | array {items others : List Value} (length : items.length = others.length) :
      SameNode f (array items) (array others)
  | object {members others : List (String × Value)}
      (keys : members.map Prod.fst = others.map Prod.fst) :
      SameNode f (object members) (object others)

/-- At every place of either value there is the same node in the other one. -/
def SameTree (f : String → String) (v w : Value) : Prop :=
  ∀ path, Option.Rel (SameNode f) (v.node? path) (w.node? path)

section Trees

variable {f : String → String} {v w : Value}

theorem mapItems_eq_map (f : String → String) (items : List Value) :
    mapItems f items = items.map (mapStrings f) := by
  induction items with
  | nil => rfl
  | cons v items ih => rw [mapItems, ih, List.map_cons]

theorem map_snd_mapMembers (f : String → String) (members : List (String × Value)) :
    (mapMembers f members).map Prod.snd = (members.map Prod.snd).map (mapStrings f) := by
  induction members with
  | nil => rfl
  | cons m members ih =>
    obtain ⟨key, v⟩ := m
    simp only [mapMembers, List.map_cons, ih]

theorem children_mapStrings (f : String → String) (v : Value) :
    (v.mapStrings f).children = v.children.map (mapStrings f) := by
  cases v with
  | array items => simp only [mapStrings, children, mapItems_eq_map]
  | object members => simp only [mapStrings, children, map_snd_mapMembers]
  | null | bool _ | number _ | string _ => simp only [mapStrings, children, List.map_nil]

theorem sameNode_mapStrings (f : String → String) (v : Value) : SameNode f v (v.mapStrings f) := by
  cases v with
  | array items =>
    rw [mapStrings, mapItems_eq_map]
    exact .array (List.length_map _).symm
  | object members =>
    rw [mapStrings]
    exact .object (map_fst_mapMembers f members).symm
  | null | bool _ | number _ | string _ =>
    rw [mapStrings]
    constructor

theorem node?_mapStrings (f : String → String) (path : List Nat) (v : Value) :
    (v.mapStrings f).node? path = (v.node? path).map (mapStrings f) := by
  induction path generalizing v with
  | nil => rfl
  | cons i path ih =>
    simp only [node?, children_mapStrings, List.getElem?_map]
    cases v.children[i]? with
    | none => rfl
    | some c => exact ih c

theorem eq_of_map_fst_snd {members others : List (String × Value)}
    (hkeys : members.map Prod.fst = others.map Prod.fst)
    (hvalues : members.map Prod.snd = others.map Prod.snd) : members = others := by
  induction members generalizing others with
  | nil =>
    cases others with
    | nil => rfl
    | cons o others => cases hkeys
  | cons m members ih =>
    cases others with
    | nil => cases hkeys
    | cons o others =>
      obtain ⟨hkey, hkeys⟩ := List.cons.inj hkeys
      obtain ⟨hvalue, hvalues⟩ := List.cons.inj hvalues
      rw [Prod.ext hkey hvalue, ih hkeys hvalues]

/-- A node and what is below it make a value. -/
theorem SameNode.eq_mapStrings (h : SameNode f v w)
    (hchildren : w.children = v.children.map (mapStrings f)) : w = v.mapStrings f := by
  cases h with
  | array length =>
    rw [mapStrings, mapItems_eq_map]
    exact congrArg Value.array hchildren
  | object keys =>
    rw [mapStrings]
    refine congrArg Value.object (eq_of_map_fst_snd ?_ ?_)
    · rw [map_fst_mapMembers, keys]
    · rw [map_snd_mapMembers]
      exact hchildren
  | null | bool _ | number _ | string _ => rw [mapStrings]

theorem SameNode.length_children (h : SameNode f v w) :
    w.children.length = v.children.length := by
  cases h with
  | array length => exact length.symm
  | object keys => simpa [children] using (congrArg List.length keys).symm
  | null | bool _ | number _ | string _ => rfl

theorem SameTree.node (h : SameTree f v w) : SameNode f v w := by
  cases h [] with
  | some hnode => exact hnode

theorem SameTree.child (h : SameTree f v w) {i : Nat} {c d : Value}
    (hc : v.children[i]? = some c) (hd : w.children[i]? = some d) : SameTree f c d := by
  intro path
  have hpath := h (i :: path)
  simpa only [node?, hc, hd, Option.bind_some] using hpath

theorem SameTree.eq_mapStrings (h : SameTree f v w) : w = v.mapStrings f := by
  induction v using children_induction generalizing w with
  | h v ih =>
    refine h.node.eq_mapStrings (List.ext_getElem ?_ fun i hw hv => ?_)
    · rw [List.length_map, h.node.length_children]
    · rw [List.length_map] at hv
      rw [List.getElem_map]
      exact ih _ (List.getElem_mem hv)
        (h.child (List.getElem?_eq_getElem hv) (List.getElem?_eq_getElem hw))

/-- The value with every string replaced is the one with the same tree. -/
theorem sameTree_iff : SameTree f v w ↔ w = v.mapStrings f := by
  constructor
  · exact SameTree.eq_mapStrings
  · rintro rfl path
    rw [node?_mapStrings]
    cases v.node? path with
    | none => exact .none
    | some c => exact .some (sameNode_mapStrings f c)

/-- Where strings become strings that stay, a node that was reached stays. -/
theorem SameNode.stays (h : ∀ s, f (f s) = f s) (hnode : SameNode f v w) : SameNode f w w := by
  cases hnode with
  | null => exact .null
  | bool b => exact .bool b
  | number n => exact .number n
  | string s =>
    have hstring := SameNode.string (f := f) (f s)
    rwa [h s] at hstring
  | array => exact .array rfl
  | object => exact .object rfl

theorem mapStrings_mapStrings (h : ∀ s, f (f s) = f s) (v : Value) :
    (v.mapStrings f).mapStrings f = v.mapStrings f := by
  refine (sameTree_iff.mp fun path => ?_).symm
  rw [node?_mapStrings]
  cases v.node? path with
  | none => exact .none
  | some c => exact .some ((sameNode_mapStrings f c).stays h)

end Trees

end WindowGateway.Json.Value

namespace WindowGateway.Builtin

open Json (Document Value)

/-- Every document has an upper case, the only one with the same tree but for its strings, which are
in the upper case of Unicode; and that is its own upper case. -/
theorem uppercaseMap_sameTree (headers : Headers) (d : Document) :
    Text.UnicodeUpper Text.uppercase ∧ ∃ upper, uppercaseMap headers d = .ok upper ∧
      (∀ other : Document, d.value.SameTree Text.uppercase other.value ↔ other = upper) ∧
      ∀ others, uppercaseMap others upper = .ok upper := by
  refine ⟨Text.uppercase_unicode, d.mapStrings Text.uppercase, rfl, fun other => ?_,
    fun others => ?_⟩
  · rw [Value.sameTree_iff, Document.ext_iff]
    rfl
  · refine congrArg Except.ok (Document.ext ?_)
    exact Value.mapStrings_mapStrings Text.uppercase_uppercase d.value

/-- Strings at several depths: letters that become several, letters of two alphabets, and characters
that stay. Keys in small letters are kept. -/
theorem uppercaseMap_sameTree_street :
    let text :=
      "\x7b\"straße\":[\"Straße 7\",\x7b\"ŉ\":\"ŉ ﬁ\"\x7d,null],\"n\":-1,\"я\":\"ящик №\"\x7d"
    let shouted :=
      "\x7b\"straße\":[\"STRASSE 7\",\x7b\"ŉ\":\"ʼN FI\"\x7d,null],\"n\":-1,\"я\":\"ЯЩИК №\"\x7d"
    ∃ d upper, Document.parse (Text.bytes text) = .ok d ∧ uppercaseMap .empty d = .ok upper ∧
      upper.render = shouted ∧ d.value.SameTree Text.uppercase upper.value ∧
      uppercaseMap .empty upper = .ok upper := by
  intro text shouted
  let d := (Document.parse (Text.bytes text)).toOption.getD default
  have hd : Document.parse (Text.bytes text) = .ok d := eq_ok_getD (by decide +kernel)
  have hrender : (d.mapStrings Text.uppercase).render = shouted := by decide +kernel
  obtain ⟨-, upper, hupper, htree, hagain⟩ := uppercaseMap_sameTree .empty d
  obtain rfl : d.mapStrings Text.uppercase = upper := Except.ok.inj hupper
  exact ⟨d, _, hd, rfl, hrender, (htree _).mpr rfl, hagain .empty⟩

end WindowGateway.Builtin
